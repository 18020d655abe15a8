import HttpGateway.Proofs.Text.Pieces
import HttpGateway.Proofs.Text.Utf8
import HttpGateway.Text.Percent

/-!
Escapes and what they stand for: escaping leaves safe characters only and does not change what is
read back, and reading back commutes with cutting at slashes that are not escaped themselves.
-/

namespace HttpGateway.Text

def escapeSigns : List Char := "%0123456789ABCDEF".toList

theorem mem_escapeByte {b : UInt8} {c : Char} (h : c ∈ escapeByte b) : c ∈ escapeSigns := by
  have hhex : ∀ n < 16, hexUpper n ∈ escapeSigns := by decide
  rw [escapeByte, List.mem_cons, List.mem_cons, List.mem_singleton] at h
  have hb := b.toNat_lt
  rcases h with rfl | rfl | rfl
  · decide
  · exact hhex _ (by omega)
  · exact hhex _ (by omega)

theorem mem_escapeChar {c d : Char} (h : d ∈ escapeChar c) : d ∈ escapeSigns := by
  obtain ⟨b, -, hb⟩ := List.mem_flatMap.1 h
  exact mem_escapeByte hb

section

variable {safe : Char → Bool} {cs : List Char}

theorem escape_of_safe (h : ∀ c ∈ cs, safe c) : escape safe cs = cs := by
  induction cs with
  | nil => rfl
  | cons c cs ih =>
    obtain ⟨hc, hcs⟩ := List.forall_mem_cons.1 h
    rw [escape, List.flatMap_cons, if_pos hc, ← escape, ih hcs]
    rfl

theorem mem_escape {c : Char} (h : c ∈ escape safe cs) : c ∈ cs ∨ c ∈ escapeSigns := by
  obtain ⟨d, hd, hc⟩ := List.mem_flatMap.1 h
  split at hc
  · cases List.mem_singleton.1 hc
    exact .inl hd
  · exact .inr (mem_escapeChar hc)

theorem safe_of_mem_escape (hsigns : escapeSigns.all safe) {c : Char}
    (h : c ∈ escape safe cs) : safe c := by
  obtain ⟨d, -, hd⟩ := List.mem_flatMap.1 h
  split at hd
  · cases List.mem_singleton.1 hd
    assumption
  · exact List.all_eq_true.1 hsigns c (mem_escapeChar hd)

@[simp]
theorem escape_append (a b : List Char) : escape safe (a ++ b) = escape safe a ++ escape safe b :=
  List.flatMap_append

@[simp]
theorem escape_cons_of_safe {c : Char} (hc : safe c) : escape safe (c :: cs) = c :: escape safe cs := by
  rw [escape, List.flatMap_cons, if_pos hc]
  rfl

theorem escapeChar_eq_cons (c : Char) : ∃ ds, escapeChar c = '%' :: ds := by
  obtain ⟨b, bs, hb⟩ := List.exists_cons_of_ne_nil (List.ne_nil_of_length_pos
    (Nat.lt_of_lt_of_eq c.utf8Size_pos (String.length_utf8EncodeChar c).symm))
  rw [escapeChar, utf8, List.flatMap_singleton, hb, List.flatMap_cons]
  exact ⟨_, rfl⟩

theorem eq_of_escape_no_percent (h : '%' ∉ escape safe cs) : escape safe cs = cs := by
  induction cs with
  | nil => rfl
  | cons c cs ih =>
    rw [escape, List.flatMap_cons, ← escape] at h ⊢
    rw [List.mem_append, not_or] at h
    by_cases hc : safe c
    · rw [if_pos hc, ih h.2]
      rfl
    · rw [if_neg hc] at h
      obtain ⟨ds, hds⟩ := escapeChar_eq_cons c
      rw [hds] at h
      exact absurd List.mem_cons_self h.1

theorem escape_congr {safe' : Char → Bool} (h : ∀ c ∈ cs, safe c = safe' c) :
    escape safe cs = escape safe' cs := by
  induction cs with
  | nil => rfl
  | cons c cs ih =>
    obtain ⟨hc, hcs⟩ := List.forall_mem_cons.1 h
    rw [escape, escape, List.flatMap_cons, List.flatMap_cons, ← escape, ← escape, hc, ih hcs]

theorem length_escapeChar (c : Char) : 3 ≤ (escapeChar c).length := by
  obtain ⟨b, bs, hb⟩ := List.exists_cons_of_ne_nil (List.ne_nil_of_length_pos
    (Nat.lt_of_lt_of_eq c.utf8Size_pos (String.length_utf8EncodeChar c).symm))
  rw [escapeChar, utf8, List.flatMap_singleton, hb, List.flatMap_cons, List.length_append]
  exact Nat.le_add_right 3 _

theorem length_le_length_escape (safe : Char → Bool) (cs : List Char) :
    cs.length ≤ (escape safe cs).length := by
  induction cs with
  | nil => exact Nat.zero_le _
  | cons c cs ih =>
    have hc := length_escapeChar c
    rw [escape, List.flatMap_cons, ← escape, List.length_append, List.length_cons]
    split
    · rw [List.length_singleton]
      omega
    · omega

theorem escape_eq_self_iff : escape safe cs = cs ↔ ∀ c ∈ cs, safe c := by
  refine ⟨fun h => ?_, escape_of_safe⟩
  induction cs with
  | nil => exact List.forall_mem_nil _
  | cons c cs ih =>
    by_cases hc : safe c
    · rw [escape_cons_of_safe hc, List.cons_inj_right] at h
      exact List.forall_mem_cons.2 ⟨hc, ih h⟩
    · -- an escape is longer than the character that it stands for
      have hlength := congrArg List.length h
      have hchar := length_escapeChar c
      have hcs := length_le_length_escape safe cs
      rw [escape, List.flatMap_cons, if_neg hc, ← escape, List.length_append,
        List.length_cons] at hlength
      omega

end

theorem escape_joinBy {safe : Char → Bool} {sep : Char} (hsep : safe sep) (ps : List (List Char)) :
    escape safe (joinBy sep ps) = joinBy sep (ps.map (escape safe)) := by
  induction ps with
  | nil => rfl
  | cons p ps ih =>
    cases ps with
    | nil => rfl
    | cons q ps =>
      rw [joinBy, escape_append, escape_cons_of_safe hsep, ih]
      rfl

theorem splitAt_escape {safe : Char → Bool} {sep : Char} (hsep : safe sep)
    (hsign : sep ∉ escapeSigns) (cs : List Char) :
    splitAt sep (escape safe cs) = (splitAt sep cs).map (escape safe) := by
  have hne : (splitAt sep cs).map (escape safe) ≠ [] :=
    fun hnil => splitAt_ne_nil sep cs (List.map_eq_nil_iff.1 hnil)
  have hpieces : ∀ p ∈ (splitAt sep cs).map (escape safe), sep ∉ p := by
    refine List.forall_mem_map.2 fun p hp hmem => ?_
    rcases mem_escape hmem with h | h
    · exact notMem_of_mem_splitAt hp h
    · exact hsign h
  rw [← splitAt_joinBy hne hpieces, ← escape_joinBy hsep, joinBy_splitAt]

theorem hexValue?_hexUpper : ∀ n < 16, hexValue? (hexUpper n) = some n := by decide

theorem unescapeBytes_escapeByte (b : UInt8) (cs : List Char) :
    unescapeBytes (escapeByte b ++ cs) = b :: unescapeBytes cs := by
  have hb := b.toNat_lt
  change unescapeBytes ('%' :: hexUpper (b.toNat / 16) :: hexUpper (b.toNat % 16) :: cs) = _
  rw [unescapeBytes, hexValue?_hexUpper _ (by omega), hexValue?_hexUpper _ (by omega)]
  dsimp only
  rw [Nat.div_add_mod, UInt8.ofNat_toNat]

theorem unescapeBytes_escapeBytes (bs : List UInt8) (cs : List Char) :
    unescapeBytes (bs.flatMap escapeByte ++ cs) = bs ++ unescapeBytes cs := by
  induction bs with
  | nil => rfl
  | cons b bs ih =>
    rw [List.flatMap_cons, List.append_assoc, unescapeBytes_escapeByte, ih]
    rfl

theorem unescapeBytes_escapeChar (c : Char) (cs : List Char) :
    unescapeBytes (escapeChar c ++ cs) = String.utf8EncodeChar c ++ unescapeBytes cs := by
  rw [escapeChar, utf8, List.flatMap_singleton, unescapeBytes_escapeBytes]

/-- No escape begins with a percent sign in front of the text. -/
def Lone (cs : List Char) : Prop :=
  ∀ a b ds, cs = a :: b :: ds → hexValue? a = none ∨ hexValue? b = none

theorem unescapeBytes_cons_of_lone {c : Char} {cs : List Char} (h : c = '%' → Lone cs) :
    unescapeBytes (c :: cs) = String.utf8EncodeChar c ++ unescapeBytes cs := by
  by_cases hc : c = '%'
  · rw [hc]
    have hone : String.utf8EncodeChar '%' = [37] := by decide
    match cs, h hc with
    | [], _ => rfl
    | [a], _ => rfl
    | a :: b :: ds, hlone =>
      rw [unescapeBytes, hone]
      rcases hlone a b ds rfl with ha | hb
      · rw [ha]
        rfl
      · rw [hb]
        cases hexValue? a <;> rfl
  · rw [unescapeBytes]
    rintro a b ds rfl
    exact absurd rfl hc

theorem unescapeBytes_escape_cons {a b : Char} {x y : Nat} (ha : hexValue? a = some x)
    (hb : hexValue? b = some y) (cs : List Char) :
    unescapeBytes ('%' :: a :: b :: cs) = UInt8.ofNat (16 * x + y) :: unescapeBytes cs := by
  rw [unescapeBytes, ha, hb]

@[elab_as_elim]
theorem escapeInduction {motive : List Char → Prop} (nil : motive [])
    (escape : ∀ a b x y cs, hexValue? a = some x → hexValue? b = some y → motive cs →
      motive ('%' :: a :: b :: cs))
    (plain : ∀ c cs, (c = '%' → Lone cs) → motive cs → motive (c :: cs)) (cs : List Char) :
    motive cs := by
  fun_induction unescapeBytes cs with
  | case1 a b cs x y hb ha ih => exact escape a b x y cs ha hb ih
  | case2 a b cs hnone ih =>
    refine plain '%' (a :: b :: cs) (fun _ a' b' ds h => ?_) ih
    cases h
    cases ha : hexValue? a with
    | none => exact .inl rfl
    | some x => exact .inr (Option.eq_none_iff_forall_ne_some.2 fun y => hnone x y ha)
  | case3 c cs hnone ih =>
    refine plain c cs (fun hc a b ds h => ?_) ih
    exact absurd h (hnone a b ds hc)
  | case4 => exact nil

section

variable {safe : Char → Bool}

/-- Escapes survive when other characters are escaped. -/
structure KeepsEscapes (safe : Char → Bool) : Prop where
  percent : safe '%'
  digit : ∀ c, (hexValue? c).isSome → safe c

theorem escape_cons_of_not_safe {c : Char} (hc : ¬ safe c) (cs : List Char) :
    ∃ ds, escape safe (c :: cs) = '%' :: ds := by
  obtain ⟨ds, hds⟩ := escapeChar_eq_cons c
  rw [escape, List.flatMap_cons, if_neg hc, hds]
  exact ⟨_, rfl⟩

@[simp]
theorem escape_eq_nil_iff {cs : List Char} : escape safe cs = [] ↔ cs = [] := by
  cases cs with
  | nil => simp [escape]
  | cons c cs =>
    by_cases hc : safe c
    · simp [escape_cons_of_safe hc]
    · obtain ⟨ds, hds⟩ := escape_cons_of_not_safe hc cs
      simp [hds]

theorem prefix_escape_iff {ps cs : List Char} (hps : ∀ c ∈ ps, safe c ∧ c ≠ '%') :
    ps <+: escape safe cs ↔ ps <+: cs := by
  induction ps generalizing cs with
  | nil => simp
  | cons p ps ih =>
    obtain ⟨⟨hsafe, hpercent⟩, hps⟩ := List.forall_mem_cons.1 hps
    cases cs with
    | nil => rfl
    | cons c cs =>
      by_cases hc : safe c
      · rw [escape_cons_of_safe hc, List.cons_prefix_cons, List.cons_prefix_cons, ih hps]
      · obtain ⟨ds, hds⟩ := escape_cons_of_not_safe hc cs
        have hne : p ≠ c := fun hpc => hc (hpc ▸ hsafe)
        simp [hds, List.cons_prefix_cons, hpercent, hne]

theorem head?_escape_iff {c : Char} (hc : safe c) (hpercent : c ≠ '%') (cs : List Char) :
    (escape safe cs).head? = some c ↔ cs.head? = some c := by
  have hsingle : ∀ ds : List Char, ds.head? = some c ↔ [c] <+: ds := fun ds => by
    cases ds with
    | nil => simp
    | cons d ds => simp [List.cons_prefix_cons, eq_comm]
  rw [hsingle, hsingle, prefix_escape_iff (List.forall_mem_singleton.2 ⟨hc, hpercent⟩)]

theorem lone_escape {cs : List Char} (h : Lone cs) : Lone (escape safe cs) := by
  have hpercent : hexValue? '%' = none := by decide
  intro a b ds hds
  match cs, h with
  | [], _ => cases hds
  | c :: cs, h =>
    by_cases hc : safe c
    · rw [escape_cons_of_safe hc, List.cons_eq_cons] at hds
      match cs, h with
      | [], _ => cases hds.2
      | d :: cs, h =>
        by_cases hd : safe d
        · rw [escape_cons_of_safe hd, List.cons_eq_cons] at hds
          rw [← hds.1, ← hds.2.1]
          exact h c d cs rfl
        · obtain ⟨es, hes⟩ := escape_cons_of_not_safe hd cs
          rw [hes, List.cons_eq_cons] at hds
          rw [← hds.2.1]
          exact .inr hpercent
    · obtain ⟨es, hes⟩ := escape_cons_of_not_safe hc cs
      rw [hes, List.cons_eq_cons] at hds
      rw [← hds.1]
      exact .inl hpercent

theorem unescapeBytes_escape (hsafe : KeepsEscapes safe) (cs : List Char) :
    unescapeBytes (escape safe cs) = unescapeBytes cs := by
  induction cs using escapeInduction with
  | nil => rfl
  | escape a b x y cs ha hb ih =>
    have hsa : safe a := hsafe.digit a (Option.isSome_of_eq_some ha)
    have hsb : safe b := hsafe.digit b (Option.isSome_of_eq_some hb)
    rw [escape_cons_of_safe hsafe.percent, escape_cons_of_safe hsa, escape_cons_of_safe hsb,
      unescapeBytes_escape_cons ha hb, unescapeBytes_escape_cons ha hb, ih]
  | plain c cs hlone ih =>
    rw [unescapeBytes_cons_of_lone hlone, ← ih]
    by_cases hc : safe c
    · rw [escape_cons_of_safe hc]
      exact unescapeBytes_cons_of_lone fun h => lone_escape (hlone h)
    · rw [escape, List.flatMap_cons, if_neg hc]
      exact unescapeBytes_escapeChar c (escape safe cs)

end

theorem unescapeBytes_escape_of_percent {safe : Char → Bool} (hpercent : ¬ safe '%')
    (cs : List Char) : unescapeBytes (escape safe cs) = utf8 cs := by
  induction cs with
  | nil => rfl
  | cons c cs ih =>
    rw [utf8, List.flatMap_cons, ← utf8, ← ih]
    by_cases hc : safe c
    · rw [escape_cons_of_safe hc]
      exact unescapeBytes_cons_of_lone fun h => absurd (h ▸ hc) hpercent
    · rw [escape, List.flatMap_cons, if_neg hc]
      exact unescapeBytes_escapeChar c (escape safe cs)

theorem lone_append_slash {p : List Char} (h : Lone p) (cs : List Char) :
    Lone (p ++ '/' :: cs) := by
  have hslash : hexValue? '/' = none := by decide
  intro a b ds hds
  match p, h with
  | [], _ =>
    rw [List.nil_append, List.cons_eq_cons] at hds
    rw [← hds.1]
    exact .inl hslash
  | [c], _ =>
    rw [List.cons_append, List.nil_append, List.cons_eq_cons, List.cons_eq_cons] at hds
    rw [← hds.2.1]
    exact .inr hslash
  | c :: d :: p, h =>
    rw [List.cons_append, List.cons_append, List.cons_eq_cons, List.cons_eq_cons] at hds
    rw [← hds.1, ← hds.2.1]
    exact h c d p rfl

theorem unescapeBytes_slash (cs : List Char) :
    unescapeBytes ('/' :: cs) = 47 :: unescapeBytes cs :=
  unescapeBytes_cons_of_lone fun h => absurd h (by decide)

theorem unescapeBytes_append_slash (p cs : List Char) :
    unescapeBytes (p ++ '/' :: cs) = unescapeBytes p ++ 47 :: unescapeBytes cs := by
  induction p using escapeInduction with
  | nil => exact unescapeBytes_slash cs
  | escape a b x y p ha hb ih =>
    rw [List.cons_append, List.cons_append, List.cons_append, unescapeBytes_escape_cons ha hb,
      unescapeBytes_escape_cons ha hb, ih]
    rfl
  | plain c p hlone ih =>
    rw [List.cons_append, unescapeBytes_cons_of_lone fun h => lone_append_slash (hlone h) cs,
      unescapeBytes_cons_of_lone hlone, ih, List.append_assoc]

def decoded (cs : List Char) : List Char := readUtf8 (unescapeBytes cs)

@[simp]
theorem decoded_nil : decoded [] = [] := by rw [decoded, unescapeBytes, readUtf8]

theorem unescape_eq (s : String) : unescape s = String.ofList (decoded s.toList) := rfl

theorem decoded_append_slash (p cs : List Char) :
    decoded (p ++ '/' :: cs) = decoded p ++ '/' :: decoded cs := by
  rw [decoded, unescapeBytes_append_slash, readUtf8_append_low _ (by decide)]
  rfl

theorem decoded_ne_nil {cs : List Char} (h : cs ≠ []) : decoded cs ≠ [] := by
  refine readUtf8_ne_nil ?_
  induction cs using escapeInduction with
  | nil => exact absurd rfl h
  | escape a b x y cs ha hb =>
    rw [unescapeBytes_escape_cons ha hb]
    exact List.cons_ne_nil _ _
  | plain c cs hlone =>
    rw [unescapeBytes_cons_of_lone hlone]
    refine List.append_ne_nil_of_left_ne_nil (List.ne_nil_of_length_pos ?_) _
    rw [String.length_utf8EncodeChar]
    exact c.utf8Size_pos

theorem eq_of_mem_utf8EncodeChar {c : Char} (h : 47 ∈ String.utf8EncodeChar c) : c = '/' := by
  have hbyte : ∀ n, 128 ≤ n → n < 256 → 47 ≠ UInt8.ofNat n := by
    intro n hlo hhi h
    have hn : 47 = (UInt8.ofNat n).toNat := congrArg UInt8.toNat h
    rw [UInt8.toNat_ofNat_of_lt' hhi] at hn
    omega
  simp only [String.utf8EncodeChar] at h
  split at h
  · have hn : 47 = (UInt8.ofNat c.val.toNat).toNat :=
      congrArg UInt8.toNat (List.mem_singleton.1 h)
    rw [UInt8.toNat_ofNat_of_lt' (by omega : c.val.toNat < 256)] at hn
    exact Char.toNat_inj.1 hn.symm
  · repeat' split at h
    all_goals
      simp only [List.mem_cons, List.not_mem_nil, or_false] at h
      repeat' rcases h with h | h
      all_goals exact absurd h (hbyte _ (by omega) (by omega))

theorem hexValue?_eq_some {c : Char} {n : Nat} (h : hexValue? c = some n) :
    n < 16 ∧ (n < 10 → c.toNat = 48 + n) ∧ (10 ≤ n → c.toNat = 55 + n ∨ c.toNat = 87 + n) := by
  rw [hexValue?] at h
  split at h
  · rename_i hc
    have hlo : 48 ≤ c.toNat := hc.1
    have hhi : c.toNat ≤ 57 := hc.2
    cases h
    omega
  · split at h
    · rename_i hc
      have hlo : 97 ≤ c.toNat := hc.1
      have hhi : c.toNat ≤ 102 := hc.2
      cases h
      omega
    · split at h
      · rename_i hc
        have hlo : 65 ≤ c.toNat := hc.1
        have hhi : c.toNat ≤ 70 := hc.2
        cases h
        omega
      · cases h

def PlainSlashes (cs : List Char) : Prop := ¬ ['%', '2', 'F'] <:+: cs ∧ ¬ ['%', '2', 'f'] <:+: cs

theorem PlainSlashes.of_infix {p cs : List Char} (h : PlainSlashes cs) (hp : p <:+: cs) :
    PlainSlashes p :=
  ⟨fun hx => h.1 (hx.trans hp), fun hx => h.2 (hx.trans hp)⟩

theorem slash_notMem_unescapeBytes {p : List Char} (hp : '/' ∉ p) (h : PlainSlashes p) :
    47 ∉ unescapeBytes p := by
  induction p using escapeInduction with
  | nil => exact List.not_mem_nil
  | escape a b x y cs ha hb ih =>
    have hcs : cs <:+ '%' :: a :: b :: cs := ⟨['%', a, b], rfl⟩
    rw [unescapeBytes_escape_cons ha hb, List.mem_cons, not_or]
    refine ⟨fun hbyte => ?_, ih (fun hmem => hp (hcs.mem hmem)) (h.of_infix hcs.isInfix)⟩
    obtain ⟨hx, hxa, -⟩ := hexValue?_eq_some ha
    obtain ⟨hy, -, hyb⟩ := hexValue?_eq_some hb
    have hn : 47 = (UInt8.ofNat (16 * x + y)).toNat := congrArg UInt8.toNat hbyte
    rw [UInt8.toNat_ofNat_of_lt' (by omega : 16 * x + y < 256)] at hn
    have htwo : '2'.toNat = 50 := rfl
    have hupper : 'F'.toNat = 70 := rfl
    have hlower : 'f'.toNat = 102 := rfl
    have hescape : ∀ d, b = d → ['%', '2', d] <:+: '%' :: a :: b :: cs := by
      intro d hd
      have ha2 : a = '2' := Char.toNat_inj.1 ((hxa (by omega)).trans (by omega))
      exact ⟨[], cs, by rw [ha2, hd]; rfl⟩
    rcases hyb (by omega) with hb | hb
    · exact h.1 (hescape 'F' (Char.toNat_inj.1 (hb.trans (by omega))))
    · exact h.2 (hescape 'f' (Char.toNat_inj.1 (hb.trans (by omega))))
  | plain c cs hlone ih =>
    have hcs : cs <:+ c :: cs := List.suffix_cons c cs
    rw [unescapeBytes_cons_of_lone hlone, List.mem_append, not_or]
    refine ⟨fun hbyte => ?_, ih (fun hmem => hp (hcs.mem hmem)) (h.of_infix hcs.isInfix)⟩
    rw [eq_of_mem_utf8EncodeChar hbyte] at hp
    exact hp List.mem_cons_self

theorem slash_notMem_decoded {p : List Char} (hp : '/' ∉ p) (h : PlainSlashes p) :
    '/' ∉ decoded p :=
  fun hmem => slash_notMem_unescapeBytes hp h (mem_of_slash_mem_readUtf8 hmem)

theorem decoded_joinBy (ps : List (List Char)) :
    decoded (joinBy '/' ps) = joinBy '/' (ps.map decoded) := by
  induction ps with
  | nil => exact decoded_nil
  | cons p ps ih =>
    cases ps with
    | nil => rfl
    | cons q ps =>
      rw [joinBy, decoded_append_slash, ih]
      rfl

theorem runs_escape {safe : Char → Bool} {sep : Char} (hsep : safe sep) (hsign : sep ∉ escapeSigns)
    (cs : List Char) : runs sep (escape safe cs) = (runs sep cs).map (escape safe) := by
  rw [runs, splitAt_escape hsep hsign, List.filter_map, runs]
  congr 1
  refine List.filter_congr fun p _ => ?_
  rw [Function.comp_apply, decide_eq_decide, ne_eq, ne_eq, escape_eq_nil_iff]

theorem runs_decoded {cs : List Char} (h : ∀ p ∈ splitAt '/' cs, '/' ∉ decoded p) :
    runs '/' (decoded cs) = (runs '/' cs).map decoded := by
  have hne : (splitAt '/' cs).map decoded ≠ [] :=
    fun hnil => splitAt_ne_nil '/' cs (List.map_eq_nil_iff.1 hnil)
  have hpieces : splitAt '/' (decoded cs) = (splitAt '/' cs).map decoded := by
    rw [← splitAt_joinBy hne (List.forall_mem_map.2 h), ← decoded_joinBy, joinBy_splitAt]
  rw [runs, runs, hpieces, List.filter_map]
  congr 1
  refine List.filter_congr fun p _ => ?_
  rw [Function.comp_apply, decide_eq_decide]
  refine ⟨?_, decoded_ne_nil⟩
  rintro hp rfl
  exact hp decoded_nil

theorem runs_decoded_of_plain {cs : List Char} (h : PlainSlashes cs) :
    runs '/' (decoded cs) = (runs '/' cs).map decoded := by
  refine runs_decoded fun p hp => ?_
  exact slash_notMem_decoded (notMem_of_mem_splitAt hp) (h.of_infix (infix_of_mem_splitAt hp))

end HttpGateway.Text
