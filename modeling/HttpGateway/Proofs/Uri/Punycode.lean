import HttpGateway.Uri.Punycode
import Mathlib.Data.List.Basic
import Mathlib.Data.List.Nodup
import Mathlib.Tactic.Ring

/-!
Names that are written with numbers are read back as they were. In place at each step are the plain
characters and those whose numbers were read, and each number leads from the last one to the next.
-/

namespace HttpGateway.Punycode

section Digits

theorem digit?_digit {d : Nat} (h : d < 36) : digit? (digit d) = some d := by
  have hall : ∀ d < 36, digit? (digit d) = some d := by decide
  exact hall d h

theorem number?_digits (bias j n weight sum : Nat) (rest : List Char) :
    number? bias j weight sum (digits bias j n ++ rest) = some (sum + n * weight, rest) := by
  induction n using Nat.strongRecOn generalizing j weight sum with
  | ind n ih =>
    obtain ⟨hpos, hle⟩ := threshold_bounds bias j
    rw [digits]
    by_cases hn : n < threshold bias j
    · simp [number?, hn, digit?_digit (Nat.lt_of_lt_of_le hn (Nat.le_trans hle (by decide)))]
    · -- one digit leaves a smaller number, which the next digits write for a larger weight
      obtain ⟨k, hk⟩ := Nat.exists_eq_add_of_le (Nat.le_of_not_lt hn)
      have hless : k / (36 - threshold bias j) < n :=
        Nat.lt_of_le_of_lt (Nat.div_le_self _ _) (by omega)
      have hmod : k % (36 - threshold bias j) < 36 - threshold bias j := Nat.mod_lt _ (by omega)
      have hdigit := digit?_digit (d := threshold bias j + k % (36 - threshold bias j)) (by omega)
      have hsum : sum + (threshold bias j + k % (36 - threshold bias j)) * weight +
          k / (36 - threshold bias j) * (weight * (36 - threshold bias j)) = sum + n * weight := by
        rw [hk]
        conv_rhs => rw [← Nat.mod_add_div k (36 - threshold bias j)]
        ring
      rw [if_neg hn, show n - threshold bias j = k by omega, List.cons_append, number?, hdigit,
        ← hsum, ← ih _ hless (j + 1)]
      simp [show ¬ threshold bias j + k % (36 - threshold bias j) < threshold bias j by omega]

theorem digits_ne_nil (bias j n : Nat) : digits bias j n ≠ [] := by
  rw [digits]
  split <;> exact List.cons_ne_nil _ _

end Digits

variable {codes : List Nat} {done rest : List (Nat × Nat)} {e f : Nat × Nat}

section Order

def Earlier (e f : Nat × Nat) : Prop := e.1 < f.1 ∨ e.1 = f.1 ∧ e.2 < f.2

theorem mem_insertions : e ∈ insertions codes ↔ e ∈ codes.zipIdx ∧ 128 ≤ e.1 := by
  rw [insertions, List.mem_mergeSort, List.mem_filter, decide_eq_true_eq]

theorem nodup_zipIdx (codes : List Nat) : codes.zipIdx.Nodup := by
  refine List.Nodup.of_map Prod.snd ?_
  rw [List.zipIdx_map_snd]
  exact List.nodup_range'

theorem nodup_insertions (codes : List Nat) : (insertions codes).Nodup :=
  (List.mergeSort_perm _ _).nodup_iff.2 ((nodup_zipIdx codes).filter _)

theorem pairwise_insertions (codes : List Nat) : (insertions codes).Pairwise Earlier := by
  have hsorted : (insertions codes).Pairwise
      fun a b => decide (a.1 < b.1 ∨ a.1 = b.1 ∧ a.2 ≤ b.2) = true :=
    List.pairwise_mergeSort (fun a b c hab hbc => by simp at *; omega) (fun a b => by simp; omega) _
  refine (hsorted.and (nodup_insertions codes)).imp fun {a b} ⟨hle, hne⟩ => ?_
  rcases of_decide_eq_true hle with hless | ⟨hcode, hplace⟩
  · exact .inl hless
  · exact .inr ⟨hcode, Nat.lt_of_le_of_ne hplace fun heq => hne (Prod.ext hcode heq)⟩

theorem earlier_of_insertions (h : insertions codes = done ++ e :: rest) :
    (∀ f ∈ done, Earlier f e) ∧ ∀ f ∈ rest, Earlier e f := by
  have hpairs := pairwise_insertions codes
  rw [h, List.pairwise_append, List.pairwise_cons] at hpairs
  exact ⟨fun f hf => hpairs.2.2 f hf e List.mem_cons_self, hpairs.2.1.1⟩

end Order

section Places

/-- The characters that are in place once those beyond ASCII that are done are. -/
def inPlace (codes : List Nat) (done : List (Nat × Nat)) : List Nat :=
  (codes.zipIdx.filter fun e => e.1 < 128 ∨ e ∈ done).map Prod.fst

theorem map_fst_filter_zipIdx (p : Nat → Bool) (k : Nat) :
    ((codes.zipIdx k).filter fun e => p e.1).map Prod.fst = codes.filter p := by
  have hmap := List.filter_map (p := p) (f := Prod.fst) (l := codes.zipIdx k)
  rw [List.zipIdx_map_fst] at hmap
  exact hmap.symm

theorem inPlace_nil (codes : List Nat) : inPlace codes [] = codes.filter (· < 128) := by
  simp only [inPlace, List.not_mem_nil, or_false]
  exact map_fst_filter_zipIdx (fun n => decide (n < 128)) 0

theorem inPlace_insertions (codes : List Nat) : inPlace codes (insertions codes) = codes := by
  have hall : ∀ e ∈ codes.zipIdx, e.1 < 128 ∨ e ∈ insertions codes := fun e he =>
    (Nat.lt_or_ge e.1 128).imp_right fun hlarge => mem_insertions.2 ⟨he, hlarge⟩
  rw [inPlace, List.filter_eq_self.2 fun e he => decide_eq_true (hall e he), List.zipIdx_map_fst]

theorem inPlace_front (h : insertions codes = done ++ e :: rest) (hf : f ∈ codes.zipIdx)
    (hfront : f.2 < e.2) : (f.1 < 128 ∨ f ∈ done) ↔ f.1 ≤ e.1 := by
  obtain ⟨hbefore, hafter⟩ := earlier_of_insertions h
  have hmem : e ∈ insertions codes := h ▸ List.mem_append_right done List.mem_cons_self
  obtain ⟨-, hlarge⟩ := mem_insertions.1 hmem
  constructor
  · rintro (hless | hdone)
    · omega
    · have hearlier : f.1 < e.1 ∨ f.1 = e.1 ∧ f.2 < e.2 := hbefore f hdone
      omega
  · intro hle
    refine or_iff_not_imp_left.2 fun hsmall => ?_
    have hin : f ∈ insertions codes := mem_insertions.2 ⟨hf, Nat.le_of_not_lt hsmall⟩
    rw [h, List.mem_append, List.mem_cons] at hin
    rcases hin with hdone | rfl | hrest
    · exact hdone
    · exact absurd hfront (Nat.lt_irrefl _)
    · have hearlier : e.1 < f.1 ∨ e.1 = f.1 ∧ e.2 < f.2 := hafter f hrest
      omega

theorem zipIdx_eq_around (he : e ∈ codes.zipIdx) : codes.zipIdx =
    (codes.take e.2).zipIdx ++ e :: (codes.drop (e.2 + 1)).zipIdx (e.2 + 1) := by
  obtain ⟨hlt, hget⟩ := List.getElem?_eq_some_iff.1 (List.mk_mem_zipIdx_iff_getElem?.1 he)
  have hcodes : codes = codes.take e.2 ++ e.1 :: codes.drop (e.2 + 1) := by
    rw [← hget, List.getElem_cons_drop, List.take_append_drop]
  conv_lhs => rw [hcodes]
  rw [List.zipIdx_append, List.zipIdx_cons, Nat.zero_add, List.length_take,
    Nat.min_eq_left (Nat.le_of_lt hlt)]

theorem inPlace_around (h : insertions codes = done ++ e :: rest) :
    ∃ behind, inPlace codes done = (codes.take e.2).filter (· ≤ e.1) ++ behind ∧
      inPlace codes (done ++ [e]) = (codes.take e.2).filter (· ≤ e.1) ++ e.1 :: behind := by
  have hmem : e ∈ insertions codes := h ▸ List.mem_append_right done List.mem_cons_self
  obtain ⟨hplace, hlarge⟩ := mem_insertions.1 hmem
  have hsplit := zipIdx_eq_around hplace
  have hfront : ∀ f ∈ (codes.take e.2).zipIdx, f.2 < e.2 ∧ f ∈ codes.zipIdx := by
    intro f hf
    refine ⟨Nat.lt_of_lt_of_le (List.snd_lt_of_mem_zipIdx hf) (by simp), ?_⟩
    rw [hsplit]
    exact List.mem_append_left _ hf
  have hbehind : ∀ f ∈ (codes.drop (e.2 + 1)).zipIdx (e.2 + 1), e.2 < f.2 :=
    fun f hf => List.le_snd_of_mem_zipIdx hf
  -- so `e` is the one character whose being in place changes
  have hnew : ¬ (e.1 < 128 ∨ e ∈ done) := by
    rintro (hsmall | hdone)
    · omega
    · have hearlier : e.1 < e.1 ∨ e.1 = e.1 ∧ e.2 < e.2 := (earlier_of_insertions h).1 e hdone
      omega
  refine ⟨(((codes.drop (e.2 + 1)).zipIdx (e.2 + 1)).filter fun f => f.1 < 128 ∨ f ∈ done).map
    Prod.fst, ?_, ?_⟩
  · rw [inPlace, hsplit, List.filter_append, List.filter_cons_of_neg (by simpa using hnew),
      List.map_append]
    congr 1
    rw [← map_fst_filter_zipIdx (fun n => decide (n ≤ e.1)) 0]
    congr 1
    refine List.filter_congr fun f hf => decide_eq_decide.2 ?_
    exact inPlace_front h (hfront f hf).2 (hfront f hf).1
  · rw [inPlace, hsplit, List.filter_append, List.filter_cons_of_pos (by simp), List.map_append,
      List.map_cons]
    congr 1
    · rw [← map_fst_filter_zipIdx (fun n => decide (n ≤ e.1)) 0]
      congr 1
      refine List.filter_congr fun f hf => decide_eq_decide.2 ?_
      rw [← inPlace_front h (hfront f hf).2 (hfront f hf).1, List.mem_append, List.mem_singleton]
      have hne : f ≠ e := fun heq => absurd (hfront f hf).1 (by rw [heq]; omega)
      simp [hne]
    · congr 2
      refine List.filter_congr fun f hf => decide_eq_decide.2 ?_
      have hne : f ≠ e := fun heq => absurd (hbehind f hf) (by rw [heq]; omega)
      simp [hne]

end Places

section Reading

theorem inPlace_snoc (h : insertions codes = done ++ e :: rest) :
    inPlace codes (done ++ [e]) = (inPlace codes done).take (placeOf codes e) ++
      e.1 :: (inPlace codes done).drop (placeOf codes e) := by
  obtain ⟨behind, hdone, hnext⟩ := inPlace_around h
  rw [hdone, hnext, placeOf, List.take_left', List.drop_left']
  · rfl
  · rfl

theorem placeOf_le (h : insertions codes = done ++ e :: rest) :
    placeOf codes e ≤ (inPlace codes done).length := by
  obtain ⟨behind, hdone, -⟩ := inPlace_around h
  rw [hdone, List.length_append]
  exact Nat.le_add_right _ _

theorem length_inPlace_snoc (h : insertions codes = done ++ e :: rest) :
    (inPlace codes (done ++ [e])).length = (inPlace codes done).length + 1 := by
  obtain ⟨behind, hdone, hnext⟩ := inPlace_around h
  rw [hdone, hnext]
  simp only [List.length_append, List.length_cons]
  omega

/-- Where the next number starts to count, and what it counts to. -/
structure Leads (codes : List Nat) (done : List (Nat × Nat)) (code next : Nat) (e : Nat × Nat) :
    Prop where
  forth : code ≤ e.1
  reached : next ≤ (e.1 - code) * ((inPlace codes done).length + 1) + placeOf codes e

theorem leads_first (h : insertions codes = e :: rest) : Leads codes [] 128 0 e := by
  have hmem : e ∈ insertions codes := h ▸ List.mem_cons_self
  exact ⟨(mem_insertions.1 hmem).2, Nat.zero_le _⟩

theorem placeOf_lt (h : insertions codes = done ++ e :: f :: rest) (hcode : e.1 = f.1)
    (hbehind : e.2 < f.2) : placeOf codes e + 1 ≤ placeOf codes f := by
  have hmem : e ∈ insertions codes := h ▸ List.mem_append_right done List.mem_cons_self
  obtain ⟨hlt, hget⟩ :=
    List.getElem?_eq_some_iff.1 (List.mk_mem_zipIdx_iff_getElem?.1 (mem_insertions.1 hmem).1)
  have hcount : ((codes.take (e.2 + 1)).filter (· ≤ e.1)).length = placeOf codes e + 1 := by
    rw [List.take_succ_eq_append_getElem hlt, hget, placeOf]
    simp
  rw [← hcount, placeOf, ← hcode]
  exact ((List.take_sublist_take_left hbehind).filter _).length_le

theorem leads_next (h : insertions codes = done ++ e :: f :: rest) :
    Leads codes (done ++ [e]) e.1 (placeOf codes e + 1) f := by
  have hearlier : Earlier e f := (earlier_of_insertions h).2 f List.mem_cons_self
  have hplace := placeOf_le h
  have hlength := length_inPlace_snoc h
  rcases hearlier with hless | ⟨hcode, hbehind⟩
  · -- a larger code is at least one whole round away
    refine ⟨Nat.le_of_lt hless, ?_⟩
    have hround : (inPlace codes (done ++ [e])).length + 1 ≤
        (f.1 - e.1) * ((inPlace codes (done ++ [e])).length + 1) :=
      Nat.le_mul_of_pos_left _ (Nat.sub_pos_of_lt hless)
    omega
  · refine ⟨Nat.le_of_eq hcode, ?_⟩
    have hmore : placeOf codes e + 1 ≤ placeOf codes f := placeOf_lt h hcode hbehind
    omega

theorem length_le_numbers (first : Bool) (code next bias count : Nat) (rest : List (Nat × Nat)) :
    rest.length ≤ (numbers codes first code next bias count rest).length := by
  induction rest generalizing first code next bias count with
  | nil => exact Nat.zero_le _
  | cons e rest ih =>
    rw [numbers, List.length_cons, List.length_append, Nat.add_comm]
    exact Nat.add_le_add (List.length_pos_iff.2 (digits_ne_nil _ _ _)) (ih _ _ _ _ _)

def distance (codes : List Nat) (done : List (Nat × Nat)) (code next : Nat) (e : Nat × Nat) : Nat :=
  (e.1 - code) * ((inPlace codes done).length + 1) + placeOf codes e - next

theorem insertAll_digits (h : insertions codes = done ++ e :: rest) {code next : Nat}
    (hleads : Leads codes done code next e) (he : e.1 ≤ 0x10FFFF) (fuel : Nat) (first : Bool)
    (bias : Nat) (cs : List Char) :
    insertAll (fuel + 1) first code next bias (inPlace codes done)
        (digits bias 0 (distance codes done code next e) ++ cs) =
      insertAll fuel false e.1 (placeOf codes e + 1)
        (adapt (distance codes done code next e) first ((inPlace codes done).length + 1))
        (inPlace codes (done ++ [e])) cs := by
  obtain ⟨hforth, hreached⟩ := hleads
  have hplace : placeOf codes e < (inPlace codes done).length + 1 :=
    Nat.lt_succ_of_le (placeOf_le h)
  have hsum : next + distance codes done code next e =
      placeOf codes e + ((inPlace codes done).length + 1) * (e.1 - code) := by
    rw [distance, Nat.mul_comm]
    rw [Nat.mul_comm] at hreached
    omega
  have hcode : code + (next + distance codes done code next e) / ((inPlace codes done).length + 1) =
      e.1 := by
    rw [hsum, Nat.add_mul_div_left _ _ (Nat.succ_pos _), Nat.div_eq_of_lt hplace]
    omega
  have hmod : (next + distance codes done code next e) % ((inPlace codes done).length + 1) =
      placeOf codes e := by
    rw [hsum, Nat.add_mul_mod_self_left, Nat.mod_eq_of_lt hplace]
  obtain ⟨c, tail, hdigits⟩ := List.exists_cons_of_ne_nil
    (digits_ne_nil bias 0 (distance codes done code next e))
  rw [hdigits, List.cons_append, insertAll, ← List.cons_append, ← hdigits, number?_digits]
  · simp only [Nat.zero_add, Nat.mul_one, Option.bind_eq_bind, Option.bind_some, hcode, hmod, guard,
      if_pos he, inPlace_snoc h]
    rfl
  · simp

theorem insertAll_numbers (h : insertions codes = done ++ rest) (hcodes : ∀ n ∈ codes, n ≤ 0x10FFFF)
    {fuel : Nat} (hfuel : rest.length ≤ fuel) (first : Bool) {code next : Nat}
    (hleads : ∀ e ∈ rest.head?, Leads codes done code next e) (bias : Nat) :
    insertAll fuel first code next bias (inPlace codes done)
      (numbers codes first code next bias ((inPlace codes done).length + 1) rest) = some codes := by
  -- along what is left, for everything that is in place by then
  induction rest generalizing done fuel first code next bias with
  | nil =>
    rw [List.append_nil] at h
    rw [numbers, insertAll, ← h, inPlace_insertions]
  | cons e rest ih =>
    have hmem : e ∈ insertions codes := h ▸ List.mem_append_right done List.mem_cons_self
    have he : e.1 ∈ codes := List.fst_mem_of_mem_zipIdx (mem_insertions.1 hmem).1
    have hnext : ∀ f ∈ rest.head?, Leads codes (done ++ [e]) e.1 (placeOf codes e + 1) f := by
      intro f hf
      obtain ⟨rest, rfl⟩ := List.head?_eq_some_iff.1 hf
      exact leads_next h
    obtain ⟨fuel, rfl⟩ := Nat.exists_eq_add_of_lt (Nat.lt_of_lt_of_le (Nat.succ_pos _) hfuel)
    rw [Nat.zero_add] at hfuel ⊢
    have hrest := ih (by rw [h, List.append_assoc]; rfl) (Nat.le_of_succ_le_succ hfuel) false hnext
      (adapt (distance codes done code next e) first ((inPlace codes done).length + 1))
    rw [length_inPlace_snoc h] at hrest
    rw [numbers]
    exact (insertAll_digits h (hleads e rfl) (hcodes e.1 he) fuel first bias _).trans hrest

end Reading

section Names

theorem exists_digit_of_mem_digits {bias j n : Nat} {c : Char} (h : c ∈ digits bias j n) :
    ∃ d < 36, c = digit d := by
  induction n using Nat.strongRecOn generalizing j with
  | ind n ih =>
    obtain ⟨hpos, hle⟩ := threshold_bounds bias j
    have hmod : (n - threshold bias j) % (36 - threshold bias j) < 36 - threshold bias j :=
      Nat.mod_lt _ (by omega)
    rw [digits] at h
    split at h
    · exact ⟨n, by omega, List.mem_singleton.1 h⟩
    · rcases List.mem_cons.1 h with hc | hc
      · exact ⟨_, by omega, hc⟩
      · exact ih _ (Nat.lt_of_le_of_lt (Nat.div_le_self _ _) (by omega)) hc

theorem exists_digit_of_mem_numbers {first : Bool} {code next bias count : Nat} {c : Char}
    (h : c ∈ numbers codes first code next bias count rest) : ∃ d < 36, c = digit d := by
  induction rest generalizing first code next bias count with
  | nil => cases h
  | cons e rest ih =>
    rw [numbers, List.mem_append] at h
    rcases h with h | h
    · exact exists_digit_of_mem_digits h
    · exact ih h

theorem digit_ne_hyphen {d : Nat} (h : d < 36) : digit d ≠ '-' := by
  have hall : ∀ d < 36, digit d ≠ '-' := by decide
  exact hall d h

theorem behind_hyphen {front tail : List Char} (hfront : front = [] ∨ front.getLast? = some '-')
    (htail : '-' ∉ tail) : ((front ++ tail).reverse.takeWhile (· ≠ '-')).reverse = tail := by
  have hall : ∀ c ∈ tail.reverse, decide (c ≠ '-') := by
    intro c hc
    refine decide_eq_true fun heq => htail ?_
    rwa [← heq, ← List.mem_reverse]
  have hstop : front.reverse.takeWhile (fun c => decide (c ≠ '-')) = [] := by
    rcases hfront with rfl | hlast
    · rfl
    · rw [← List.head?_reverse, List.head?_eq_some_iff] at hlast
      obtain ⟨ds, hds⟩ := hlast
      rw [hds]
      rfl
  rw [List.reverse_append, List.takeWhile_append_of_pos hall, hstop, List.append_nil,
    List.reverse_reverse]

theorem hyphen_notMem_numberPart (codes : List Nat) : '-' ∉ numberPart codes := by
  intro hmem
  obtain ⟨d, hd, hdigit⟩ := exists_digit_of_mem_numbers hmem
  exact digit_ne_hyphen hd hdigit.symm

theorem getLast?_plainPart (codes : List Nat) :
    plainPart codes = [] ∨ (plainPart codes).getLast? = some '-' := by
  rw [plainPart]
  split
  · exact .inl rfl
  · exact .inr (List.getLast?_concat ..)

theorem mem_plainPart {c : Char} (h : c ∈ plainPart codes) :
    c = '-' ∨ ∃ n ∈ codes, n < 128 ∧ c = Char.ofNat n := by
  rw [plainPart] at h
  split at h
  · cases h
  · rcases List.mem_append.1 h with h | h
    · obtain ⟨n, hn, rfl⟩ := List.mem_map.1 h
      obtain ⟨hn, hsmall⟩ := List.mem_filter.1 hn
      exact .inr ⟨n, hn, of_decide_eq_true hsmall, rfl⟩
    · exact .inl (List.mem_singleton.1 h)

theorem getLast?_encode {n : Nat} (hn : n ∈ codes) (hlarge : 128 ≤ n) :
    encode codes ≠ [] ∧ (encode codes).getLast? ≠ some '-' := by
  have hne : numberPart codes ≠ [] := by
    obtain ⟨i, hi⟩ := List.getElem?_of_mem hn
    have hmem : (n, i) ∈ insertions codes :=
      mem_insertions.2 ⟨List.mk_mem_zipIdx_iff_getElem?.2 hi, hlarge⟩
    exact List.length_pos_iff.1 (Nat.lt_of_lt_of_le (List.length_pos_of_mem hmem)
      (length_le_numbers ..))
  refine ⟨List.append_ne_nil_of_right_ne_nil _ hne, fun hlast => ?_⟩
  rw [encode, List.getLast?_append_of_ne_nil _ hne] at hlast
  exact hyphen_notMem_numberPart codes (List.mem_of_getLast? hlast)

theorem map_dropLast_plainPart (codes : List Nat) :
    (plainPart codes).dropLast.map Char.toNat = codes.filter (· < 128) := by
  have hself : ∀ n < 128, (Char.ofNat n).toNat = n := by decide
  rw [plainPart]
  split
  · simp_all
  · rw [List.dropLast_concat, List.map_map]
    refine (List.map_congr_left fun n hn => ?_).trans (List.map_id _)
    exact hself n (of_decide_eq_true (List.mem_filter.1 hn).2)

theorem insertAll_cons {fuel : Nat} {first : Bool} {code next bias : Nat} {name : List Nat} {c : Char}
    {cs : List Char} (h : insertAll (fuel + 1) first code next bias name (c :: cs) = some codes) :
    ∃ n, code ≤ n ∧ ∃ place next' bias' cs', insertAll fuel false n next' bias'
      (name.take place ++ n :: name.drop place) cs' = some codes := by
  rw [insertAll] at h
  · simp only [Option.bind_eq_bind, Option.bind_eq_some_iff] at h
    obtain ⟨⟨delta, rest⟩, -, -, -, hrest⟩ := h
    exact ⟨_, Nat.le_add_right _ _, _, _, _, _, hrest⟩
  · simp

theorem mem_of_insertAll {fuel : Nat} {first : Bool} {code next bias : Nat} {name : List Nat}
    {cs : List Char} (h : insertAll fuel first code next bias name cs = some codes) {n : Nat}
    (hn : n ∈ name) : n ∈ codes := by
  induction fuel generalizing first code next bias name cs with
  | zero =>
    cases cs with
    | nil =>
      cases h
      exact hn
    | cons c cs => cases h
  | succ fuel ih =>
    cases cs with
    | nil =>
      cases h
      exact hn
    | cons c cs =>
      obtain ⟨m, -, place, next', bias', cs', hrest⟩ := insertAll_cons h
      refine ih hrest ?_
      rw [List.mem_append, List.mem_cons]
      rw [← List.take_append_drop place name, List.mem_append] at hn
      exact hn.imp_right .inr

theorem exists_large_of_decode? {cs : List Char} (h : decode? cs = some codes) (hne : cs ≠ [])
    (hend : cs.getLast? ≠ some '-') : ∃ n ∈ codes, 128 ≤ n := by
  rw [decode?] at h
  -- there is a number, and the first one puts in a code from 128 on
  have htail : (cs.reverse.takeWhile (· ≠ '-')).reverse ≠ [] := by
    obtain ⟨ds, c, rfl⟩ := (List.eq_nil_or_concat cs).resolve_left hne
    have hc : c ≠ '-' := fun hc => hend (by rw [hc, List.concat_eq_append, List.getLast?_concat])
    simp [hc]
  obtain ⟨c, rest, htail⟩ := List.exists_cons_of_ne_nil htail
  obtain ⟨fuel, hfuel⟩ := Nat.exists_eq_succ_of_ne_zero (List.length_pos_iff.2 hne).ne'
  rw [htail, hfuel] at h
  obtain ⟨n, hlarge, _, _, _, _, hrest⟩ := insertAll_cons h
  exact ⟨n, mem_of_insertAll hrest (List.mem_append_right _ List.mem_cons_self), hlarge⟩

theorem decode?_encode (hcodes : ∀ n ∈ codes, n ≤ 0x10FFFF) :
    decode? (encode codes) = some codes := by
  have hfuel : (insertions codes).length ≤ (plainPart codes ++ numberPart codes).length := by
    rw [List.length_append]
    exact Nat.le_trans (length_le_numbers ..) (Nat.le_add_left ..)
  have hfirst : ∀ e ∈ (insertions codes).head?, Leads codes [] 128 0 e := by
    intro e he
    obtain ⟨rest, hrest⟩ := List.head?_eq_some_iff.1 he
    exact leads_first hrest
  have hread := insertAll_numbers (List.nil_append _).symm hcodes hfuel true hfirst 72
  have htail := behind_hyphen (getLast?_plainPart codes) (hyphen_notMem_numberPart codes)
  rw [inPlace_nil] at hread
  rw [decode?, encode]
  simp only [htail]
  rw [List.length_append, Nat.add_sub_cancel, List.take_left', map_dropLast_plainPart]
  · rwa [← List.length_append]
  · rfl

end Names

end HttpGateway.Punycode
