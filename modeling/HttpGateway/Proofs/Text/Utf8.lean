import HttpGateway.Text.Utf8

/-!
Reading bytes as text: a byte below 128 stands for itself wherever it occurs, so a text can be cut
where its bytes are. The bytes of a text are read as that text.
-/

namespace HttpGateway.Text

theorem readUtf8_cons_of_low {b : UInt8} (h : b.toNat < 0x80) (bs : List UInt8) :
    readUtf8 (b :: bs) = Char.ofNat b.toNat :: readUtf8 bs := by
  rw [readUtf8, if_pos h]

theorem readUtf8_cons_of_none {b : UInt8} (hb : ¬ b.toNat < 0x80) (h : announce b.toNat = none)
    (bs : List UInt8) : readUtf8 (b :: bs) = replacement :: readUtf8 bs := by
  rw [readUtf8, if_neg hb, h]

theorem readUtf8_cons_of_some {b : UInt8} (hb : ¬ b.toNat < 0x80) {n acc lo hi : Nat}
    (h : announce b.toNat = some (n, acc, lo, hi)) (bs : List UInt8) :
    readUtf8 (b :: bs) = ((further acc n lo hi bs).1.map Char.ofNat).getD replacement ::
      readUtf8 (further acc n lo hi bs).2 := by
  rw [readUtf8, if_neg hb, h]

theorem readUtf8_ne_nil {bs : List UInt8} (h : bs ≠ []) : readUtf8 bs ≠ [] := by
  cases bs with
  | nil => exact absurd rfl h
  | cons b bs =>
    rw [readUtf8]
    split
    · exact List.cons_ne_nil _ _
    · split <;> exact List.cons_ne_nil _ _

theorem announce_bounds {b n acc lo hi : Nat} (h : announce b = some (n, acc, lo, hi)) :
    0x80 ≤ lo ∧ 0 < n ∧ (0 < acc ∨ 1 < n ∧ 0x80 < lo ∧ hi ≤ 0xBF) := by
  unfold announce at h
  repeat' split at h
  all_goals cases h
  all_goals omega

theorem further_append_low (acc n : Nat) {lo hi : Nat} (hlo : 0x80 ≤ lo) (bs : List UInt8)
    {b : UInt8} (hb : b.toNat < 0x80) (cs : List UInt8) :
    further acc n lo hi (bs ++ b :: cs) =
      ((further acc n lo hi bs).1, (further acc n lo hi bs).2 ++ b :: cs) := by
  induction n generalizing acc lo hi bs with
  | zero => rfl
  | succ n ih =>
    cases bs with
    | nil =>
      rw [List.nil_append, further, further, if_neg (by omega)]
      rfl
    | cons a bs =>
      rw [List.cons_append, further, further]
      split
      · exact ih _ (Nat.le_refl _) bs
      · rfl

theorem readUtf8_append_low (bs : List UInt8) {b : UInt8} (hb : b.toNat < 0x80)
    (cs : List UInt8) :
    readUtf8 (bs ++ b :: cs) = readUtf8 bs ++ Char.ofNat b.toNat :: readUtf8 cs := by
  fun_induction readUtf8 bs with
  | case1 => exact readUtf8_cons_of_low hb cs
  | case2 a bs ha ih => rw [List.cons_append, readUtf8_cons_of_low ha, ih, List.cons_append]
  | case3 a bs ha hnone ih =>
    rw [List.cons_append, readUtf8_cons_of_none ha hnone, ih, List.cons_append]
  | case4 a bs ha n acc lo hi hsome r ih =>
    have hlo := (announce_bounds hsome).1
    rw [List.cons_append, readUtf8_cons_of_some ha hsome, further_append_low acc n hlo bs hb]
    exact congrArg (_ :: ·) ih

theorem le_of_further {acc n lo hi m : Nat} {bs : List UInt8} (hacc : 0 < acc) (hn : 0 < n)
    (h : (further acc n lo hi bs).1 = some m) : 0x40 ≤ m := by
  induction n generalizing acc lo hi bs with
  | zero => exact absurd hn (Nat.lt_irrefl 0)
  | succ n ih =>
    cases bs with
    | nil => cases h
    | cons b bs =>
      rw [further] at h
      split at h
      · cases n with
        | zero =>
          cases h
          omega
        | succ n => exact ih (by omega) (Nat.succ_pos n) h
      · cases h

theorem le_of_further_announced {b n acc lo hi m : Nat} {bs : List UInt8}
    (hb : announce b = some (n, acc, lo, hi)) (h : (further acc n lo hi bs).1 = some m) :
    0x40 ≤ m := by
  obtain ⟨-, hn, hacc | ⟨hn, hlo, hhi⟩⟩ := announce_bounds hb
  · exact le_of_further hacc hn h
  · -- the lead byte gives no bits, but the byte behind it does
    obtain ⟨n, rfl⟩ := Nat.exists_eq_succ_of_ne_zero (Nat.ne_of_gt (Nat.lt_of_succ_lt hn))
    cases bs with
    | nil => cases h
    | cons a bs =>
      rw [further] at h
      split at h
      · exact le_of_further (by omega) (by omega) h
      · cases h

theorem suffix_further (acc n lo hi : Nat) (bs : List UInt8) :
    (further acc n lo hi bs).2 <:+ bs := by
  induction n generalizing acc lo hi bs with
  | zero => exact List.suffix_refl bs
  | succ n ih =>
    cases bs with
    | nil => exact List.suffix_refl []
    | cons b bs =>
      rw [further]
      split
      · exact (ih _ _ _ bs).trans (List.suffix_cons b bs)
      · exact List.suffix_refl _

theorem eq_of_slash_eq_ofNat {n : Nat} (h : '/' = Char.ofNat n) : n = 47 := by
  by_cases hn : n.isValidChar
  · have hnumber : (Char.ofNat n).toNat = n := by
      rw [Char.ofNat, dif_pos hn]
      rfl
    rw [← hnumber, ← h]
    rfl
  · have hzero : Char.ofNat n = Char.ofNat 0 := by rw [Char.ofNat, dif_neg hn, Char.ofNat]; rfl
    rw [hzero] at h
    exact absurd h (by decide)

theorem mem_of_slash_mem_readUtf8 {bs : List UInt8} (h : '/' ∈ readUtf8 bs) : 47 ∈ bs := by
  have hreplacement : '/' ≠ replacement := by decide
  fun_induction readUtf8 bs with
  | case1 => cases h
  | case2 b bs hb ih =>
    rcases List.mem_cons.1 h with hc | h
    · have hbyte : b = 47 := UInt8.toNat_inj.1 (eq_of_slash_eq_ofNat hc)
      exact hbyte ▸ List.mem_cons_self
    · exact List.mem_cons_of_mem b (ih h)
  | case3 b bs hb hnone ih =>
    rcases List.mem_cons.1 h with hc | h
    · exact absurd hc hreplacement
    · exact List.mem_cons_of_mem b (ih h)
  | case4 b bs hb n acc lo hi hsome r ih =>
    rcases List.mem_cons.1 h with hc | h
    · cases hr : r.1 with
      | none =>
        rw [hr] at hc
        exact absurd hc hreplacement
      | some m =>
        rw [hr] at hc
        have hm := le_of_further_announced hsome hr
        rw [eq_of_slash_eq_ofNat hc] at hm
        exact absurd hm (by decide)
    · exact List.mem_cons_of_mem b ((suffix_further acc n lo hi bs).mem (ih h))

theorem toNat_byte {m : Nat} (h : m < 256) : (UInt8.ofNat m).toNat = m :=
  UInt8.toNat_ofNat_of_lt' h

theorem further_cons {acc n lo hi m : Nat} (hlo : lo ≤ m) (hhi : m ≤ hi) (hm : m < 256)
    (bs : List UInt8) : further acc (n + 1) lo hi (UInt8.ofNat m :: bs) =
      further (64 * acc + m % 64) n 0x80 0xBF bs := by
  rw [further, toNat_byte hm, if_pos ⟨hlo, hhi⟩]

theorem readUtf8_cons_of_further (tail : List UInt8) {bs : List UInt8} {c : Char}
    {lead n acc lo hi : Nat} (hlead : lead < 256) (hannounce : announce lead = some (n, acc, lo, hi))
    (hfurther : further acc n lo hi (tail ++ bs) = (some c.toNat, bs)) :
    readUtf8 (UInt8.ofNat lead :: (tail ++ bs)) = c :: readUtf8 bs := by
  have hlow : ∀ b < 0x80, announce b = none := by decide
  have hhigh : ¬ (UInt8.ofNat lead).toNat < 0x80 := by
    intro hlt
    rw [toNat_byte hlead] at hlt
    rw [hlow lead hlt] at hannounce
    cases hannounce
  rw [← toNat_byte hlead] at hannounce
  rw [readUtf8_cons_of_some hhigh hannounce, hfurther, Option.map_some, Option.getD_some,
    Char.ofNat_toNat]

theorem announce_two {b : Nat} (hlo : 0xC2 ≤ b) (hhi : b ≤ 0xDF) :
    announce b = some (1, b % 32, 0x80, 0xBF) := by
  rw [announce, if_pos ⟨hlo, hhi⟩]

theorem announce_three {b : Nat} (hlo : 0xE0 ≤ b) (hhi : b ≤ 0xEF) : announce b =
    some (2, b % 16, if b = 0xE0 then 0xA0 else 0x80, if b = 0xED then 0x9F else 0xBF) := by
  rw [announce, if_neg (by omega)]
  by_cases hfirst : b = 0xE0
  · rw [hfirst]
    rfl
  · by_cases hsurrogate : b = 0xED
    · rw [hsurrogate]
      rfl
    · rw [if_neg hfirst, if_neg hsurrogate, if_pos ⟨by omega, hhi⟩, if_neg hfirst,
        if_neg hsurrogate]

theorem announce_four {b : Nat} (hlo : 0xF0 ≤ b) (hhi : b ≤ 0xF4) : announce b =
    some (3, b % 8, if b = 0xF0 then 0x90 else 0x80, if b = 0xF4 then 0x8F else 0xBF) := by
  rw [announce, if_neg (by omega), if_neg (by omega), if_neg (by omega), if_neg (by omega)]
  by_cases hfirst : b = 0xF0
  · rw [hfirst]
    rfl
  · by_cases hlast : b = 0xF4
    · rw [hlast]
      rfl
    · rw [if_neg hfirst, if_pos ⟨by omega, by omega⟩, if_neg hfirst, if_neg hlast]

theorem readUtf8_utf8EncodeChar (c : Char) (bs : List UInt8) :
    readUtf8 (String.utf8EncodeChar c ++ bs) = c :: readUtf8 bs := by
  have hvalid : c.toNat < 0xD800 ∨ 0xDFFF < c.toNat ∧ c.toNat < 0x110000 := c.valid
  have hnumber : c.val.toNat = c.toNat := rfl
  simp only [String.utf8EncodeChar, hnumber]
  split
  · have hbyte : (UInt8.ofNat c.toNat).toNat = c.toNat := toNat_byte (by omega)
    rw [List.singleton_append]
    rw [readUtf8_cons_of_low (by omega), hbyte, Char.ofNat_toNat]
  · split
    · refine readUtf8_cons_of_further [_] (by omega)
        (announce_two (by omega) (by omega)) ?_
      rw [List.singleton_append, further_cons (by omega) (by omega) (by omega), further]
      congr 2
      omega
    · split
      · -- a surrogate would stand behind the lead byte of the upper bound
        refine readUtf8_cons_of_further [_, _] (by omega)
          (announce_three (by omega) (by omega)) ?_
        rw [List.cons_append, List.singleton_append,
          further_cons (by split <;> omega) (by split <;> omega) (by omega),
          further_cons (by omega) (by omega) (by omega), further]
        congr 2
        omega
      · refine readUtf8_cons_of_further [_, _, _] (by omega)
          (announce_four (by omega) (by omega)) ?_
        rw [List.cons_append, List.cons_append, List.singleton_append,
          further_cons (by split <;> omega) (by split <;> omega) (by omega),
          further_cons (by omega) (by omega) (by omega),
          further_cons (by omega) (by omega) (by omega), further]
        congr 2
        omega

theorem readUtf8_utf8 (cs : List Char) : readUtf8 (utf8 cs) = cs := by
  induction cs with
  | nil => rw [utf8, List.flatMap_nil, readUtf8]
  | cons c cs ih => rw [utf8, List.flatMap_cons, readUtf8_utf8EncodeChar, ← utf8, ih]

end HttpGateway.Text
