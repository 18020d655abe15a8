import HttpGateway.Number.Whole
import Mathlib.Algebra.Group.Nat.Defs

namespace HttpGateway

namespace Text

theorem digitValue?_of_isDigit {c : Char} (h : c.isDigit) :
    digitValue? c = some (c.toNat - '0'.toNat) := by
  rw [Char.isDigit_iff_toNat] at h
  rw [digitValue?, scriptZeros, List.find?_cons_of_pos]
  · rfl
  · simpa using h

theorem digitValue?_le {c : Char} {d : Nat} (h : digitValue? c = some d) : d ≤ 9 := by
  obtain ⟨z, hz, rfl⟩ := Option.map_eq_some_iff.1 h
  have hbounds := List.find?_some hz
  rw [Bool.and_eq_true, decide_eq_true_eq, decide_eq_true_eq] at hbounds
  omega

def withDigit (acc : Option Nat) (c : Char) : Option Nat := do
  let n ← acc
  let d ← digitValue? c
  return 10 * n + d

theorem digitsValue?_eq (cs : List Char) : digitsValue? cs = cs.foldl withDigit (some 0) := rfl

theorem foldl_withDigit_none (cs : List Char) : cs.foldl withDigit none = none := by
  induction cs with
  | nil => rfl
  | cons c cs ih => exact ih

theorem foldl_withDigit_of_digits {cs : List Char} (h : ∀ c ∈ cs, c.isDigit) (n : Nat) :
    cs.foldl withDigit (some n) = some (Nat.ofDigitChars 10 cs n) := by
  induction cs generalizing n with
  | nil => rfl
  | cons c cs ih =>
    obtain ⟨hc, hcs⟩ := List.forall_mem_cons.1 h
    have hstep : withDigit (some n) c = some (10 * n + (c.toNat - '0'.toNat)) := by
      rw [withDigit, digitValue?_of_isDigit hc]
      rfl
    rw [List.foldl_cons, hstep, ih hcs]
    rfl

theorem lt_of_foldl_withDigit {cs : List Char} {n m : Nat}
    (h : cs.foldl withDigit (some n) = some m) : m < (n + 1) * 10 ^ cs.length := by
  induction cs generalizing n with
  | nil =>
    cases h
    simp
  | cons c cs ih =>
    rw [List.foldl_cons] at h
    cases hd : digitValue? c with
    | none =>
      have hnone : withDigit (some n) c = none := by
        rw [withDigit, hd]
        rfl
      rw [hnone, foldl_withDigit_none] at h
      cases h
    | some d =>
      have hsome : withDigit (some n) c = some (10 * n + d) := by
        rw [withDigit, hd]
        rfl
      rw [hsome] at h
      have hd9 := digitValue?_le hd
      calc m < (10 * n + d + 1) * 10 ^ cs.length := ih h
        _ ≤ (n + 1) * 10 * 10 ^ cs.length := Nat.mul_le_mul_right _ (by omega)
        _ = (n + 1) * 10 ^ (c :: cs).length := by
          rw [List.length_cons, Nat.pow_succ, Nat.mul_assoc, Nat.mul_comm 10]

end Text

namespace Whole

open Text

def Readable (n : Int) : Prop := n.natAbs < 10 ^ digitLimit

theorem isDigit_of_mem_toDigits {n : Nat} {c : Char} (h : c ∈ Nat.toDigits 10 n) : c.isDigit :=
  Nat.isDigit_of_mem_toDigits (by decide) (by decide) h

theorem digitsValue?_toDigits (n : Nat) : digitsValue? (Nat.toDigits 10 n) = some n := by
  rw [digitsValue?_eq, foldl_withDigit_of_digits fun c hc => isDigit_of_mem_toDigits hc,
    Nat.ofDigitChars_toDigits (by decide) (by decide)]

theorem trimBy_of_none {p : Char → Bool} {cs : List Char} (h : ∀ c ∈ cs, p c = false) :
    trimBy p cs = cs := by
  have hkeep : ∀ ds : List Char, (∀ c ∈ ds, p c = false) → ds.dropWhile p = ds := by
    intro ds hds
    cases ds with
    | nil => rfl
    | cons d ds =>
      rw [List.dropWhile_cons_of_neg]
      rw [hds d List.mem_cons_self]
      exact Bool.false_ne_true
  rw [trimBy, hkeep cs h, hkeep cs.reverse fun c hc => h c (List.mem_reverse.1 hc),
    List.reverse_reverse]

theorem lowLinesBetween_go {cs : List Char} (h : '_' ∉ cs) : lowLinesBetween.go cs := by
  fun_induction lowLinesBetween.go cs with
  | case1 => exact absurd List.mem_cons_self h
  | case2 => exact absurd List.mem_cons_self h
  | case3 c cs _ _ ih => exact ih fun hcs => h (List.mem_cons_of_mem c hcs)
  | case4 => rfl

theorem dropLowLines?_of_notMem {cs : List Char} (hne : cs ≠ []) (h : '_' ∉ cs) :
    dropLowLines? cs = some cs := by
  have hbetween : lowLinesBetween cs := by
    fun_cases lowLinesBetween cs with
    | case1 => exact absurd rfl hne
    | case2 => exact absurd List.mem_cons_self h
    | case3 => exact lowLinesBetween_go h
  rw [dropLowLines?, if_pos hbetween, List.filter_eq_self.2]
  rintro c hc
  simpa using ne_of_mem_of_not_mem hc h

def splitSign : List Char → Bool × List Char
  | '-' :: ds => (true, ds)
  | '+' :: ds => (false, ds)
  | ds => (false, ds)

def readBody? (negative : Bool) (body : List Char) : Option Int := do
  let ds ← dropLowLines? body
  if digitLimit < ds.length then none
  else
    let n ← digitsValue? ds
    return if negative then -(n : Int) else n

theorem readLoose?_eq (cs : List Char) :
    readLoose? cs = readBody? (splitSign (trimBy isBlank cs)).1 (splitSign (trimBy isBlank cs)).2 :=
  rfl

theorem readBody?_toDigits (negative : Bool) {n : Nat} (h : n < 10 ^ digitLimit) :
    readBody? negative (Nat.toDigits 10 n) = some (if negative then -(n : Int) else n) := by
  have hbody : dropLowLines? (Nat.toDigits 10 n) = some (Nat.toDigits 10 n) :=
    dropLowLines?_of_notMem Nat.toDigits_ne_nil
      fun hc => absurd (isDigit_of_mem_toDigits hc) (by decide)
  have hlength : ¬ digitLimit < (Nat.toDigits 10 n).length :=
    Nat.not_lt.2 ((Nat.length_toDigits_le_iff (by decide) (by decide)).2 h)
  rw [readBody?, hbody, Option.bind_eq_bind, Option.bind_some, if_neg hlength,
    digitsValue?_toDigits]
  rfl

theorem readable_of_readBody? {negative : Bool} {body : List Char} {n : Int}
    (h : readBody? negative body = some n) : Readable n := by
  obtain ⟨ds, -, h⟩ := Option.bind_eq_some_iff.1 h
  split at h
  · cases h
  · rename_i hlength
    obtain ⟨m, hm, h⟩ := Option.bind_eq_some_iff.1 h
    rw [digitsValue?_eq] at hm
    have hlt := lt_of_foldl_withDigit hm
    have hpow : 10 ^ ds.length ≤ 10 ^ digitLimit :=
      Nat.pow_le_pow_right (by decide) (Nat.le_of_not_lt hlength)
    have habs : n.natAbs = m := by
      cases h
      cases negative <;> simp
    rw [Readable, habs]
    omega

theorem isBlank_of_isDigit {c : Char} (h : c.isDigit) : isBlank c = false := by
  have hdigit : 48 ≤ c.toNat ∧ c.toNat ≤ 57 := Char.isDigit_iff_toNat.1 h
  simp only [isBlank, isWhite, Bool.or_eq_false_iff, Bool.and_eq_false_iff, decide_eq_false_iff_not,
    beq_eq_false_iff_ne]
  omega

theorem isDigit_or_minus_of_mem_text {n : Int} {c : Char} (h : c ∈ (text n).toList) :
    c.isDigit ∨ c = '-' := by
  rw [text, String.toList_ofList] at h
  split at h
  · rcases List.mem_cons.1 h with rfl | h
    · exact .inr rfl
    · exact .inl (isDigit_of_mem_toDigits h)
  · exact .inl (isDigit_of_mem_toDigits h)

theorem notMem_text {c : Char} (hdigit : ¬ c.isDigit) (hminus : c ≠ '-') (n : Int) :
    c ∉ (text n).toList :=
  fun hmem => (isDigit_or_minus_of_mem_text hmem).elim hdigit hminus

theorem text_ne_empty (n : Int) : text n ≠ "" := by
  intro h
  have hnil := congrArg String.toList h
  rw [text, String.toList_ofList] at hnil
  split at hnil
  · cases hnil
  · exact Nat.toDigits_ne_nil hnil

theorem trimBy_text (n : Int) : trimBy isBlank (text n).toList = (text n).toList := by
  have hminus : isBlank '-' = false := by decide
  refine trimBy_of_none fun c hc => ?_
  rcases isDigit_or_minus_of_mem_text hc with hc | rfl
  · exact isBlank_of_isDigit hc
  · exact hminus

theorem splitSign_of_digits {cs : List Char} (h : ∀ c ∈ cs, c.isDigit) :
    splitSign cs = (false, cs) := by
  fun_cases splitSign cs with
  | case1 => exact absurd (h '-' List.mem_cons_self) (by decide)
  | case2 => exact absurd (h '+' List.mem_cons_self) (by decide)
  | case3 => rfl

theorem readLoose?_text {n : Int} (h : Readable n) : readLoose? (text n).toList = some n := by
  rw [readLoose?_eq, trimBy_text, text, String.toList_ofList]
  split
  · have habs : -(n.natAbs : Int) = n := by omega
    rw [splitSign, readBody?_toDigits true h, if_pos rfl, habs]
  · have habs : (n.natAbs : Int) = n := by omega
    rw [splitSign_of_digits fun c hc => isDigit_of_mem_toDigits hc, readBody?_toDigits false h,
      if_neg Bool.false_ne_true, habs]

theorem readable_of_readLoose? {cs : List Char} {n : Int} (h : readLoose? cs = some n) :
    Readable n :=
  readable_of_readBody? h

end Whole

end HttpGateway
