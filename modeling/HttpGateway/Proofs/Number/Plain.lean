import Mathlib.Data.List.TakeWhile
import HttpGateway.Proofs.Number.Whole

namespace HttpGateway.Whole

open HttpGateway.Text

theorem isAsciiDigit_of_isDigit {c : Char} (h : c.isDigit) : isAsciiDigit c := by
  rw [Char.isDigit_iff_toNat] at h
  rw [isAsciiDigit, Bool.and_eq_true, decide_eq_true_eq, decide_eq_true_eq]
  exact h

theorem takeWhile_toDigits (n : Nat) :
    (Nat.toDigits 10 n).takeWhile isAsciiDigit = Nat.toDigits 10 n := by
  apply List.takeWhile_eq_self_iff.2
  exact fun c hc => isAsciiDigit_of_isDigit (isDigit_of_mem_toDigits hc)

theorem head?_toDigits_ne_zero {n : Nat} (h : (Nat.toDigits 10 n).length ≠ 1) :
    (Nat.toDigits 10 n).head? ≠ some '0' := by
  intro hhead
  obtain ⟨cs, hcs⟩ := List.head?_eq_some_iff.1 hhead
  have hvalue : cs.foldl withDigit (some 0) = some n := by
    have hn := digitsValue?_toDigits n
    rwa [hcs, digitsValue?_eq, List.foldl_cons] at hn
  have hlt : n < 10 ^ cs.length := by
    simpa using lt_of_foldl_withDigit hvalue
  rw [hcs, List.length_cons] at h
  have hpos : 0 < cs.length := by omega
  have hlength := (Nat.length_toDigits_le_iff (b := 10) (by decide) hpos).2 hlt
  rw [hcs, List.length_cons] at hlength
  omega

theorem splitMinus_of_digits {cs : List Char} (h : ∀ c ∈ cs, c.isDigit) :
    splitMinus cs = (false, cs) := by
  fun_cases splitMinus cs with
  | case1 => exact absurd (h '-' List.mem_cons_self) (by decide)
  | case2 => rfl

theorem splitMinus_text (n : Int) :
    splitMinus (text n).toList = (decide (n < 0), Nat.toDigits 10 n.natAbs) := by
  rw [text, String.toList_ofList]
  split
  · rename_i hn
    simp [splitMinus, hn]
  · rename_i hn
    rw [splitMinus_of_digits fun c hc => isDigit_of_mem_toDigits hc]
    simp [hn]

variable {n : Int} {d : Nat}

theorem beginsTooLong_text (hd : 0 < d ∧ d < digitLimit) (h : n.natAbs < 10 ^ d) :
    beginsTooLong (text n).toList = false := by
  have hlength := (Nat.length_toDigits_le_iff (by decide) hd.1).2 h
  have hshort : ¬ digitLimit < (Nat.toDigits 10 n.natAbs).length + if n < 0 then 1 else 0 := by
    split <;> omega
  simp only [beginsTooLong, splitMinus_text, takeWhile_toDigits, decide_eq_true_eq, hshort,
    decide_false, Bool.and_false]

theorem readPlain?_text (hd : 0 < d ∧ d < digitLimit) (h : n.natAbs < 10 ^ d) :
    readPlain? (text n).toList = some n := by
  have hall : (Nat.toDigits 10 n.natAbs).all isAsciiDigit := by
    apply List.all_eq_true.2
    exact fun c hc => isAsciiDigit_of_isDigit (isDigit_of_mem_toDigits hc)
  have hsigned : (if decide (n < 0) then -(n.natAbs : Int) else n.natAbs) = n := by
    simp only [decide_eq_true_eq]
    split <;> omega
  simp only [readPlain?, splitMinus_text, beginsTooLong_text hd h, hall, Nat.toDigits_ne_nil,
    digitsValue?_toDigits, Bool.not_true, Bool.false_eq_true, or_false, false_or]
  rw [if_neg fun hzero => head?_toDigits_ne_zero hzero.1 hzero.2]
  exact congrArg some hsigned

theorem read?_text (hd : 0 < d ∧ d < digitLimit) (h : n.natAbs < 10 ^ d) :
    read? (text n).toList = some n := by
  rw [read?, read, beginsTooLong_text hd h, readPlain?_text hd h]
  rfl

end HttpGateway.Whole
