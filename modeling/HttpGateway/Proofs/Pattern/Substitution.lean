import HttpGateway.Pattern.Regex.Template

namespace HttpGateway.Pattern.Compiled

variable {c : Compiled} {t : Array Char} {pos : Nat} {s template : String}

def MatchesNowhere (c : Compiled) (s : String) : Prop :=
  ∀ pos ≤ s.toList.length, c.matchAt s.toList.toArray false pos = none

theorem search_eq_none (hle : pos ≤ t.size)
    (h : ∀ p, pos ≤ p → p ≤ t.size → c.matchAt t false p = none) : c.search t false pos = none := by
  induction hn : t.size - pos generalizing pos with
  | zero =>
    have hend : ¬ pos < t.size := by omega
    rw [search, h pos (Nat.le_refl pos) hle]
    exact if_neg hend
  | succ n ih =>
    have hmore : pos < t.size := by omega
    have hrest : c.search t false (pos + 1) = none :=
      ih hmore (fun p hp hsize => h p (by omega) hsize) (by omega)
    rw [search, h pos (Nat.le_refl pos) hle]
    simp [hmore, hrest]

theorem MatchesNowhere.findAll (h : c.MatchesNowhere s) (fuel : Nat) :
    c.findAll s.toList.toArray fuel false 0 = [] := by
  have hnone : c.search s.toList.toArray false 0 = none :=
    search_eq_none (Nat.zero_le _) fun p _ hp => h p hp
  cases fuel with
  | zero => rfl
  | succ n =>
    rw [Compiled.findAll, hnone]

@[simp]
theorem replaceAll_nil (s : String) (fill : Nat × Nat × Marks → List Char) :
    replaceAll s.toList.toArray [] fill = s := by
  simp [replaceAll]

theorem MatchesNowhere.substitute (h : c.MatchesNowhere s) :
    c.substitute template s = (readTemplate c template).map fun _ => s := by
  simp only [Compiled.substitute, h.findAll, replaceAll_nil, List.any_nil, Bool.and_false]
  cases readTemplate c template with
  | error e => rfl
  | ok parts => rfl

end HttpGateway.Pattern.Compiled
