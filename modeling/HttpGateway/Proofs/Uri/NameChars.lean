import HttpGateway.Proofs.Text.Lower
import HttpGateway.Uri.HostName
import Mathlib.Data.List.Pairwise

/-!
The characters of names and letter case. A name is in lower case already, but for letters of one
script whose lower case has no place in names.
-/

namespace HttpGateway.Uri

open HttpGateway.Text

section Ranges

variable {r : CaseRun} {g : NameRange} {rs : List CaseRun} {gs : List NameRange} {n : Nat}

def apart (r : CaseRun) (g : NameRange) : Bool :=
  r.last < g.first || g.last < r.first ||
    r.stride == 2 && g.step == 2 && (r.first + g.first) % 2 == 1 ||
    r.first == r.last && !g.contains r.first || g.first == g.last && !r.covers g.first

theorem not_contains_of_apart (h : apart r g) (hn : r.covers n) : ¬ g.contains n := by
  intro hg
  have hrange := hg
  have hrun := CaseRun.covers_iff.1 hn
  simp only [NameRange.contains, Bool.and_eq_true, decide_eq_true_eq, beq_iff_eq] at hrange
  simp only [apart, Bool.or_eq_true, Bool.and_eq_true, decide_eq_true_eq, beq_iff_eq,
    Bool.not_eq_true'] at h
  rcases h with (((h | h) | ⟨⟨hr, hs⟩, h⟩) | ⟨heq, h⟩) | ⟨heq, h⟩
  · omega
  · omega
  · rw [hr] at hrun
    rw [hs] at hrange
    omega
  · rw [show r.first = n by omega, hg] at h
    cases h
  · rw [show g.first = n by omega, hn] at h
    cases h

def sendsOutside (r : CaseRun) : Bool :=
  128 ≤ r.image && nameRanges.all fun g => r.image + (r.last - r.first) < g.first || g.last < r.image

/-- Goes through runs and ranges that both ascend and looks at those that meet. -/
def separated : List CaseRun → List NameRange → Bool
  | [], _ => true
  | r :: rs, gs =>
    let gs := gs.dropWhile fun g => g.last < r.first
    ((gs.takeWhile fun g => g.first ≤ r.last).all (apart r) || sendsOutside r) && separated rs gs

theorem lt_of_mem_dropWhile {last : Nat} (hgs : gs.Pairwise fun g h => g.first ≤ h.first)
    (hg : g ∈ gs.dropWhile fun g => g.first ≤ last) : last < g.first := by
  induction gs with
  | nil => cases hg
  | cons h gs ih =>
    obtain ⟨hfirst, hgs⟩ := List.pairwise_cons.1 hgs
    by_cases hle : h.first ≤ last
    · rw [List.dropWhile_cons, if_pos (decide_eq_true hle)] at hg
      exact ih hgs hg
    · rw [List.dropWhile_cons, if_neg (by simpa using hle)] at hg
      rcases List.mem_cons.1 hg with rfl | hg
      · exact Nat.lt_of_not_le hle
      · exact Nat.lt_of_lt_of_le (Nat.lt_of_not_le hle) (hfirst g hg)

theorem apart_of_separated (hrs : rs.Pairwise fun r q => r.first ≤ q.first)
    (hgs : gs.Pairwise fun g h => g.first ≤ h.first) (h : separated rs gs) :
    ∀ r ∈ rs, sendsOutside r ∨ ∀ g ∈ gs, apart r g := by
  induction rs generalizing gs with
  | nil => exact fun r hr => absurd hr List.not_mem_nil
  | cons q rs ih =>
    obtain ⟨hfirst, hrs⟩ := List.pairwise_cons.1 hrs
    rw [separated, Bool.and_eq_true, Bool.or_eq_true] at h
    obtain ⟨hnear, hrest⟩ := h
    -- the ranges that end before this run lie apart from it and from those behind it
    have hpassed : ∀ r : CaseRun, q.first ≤ r.first →
        (∀ g ∈ gs.dropWhile fun g => decide (g.last < q.first), apart r g) →
        ∀ g ∈ gs, apart r g := by
      intro r hr hkept g hg
      rw [← List.takeWhile_append_dropWhile (p := fun g => decide (g.last < q.first)) (l := gs),
        List.mem_append] at hg
      rcases hg with hg | hg
      · have hless := of_decide_eq_true (List.all_eq_true.1 List.all_takeWhile g hg)
        simp [apart, Nat.lt_of_lt_of_le hless hr]
      · exact hkept g hg
    have hkept := hgs.sublist (List.dropWhile_sublist fun g => decide (g.last < q.first))
    intro r hr
    rcases List.mem_cons.1 hr with rfl | hr
    · refine hnear.symm.imp_right fun hall => hpassed r (Nat.le_refl _) fun g hg => ?_
      rw [← List.takeWhile_append_dropWhile (p := fun g => decide (g.first ≤ r.last))
        (l := gs.dropWhile _), List.mem_append] at hg
      rcases hg with hg | hg
      · exact List.all_eq_true.1 hall g hg
      · simp [apart, lt_of_mem_dropWhile hkept hg]
    · exact (ih hrs hkept hrest r hr).imp_right (hpassed r (hfirst r hr))

theorem ascending_lowerRuns : lowerRuns.Pairwise fun r q => r.first ≤ q.first := by
  have hchain : (lowerRuns.map CaseRun.first).IsChain (· ≤ ·) := by decide +kernel
  exact List.pairwise_map.1 (List.isChain_iff_pairwise.1 hchain)

theorem ascending_nameRanges : nameRanges.Pairwise fun g h => g.first ≤ h.first := by
  have hchain : (nameRanges.map NameRange.first).IsChain (· ≤ ·) := by decide +kernel
  exact List.pairwise_map.1 (List.isChain_iff_pairwise.1 hchain)

theorem sendsOutside_or_apart :
    ∀ r ∈ lowerRuns, sendsOutside r ∨ ∀ g ∈ nameRanges, apart r g := by
  have hall : separated lowerRuns nameRanges := by decide +kernel
  exact apart_of_separated ascending_lowerRuns ascending_nameRanges hall

end Ranges

section Codes

variable {n : Nat}

def IsLabelCode (n : Nat) : Prop := isNameCode n ∨ n = 8204 ∨ n = 8205

instance : DecidablePred IsLabelCode := fun n =>
  inferInstanceAs (Decidable (isNameCode n ∨ n = 8204 ∨ n = 8205))

theorem isNameCode_ascii : ∀ n < 128, isNameCode n → counterpart lowerRuns n = n ∧ n ≠ 46 := by
  decide +kernel

theorem exists_range_of_isNameCode (h : isNameCode n) (hn : 128 ≤ n) :
    ∃ g ∈ nameRanges, g.contains n := by
  rw [isNameCode, if_neg (Nat.not_lt.2 hn), List.any_eq_true] at h
  exact h

theorem IsLabelCode.isValidChar (h : IsLabelCode n) : n.isValidChar := by
  have hranges : nameRanges.all fun g =>
      (g.last < 55296 || 57343 < g.first) && g.last < 1114112 := by decide +kernel
  rcases h with h | rfl | rfl
  · by_cases hn : n < 128
    · exact .inl (Nat.lt_trans hn (by decide))
    · obtain ⟨g, hg, hcontains⟩ := exists_range_of_isNameCode h (Nat.le_of_not_lt hn)
      have hrange := List.all_eq_true.1 hranges g hg
      simp only [NameRange.contains, Bool.and_eq_true, Bool.or_eq_true, decide_eq_true_eq] at *
      rw [Nat.isValidChar]
      omega
  · decide
  · decide

def points : List Nat := [46, 12290, 65294, 65377]

theorem IsLabelCode.notMem_points (h : IsLabelCode n) : n ∉ points := by
  have hpoints : ∀ p ∈ points, ¬ IsLabelCode p := by decide +kernel
  exact fun hmem => hpoints n hmem h

theorem lowerRuns_miss : ∀ r ∈ lowerRuns, ∀ p ∈ 8204 :: 8205 :: points,
    p < r.image ∨ r.image + (r.last - r.first) < p := by
  decide +kernel

theorem outside_of_sendsOutside {r : CaseRun} (hr : r ∈ lowerRuns) (h : sendsOutside r)
    (hn : r.covers n) :
    128 ≤ r.send n ∧ ¬ IsLabelCode (r.send n) ∧ r.send n ∉ points := by
  rw [sendsOutside, Bool.and_eq_true, decide_eq_true_eq] at h
  obtain ⟨hlarge, hranges⟩ := h
  have hsend : r.image ≤ r.send n ∧ r.send n ≤ r.image + (r.last - r.first) := by
    have hrun := CaseRun.covers_iff.1 hn
    rw [CaseRun.send]
    omega
  have houtside : ∀ p ∈ 8204 :: 8205 :: points, r.send n ≠ p := by
    intro p hp
    have hmiss := lowerRuns_miss r hr p hp
    omega
  have hname : ¬ isNameCode (r.send n) := by
    intro hname
    obtain ⟨g, hg, hcontains⟩ := exists_range_of_isNameCode hname (by omega)
    have hrange := List.all_eq_true.1 hranges g hg
    simp only [NameRange.contains, Bool.and_eq_true, Bool.or_eq_true, decide_eq_true_eq] at *
    omega
  refine ⟨by omega, ?_, fun hpoint => ?_⟩
  · rintro (h | h | h)
    · exact hname h
    · exact houtside 8204 (by decide) h
    · exact houtside 8205 (by decide) h
  · exact houtside _ (List.mem_cons_of_mem _ (List.mem_cons_of_mem _ hpoint)) rfl

theorem IsLabelCode.counterpart (h : IsLabelCode n) : counterpart lowerRuns n = n ∨
    128 ≤ counterpart lowerRuns n ∧ ¬ IsLabelCode (Text.counterpart lowerRuns n) ∧
      Text.counterpart lowerRuns n ∉ points := by
  have hjoiners : ∀ n ∈ [8204, 8205], Text.counterpart lowerRuns n = n := by decide +kernel
  rcases h with h | rfl | rfl
  · by_cases hn : n < 128
    · exact .inl (isNameCode_ascii n hn h).1
    · by_cases hcovered : ∀ q ∈ lowerRuns, ¬ q.covers n
      · exact .inl (counterpart_of_not_covers hcovered)
      · obtain ⟨r, hr, hcovers, hsend⟩ := counterpart_of_covers hcovered
        obtain ⟨g, hg, hcontains⟩ := exists_range_of_isNameCode h (Nat.le_of_not_lt hn)
        have hout : sendsOutside r :=
          (sendsOutside_or_apart r hr).resolve_right fun hall =>
            not_contains_of_apart (hall g hg) hcovers hcontains
        rw [hsend]
        exact .inr (outside_of_sendsOutside hr hout hcovers)
  · exact .inl (hjoiners 8204 (by decide))
  · exact .inl (hjoiners 8205 (by decide))

end Codes

section Lower

def IsNameChar (c : Char) : Prop := c = '.' ∨ IsLabelCode c.toNat

instance : DecidablePred IsNameChar := fun c =>
  inferInstanceAs (Decidable (c = '.' ∨ IsLabelCode c.toNat))

theorem lowerBehind_of_isNameChar {cs : List Char} (h : ∀ c ∈ cs, IsNameChar c) (before : List Char) :
    lowerBehind before cs = cs.map fun c => Char.ofNat (counterpart lowerRuns c.toNat) := by
  have hdotted : ¬ IsLabelCode 304 := by decide +kernel
  have hsigma : ¬ IsLabelCode 'Σ'.toNat := by decide +kernel
  induction cs generalizing before with
  | nil => rfl
  | cons c cs ih =>
    obtain ⟨hc, hcs⟩ := List.forall_mem_cons.1 h
    have hval : c.val ≠ 304 := by
      intro hval
      rcases hc with rfl | hc
      · exact absurd hval (by decide)
      · rw [Char.toNat, hval] at hc
        exact hdotted hc
    have hend : ¬ (c = 'Σ' ∧ endsWord before cs) := by
      rintro ⟨rfl, -⟩
      rcases hc with hc | hc
      · exact absurd hc (by decide)
      · exact hsigma hc
    rw [lowerBehind, if_neg hend, lowerChar, if_neg hval, ih hcs]
    rfl

end Lower

end HttpGateway.Uri
