import HttpGateway.Message.Headers
import HttpGateway.Operation.Name

namespace HttpGateway.Text

theorem toNat_ofNat {n : Nat} (h : n.isValidChar) : (Char.ofNat n).toNat = n := by
  rw [Char.ofNat, dif_pos h]
  rfl

theorem CaseRun.covers_iff {r : CaseRun} {n : Nat} :
    r.covers n ↔ r.first ≤ n ∧ n ≤ r.last ∧ (n - r.first) % r.stride = 0 := by
  simp [covers, and_assoc]

def CaseRun.sendsLetters (r : CaseRun) : Bool :=
  let last := r.image + (r.last - r.first)
  (last < 304 || 304 < r.image) && (last < 55296 || 57343 < r.image) && last < 1114112

theorem CaseRun.send_of_sendsLetters {r : CaseRun} {n : Nat} (h : r.sendsLetters) (hn : r.covers n) :
    (r.send n).isValidChar ∧ r.send n ≠ 304 := by
  simp only [sendsLetters, Bool.or_eq_true, Bool.and_eq_true, decide_eq_true_eq] at h
  rw [covers_iff] at hn
  rw [send, Nat.isValidChar]
  omega

theorem lowerRuns_sendsLetters : lowerRuns.all CaseRun.sendsLetters := by
  decide +kernel

theorem counterpart_of_not_covers {runs : List CaseRun} {n : Nat}
    (h : ∀ q ∈ runs, ¬ q.covers n) : counterpart runs n = n := by
  rw [counterpart, List.find?_eq_none.2 h]

theorem counterpart_of_covers {runs : List CaseRun} {n : Nat} (h : ¬ ∀ q ∈ runs, ¬ q.covers n) :
    ∃ r ∈ runs, r.covers n ∧ counterpart runs n = r.send n := by
  cases hr : runs.find? (·.covers n) with
  | none => exact absurd (List.find?_eq_none.1 hr) h
  | some r =>
    have hcovers := List.find?_some hr
    refine ⟨r, List.mem_of_find?_eq_some hr, hcovers, ?_⟩
    rw [counterpart, hr]

theorem isValidChar_counterpart {n : Nat} (h : n.isValidChar) :
    (counterpart lowerRuns n).isValidChar := by
  by_cases hcovered : ∀ q ∈ lowerRuns, ¬ q.covers n
  · rwa [counterpart_of_not_covers hcovered]
  · obtain ⟨r, hr, hn, hsend⟩ := counterpart_of_covers hcovered
    rw [hsend]
    exact (CaseRun.send_of_sendsLetters (List.all_eq_true.1 lowerRuns_sendsLetters r hr) hn).1

theorem counterpart_ascii : ∀ n < 128, Char.ofNat (counterpart lowerRuns n) =
    (Char.ofNat n).toLower := by
  decide +kernel

theorem lowerChar_ascii {c : Char} (h : c.toNat < 128) : lowerChar c = [c.toLower] := by
  have hc : c.val ≠ 304 := by
    intro hc
    have hn : c.toNat = 304 := congrArg UInt32.toNat hc
    omega
  rw [lowerChar, if_neg hc, counterpart_ascii c.toNat h, Char.ofNat_toNat]

theorem lowerBehind_ascii {cs : List Char} (h : ∀ c ∈ cs, c.toNat < 128) (before : List Char) :
    lowerBehind before cs = cs.map Char.toLower := by
  induction cs generalizing before with
  | nil => rfl
  | cons c cs ih =>
    obtain ⟨hc, hcs⟩ := List.forall_mem_cons.1 h
    have hsigma : ¬ (c = 'Σ' ∧ endsWord before cs) := by
      rintro ⟨rfl, -⟩
      exact absurd hc (by decide)
    rw [lowerBehind, if_neg hsigma, lowerChar_ascii hc, ih hcs]
    rfl

theorem lower_ascii {s : String} (h : ∀ c ∈ s.toList, c.toNat < 128) :
    lower s = Headers.lowerAscii s := by
  rw [lower, lowerBehind_ascii h, Headers.lowerAscii]

theorem forall_ascii {P : Char → Prop} (h : ∀ n < 128, P (Char.ofNat n)) {c : Char}
    (hc : c.toNat < 128) : P c := by
  have hn := h c.toNat hc
  rwa [Char.ofNat_toNat] at hn

theorem isAlphanum_ascii {c : Char} (h : c.isAlphanum) : c.toNat < 128 := by
  have hkinds : (c.isUpper || c.isLower || c.isDigit) = true := h
  have hupper : c.isUpper → c.toNat ≤ 90 := fun h => (of_decide_eq_true h).2
  have hlower : c.isLower → c.toNat ≤ 122 := fun h =>
    of_decide_eq_true ((Bool.and_eq_true_iff.1 h).2)
  have hdigit : c.isDigit → c.toNat ≤ 57 := fun h => (Char.isDigit_iff_toNat.1 h).2
  simp only [Bool.or_eq_true] at hkinds
  rcases hkinds with (h | h) | h
  · exact Nat.lt_of_le_of_lt (hupper h) (by decide)
  · exact Nat.lt_of_le_of_lt (hlower h) (by decide)
  · exact Nat.lt_of_le_of_lt (hdigit h) (by decide)

@[simp]
theorem toLower_toLower (c : Char) : c.toLower.toLower = c.toLower := by
  by_cases h : c.toNat < 128
  · refine forall_ascii (P := fun c => c.toLower.toLower = c.toLower) ?_ h
    decide
  · have hupper : ¬ (65 ≤ c.val ∧ c.val ≤ 90) := by
      rintro ⟨-, hle⟩
      have hle : c.toNat ≤ 90 := hle
      omega
    have hself : c.toLower = c := dif_neg hupper
    rw [hself, hself]

theorem lowerAscii_eq_self {s : String} (h : ∀ c ∈ s.toList, c.toLower = c) :
    Headers.lowerAscii s = s := by
  rw [Headers.lowerAscii, List.map_congr_left h, List.map_id', String.ofList_toList]

@[simp]
theorem toList_lowerAscii (s : String) :
    (Headers.lowerAscii s).toList = s.toList.map Char.toLower := String.toList_ofList

@[simp]
theorem lowerAscii_lowerAscii (s : String) :
    Headers.lowerAscii (Headers.lowerAscii s) = Headers.lowerAscii s := by
  refine lowerAscii_eq_self fun c hc => ?_
  rw [toList_lowerAscii] at hc
  obtain ⟨d, -, rfl⟩ := List.mem_map.1 hc
  exact toLower_toLower d

end HttpGateway.Text

theorem HttpGateway.OperationName.normal_of_lower {s : String}
    (h : ∀ c ∈ s.toList, c.toNat < 128 ∧ c.toLower = c) : normal s = s := by
  rw [normal]
  split
  · exact (String.toList_inj.1 ‹_›).symm
  · rename_i c cs hs
    rw [hs] at h
    obtain ⟨hascii, hlow⟩ := h c List.mem_cons_self
    rw [Text.lowerChar_ascii hascii, hlow, List.singleton_append, ← hs, String.ofList_toList]
