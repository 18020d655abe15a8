import HttpGateway.Builtin.Edits
import HttpGateway.Proofs.Text.Lower

namespace HttpGateway

open HttpGateway.Text

namespace Headers

variable {h : Headers} {name value : String} {values : List String}

theorem isAscii_iff {s : String} : isAscii s ↔ ∀ c ∈ s.toList, c.toNat < 128 := by
  rw [isAscii, List.all_eq_true]
  exact forall₂_congr fun c _ => decide_eq_true_iff

theorem isAscii_append_iff {s t : String} : isAscii (s ++ t) ↔ isAscii s ∧ isAscii t := by
  rw [isAscii, String.toList_append, List.all_append, Bool.and_eq_true, ← isAscii, ← isAscii]

theorem isAscii_joined_iff : isAscii (joined values) ↔ ∀ v ∈ values, isAscii v := by
  induction values with
  | nil => simp [joined, isAscii]
  | cons v vs ih =>
    cases vs with
    | nil => rw [joined, String.intercalate_singleton, List.forall_mem_singleton]
    | cons w vs =>
      have hsep : isAscii ", " := by decide
      have hcons : (∀ u ∈ v :: w :: vs, isAscii u) ↔ isAscii v ∧ ∀ u ∈ w :: vs, isAscii u :=
        List.forall_mem_cons
      rw [joined, String.intercalate_cons_cons, isAscii_append_iff, isAscii_append_iff,
        and_iff_left hsep, ← joined, ih, hcons]

theorem isAscii_lower (hname : isAscii name) : isAscii (lower name) := by
  have hlow : ∀ n < 128, (Char.ofNat n).toLower.toNat < 128 := by decide
  rw [isAscii_iff] at hname ⊢
  intro c hc
  rw [lower_ascii hname, toList_lowerAscii] at hc
  obtain ⟨d, hd, rfl⟩ := List.mem_map.1 hc
  exact forall_ascii (P := fun c => c.toLower.toNat < 128) hlow (hname d hd)

theorem isAscii_of_mem_valuesAt (hplain : h.plain) {key : String} :
    ∀ v ∈ h.valuesAt key, isAscii v := by
  intro v hv
  obtain ⟨f, hf, rfl⟩ := List.mem_map.1 hv
  have hfields := List.all_eq_true.1 hplain f (List.mem_filter.1 hf).1
  exact (Bool.and_eq_true_iff.1 hfields).2

theorem key?_isSome_iff : (h.key? name).isSome ↔ (h.plain → isAscii (lower name)) := by
  cases hp : h.plain <;> cases hk : isAscii (lower name) <;> simp [key?, hp, hk]

theorem put?_isSome_iff : (h.put? name value).isSome ↔
    (h.plain → isAscii name ∧ isAscii value) := by
  cases hp : h.plain <;> cases hn : isAscii name <;> cases hv : isAscii value <;>
    simp [put?, hp, hn, hv]

theorem erase?_isSome_iff : (h.erase? name).isSome ↔ (h.plain → isAscii (lower name)) := by
  rw [erase?, Option.isSome_map, key?_isSome_iff]

theorem addedTo_isSome_iff : (RequestEdit.addedTo h name values).isSome ↔
    (h.plain → isAscii name ∧ ∀ v ∈ values, isAscii v) := by
  rw [RequestEdit.addedTo, values?]
  cases hkey : h.key? name with
  | none =>
    -- a name whose lower case is not ASCII is not ASCII itself
    have hnone : ¬ (h.plain → isAscii (lower name)) := by
      rw [← key?_isSome_iff, hkey]
      exact Bool.false_ne_true
    rw [Classical.not_imp] at hnone
    constructor
    · intro hsome
      cases hsome
    · exact fun hascii => absurd (isAscii_lower (hascii hnone.1).1) hnone.2
  | some key =>
    change (h.put? name (joined (h.valuesAt key ++ values))).isSome ↔ _
    rw [put?_isSome_iff]
    refine imp_congr_right fun hplain => and_congr_right fun _ => ?_
    rw [isAscii_joined_iff, List.forall_mem_append]
    exact and_iff_right (isAscii_of_mem_valuesAt hplain)

end Headers

end HttpGateway
