/-!
Stable sorting: an ascending order by a key in which equal keys stay as they stood. A list has
exactly one such order, and `List.mergeSort` finds it.
-/

namespace HttpGateway

theorem filter_key_of_perm {α κ : Type} [DecidableEq κ] {key : α → κ} {l m : List α}
    (hp : l.Perm m) (hm : (m.map key).Nodup) (k : κ) :
    l.filter (key · = k) = m.filter (key · = k) := by
  have hperm := hp.filter (key · = k)
  have hone : (m.filter (key · = k)).length ≤ 1 := by
    have hsub := hm.sublist (List.filter_sublist (p := (key · = k)).map key)
    have hall : (m.filter (key · = k)).map key =
        List.replicate (m.filter (key · = k)).length k := by
      rw [← List.map_const', List.map_inj_left]
      intro a ha
      simpa using (List.mem_filter.1 ha).2
    rwa [hall, List.nodup_replicate] at hsub
  match hf : m.filter (key · = k), hone with
  | [], _ =>
    rw [hf] at hperm
    exact hperm.eq_nil
  | [a], _ =>
    rw [hf] at hperm
    exact List.perm_singleton.1 hperm

variable {α κ : Type} [LE κ] [DecidableEq κ]

/-- The second list holds the elements of the first one by ascending keys, and those of one key as
they stood. -/
structure SortedBy (key : α → κ) (l sorted : List α) : Prop where
  ascending : sorted.Pairwise fun a b => key a ≤ key b
  stable : ∀ k, sorted.filter (key · = k) = l.filter (key · = k)

namespace SortedBy

variable {key : α → κ} {l m n : List α}

theorem mem_iff (h : SortedBy key l m) {a : α} : a ∈ m ↔ a ∈ l := by
  have hm : a ∈ m.filter (key · = key a) ↔ a ∈ m := by simp
  have hl : a ∈ l.filter (key · = key a) ↔ a ∈ l := by simp
  rw [← hm, ← hl, h.stable]

theorem map {β : Type} (key : α → κ) (f : β → α) {l m : List β}
    (h : SortedBy (fun b => key (f b)) l m) : SortedBy key (l.map f) (m.map f) := by
  refine ⟨List.pairwise_map.2 h.ascending, fun k => ?_⟩
  have hs : (m.filter fun b => key (f b) = k) = l.filter fun b => key (f b) = k := h.stable k
  rw [List.filter_map, List.filter_map]
  exact congrArg (List.map f) hs

theorem of_mergeSort [DecidableLE κ] [Std.IsLinearOrder κ] (key : α → κ) (l : List α) :
    SortedBy key l (l.mergeSort fun a b => key a ≤ key b) := by
  have trans : ∀ a b c : α, decide (key a ≤ key b) → decide (key b ≤ key c) →
      decide (key a ≤ key c) := by
    intro a b c hab hbc
    simp only [decide_eq_true_eq] at *
    exact Std.le_trans hab hbc
  have total : ∀ a b : α, decide (key a ≤ key b) || decide (key b ≤ key a) := by
    intro a b
    simpa using Std.le_total
  refine ⟨(List.pairwise_mergeSort trans total l).imp (by simp), fun k => ?_⟩
  -- The elements of one key are in order, so sorting keeps them as a sublist; none is added.
  have hk : (l.filter (key · = k)).Pairwise fun a b => decide (key a ≤ key b) := by
    rw [List.pairwise_filter]
    refine List.pairwise_of_forall ?_
    intro a b ha hb
    simp only [decide_eq_true_eq] at *
    rw [ha, hb]
    exact Std.le_refl k
  have hs := (List.sublist_mergeSort trans total hk List.filter_sublist).filter (key · = k)
  simp only [List.filter_filter, Bool.and_self] at hs
  have hl := (List.mergeSort_perm l fun a b => decide (key a ≤ key b)).filter (key · = k)
  exact (hs.eq_of_length hl.length_eq.symm).symm

theorem unique [Std.IsLinearOrder κ] (hm : SortedBy key l m) (hn : SortedBy key l n) : m = n := by
  induction m generalizing l n with
  | nil =>
    cases n with
    | nil => rfl
    | cons b n =>
      have hb : b ∈ ([] : List α) := hm.mem_iff.2 (hn.mem_iff.1 List.mem_cons_self)
      cases hb
  | cons a m ih =>
    have ha : a ∈ n := hn.mem_iff.2 (hm.mem_iff.1 List.mem_cons_self)
    cases n with
    | nil => cases ha
    | cons b n =>
      have hb : b ∈ a :: m := hm.mem_iff.2 (hn.mem_iff.1 List.mem_cons_self)
      have hma := List.pairwise_cons.1 hm.ascending
      have hnb := List.pairwise_cons.1 hn.ascending
      have hab : key a ≤ key b := by
        rcases List.mem_cons.1 hb with h | h
        · exact h ▸ Std.le_refl _
        · exact hma.1 b h
      have hba : key b ≤ key a := by
        rcases List.mem_cons.1 ha with h | h
        · exact h ▸ Std.le_refl _
        · exact hnb.1 a h
      have hk : key b = key a := Std.le_antisymm hba hab
      have hfirst : (a :: m).filter (key · = key a) = (b :: n).filter (key · = key a) :=
        (hm.stable _).trans (hn.stable _).symm
      rw [List.filter_cons_of_pos (by simp), List.filter_cons_of_pos (by simpa using hk)] at hfirst
      obtain ⟨rfl, htail⟩ := List.cons.inj hfirst
      have hrest : m = n := by
        refine ih (l := n) ⟨hma.2, fun k => ?_⟩ ⟨hnb.2, fun k => rfl⟩
        by_cases hka : key a = k
        · rw [← hka]
          exact htail
        · have h := (hm.stable k).trans (hn.stable k).symm
          rwa [List.filter_cons_of_neg (by simpa using hka),
            List.filter_cons_of_neg (by simpa using hka)] at h
      rw [hrest]

theorem perm [DecidableLE κ] [Std.IsLinearOrder κ] (h : SortedBy key l m) : m.Perm l := by
  rw [h.unique (.of_mergeSort key l)]
  exact List.mergeSort_perm l _

theorem of_perm (h : SortedBy key l n) (hp : l.Perm m) (hm : (m.map key).Nodup) :
    SortedBy key m n :=
  ⟨h.ascending, fun k => (h.stable k).trans (filter_key_of_perm hp hm k)⟩

end SortedBy

end HttpGateway
