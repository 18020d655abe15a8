import HttpGateway.Operation.Catalog
import HttpGateway.Proofs.OrderedMap

/-!
Catalogs as the operations that went into them: operations are grouped by their names, in the order
in which the names first came, and inside a group in the order of the operations.
-/

namespace HttpGateway

def Operation.TakesKeys (op : Operation) (keys : List String) : Prop :=
  ∀ k, k ∈ op.parameterNames ↔ k ∈ keys

namespace Catalog

theorem sameParameters_iff {a b : Operation} :
    sameParameters a b ↔ a.TakesKeys b.parameterNames := by
  rw [sameParameters, Bool.and_eq_true, List.all_eq_true, List.all_eq_true]
  constructor
  · rintro ⟨hab, hba⟩ k
    exact ⟨fun h => List.contains_iff_mem.1 (hab k h), fun h => List.contains_iff_mem.1 (hba k h)⟩
  · intro h
    exact ⟨fun k hk => List.contains_iff_mem.2 ((h k).1 hk),
      fun k hk => List.contains_iff_mem.2 ((h k).2 hk)⟩

structure Groups (c : Catalog) (ops : List Operation) : Prop where
  names : c.names = (ops.map Operation.name).eraseDups
  group : ∀ n ∈ c.names, c.operations.get? n = some (ops.filter (·.name = n))

namespace Groups

variable {c d : Catalog} {ops : List Operation} {op : Operation}

theorem of_empty (family : String) : (Catalog.empty family).Groups [] := by
  refine ⟨rfl, fun n hn => ?_⟩
  cases hn

theorem mem_names (h : c.Groups ops) {n : String} : n ∈ c.names ↔ n ∈ ops.map Operation.name := by
  rw [h.names, List.mem_eraseDups]

theorem getD_get? (h : c.Groups ops) (n : String) :
    (c.operations.get? n).getD [] = ops.filter (·.name = n) := by
  by_cases hn : n ∈ c.names
  · rw [h.group n hn, Option.getD_some]
  · have hnone : ops.filter (·.name = n) = [] := by
      rw [List.filter_eq_nil_iff]
      intro op hop he
      refine hn (h.mem_names.2 (List.mem_map.2 ⟨op, hop, ?_⟩))
      simpa using he
    rw [OrderedMap.get?_eq_none_iff.2 hn, hnone, Option.getD_none]

theorem candidates (h : c.Groups ops) (name : String) :
    c.candidates name = ops.filter (·.name = OperationName.normal name) :=
  h.getD_get? _

theorem unique (hc : c.Groups ops) (hd : d.Groups ops) (hf : c.family = d.family) : c = d := by
  have hnames : c.operations.keys = d.operations.keys := hc.names.trans hd.names.symm
  have hops : c.operations = d.operations := by
    refine OrderedMap.ext_get? hnames fun n hn => ?_
    have hdn : n ∈ d.operations.keys := by
      rw [← hnames]
      exact hn
    rw [hc.group n hn, hd.group n hdn]
  cases c
  cases d
  cases hf
  cases hops
  rfl

theorem add_of_repeated (h : c.Groups ops) {earlier : Operation} (he : earlier ∈ ops)
    (hn : earlier.name = op.name) (hs : sameParameters earlier op) :
    c.add op = .error (.conflict op.name op.parameterNames) := by
  have hany : (ops.filter (·.name = op.name)).any (sameParameters · op) = true := by
    rw [List.any_eq_true]
    exact ⟨earlier, List.mem_filter.2 ⟨he, by simpa using hn⟩, hs⟩
  rw [add, h.getD_get?]
  exact if_pos hany

theorem add_of_new (h : c.Groups ops)
    (hnew : ∀ earlier ∈ ops, earlier.name = op.name → ¬ sameParameters earlier op) :
    ∃ d, c.add op = .ok d ∧ d.family = c.family ∧ d.Groups (ops ++ [op]) := by
  have hany : ¬ (ops.filter (·.name = op.name)).any (sameParameters · op) = true := by
    rw [List.any_eq_true]
    rintro ⟨earlier, he, hs⟩
    obtain ⟨hm, hn⟩ := List.mem_filter.1 he
    exact hnew earlier hm (by simpa using hn) hs
  rw [add, h.getD_get?]
  refine ⟨_, if_neg hany, rfl, ?_, fun n hn => ?_⟩
  · refine (OrderedMap.keys_insert _ _ _).trans ?_
    change (if op.name ∈ c.names then c.names else c.names ++ [op.name]) = _
    rw [List.map_append, List.eraseDups_append, ← h.names]
    by_cases hm : op.name ∈ c.names
    · have hold : ([op].map Operation.name).removeAll (ops.map Operation.name) = [] := by
        simpa [List.removeAll] using h.mem_names.1 hm
      rw [if_pos hm, hold, List.eraseDups_nil, List.append_nil]
    · have hfirst : ([op].map Operation.name).removeAll (ops.map Operation.name) = [op.name] := by
        simpa [List.removeAll] using fun hn => hm (h.mem_names.2 hn)
      rw [if_neg hm, hfirst]
      rfl
  · change (c.operations.insert op.name _).get? n = _
    rw [OrderedMap.get?_insert, List.filter_append]
    by_cases hop : n = op.name
    · subst hop
      simp
    · have hne : op.name ≠ n := Ne.symm hop
      have hc : n ∈ c.names := (OrderedMap.mem_keys_insert.1 hn).resolve_left hop
      rw [if_neg hop, h.group n hc]
      simp [hne]

end Groups

end Catalog

end HttpGateway
