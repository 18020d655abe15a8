import HttpGateway.Configuration.Binding
import HttpGateway.Proofs.StableSort

namespace HttpGateway.GatewaySpec

theorem ordered_sortedBy (g : GatewaySpec) :
    SortedBy (fun e : String × RouteSpec => e.2.order) g.identified g.ordered :=
  .of_mergeSort _ _

theorem mem_ordered {g : GatewaySpec} {e : String × RouteSpec} :
    e ∈ g.ordered ↔ e ∈ g.identified :=
  g.ordered_sortedBy.mem_iff

theorem id_eq_of_mem_identified {g : GatewaySpec} {e : String × RouteSpec} (he : e ∈ g.identified)
    (h : e.1 = "") : e.2.id = "" := by
  rcases List.mem_append.1 he with he | he
  · obtain ⟨t, -, rfl⟩ := List.mem_map.1 he
    exact h
  · obtain ⟨⟨key, t⟩, -, rfl⟩ := List.mem_map.1 he
    by_cases ht : t.id = ""
    · exact ht
    · rw [if_neg ht] at h
      exact absurd h ht

theorem firstRepeated?_eq_none_iff {seen ids : List String} :
    firstRepeated? seen ids = none ↔ ids.Nodup ∧ ∀ id ∈ ids, id ∉ seen := by
  induction ids generalizing seen with
  | nil => simp [firstRepeated?]
  | cons id ids ih =>
    by_cases h : id ∈ seen
    · simp [firstRepeated?, h]
    · simp only [firstRepeated?, List.contains_eq_mem, h, decide_false, Bool.false_eq_true,
        if_false, ih, List.nodup_cons, List.mem_cons, forall_eq_or_imp, not_or]
      constructor
      · rintro ⟨hn, hs⟩
        exact ⟨⟨fun hm => (hs id hm).1 rfl, hn⟩, not_false, fun x hx => (hs x hx).2⟩
      · rintro ⟨⟨hm, hn⟩, -, hs⟩
        exact ⟨hn, fun x hx => ⟨fun he => hm (he ▸ hx), hs x hx⟩⟩

theorem ordered_eq_of_perm {g g' : GatewaySpec} (h : g'.identified.Perm g.identified)
    (hg : (g.identified.map fun e => e.2.order).Nodup) : g'.ordered = g.ordered :=
  (g'.ordered_sortedBy.of_perm h hg).unique g.ordered_sortedBy

/-- The ids of a configuration tell its routes apart, and every listed route brings its own one. -/
structure Identifies (g : GatewaySpec) : Prop where
  listed : ∀ t ∈ g.routes, t.id ≠ ""
  distinct : (g.identified.map Prod.fst).Nodup

theorem idProblem?_eq_none_iff {g : GatewaySpec} : g.idProblem? = none ↔ g.Identifies := by
  have hids : (g.ordered.map Prod.fst).Nodup ↔ (g.identified.map Prod.fst).Nodup :=
    (g.ordered_sortedBy.perm.map Prod.fst).nodup_iff
  rw [idProblem?]
  cases hi : g.routes.findIdx? (·.id = "") with
  | some i =>
    obtain ⟨hlt, hid, -⟩ := List.findIdx?_eq_some_iff_getElem.1 hi
    constructor
    · intro h
      cases h
    · intro h
      exact absurd (of_decide_eq_true hid) (h.listed _ (List.getElem_mem hlt))
  | none =>
    rw [Option.map_eq_none_iff, firstRepeated?_eq_none_iff, hids]
    have hlisted : ∀ t ∈ g.routes, t.id ≠ "" := by
      simpa using List.findIdx?_eq_none_iff.1 hi
    constructor
    · intro h
      exact ⟨hlisted, h.1⟩
    · intro h
      exact ⟨h.distinct, fun id _ => List.not_mem_nil⟩

theorem check_eq_ok_iff {g g' : GatewaySpec} : g.check = .ok g' ↔ g' = g ∧ g.Identifies := by
  rw [check, ← idProblem?_eq_none_iff]
  cases g.idProblem? with
  | none =>
    constructor
    · intro h
      cases h
      exact ⟨rfl, rfl⟩
    · rintro ⟨rfl, -⟩
      rfl
  | some reason =>
    constructor
    · intro h
      cases h
    · rintro ⟨-, h⟩
      cases h

structure BoundBy (g : GatewaySpec) (es : List (String × Value)) : Prop where
  routes : Value.optional es "routes" [] (Value.bindList RouteSpec.bind) = .ok g.routes
  routesMap : Value.optional es "routes_map" {} (Value.bindMap RouteSpec.bind) = .ok g.routesMap

theorem BoundBy.bind_eq_check {es : List (String × Value)} {g : GatewaySpec} (h : g.BoundBy es) :
    bind (.map es) = g.check := by
  simp only [bind, h.routes, h.routesMap]
  rfl

theorem nodup_ids_of_check {g g' : GatewaySpec} (h : g.check = .ok g') :
    (g.ordered.map Prod.fst).Nodup := by
  rw [(g.ordered_sortedBy.perm.map Prod.fst).nodup_iff]
  exact (check_eq_ok_iff.1 h).2.distinct

end HttpGateway.GatewaySpec
