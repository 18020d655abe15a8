import HttpGateway.Configuration.Data
import HttpGateway.Proofs.Configuration.Items
import HttpGateway.Proofs.Configuration.RouteOrder
import HttpGateway.Proofs.Text.Trimming

/-!
Binding what was bound. Descriptions that come out of binding are settled: no name of an operation
has blank ends, and the ids tell the routes apart. Settled descriptions, written as data in the long
form, bind to what they are.
-/

namespace HttpGateway

open HttpGateway.Text

namespace Binding

variable {α : Type} {bind : Value → Binding α}

theorem elements_eq_ok_iff {i : Nat} {vs : List Value} {xs : List α} :
    elements bind i vs = .ok xs ↔ List.Forall₂ (fun v x => bind v = .ok x) vs xs := by
  induction vs generalizing i xs with
  | nil =>
    rw [elements, List.forall₂_nil_left_iff, Except.ok.injEq, eq_comm]
  | cons v vs ih =>
    simp only [elements, app_eq_ok_iff, Outcome.map_eq_ok_iff, atStep_eq_ok_iff, ih,
      List.forall₂_cons_left_iff]
    constructor
    · rintro ⟨_, ys, ⟨x, hx, rfl⟩, hys, rfl⟩
      exact ⟨x, ys, hx, hys, rfl⟩
    · rintro ⟨x, ys, hx, hys, rfl⟩
      exact ⟨_, ys, ⟨x, hx, rfl⟩, hys, rfl⟩

theorem entries_eq_ok_iff {es : List (String × Value)} {fs : List (String × α)} :
    entries bind es = .ok fs ↔
      List.Forall₂ (fun e f => f.1 = e.1 ∧ bind e.2 = .ok f.2) es fs := by
  induction es generalizing fs with
  | nil =>
    rw [entries, List.forall₂_nil_left_iff, Except.ok.injEq, eq_comm]
  | cons e es ih =>
    simp only [entries, app_eq_ok_iff, Outcome.map_eq_ok_iff, atStep_eq_ok_iff, ih,
      List.forall₂_cons_left_iff]
    constructor
    · rintro ⟨_, gs, ⟨x, hx, rfl⟩, hgs, rfl⟩
      exact ⟨(e.1, x), gs, ⟨rfl, hx⟩, hgs, rfl⟩
    · rintro ⟨⟨k, x⟩, gs, ⟨rfl, hx⟩, hgs, rfl⟩
      exact ⟨_, gs, ⟨x, hx, rfl⟩, hgs, rfl⟩

end Binding

namespace Value

open Binding

variable {α : Type} {bind : Value → Binding α}

theorem optional_eq_ok_iff {es : List (String × Value)} {name : String} {missing a : α} :
    optional es name missing bind = .ok a ↔
      es.lookup name = none ∧ missing = a ∨ ∃ v, es.lookup name = some v ∧ bind v = .ok a := by
  rw [optional, atStep_eq_ok_iff]
  cases es.lookup name with
  | none => simp
  | some v => simp

theorem exists_of_bindList {v : Value} {xs : List α} (h : bindList bind v = .ok xs) {x : α}
    (hx : x ∈ xs) : ∃ w, bind w = .ok x := by
  have hexists : ∀ {vs}, elements bind 0 vs = .ok xs → ∃ w, bind w = .ok x := by
    intro vs hvs
    obtain ⟨w, -, hw⟩ := exists_of_forall₂ (elements_eq_ok_iff.1 hvs).flip hx
    exact ⟨w, hw⟩
  cases v with
  | list => exact hexists h
  | tuple => exact hexists h
  | _ => cases h

theorem exists_of_bindMap {v : Value} {m : OrderedMap α} (h : bindMap bind v = .ok m)
    {e : String × α} (he : e ∈ m.entries) : ∃ w, bind w = .ok e.2 := by
  cases v with
  | map es =>
    obtain ⟨fs, hfs, rfl⟩ := Outcome.map_eq_ok_iff.1 h
    obtain ⟨f, -, -, hf⟩ :=
      exists_of_forall₂ (entries_eq_ok_iff.1 hfs).flip (OrderedMap.mem_of_mem_ofList he)
    exact ⟨f.2, hf⟩
  | _ => cases h

def IsRow (row : List Value → Value) : Prop := row = list ∨ row = tuple

theorem IsRow.bindList_map {row : List Value → Value} (hrow : IsRow row) {toValue : α → Value}
    {xs : List α} (h : ∀ x ∈ xs, bind (toValue x) = .ok x) :
    bindList bind (row (xs.map toValue)) = .ok xs := by
  have helements : elements bind 0 (xs.map toValue) = .ok xs := by
    rw [elements_eq_ok_iff, List.forall₂_map_left_iff, List.forall₂_same]
    exact h
  rcases hrow with rfl | rfl
  · exact helements
  · exact helements

theorem bindMap_of_entries {es : List (String × Value)} {m : OrderedMap α}
    (h : entries bind es = .ok m.entries) : bindMap bind (.map es) = .ok m := by
  have hself : OrderedMap.ofList m.entries = m :=
    OrderedMap.ext_entries (OrderedMap.entries_ofList m.distinct)
  rw [bindMap, h, Except.map, hself]

theorem bindMap_map {toValue : α → Value} {m : OrderedMap α}
    (h : ∀ e ∈ m.entries, bind (toValue e.2) = .ok e.2) :
    bindMap bind (.map (m.map toValue).entries) = .ok m := by
  apply bindMap_of_entries
  rw [entries_eq_ok_iff, OrderedMap.map, List.forall₂_map_left_iff, List.forall₂_same]
  exact fun e he => ⟨rfl, h e he⟩

end Value

theorem RawArgs.ofValue_toValue (args : RawArgs) : ofValue args.toValue = args := by
  cases args with
  | keyed args =>
    have hentries : ((args.map Value.text).entries.map fun e => (e.1, e.2.argumentText)) =
        args.entries := by
      rw [OrderedMap.map, List.map_map]
      exact List.map_id' args.entries
    rw [toValue, ofValue, hentries]
    exact congrArg keyed (OrderedMap.ext_entries (OrderedMap.entries_ofList args.distinct))
  | positional values =>
    rw [toValue, ofValue, List.map_map]
    exact congrArg positional (List.map_id' values)

namespace OperationSpec

open Binding

structure Settled (s : OperationSpec) : Prop where
  trimmed : strip s.name = s.name
  named : s.name ≠ ""

theorem settled_of_bindName {name bound : String} (h : bindName name = .ok bound) (args : RawArgs) :
    Settled ⟨bound, args⟩ := by
  obtain ⟨hne, rfl⟩ := bindName_eq_ok_iff.1 h
  exact ⟨strip_strip name, hne⟩

theorem settled_of_bind {model : String} {v : Value} {s : OperationSpec}
    (h : bind model v = .ok s) : s.Settled := by
  cases v with
  | text t =>
    rw [bind, ofText, Outcome.map_eq_ok_iff] at h
    obtain ⟨name, hname, rfl⟩ := h
    exact settled_of_bindName (atStep_eq_ok_iff.1 hname) _
  | map es =>
    rw [bind, app_eq_ok_iff] at h
    obtain ⟨_, args, hmade, -, rfl⟩ := h
    obtain ⟨name, hrequired, rfl⟩ := Outcome.map_eq_ok_iff.1 hmade
    obtain ⟨_, -, htext⟩ := Value.required_eq_ok_iff.1 hrequired
    obtain ⟨_, -, hname⟩ := Outcome.bind_eq_ok_iff.1 htext
    exact settled_of_bindName hname args
  | _ => cases h

theorem Settled.bind_toValue {s : OperationSpec} (h : s.Settled) (model : String) :
    bind model s.toValue = .ok s := by
  have hargs : [("name", Value.text s.name), ("args", s.args.toValue)].lookup "args" =
      some s.args.toValue := rfl
  apply (bind_map_eq_ok_iff hargs).2
  refine ⟨s.name, rfl, ?_, ?_⟩
  · rw [h.trimmed]
    exact h.named
  · rw [h.trimmed, RawArgs.ofValue_toValue]

end OperationSpec

namespace RouteSpec

open Binding

structure Settled (t : RouteSpec) : Prop where
  predicates : ∀ s ∈ t.predicates, s.Settled
  filters : ∀ s ∈ t.filters, s.Settled

theorem bindDestination_uri (t : RouteSpec) :
    bindDestination t.uri = .ok ⟨t.uri, t.destination, t.parsed, t.has_scheme⟩ := by
  rw [bindDestination]
  split
  · rename_i e he
    cases he.symm.trans t.parsed
  · rename_i u hu
    cases hu.symm.trans t.parsed
    exact dif_pos t.has_scheme

theorem settled_of_optional {es : List (String × Value)} {name model : String}
    {specs : List OperationSpec}
    (h : Value.optional es name [] (Value.bindList (OperationSpec.bind model)) = .ok specs) :
    ∀ s ∈ specs, s.Settled := by
  intro s hs
  rcases Value.optional_eq_ok_iff.1 h with ⟨-, rfl⟩ | ⟨v, -, hv⟩
  · cases hs
  · obtain ⟨w, hw⟩ := Value.exists_of_bindList hv hs
    exact OperationSpec.settled_of_bind hw

structure BoundBy (t : RouteSpec) (es : List (String × Value)) : Prop where
  id : Value.optional es "id" "" Value.bindText = .ok t.id
  uri : Value.required es "uri" (fun v => v.bindText >>= bindDestination) =
    .ok ⟨t.uri, t.destination, t.parsed, t.has_scheme⟩
  predicates : Value.optional es "predicates" []
    (Value.bindList (OperationSpec.bind predicateModel)) = .ok t.predicates
  filters : Value.optional es "filters" []
    (Value.bindList (OperationSpec.bind filterModel)) = .ok t.filters
  metadata : Value.optional es "metadata" {} (Value.bindMap Except.ok) = .ok t.metadata
  order : Value.optional es "order" 0 Value.bindWhole = .ok t.order

theorem bind_eq_ok_iff {es : List (String × Value)} {t : RouteSpec} :
    bind (.map es) = .ok t ↔ t.BoundBy es := by
  constructor
  · intro h
    simp only [bind, app_eq_ok_iff, Outcome.map_eq_ok_iff] at h
    obtain ⟨_, order, ⟨_, metadata, ⟨_, filters, ⟨_, predicates, ⟨_, uri, ⟨id, hid, rfl⟩, huri, rfl⟩,
      hpredicates, rfl⟩, hfilters, rfl⟩, hmetadata, rfl⟩, horder, rfl⟩ := h
    exact ⟨hid, huri, hpredicates, hfilters, hmetadata, horder⟩
  · intro h
    simp only [bind, h.id, h.uri, h.predicates, h.filters, h.metadata, h.order]
    rfl

theorem settled_of_bind {v : Value} {t : RouteSpec} (h : bind v = .ok t) : t.Settled := by
  cases v with
  | map es =>
    have hbound := bind_eq_ok_iff.1 h
    exact ⟨settled_of_optional hbound.predicates, settled_of_optional hbound.filters⟩
  | _ => cases h

theorem Settled.bind_toValue {t : RouteSpec} (h : t.Settled) {row : List Value → Value}
    (hrow : Value.IsRow row) : bind (t.toValue row) = .ok t := by
  have hpredicates : Value.bindList (OperationSpec.bind predicateModel)
      (row (t.predicates.map OperationSpec.toValue)) = .ok t.predicates :=
    hrow.bindList_map fun s hs => (h.predicates s hs).bind_toValue predicateModel
  have hfilters : Value.bindList (OperationSpec.bind filterModel)
      (row (t.filters.map OperationSpec.toValue)) = .ok t.filters :=
    hrow.bindList_map fun s hs => (h.filters s hs).bind_toValue filterModel
  have hmetadata : Value.bindMap Except.ok (.map t.metadata.entries) = .ok t.metadata := by
    apply Value.bindMap_of_entries
    rw [entries_eq_ok_iff, List.forall₂_same]
    exact fun e _ => ⟨rfl, rfl⟩
  apply bind_eq_ok_iff.2
  exact {
    id := rfl
    uri := Value.required_eq_ok_iff.2 ⟨_, rfl, bindDestination_uri t⟩
    predicates := Value.optional_eq_ok_iff.2 (.inr ⟨_, rfl, hpredicates⟩)
    filters := Value.optional_eq_ok_iff.2 (.inr ⟨_, rfl, hfilters⟩)
    metadata := Value.optional_eq_ok_iff.2 (.inr ⟨_, rfl, hmetadata⟩)
    order := rfl }

end RouteSpec

namespace GatewaySpec

open Binding

structure Settled (g : GatewaySpec) : Prop where
  listed : ∀ t ∈ g.routes, t.Settled
  mapped : ∀ e ∈ g.routesMap.entries, e.2.Settled
  identifies : g.Identifies

theorem bind_eq_ok_iff {es : List (String × Value)} {g : GatewaySpec} :
    bind (.map es) = .ok g ↔ g.BoundBy es ∧ g.Identifies := by
  constructor
  · intro h
    obtain ⟨g', hg', hcheck⟩ := Outcome.bind_eq_ok_iff.1 h
    obtain ⟨rfl, hidentifies⟩ := check_eq_ok_iff.1 hcheck
    obtain ⟨_, routesMap, hmade, hroutesMap, rfl⟩ := app_eq_ok_iff.1 hg'
    obtain ⟨routes, hroutes, rfl⟩ := Outcome.map_eq_ok_iff.1 hmade
    exact ⟨⟨hroutes, hroutesMap⟩, hidentifies⟩
  · rintro ⟨hbound, hidentifies⟩
    rw [hbound.bind_eq_check]
    exact check_eq_ok_iff.2 ⟨rfl, hidentifies⟩

theorem settled_of_bind {v : Value} {g : GatewaySpec} (h : bind v = .ok g) : g.Settled := by
  cases v with
  | map es =>
    obtain ⟨hbound, hidentifies⟩ := bind_eq_ok_iff.1 h
    refine ⟨fun t ht => ?_, fun e he => ?_, hidentifies⟩
    · rcases Value.optional_eq_ok_iff.1 hbound.routes with ⟨-, hnone⟩ | ⟨v, -, hv⟩
      · rw [← hnone] at ht
        cases ht
      · obtain ⟨w, hw⟩ := Value.exists_of_bindList hv ht
        exact RouteSpec.settled_of_bind hw
    · rcases Value.optional_eq_ok_iff.1 hbound.routesMap with ⟨-, hnone⟩ | ⟨v, -, hv⟩
      · rw [← hnone] at he
        cases he
      · obtain ⟨w, hw⟩ := Value.exists_of_bindMap hv he
        exact RouteSpec.settled_of_bind hw
  | _ => cases h

theorem Settled.bind_toValue {g : GatewaySpec} (h : g.Settled) {row : List Value → Value}
    (hrow : Value.IsRow row) : bind (g.toValue row) = .ok g := by
  have hroutes : Value.bindList RouteSpec.bind (row (g.routes.map (RouteSpec.toValue row))) =
      .ok g.routes :=
    hrow.bindList_map fun t ht => (h.listed t ht).bind_toValue hrow
  have hroutesMap : Value.bindMap RouteSpec.bind
      (.map (g.routesMap.map (RouteSpec.toValue row)).entries) = .ok g.routesMap :=
    Value.bindMap_map fun e he => (h.mapped e he).bind_toValue hrow
  apply bind_eq_ok_iff.2
  refine ⟨⟨?_, ?_⟩, h.identifies⟩
  · exact Value.optional_eq_ok_iff.2 (.inr ⟨_, rfl, hroutes⟩)
  · exact Value.optional_eq_ok_iff.2 (.inr ⟨_, rfl, hroutesMap⟩)

/-- Routes that were bound, written as data and bound again, are accepted and are the same, in the
same order. -/
theorem rebind {v : Value} {g : GatewaySpec} (h : bind v = .ok g) {row : List Value → Value}
    (hrow : Value.IsRow row) :
    ∃ g', bind (g.toValue row) = .ok g' ∧ g' = g ∧ g'.ordered = g.ordered := by
  exact ⟨g, (settled_of_bind h).bind_toValue hrow, rfl, rfl⟩

end GatewaySpec

namespace Sample

def manifold : List (String × Value) := [
  ("routes", .list [.map [("id", .text "api"), ("uri", .text "http://backend.local:8080"),
    ("predicates", .list [.text " Path = /api/**", .map [("name", .text " Method "),
      ("args", .map [("methods", .text "GET")])]]),
    ("filters", .tuple [.text "StripPrefix=1", .map [("name", .text "SetStatus"),
      ("args", .int 404)]]),
    ("metadata", .map [("tags", .list [.bool true, .null])]), ("order", .text "7")]]),
  ("routes_map", .map [("users", .map [("uri", .text "lb://users")])])]

theorem rebind_manifold : ∃ g, GatewaySpec.bind (.map manifold) = .ok g ∧
    GatewaySpec.bind (g.toValue .tuple) = .ok g ∧ g.identified.map Prod.fst = ["api", "users"] := by
  have h : ∃ g, GatewaySpec.BoundBy g manifold ∧ g.routes.map RouteSpec.id = ["api"] ∧
      g.identified.map Prod.fst = ["api", "users"] :=
    ⟨⟨_, _⟩, ⟨rfl, rfl⟩, rfl, rfl⟩
  obtain ⟨g, hbound, hlisted, hids⟩ := h
  have hidentifies : g.Identifies := by
    constructor
    · intro t ht
      have hid : t.id ∈ ["api"] := hlisted ▸ List.mem_map_of_mem ht
      rw [List.mem_singleton.1 hid]
      decide
    · rw [hids]
      decide
  have hbind : GatewaySpec.bind (.map manifold) = .ok g :=
    GatewaySpec.bind_eq_ok_iff.2 ⟨hbound, hidentifies⟩
  obtain ⟨g', hrebind, rfl, -⟩ := GatewaySpec.rebind hbind (.inr rfl)
  exact ⟨g', hbind, hrebind, hids⟩

end Sample

end HttpGateway
