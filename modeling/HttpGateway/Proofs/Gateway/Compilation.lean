import HttpGateway.Gateway.Compiler
import HttpGateway.Proofs.Configuration.RouteOrder
import HttpGateway.Proofs.OrderedMap
import HttpGateway.Proofs.Outcome
import Mathlib.Data.List.ReduceOption

namespace HttpGateway

structure CompiledRoute where
  id : String
  spec : RouteSpec
  handling : Handling
  predicates : List Predicate
  filters : List Filter

namespace CompiledRoute

def route (e : CompiledRoute) : Route :=
  ⟨e.id, Predicate.allOf e.predicates,
    (Compiler.stamp e.id e.spec.destination).filter :: e.handling.filters ++ e.filters,
    e.handling.handler, e.spec.metadata⟩

def chain (e : CompiledRoute) : Handler := e.route.chain

/-- The compiler gets the parts of a route one after another from the configured specifications: the
handling, then what the predicates give, then what the filters give. A specification that gives
nothing leaves no part. -/
def By (c : Compiler) (e : CompiledRoute) : Prop :=
  ∃ i j k l given made note,
    (c.handling e.spec).outcomeFrom i = (.ok e.handling, j) ∧
    Compile.InTurn (fun s => c.function c.predicates e.id (Product.predicate? s.shown) s)
      e.spec.predicates j given k ∧
    Compile.InTurn (fun s => c.function c.filters e.id Product.filter? s)
      e.spec.filters (k ++ [note]) made l ∧
    e.predicates = given.reduceOption ∧ e.filters = made.reduceOption

end CompiledRoute

namespace Compiler

theorem outcomeFrom_functions_eq_ok_iff {α : Type} {c : Compiler} {catalog : Catalog}
    {route : String} {read : OperationSpec → Product → Option α} {ss : List OperationSpec}
    {fs : List α} {i k : Journal} :
    (c.functions catalog route read ss).outcomeFrom i = (.ok fs, k) ↔
      ∃ os, Compile.InTurn (fun s => c.function catalog route (read s) s) ss i os k ∧
        fs = os.reduceOption := by
  induction ss generalizing fs i with
  | nil =>
    rw [functions, Compile.outcomeFrom_pure]
    constructor
    · intro h
      cases h
      exact ⟨[], .nil, rfl⟩
    · rintro ⟨os, h, rfl⟩
      cases h
      rfl
  | cons s ss ih =>
    simp only [functions, Compile.outcomeFrom_bind_eq_ok_iff, Compile.outcomeFrom_pure]
    constructor
    · rintro ⟨o, j, ho, gs, k', hgs, h⟩
      cases h
      obtain ⟨os, hos, rfl⟩ := ih.1 hgs
      refine ⟨o :: os, .cons ho hos, ?_⟩
      cases o <;> rfl
    · rintro ⟨os, h, rfl⟩
      cases h with
      | @cons _ _ o os _ j _ ho hos =>
        refine ⟨o, j, ho, _, k, ih.2 ⟨os, hos, rfl⟩, ?_⟩
        cases o <;> rfl

theorem outcomeFrom_functions_eq_error_iff {α : Type} {c : Compiler} {catalog : Catalog}
    {route : String} {read : OperationSpec → Product → Option α} {ss : List OperationSpec}
    {f : Failure} {i k : Journal} :
    (c.functions catalog route read ss).outcomeFrom i = (.error f, k) ↔
      ∃ before s after os j, ss = before ++ s :: after ∧
        Compile.InTurn (fun s => c.function catalog route (read s) s) before i os j ∧
        (c.function catalog route (read s) s).outcomeFrom j = (.error f, k) := by
  induction ss generalizing i with
  | nil =>
    rw [functions, Compile.outcomeFrom_pure]
    constructor
    · intro h
      cases h
    · rintro ⟨before, s, after, os, j, h, -, -⟩
      cases before <;> cases h
  | cons s ss ih =>
    simp only [functions, Compile.outcomeFrom_bind_eq_error_iff, ih, Compile.outcomeFrom_pure]
    constructor
    · rintro (hs | ⟨o, j, ho, ⟨before, s', after, os, l, rfl, hbefore, hs'⟩ | ⟨fs, l, -, h⟩⟩)
      · exact ⟨[], s, ss, [], i, rfl, .nil, hs⟩
      · exact ⟨s :: before, s', after, o :: os, l, rfl, .cons ho hbefore, hs'⟩
      · cases h
    · rintro ⟨before, s', after, os, l, hss, hbefore, hs'⟩
      cases hbefore with
      | nil =>
        cases hss
        exact .inl hs'
      | @cons s₀ before o os i j l ho hbefore =>
        cases hss
        exact .inr ⟨o, j, ho, .inl ⟨before, s', after, os, l, rfl, hbefore, hs'⟩⟩

def routeId (t : RouteSpec) (key : String) : String := if key = "" then t.id else key

theorem outcomeFrom_compile (c : Compiler) (t : RouteSpec) (key : String) (i : Journal) :
    (c.compile t key).outcomeFrom i =
      match (c.assemble (routeId t key) t).outcomeFrom
        (i ++ [.logged .debug ("Creating route for " ++ routeId t key ++ ": " ++ t.shown)]) with
      | (.ok route, k) => (.ok route, k)
      | (.error f, k) => (.error f, if f.isGateway then
          k ++ [.logged .error
            ("Route " ++ Text.quoted (routeId t key) ++ " failed to compile: " ++ f.message)]
        else k) := by
  change (Compile.log .debug ("Creating route for " ++ routeId t key ++ ": " ++ t.shown) >>=
    fun _ => tryCatch (c.assemble (routeId t key) t) _).outcomeFrom i = _
  rw [Compile.outcomeFrom_bind_ok (Compile.outcomeFrom_log _ _ _), Compile.outcomeFrom_tryCatch]
  generalize (c.assemble (routeId t key) t).outcomeFrom _ = o
  rcases o with ⟨f | route, k⟩
  · by_cases hf : f.isGateway
    · simp only [hf, if_true]
      rfl
    · simp only [hf]
      rfl
  · rfl

theorem outcomeFrom_compile_eq_ok {c : Compiler} {t : RouteSpec} {key : String} {route : Route}
    {i k : Journal} (h : (c.compile t key).outcomeFrom i = (.ok route, k)) :
    ∃ j, (c.assemble (routeId t key) t).outcomeFrom j = (.ok route, k) := by
  rw [outcomeFrom_compile] at h
  split at h
  · cases h
    exact ⟨_, ‹_›⟩
  · cases h

theorem outcomeFrom_assemble_eq_ok {c : Compiler} {t : RouteSpec} {key : String} {route : Route}
    {i l : Journal} (h : (c.assemble key t).outcomeFrom i = (.ok route, l)) :
    ∃ e : CompiledRoute, e.id = key ∧ e.spec = t ∧ e.route = route ∧ e.By c := by
  simp only [assemble, Compile.outcomeFrom_bind_eq_ok_iff, Compile.outcomeFrom_log,
    Compile.outcomeFrom_pure, outcomeFrom_functions_eq_ok_iff] at h
  obtain ⟨handling, j, hh, ps, k, ⟨given, hgiven, hps⟩, _, _, hlog, fs, _, hmade, hr⟩ := h
  obtain ⟨made, hmade, hfs⟩ := hmade
  cases hlog
  cases hr
  exact ⟨⟨key, t, handling, ps, fs⟩, rfl, rfl, rfl, i, j, k, l, given, made, _, hh, hgiven, hmade,
    hps, hfs⟩

theorem outcomeFrom_compile_by {c : Compiler} {t : RouteSpec} {key : String} {route : Route}
    {i k : Journal} (hid : routeId t key = key)
    (h : (c.compile t key).outcomeFrom i = (.ok route, k)) :
    ∃ e : CompiledRoute, (e.id, e.spec) = (key, t) ∧ e.route = route ∧ e.By c := by
  obtain ⟨j, hj⟩ := outcomeFrom_compile_eq_ok h
  obtain ⟨e, he, rfl, hr, hc⟩ := outcomeFrom_assemble_eq_ok hj
  exact ⟨e, by rw [he, hid], hr, hc⟩

theorem compiled_of_inTurn {c : Compiler} {ts : List (String × RouteSpec)}
    {rs : List (String × Route)} {i k : Journal} (hids : ∀ e ∈ ts, routeId e.2 e.1 = e.1)
    (h : Compile.InTurn (fun e : String × RouteSpec => do return (e.1, ← c.compile e.2 e.1))
      ts i rs k) :
    ∃ es : List CompiledRoute, es.map (fun e => (e.id, e.spec)) = ts ∧
      es.map (fun e => (e.id, e.route)) = rs ∧ ∀ e ∈ es, e.By c := by
  induction h with
  | nil => exact ⟨[], rfl, rfl, by simp⟩
  | @cons t ts r rs i j k ht _ ih =>
    rw [List.forall_mem_cons] at hids
    rw [Compile.outcomeFrom_bind_eq_ok_iff] at ht
    obtain ⟨route, j', hroute, hr⟩ := ht
    cases hr
    obtain ⟨e, he, rfl, hc⟩ := outcomeFrom_compile_by hids.1 hroute
    obtain ⟨es, rfl, rfl, hes⟩ := ih hids.2
    refine ⟨e :: es, ?_, ?_, List.forall_mem_cons.2 ⟨hc, hes⟩⟩
    · rw [List.map_cons, he]
    · rw [List.map_cons, (Prod.mk.inj he).1]

theorem outcomeFrom_compileAll_eq_ok {c : Compiler} {g g' : GatewaySpec}
    {routes : OrderedMap Route} {i k : Journal} (hg : g.check = .ok g')
    (h : (c.compileAll g).outcomeFrom i = (.ok routes, k)) :
    ∃ es : List CompiledRoute, es.map (fun e => (e.id, e.spec)) = g.ordered ∧
      routes.entries = es.map (fun e => (e.id, e.route)) ∧ ∀ e ∈ es, e.By c := by
  rw [compileAll, Compile.outcomeFrom_bind_eq_ok_iff] at h
  obtain ⟨rs, j, hrs, h⟩ := h
  rw [Compile.outcomeFrom_mapM_eq_ok_iff] at hrs
  cases h
  have hids : ∀ e ∈ g.ordered, routeId e.2 e.1 = e.1 := by
    intro e he
    by_cases hk : e.1 = ""
    · have ht := GatewaySpec.id_eq_of_mem_identified (GatewaySpec.mem_ordered.1 he) hk
      rw [routeId, if_pos hk, ht, hk]
    · rw [routeId, if_neg hk]
  obtain ⟨es, hes, rfl, hc⟩ := compiled_of_inTurn hids hrs
  refine ⟨es, hes, OrderedMap.entries_ofList ?_, hc⟩
  have hn := GatewaySpec.nodup_ids_of_check hg
  rw [← hes, List.map_map] at hn
  rwa [List.map_map]

end Compiler

end HttpGateway
