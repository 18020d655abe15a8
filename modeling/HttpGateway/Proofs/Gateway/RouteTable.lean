import HttpGateway.Proofs.Gateway.Dispatch

namespace HttpGateway

namespace Compiler

/-- How the compilation of routes with their ids ends behind a journal: each one is compiled under
its id, or one of them fails and those behind it are not looked at. -/
inductive CompiledAll (c : Compiler) (ts : List (String × RouteSpec)) (i : Journal) :
    Except Failure (OrderedMap Route) × Journal → Prop
  | complete {routes k} : routes.keys = ts.map Prod.fst →
      Compile.InTurn (fun e => c.compile e.2 e.1) ts i routes.values k →
      CompiledAll c ts i (.ok routes, k)
  | failed {before e after compiled j f k} : ts = before ++ e :: after →
      Compile.InTurn (fun e => c.compile e.2 e.1) before i compiled j →
      (c.compile e.2 e.1).outcomeFrom j = (.error f, k) → CompiledAll c ts i (.error f, k)

variable {c : Compiler} {g : GatewaySpec} {i k : Journal}

theorem outcomeFrom_compileAll_eq_ok_iff {routes : OrderedMap Route}
    (hg : (g.ordered.map Prod.fst).Nodup) :
    (c.compileAll g).outcomeFrom i = (.ok routes, k) ↔ routes.keys = g.ordered.map Prod.fst ∧
      Compile.InTurn (fun e => c.compile e.2 e.1) g.ordered i routes.values k := by
  rw [compileAll, Compile.outcomeFrom_bind_eq_ok_iff]
  constructor
  · rintro ⟨entries, j, hentries, h⟩
    rw [Compile.outcomeFrom_mapM_eq_ok_iff, Compile.inTurn_keyed_iff] at hentries
    cases h
    have heq : (OrderedMap.ofList entries).entries = entries :=
      OrderedMap.entries_ofList (hentries.1 ▸ hg)
    rw [OrderedMap.keys, OrderedMap.values, heq]
    exact hentries
  · rintro ⟨hkeys, h⟩
    refine ⟨routes.entries, k, ?_, ?_⟩
    · rw [Compile.outcomeFrom_mapM_eq_ok_iff, Compile.inTurn_keyed_iff]
      exact ⟨hkeys, h⟩
    · have heq : OrderedMap.ofList routes.entries = routes :=
        OrderedMap.ext_entries (OrderedMap.entries_ofList routes.distinct)
      rw [heq, Compile.outcomeFrom_pure]

theorem outcomeFrom_compileAll_eq_error_iff {f : Failure} :
    (c.compileAll g).outcomeFrom i = (.error f, k) ↔ ∃ before e after compiled j,
      g.ordered = before ++ e :: after ∧
      Compile.InTurn (fun e => c.compile e.2 e.1) before i compiled j ∧
      (c.compile e.2 e.1).outcomeFrom j = (.error f, k) := by
  have hkeyed : ∀ (e : String × RouteSpec) j,
      (do return (e.1, ← c.compile e.2 e.1) : Compile (String × Route)).outcomeFrom j =
        (.error f, k) ↔ (c.compile e.2 e.1).outcomeFrom j = (.error f, k) := by
    intro e j
    rw [Compile.outcomeFrom_bind_eq_error_iff, or_iff_left]
    rintro ⟨route, l, -, h⟩
    cases h
  rw [compileAll, Compile.outcomeFrom_bind_eq_error_iff, Compile.outcomeFrom_mapM_eq_error_iff]
  constructor
  · rintro (⟨before, e, after, entries, j, hts, hbefore, he⟩ | ⟨entries, j, -, h⟩)
    · exact ⟨before, e, after, entries.map Prod.snd, j, hts,
        (Compile.inTurn_keyed_iff.1 hbefore).2, (hkeyed e j).1 he⟩
    · cases h
  · rintro ⟨before, e, after, compiled, j, hts, hbefore, he⟩
    refine .inl ⟨before, e, after, (before.map Prod.fst).zip compiled, j, hts, ?_,
      (hkeyed e j).2 he⟩
    have hlength : (before.map Prod.fst).length = compiled.length := by
      rw [List.length_map, hbefore.length_eq]
    rw [Compile.inTurn_keyed_iff, List.map_fst_zip (Nat.le_of_eq hlength),
      List.map_snd_zip (Nat.le_of_eq hlength.symm)]
    exact ⟨rfl, hbefore⟩

theorem outcomeFrom_compileAll_eq_iff (hg : (g.ordered.map Prod.fst).Nodup)
    {o : Except Failure (OrderedMap Route) × Journal} :
    (c.compileAll g).outcomeFrom i = o ↔ c.CompiledAll g.ordered i o := by
  rcases o with ⟨f | routes, k⟩
  · rw [outcomeFrom_compileAll_eq_error_iff]
    constructor
    · rintro ⟨before, e, after, compiled, j, hts, hbefore, he⟩
      exact .failed hts hbefore he
    · intro h
      cases h with
      | failed hts hbefore he => exact ⟨_, _, _, _, _, hts, hbefore, he⟩
  · rw [outcomeFrom_compileAll_eq_ok_iff hg]
    constructor
    · rintro ⟨hkeys, h⟩
      exact .complete hkeys h
    · intro h
      cases h with
      | complete hkeys h => exact ⟨hkeys, h⟩

end Compiler

namespace GatewaySpec

/-- A configuration is accepted just if its ids tell its routes apart. All its routes come in their
order, equal orders as they are configured, and they are compiled in it up to the first failure. -/
theorem checked_routes_compile_in_order (g : GatewaySpec) :
    (∀ g', g.check = .ok g' ↔ g' = g ∧ g.Identifies) ∧
    (∀ es, g.BoundBy es → ∀ g', bind (.map es) = .ok g' ↔ g' = g ∧ g.Identifies) ∧
    g.ordered.Perm g.identified ∧
    SortedBy (fun e : String × RouteSpec => e.2.order) g.identified g.ordered ∧
    (∀ g' : GatewaySpec, g'.identified.Perm g.identified →
      (g.identified.map fun e => e.2.order).Nodup → g'.ordered = g.ordered) ∧
    (g.check = .ok g → ∀ (c : Compiler) i o,
      (c.compileAll g).outcomeFrom i = o ↔ c.CompiledAll g.ordered i o) := by
  refine ⟨fun g' => check_eq_ok_iff, fun es hes g' => ?_, g.ordered_sortedBy.perm,
    g.ordered_sortedBy, fun g' hperm horders => ordered_eq_of_perm hperm horders,
    fun hg c i o => ?_⟩
  · rw [hes.bind_eq_check]
    exact check_eq_ok_iff
  · exact Compiler.outcomeFrom_compileAll_eq_iff (nodup_ids_of_check hg)

end GatewaySpec

namespace Sample

def listed (id : String) (predicates : List OperationSpec) (order : Int) : RouteSpec :=
  { route predicates order with id }

def early : RouteSpec := listed "early" [asking "yes"] 0

def broken : RouteSpec := listed "broken" [⟨"answers", .positional []⟩] 1

def late : RouteSpec := listed "late" [asking "yes"] 2

def table : GatewaySpec := ⟨[late, broken, early], {}⟩

def routeData (id predicate : String) (order : Int) : Value :=
  .map [("id", .text id), ("uri", .text "no://a"), ("predicates", .list [.text predicate]),
    ("order", .int order)]

def tableData : List (String × Value) :=
  [("routes", .list [routeData "late" "answers=yes" 2, routeData "broken" "answers" 1,
    routeData "early" "answers=yes" 0])]

theorem boundBy_table : table.BoundBy tableData := ⟨by rfl, by rfl⟩

def sorted : GatewaySpec := ⟨[early, broken, late], {}⟩

theorem ordered_sorted : sorted.ordered = [("early", early), ("broken", broken), ("late", late)] :=
  List.mergeSort_of_pairwise (by decide)

theorem checked_routes_compile_in_order_broken :
    table.BoundBy tableData ∧ GatewaySpec.bind (.map tableData) = .ok table ∧
    table.check = .ok table ∧ sorted.identified.Perm table.identified ∧
    (table.identified.map fun e => e.2.order).Nodup ∧
    ∃ k, (compiler.compileAll table).outcomeFrom [] =
        (.error (.operationNotFound "answers" "predicate" (.positional [])), k) ∧
      compiler.CompiledAll [("early", early), ("broken", broken), ("late", late)] []
        (.error (.operationNotFound "answers" "predicate" (.positional [])), k) := by
  have hperm : sorted.identified.Perm table.identified := List.reverse_perm table.identified
  have hids : table.Identifies := ⟨by decide, by decide⟩
  have horders : (table.identified.map fun e => e.2.order).Nodup := by decide
  obtain ⟨hcheck, hbind, -, -, hordered, hcompile⟩ :=
    GatewaySpec.checked_routes_compile_in_order table
  have htable := (hcheck table).2 ⟨rfl, hids⟩
  have hsorted : table.ordered = sorted.ordered := (hordered sorted hperm horders).symm
  -- the order of the sorted configuration can be read off, and it is the one of the table
  have hrun : ∃ k, (compiler.compileAll sorted).outcomeFrom [] =
      (.error (.operationNotFound "answers" "predicate" (.positional [])), k) := by
    rw [Compiler.compileAll, ordered_sorted]
    exact ⟨_, rfl⟩
  obtain ⟨k, hrun⟩ := hrun
  have hsame : compiler.compileAll table = compiler.compileAll sorted := by
    rw [Compiler.compileAll, hsorted, ← Compiler.compileAll]
  rw [← hsame] at hrun
  have hcompiled := (hcompile htable compiler [] _).1 hrun
  rw [hsorted, ordered_sorted] at hcompiled
  exact ⟨boundBy_table, (hbind _ boundBy_table table).2 ⟨rfl, hids⟩, htable, hperm, horders, k,
    hrun, hcompiled⟩

end Sample

end HttpGateway
