import HttpGateway.Proofs.Builtin.Isolation

namespace HttpGateway

def Journal.errors (j : Journal) : Journal := j.filter fun e => e matches .logged .error _

@[simp]
theorem Journal.errors_append (i j : Journal) :
    Journal.errors (i ++ j) = Journal.errors i ++ Journal.errors j :=
  List.filter_append i j

namespace Catalog

theorem mem_of_firstFit {raw : RawArgs} {ops : List Operation} {i : Nat} {found : Resolved}
    (h : firstFit raw i ops = .ok (some found)) : found.operation ∈ ops := by
  induction ops generalizing i with
  | nil => cases h
  | cons op ops ih =>
    rw [firstFit] at h
    split at h
    · cases h
    · exact List.mem_cons_of_mem op (ih h)
    · split at h
      · cases h
        exact List.mem_cons_self
      · exact List.mem_cons_of_mem op (ih h)

end Catalog

namespace Compiler

def Knows (c : Compiler) (op : Operation) : Prop :=
  ∃ catalog ∈ c.catalogs, ∃ name, op ∈ catalog.candidates name

/-- Between two journals the compiler has written nothing but notes for debugging, and has called
operations, whatever these wrote themselves. -/
inductive Noted (c : Compiler) : Journal → Journal → Prop
  | refl (i) : Noted c i i
  | note {i j} (message) : Noted c (i ++ [.logged .debug message]) j → Noted c i j
  | call {op i j} (arguments) : c.Knows op →
      Noted c ((op.build arguments).outcomeFrom i).2 j → Noted c i j

def Silent (c : Compiler) : Prop :=
  ∀ op, c.Knows op → ∀ arguments i,
    Journal.errors ((op.build arguments).outcomeFrom i).2 = Journal.errors i

variable {α β : Type} {c : Compiler} {i j k : Journal}

theorem Noted.trans (h : c.Noted i j) (h' : c.Noted j k) : c.Noted i k := by
  induction h with
  | refl => exact h'
  | note message _ ih => exact .note message (ih h')
  | call arguments hop _ ih => exact .call arguments hop (ih h')

theorem Noted.errors_eq (h : c.Noted i j) (hc : c.Silent) :
    Journal.errors j = Journal.errors i := by
  induction h with
  | refl => rfl
  | note message _ ih =>
    rw [ih, Journal.errors_append]
    exact List.append_nil _
  | call arguments hop _ ih => rw [ih, hc _ hop]

def Notes (c : Compiler) (m : Compile α) : Prop := ∀ i, c.Noted i (m.outcomeFrom i).2

theorem notes_lift (r : Except Failure α) : c.Notes (Compile.lift r) := by
  intro i
  rw [Compile.outcomeFrom_lift]
  exact .refl i

theorem notes_pure (a : α) : c.Notes (pure a : Compile α) := fun _ => .refl _

theorem notes_throw (f : Failure) : c.Notes (throw f : Compile α) := fun _ => .refl _

theorem notes_debug (message : String) : c.Notes (Compile.log .debug message) :=
  fun _ => .note message (.refl _)

theorem notes_bind {m : Compile α} {f : α → Compile β} (hm : c.Notes m)
    (hf : ∀ a, c.Notes (f a)) : c.Notes (m >>= f) := by
  intro i
  have hi := hm i
  rcases hr : m.outcomeFrom i with ⟨e | a, j⟩
  · rw [hr] at hi
    rwa [Compile.outcomeFrom_bind_error hr]
  · rw [hr] at hi
    rw [Compile.outcomeFrom_bind_ok hr]
    exact hi.trans (hf a j)

theorem notes_build {op : Operation} (hop : c.Knows op) (arguments : Arguments) :
    c.Notes (op.build arguments) :=
  fun _ => .call arguments hop (.refl _)

theorem notes_ask {catalog : Catalog} (hcatalog : catalog ∈ c.catalogs) (name : String)
    (raw : RawArgs) (missing : Failure) : c.Notes (c.ask catalog name raw missing) := by
  intro i
  rw [outcomeFrom_ask]
  rcases hf : catalog.find name raw with e | _ | found
  · exact .refl i
  · exact .refl i
  · have hop : c.Knows found.operation := ⟨catalog, hcatalog, name, Catalog.mem_of_firstFit hf⟩
    exact notes_bind (notes_bind (notes_lift _) (notes_build hop)) (fun _ => notes_pure _) i

theorem notes_handling (t : RouteSpec) : c.Notes (c.handling t) := by
  rw [handling_eq_ask]
  refine notes_bind (notes_ask List.mem_cons_self _ _ _) fun a => ?_
  cases a.2.handling? with
  | none => exact notes_throw _
  | some h => exact notes_pure h

theorem notes_function {catalog : Catalog} (hcatalog : catalog ∈ c.catalogs) (id : String)
    (read : Product → Option α) (s : OperationSpec) : c.Notes (c.function catalog id read s) := by
  refine notes_bind (notes_ask hcatalog _ _ _) fun a => ?_
  obtain ⟨name, product⟩ := a
  by_cases hp : product.isNothing
  · simp only [hp, if_true]
    exact notes_bind (notes_debug _) fun _ => notes_pure none
  · simp only [hp]
    cases read product with
    | none => exact notes_throw _
    | some f => exact notes_bind (notes_debug _) fun _ => notes_pure (some f)

theorem notes_functions {catalog : Catalog} (hcatalog : catalog ∈ c.catalogs) (id : String)
    (read : OperationSpec → Product → Option α) (ss : List OperationSpec) :
    c.Notes (c.functions catalog id read ss) := by
  induction ss with
  | nil => exact notes_pure []
  | cons s ss ih =>
    exact notes_bind (notes_function hcatalog id (read s) s) fun _ =>
      notes_bind ih fun _ => notes_pure _

theorem notes_assemble (id : String) (t : RouteSpec) : c.Notes (c.assemble id t) := by
  have hpredicates : c.predicates ∈ c.catalogs := List.mem_cons_of_mem _ List.mem_cons_self
  have hfilters : c.filters ∈ c.catalogs :=
    List.mem_cons_of_mem _ (List.mem_cons_of_mem _ List.mem_cons_self)
  refine notes_bind (notes_handling t) fun _ => ?_
  refine notes_bind (notes_functions hpredicates id _ _) fun _ => ?_
  refine notes_bind (notes_debug _) fun _ => ?_
  exact notes_bind (notes_functions hfilters id _ _) fun _ => notes_pure _

def report (id : String) : Except Failure Route → Journal
  | .ok _ => []
  | .error f => reported id f

theorem errors_report (id : String) (o : Except Failure Route) :
    Journal.errors (report id o) = report id o := by
  rcases o with f | route
  · by_cases hf : f.isGateway <;> simp [report, reported, hf, Journal.errors]
  · rfl

theorem noted_of_assembled {id : String} {t : RouteSpec} {o : Except Failure Route}
    (h : c.Assembled id t (i ++ [creating id t]) (o, k)) : c.Noted i k := by
  have hnoted := notes_assemble (c := c) id t (i ++ [creating id t])
  rw [outcomeFrom_assemble_eq_iff.2 h] at hnoted
  exact .note _ hnoted

/-- Compilation ends with a report under the id of the route if the failure is one of the gateway,
and with none if it is another one or if there is a route. Before that, the compiler records no
error: there is one only if an operation wrote it. -/
theorem reports_of_compile (c : Compiler) (t : RouteSpec) (key : String) (i : Journal) :
    ∃ k, ((c.compile t key).outcomeFrom i).2 =
        k ++ report (routeId t key) ((c.compile t key).outcomeFrom i).1 ∧
      c.Noted i k ∧ (c.Silent → Journal.errors ((c.compile t key).outcomeFrom i).2 =
        Journal.errors i ++ report (routeId t key) ((c.compile t key).outcomeFrom i).1) := by
  have h : ∃ k, ((c.compile t key).outcomeFrom i).2 =
      k ++ report (routeId t key) ((c.compile t key).outcomeFrom i).1 ∧ c.Noted i k := by
    generalize ho : (c.compile t key).outcomeFrom i = o
    cases outcomeFrom_compile_eq_iff.1 ho with
    | @complete _ k h => exact ⟨k, (List.append_nil k).symm, noted_of_assembled h⟩
    | @failed _ k h => exact ⟨k, rfl, noted_of_assembled h⟩
  obtain ⟨k, hk, hnoted⟩ := h
  refine ⟨k, hk, hnoted, fun hsilent => ?_⟩
  rw [hk, Journal.errors_append, hnoted.errors_eq hsilent, errors_report]

end Compiler

namespace Builtin

theorem silent_of_make {outlet : Outlet} {schemes : List String} {absent : String → Value}
    {c : Compiler} {i j : Journal}
    (hc : (Compiler.make (providers outlet) schemes absent).outcomeFrom i = (.ok c, j)) :
    c.Silent := by
  obtain ⟨⟨_, _, hhandlers⟩, ⟨_, _, hpredicates⟩, ⟨_, _, hfilters⟩, -, -⟩ :=
    Compiler.outcomeFrom_make_eq_ok hc
  have hsilent : ∀ {P : Product → Prop} {op : Operation}, Builds P op → ∀ arguments k,
      Journal.errors ((op.build arguments).outcomeFrom k).2 = Journal.errors k := by
    intro P op hop arguments k
    obtain ⟨r, hr, -⟩ := hop arguments
    rw [hr, Compile.outcomeFrom_lift]
  rintro op ⟨catalog, hcatalog, name, hop⟩
  rw [Compiler.catalogs, List.mem_cons, List.mem_cons, List.mem_singleton] at hcatalog
  rcases hcatalog with rfl | rfl | rfl
  · exact hsilent (builds_handler hhandlers hop)
  · exact hsilent (builds_predicate hpredicates hop)
  · exact hsilent (builds_filter hfilters hop)

end Builtin

namespace Sample

def unreachable : RouteSpec :=
  ⟨"files", "ftp://files", ⟨"ftp", "", "files", none, "", none, none⟩, [], [], {}, 0, by rfl,
    by decide⟩

set_option maxRecDepth 8000 in
theorem make_reporting : ∃ c j op a b,
    (Compiler.make (Builtin.providers .empty) [] Compiler.usualAbsent).outcomeFrom [] =
      (.ok c, j) ∧ c.handlers.candidates "ftp" = [] ∧
    c.handlers.candidates "http" = [op] ∧ op.parameters = [] ∧
    (∀ i, (op.build []).outcomeFrom i = (.ok (.handling ⟨Request.forward, []⟩), i)) ∧
    c.filters.candidates "StripPrefix" = [a, b] ∧ a.parameters = [] ∧
    b.parameters = [⟨"parts", .int, false⟩] ∧
    ∀ i, (b.build [("parts", .int (-1))]).outcomeFrom i = (.error (.negativeParts (-1)), i) :=
  ⟨_, _, _, _, _, rfl, rfl, rfl, rfl, fun _ => rfl, rfl, rfl, rfl, fun _ => rfl⟩

theorem reports_of_compile_unreachable : ∃ c j k,
    (Compiler.make (Builtin.providers .empty) [] Compiler.usualAbsent).outcomeFrom [] =
      (.ok c, j) ∧ c.Silent ∧
    (c.compile unreachable "").outcomeFrom [] = (.error (.unresolvableScheme "ftp"), k) ∧
    Journal.errors k = [.logged .error ("Route 'files' failed to compile: " ++
      "Unable to find handler function for scheme: ftp")] := by
  obtain ⟨c, j, -, -, -, hmake, hnone, -⟩ := make_reporting
  obtain ⟨⟨_, _, hhandlers⟩, -⟩ := Compiler.outcomeFrom_make_eq_ok hmake
  have hname : Compiler.handlerName unreachable = "ftp" := by rfl
  have hops := Catalog.overloads_of_discover hhandlers (Compiler.handlerName unreachable)
  have hhandling : ∀ i, (c.handling unreachable).outcomeFrom i =
      (.error (.unresolvableScheme "ftp"), i) := by
    intro i
    rw [Compiler.outcomeFrom_handling_eq_error_iff hops, hname, hnone]
    exact .inr (.inl ⟨rfl, rfl, by simp⟩)
  have hcompile : ∃ k, (c.compile unreachable "").outcomeFrom [] =
      (.error (.unresolvableScheme "ftp"), k) :=
    ⟨_, Compiler.outcomeFrom_compile_eq_iff.2 (.failed (.unhandled (hhandling _)))⟩
  obtain ⟨k, hk⟩ := hcompile
  have hsilent := Builtin.silent_of_make hmake
  obtain ⟨-, -, -, herrors⟩ := Compiler.reports_of_compile c unreachable "" []
  have herrors := herrors hsilent
  rw [hk] at herrors
  exact ⟨c, j, k, hmake, hsilent, hk, herrors⟩

def unstrippable : RouteSpec :=
  { forwarded with filters := [⟨"StripPrefix", .positional ["-1"]⟩] }

theorem compile_unstrippable_unreported : ∃ c j k,
    (Compiler.make (Builtin.providers .empty) [] Compiler.usualAbsent).outcomeFrom [] =
      (.ok c, j) ∧
    (c.compile unstrippable "").outcomeFrom [] = (.error (.negativeParts (-1)), k) ∧
    Journal.errors k = [] := by
  obtain ⟨c, j, op, a, b, hmake, -, hop, hopp, hopb, hab, ha, hb, hbuild⟩ := make_reporting
  obtain ⟨⟨_, _, hhandlers⟩, -, ⟨_, _, hfilters⟩, hschemes, -⟩ :=
    Compiler.outcomeFrom_make_eq_ok hmake
  have hhandling := handling_of_only (t := unstrippable)
    (Catalog.overloads_of_discover hhandlers _) hschemes hop hopp hopb
  have hbuilds : ∀ i, c.FunctionBuilds c.filters ⟨"StripPrefix", .positional ["-1"]⟩ i b
      (.error (.negativeParts (-1)), i) := by
    intro i
    have hresolves : Catalog.Resolves ([a] ++ b :: []) (.positional ["-1"])
        (some ⟨b, 1, OrderedMap.ofList [("parts", "-1")]⟩) := by
      refine .positional (.listed _) rfl (fun earlier he => ?_) ?_ ?_
      · rw [List.mem_singleton.1 he, Operation.parameterNames, ha]
        decide
      · rw [Operation.parameterNames, hb]
        rfl
      · rw [Operation.parameterNames, hb]
        rfl
    rw [Compiler.FunctionBuilds, hab, ← hbuild i]
    refine .called hresolves ?_
    rw [hb]
    exact .cons (.converted rfl (by rfl)) .nil
  have hfilter : ∀ i, (c.filterStep "r" ⟨"StripPrefix", .positional ["-1"]⟩).outcomeFrom i =
      (.error (.negativeParts (-1)), i) := fun i =>
    (Compiler.outcomeFrom_function_eq_iff (Catalog.overloads_of_discover hfilters _)).2
      (.failed (Catalog.obtained_error_iff.2 (.inl ⟨b, hbuilds i⟩)))
  have hassembled : ∃ k, c.Assembled "r" unstrippable ([] ++ [Compiler.creating "r" unstrippable])
      (.error (.negativeParts (-1)), k) :=
    ⟨_, .unfiltered (hhandling _) .nil rfl .nil (hfilter _)⟩
  obtain ⟨k, hassembled⟩ := hassembled
  have hnoted := Compiler.noted_of_assembled hassembled
  refine ⟨c, j, _, hmake, Compiler.outcomeFrom_compile_eq_iff.2 (.failed hassembled), ?_⟩
  rw [Journal.errors_append, hnoted.errors_eq (Builtin.silent_of_make hmake)]
  rfl

end Sample

end HttpGateway
