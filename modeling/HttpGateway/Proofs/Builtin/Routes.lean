import HttpGateway.Proofs.Builtin.Products
import HttpGateway.Proofs.Gateway.Steps

namespace HttpGateway.Builtin

inductive BuiltinHandling (outlet : Outlet) : Handling → Prop
  | forwarding : BuiltinHandling outlet ⟨Request.forward, []⟩
  | balanced (service : String) : BuiltinHandling outlet ⟨Request.forward,
      [(Balancer.stage service ((outlet.instances.get? service).getD [])).filter]⟩
  | answering : BuiltinHandling outlet ⟨answerEmpty, []⟩

structure Composed (outlet : Outlet) (e : CompiledRoute) : Prop where
  handling : BuiltinHandling outlet e.handling
  predicates : ∀ p ∈ e.predicates, ∃ c : Condition, p = c.predicate
  filters : ∀ f ∈ e.filters, ∃ st, FilterStage st ∧ f = st.filter

variable {outlet : Outlet} {c : Compiler}

theorem builtinHandling_of_product {p : Product} (hp : IsHandler outlet p) {h : Handling}
    (hh : p.handling? = some h) : BuiltinHandling outlet h := by
  cases hp with
  | forwarding =>
    cases hh
    exact .forwarding
  | balanced service =>
    cases hh
    exact .balanced service
  | answering =>
    cases hh
    exact .answering

theorem Builds.product {P : Product → Prop} {op : Operation} (h : Builds P op)
    {ops : List Operation} {raw : RawArgs} {absent : String → Value} {p : Product} {j k : Journal}
    (hb : Catalog.Builds ops raw absent j op (.ok p, k)) : P p := by
  obtain ⟨args, hrun⟩ := hb.exists_eq
  obtain ⟨r, hr, hP⟩ := h args
  rw [hr, Compile.outcomeFrom_lift] at hrun
  cases hrun
  exact hP p rfl

theorem product_of_function {α : Type} {catalog : Catalog} {id : String}
    {read : Product → Option α} {s : OperationSpec} {P : Product → Prop} {f : α} {j k : Journal}
    (hops : Catalog.Overloads (catalog.candidates s.name))
    (hP : ∀ op ∈ catalog.candidates s.name, Builds P op)
    (h : (c.function catalog id read s).outcomeFrom j = (.ok (some f), k)) :
    ∃ p, P p ∧ read p = some f := by
  rw [Compiler.outcomeFrom_function_eq_iff hops] at h
  cases h with
  | added hasked _ hread =>
    obtain ⟨op, -, hb⟩ := Catalog.obtained_ok_iff.1 hasked
    exact ⟨_, (hP op (hb.mem hops)).product hb, hread⟩

theorem composed_of_by {schemes : List String} {absent : String → Value} {i j : Journal}
    (hc : (Compiler.make (providers outlet) schemes absent).outcomeFrom i = (.ok c, j))
    {e : CompiledRoute} (he : e.By c) : Composed outlet e := by
  obtain ⟨⟨_, _, hhandlers⟩, ⟨_, _, hpredicates⟩, ⟨_, _, hfilters⟩, -, -⟩ :=
    Compiler.outcomeFrom_make_eq_ok hc
  obtain ⟨k, l, m, n, given, made, note, hhandling, hgiven, hmade, hps, hfs⟩ := he
  constructor
  · have hops := Catalog.overloads_of_discover hhandlers (Compiler.handlerName e.spec)
    rw [Compiler.outcomeFrom_handling_eq_iff hops] at hhandling
    cases hhandling with
    | handled hasked hp =>
      obtain ⟨op, -, hb⟩ := Catalog.obtained_ok_iff.1 hasked
      have hproduct := (builds_handler hhandlers (hb.mem hops)).product hb
      exact builtinHandling_of_product hproduct hp
  · intro p hp
    rw [hps, List.reduceOption_mem_iff] at hp
    obtain ⟨s, -, _, _, hrun⟩ := hgiven.exists_of_mem hp
    obtain ⟨product, ⟨condition, rfl⟩, hread⟩ :=
      product_of_function (Catalog.overloads_of_discover hpredicates s.name)
        (fun op hop => builds_predicate hpredicates hop) hrun
    cases hread
    exact ⟨condition, rfl⟩
  · intro f hf
    rw [hfs, List.reduceOption_mem_iff] at hf
    obtain ⟨s, -, _, _, hrun⟩ := hmade.exists_of_mem hf
    obtain ⟨product, ⟨st, hst, rfl⟩, hread⟩ :=
      product_of_function (Catalog.overloads_of_discover hfilters s.name)
        (fun op hop => builds_filter hfilters hop) hrun
    cases hread
    exact ⟨st, hst.filterStage, rfl⟩

end HttpGateway.Builtin
