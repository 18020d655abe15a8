import HttpGateway.Proofs.Gateway.Compilation
import HttpGateway.Proofs.Gateway.Testing

namespace HttpGateway

namespace CompiledRoute

variable (s : Surroundings) (r : Request)

def Passed : List CompiledRoute → Exchange → Exchange → Prop
  | [], x, y => y = x
  | e :: es, x, z => ∃ y, Predicate.Stopped s r e.predicates x (.ok false) y ∧ Passed es y z

/-- How an exchange ends for a request: nobody answers once all routes rejected it, or the first
route whose predicates all hold answers with its chain, or a predicate fails on the way. -/
inductive Dispatched (es : List CompiledRoute) (x : Exchange) :
    Except Failure (Option Response) × Exchange → Prop
  | unanswered {y} : Passed s r es x y → Dispatched es x (.ok none, y)
  | answered {before e after y z o w} : es = before ++ e :: after → Passed s r before x y →
      Predicate.Held s r e.predicates y z → (e.chain r).outcome s z = (o, w) →
      Dispatched es x (o.map some, w)
  | failed {before e after y f z} : es = before ++ e :: after → Passed s r before x y →
      Predicate.Stopped s r e.predicates y (.error f) z → Dispatched es x (.error f, z)

variable {s r}

theorem outcome_dispatch_cons (e : CompiledRoute) (ts : List Route) (x : Exchange) :
    (Route.dispatch (e.route :: ts) r).outcome s x =
      match ((Predicate.allOf e.predicates).accepts r).outcome s x with
      | (.ok true, y) => (((e.chain r).outcome s y).1.map some, ((e.chain r).outcome s y).2)
      | (.ok false, y) => (Route.dispatch ts r).outcome s y
      | (.error f, y) => (.error f, y) := by
  have hp : e.route.predicate = Predicate.allOf e.predicates := rfl
  rw [Route.dispatch, hp, Serve.outcome_bind]
  rcases ((Predicate.allOf e.predicates).accepts r).outcome s x with ⟨f | _ | _, y⟩
  · rfl
  · rfl
  · exact Serve.outcome_bind_some (e.chain r) s y

theorem outcome_dispatch_of_held {e : CompiledRoute} {ts : List Route} {x y : Exchange}
    (h : Predicate.Held s r e.predicates x y) :
    (Route.dispatch (e.route :: ts) r).outcome s x =
      (((e.chain r).outcome s y).1.map some, ((e.chain r).outcome s y).2) := by
  rw [outcome_dispatch_cons, h.outcome]

theorem outcome_dispatch_of_rejected {e : CompiledRoute} {ts : List Route} {x y : Exchange}
    (h : Predicate.Stopped s r e.predicates x (.ok false) y) :
    (Route.dispatch (e.route :: ts) r).outcome s x = (Route.dispatch ts r).outcome s y := by
  rw [outcome_dispatch_cons, h.outcome]

theorem outcome_dispatch_of_failed {e : CompiledRoute} {ts : List Route} {x y : Exchange}
    {f : Failure} (h : Predicate.Stopped s r e.predicates x (.error f) y) :
    (Route.dispatch (e.route :: ts) r).outcome s x = (.error f, y) := by
  rw [outcome_dispatch_cons, h.outcome]

theorem Passed.outcome {es : List CompiledRoute} {ts : List Route} {x y : Exchange}
    (h : Passed s r es x y) :
    (Route.dispatch (es.map route ++ ts) r).outcome s x = (Route.dispatch ts r).outcome s y := by
  induction es generalizing x with
  | nil =>
    cases h
    rfl
  | cons e es ih =>
    obtain ⟨z, he, hz⟩ := h
    rw [List.map_cons, List.cons_append, outcome_dispatch_of_rejected he]
    exact ih hz

theorem Dispatched.outcome {es : List CompiledRoute} {x : Exchange}
    {o : Except Failure (Option Response) × Exchange} (h : Dispatched s r es x o) :
    (Route.dispatch (es.map route) r).outcome s x = o := by
  cases h with
  | unanswered hp =>
    have h : (Route.dispatch (es.map route ++ []) r).outcome s x = _ := hp.outcome
    rwa [List.append_nil] at h
  | answered he hp hh hc =>
    rw [he, List.map_append, List.map_cons, hp.outcome, outcome_dispatch_of_held hh, hc]
  | failed he hp hf =>
    rw [he, List.map_append, List.map_cons, hp.outcome, outcome_dispatch_of_failed hf]

theorem Dispatched.passed {es : List CompiledRoute} {x y : Exchange}
    (h : Dispatched s r es x (.ok none, y)) : Passed s r es x y := by
  generalize ho : (Except.ok none, y) = o at h
  cases h with
  | unanswered hp =>
    cases ho
    exact hp
  | @answered _ _ _ _ _ o _ _ _ _ _ => cases o <;> cases ho
  | failed => cases ho

theorem Dispatched.behind {e : CompiledRoute} {es : List CompiledRoute} {x y : Exchange}
    {o : Except Failure (Option Response) × Exchange}
    (he : Predicate.Stopped s r e.predicates x (.ok false) y) (h : Dispatched s r es y o) :
    Dispatched s r (e :: es) x o := by
  cases h with
  | unanswered hp => exact .unanswered ⟨y, he, hp⟩
  | @answered before e' after _ _ _ _ hes hp hh hc =>
    have hs : e :: es = (e :: before) ++ e' :: after := congrArg (e :: ·) hes
    exact .answered hs ⟨y, he, hp⟩ hh hc
  | @failed before e' after _ _ _ hes hp hf =>
    have hs : e :: es = (e :: before) ++ e' :: after := congrArg (e :: ·) hes
    exact .failed hs ⟨y, he, hp⟩ hf

theorem exists_dispatched (es : List CompiledRoute) (x : Exchange) :
    ∃ o, Dispatched s r es x o := by
  induction es generalizing x with
  | nil => exact ⟨_, .unanswered rfl⟩
  | cons e es ih =>
    have hs : e :: es = [] ++ e :: es := rfl
    rcases Predicate.held_or_stopped (s := s) (r := r) e.predicates x with ⟨y, h⟩ | ⟨said, y, h⟩
    · exact ⟨_, .answered hs rfl h rfl⟩
    · rcases said with f | _ | _
      · exact ⟨_, .failed hs rfl h⟩
      · obtain ⟨o, ho⟩ := ih y
        exact ⟨o, .behind h ho⟩
      · obtain ⟨_, _, _, _, _, _, _, hs⟩ := h
        exact absurd rfl hs

theorem outcome_dispatch_eq_iff {es : List CompiledRoute} {x : Exchange}
    {o : Except Failure (Option Response) × Exchange} :
    (Route.dispatch (es.map route) r).outcome s x = o ↔ Dispatched s r es x o := by
  constructor
  · rintro rfl
    obtain ⟨o, ho⟩ := exists_dispatched (s := s) (r := r) es x
    rw [ho.outcome]
    exact ho
  · exact Dispatched.outcome

theorem Passed.attributes {es : List CompiledRoute} {x y : Exchange} (h : Passed s r es x y)
    (hes : ∀ e ∈ es, ∀ p ∈ e.predicates, p.KeepsAttributes) : y.attributes = x.attributes := by
  induction es generalizing x with
  | nil => rw [h]
  | cons e es ih =>
    obtain ⟨z, he, hz⟩ := h
    have hy := ih hz fun e' he' => hes e' (List.mem_cons_of_mem e he')
    exact hy.trans (he.attributes (hes e List.mem_cons_self))

/-- Dispatch over the routes that a checked configuration compiles to tries them by ascending order,
routes of one order as they are configured, and answers with the chain of the first one whose
predicates all hold. -/
theorem dispatch_compileAll {c : Compiler} {g : GatewaySpec} {routes : OrderedMap Route}
    {i k : Journal} (hg : g.check = .ok g) (hc : (c.compileAll g).outcomeFrom i = (.ok routes, k))
    (r : Request) :
    SortedBy (fun e : String × RouteSpec => e.2.order) g.identified g.ordered ∧
    ∃ es : List CompiledRoute, es.map (fun e => (e.id, e.spec)) = g.ordered ∧ (∀ e ∈ es, e.By c) ∧
      (∀ s x o, (Route.dispatch routes.values r).outcome s x = o ↔ Dispatched s r es x o) ∧
      ((∀ e ∈ es, ∀ p ∈ e.predicates, p.KeepsAttributes) → ∀ s x,
        (∀ y, (Route.dispatch routes.values r).outcome s x = (.ok none, y) →
          y.attributes = x.attributes) ∧
        ∀ before e after y z, es = before ++ e :: after → Passed s r before x y →
          Predicate.Held s r e.predicates y z → z.attributes = x.attributes) := by
  obtain ⟨es, hes, hr, hby⟩ := Compiler.outcomeFrom_compileAll_eq_ok hg hc
  have hv : routes.values = es.map route := by
    rw [OrderedMap.values, hr, List.map_map]
    rfl
  have ho : ∀ s x o, (Route.dispatch routes.values r).outcome s x = o ↔ Dispatched s r es x o := by
    intro s x o
    rw [hv]
    exact outcome_dispatch_eq_iff
  refine ⟨g.ordered_sortedBy, es, hes, hby, ho, fun hk s x => ⟨?_, ?_⟩⟩
  · intro y hy
    exact ((ho s x _).1 hy).passed.attributes hk
  · intro before e after y z he hp hh
    have hy := hp.attributes fun b hb => hk b (he ▸ List.mem_append_left _ hb)
    have hz := hh.attributes (hk e (he ▸ List.mem_append_right _ List.mem_cons_self))
    exact hz.trans hy

end CompiledRoute

namespace Sample

def destination : Uri := ⟨"no", "", "a", none, "", none, none⟩

def asking (answer : String) : OperationSpec := ⟨"answers", .positional [answer]⟩

def route (predicates : List OperationSpec) (order : Int) : RouteSpec :=
  ⟨"", "no://a", destination, predicates, [], {}, order, by rfl, by decide⟩

def first : RouteSpec := route [asking "yes", asking "no", asking "yes"] 0

def second : RouteSpec := route [asking "yes", asking "yes"] 1

def gateway : GatewaySpec := ⟨[], ⟨[("second", second), ("first", first)], by decide⟩⟩

def compiler : Compiler :=
  ⟨[], ⟨"handler", OrderedMap.ofList [("no", [⟨"no", "sample", [], {},
      fun _ => return .handler fun _ => return .bare 200⟩])]⟩,
    ⟨"predicate", OrderedMap.ofList [("answers", [⟨"answers", "sample", [⟨"answer", .bool, false⟩],
      {}, fun args => return .test fun _ => return (args.lookup "answer").getD .null⟩])]⟩,
    .empty "filter", [], Compiler.usualAbsent⟩

theorem ordered_gateway : gateway.ordered = [("first", first), ("second", second)] := by
  refine gateway.ordered_sortedBy.unique ⟨by decide, fun k => ?_⟩
  have hi : gateway.identified = [("second", second), ("first", first)] := by rfl
  have h₁ : first.order = 0 := rfl
  have h₂ : second.order = 1 := rfl
  rw [hi]
  by_cases hk : 0 = k
  · simp [← hk, h₁, h₂]
  · simp [hk, h₁, h₂, List.filter_cons]

theorem check_gateway : gateway.check = .ok gateway := by
  have h : gateway.idProblem? = none := by
    rw [GatewaySpec.idProblem?, ordered_gateway]
    rfl
  rw [GatewaySpec.check, h]

def stamped (x : Exchange) : Exchange :=
  let attributes := x.attributes.insert destinationAttribute (.uri destination)
  { x with attributes := attributes.insert routeAttribute (.text "second") }

theorem dispatch_compileAll_second : ∃ routes k, gateway.check = .ok gateway ∧
    (compiler.compileAll gateway).outcomeFrom [] = (.ok routes, k) ∧
    ∀ s x, ∃ es, es.map (fun e => (e.id, e.spec)) = [("first", first), ("second", second)] ∧
      (∀ e ∈ es, e.By compiler) ∧
      CompiledRoute.Dispatched s default es x (.ok (some (.bare 200)), stamped x) := by
  have hc : ∃ routes k, (compiler.compileAll gateway).outcomeFrom [] = (.ok routes, k) ∧
      ∀ s x, (Route.dispatch routes.values default).outcome s x =
        (.ok (some (.bare 200)), stamped x) := by
    rw [Compiler.compileAll, ordered_gateway]
    exact ⟨_, _, rfl, fun _ _ => rfl⟩
  obtain ⟨routes, k, hc, ho⟩ := hc
  refine ⟨routes, k, check_gateway, hc, fun s x => ?_⟩
  obtain ⟨-, es, hes, hby, hd, -⟩ := CompiledRoute.dispatch_compileAll check_gateway hc default
  exact ⟨es, hes.trans ordered_gateway, hby, (hd s x _).1 (ho s x)⟩

end Sample

end HttpGateway
