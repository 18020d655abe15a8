import HttpGateway.Proofs.Builtin.Isolation
import HttpGateway.Proofs.Uri.Settled

/-!
How a route that is compiled with the built-in providers is laid out: the stamp, the steps that go
with its handler, and the configured ones.
-/

namespace HttpGateway

open HttpGateway.Text

namespace RouteSpec

theorem handlerName_eq (t : RouteSpec) : Compiler.handlerName t = t.destination.scheme :=
  Uri.lower_scheme_of_parse t.parsed

theorem normal_handlerName (t : RouteSpec) :
    OperationName.normal (Compiler.handlerName t) = t.destination.scheme := by
  rw [handlerName_eq]
  refine OperationName.normal_of_lower fun c hc => ?_
  obtain ⟨hsafe, hlow⟩ := Uri.scheme_of_parse t.parsed c hc
  exact ⟨Uri.isSchemeChar_ascii hsafe, hlow⟩

end RouteSpec

def Predicate.Observes (p : Predicate) : Prop := ∀ r s x, ((p.accepts r).outcome s x).2 = x

namespace Predicate

theorem Observes.both {p q : Predicate} (hp : p.Observes) (hq : q.Observes) :
    (Predicate.both p q).Observes := by
  intro r s x
  have hx := hp r s x
  rw [accepts, Serve.outcome_bind]
  rcases ho : (p.accepts r).outcome s x with ⟨f | accepted, y⟩
  · rw [ho] at hx
    exact hx
  · rw [ho] at hx
    cases hx
    cases accepted with
    | false => rfl
    | true => exact hq r s y

theorem observes_allOf {ps : List Predicate} (h : ∀ p ∈ ps, p.Observes) : (allOf ps).Observes :=
  allOf_of_closed (fun _ _ _ => rfl) Observes.both h

end Predicate

theorem Condition.outcome_accepts (c : Condition) (r : Request) (s : Surroundings) (x : Exchange) :
    (c.predicate.accepts r).outcome s x = (c.holds s.now r, x) := by
  rcases h : c.holds s.now r with f | _ | _ <;> simp [predicate, Predicate.accepts, Value.holds, h]

theorem Condition.observes_predicate (c : Condition) : c.predicate.Observes :=
  fun r s x => congrArg Prod.snd (c.outcome_accepts r s x)

theorem Catalog.Builds.exists_called {ops : List Operation} {raw : RawArgs}
    {absent : String → Value} {j : Journal} {op : Operation}
    {o : Except Failure Product × Journal} (h : Builds ops raw absent j op o) :
    ∃ position args arguments, Resolves ops raw (some ⟨op, position, args⟩) ∧
      List.Forall₂ (Operation.Given absent (args.map .text)) op.parameters arguments ∧
      (op.build arguments).outcomeFrom j = o := by
  obtain ⟨hfound, hgiven⟩ := h
  exact ⟨_, _, _, hfound, hgiven, rfl⟩

namespace Builtin

variable {outlet : Outlet} {c : Compiler}

inductive Destined (outlet : Outlet) (t : RouteSpec) : Handler → List Step → Prop
  | forwarding : t.destination.scheme ∈ ["http", "https"] → Destined outlet t Request.forward []
  | balancing {service} : t.destination.scheme = "lb" → t.destination.shownHost = .ok service →
      Destined outlet t Request.forward
        [.balance service ((outlet.instances.get? service).getD [])]
  | answering : t.destination.scheme = "no" → Destined outlet t answerEmpty []

/-- A configured filter and its step: the operation of the filter's name builds it out of the
configured arguments, and leaves no events. -/
structure Configured (c : Compiler) (s : OperationSpec) (p : Step) : Prop where
  named : p.operation? = some (OperationName.normal s.name)
  built : ∃ op, ∀ j, c.FunctionBuilds c.filters s j op (.ok (.filter p.filter), j)

def steps (route : Route) (t : RouteSpec) (brought added : List Step) : List Step :=
  .stamp route.id t.destination :: (brought ++ added)

/-- A compiled route consists of the steps that go with its handler and of those that are
configured. -/
structure LaidOut (outlet : Outlet) (c : Compiler) (t : RouteSpec) (route : Route)
    (brought added : List Step) : Prop where
  destined : Destined outlet t route.handler brought
  configured : List.Forall₂ (Configured c) t.filters added
  filters : route.filters = (steps route t brought added).map Step.filter
  observes : route.predicate.Observes

theorem address_of_handlerArgs {ops : List Operation} {scheme uri : String} {op : Operation}
    {position : Nat} {args : OrderedMap String}
    (h : Catalog.Resolves ops (c.handlerArgs scheme uri) (some ⟨op, position, args⟩))
    (hop : op.parameterNames = ["uri"]) : args.get? "uri" = some uri := by
  obtain ⟨raw, hraw, hkeyed, -⟩ := Compiler.exists_handlerArgs_eq (c := c) scheme uri
  rw [hraw] at h
  cases h with
  | positional hpositional => exact absurd hpositional.allGenerated hkeyed
  | keyed _ _ htakes =>
    have hmem : "uri" ∈ args.keys := (htakes "uri").1 (hop ▸ List.mem_singleton_self _)
    rw [Compiler.handlerArgs] at hraw
    split at hraw
    · cases hraw
      rfl
    · cases hraw
      cases hmem

theorem uri_of_builds {ops : List Operation} {scheme uri : String} {absent : String → Value}
    {j : Journal} {op : Operation} {o : Except Failure Product × Journal}
    (h : Catalog.Builds ops (c.handlerArgs scheme uri) absent j op o)
    (hop : op.parameters = [⟨"uri", .text, false⟩]) :
    (op.build [("uri", .text uri)]).outcomeFrom j = o := by
  obtain ⟨position, args, arguments, hfound, hgiven, hbuild⟩ := h.exists_called
  have hnames : op.parameterNames = ["uri"] := by
    rw [Operation.parameterNames, hop]
    rfl
  have hget : (args.map Value.text).get? "uri" = some (.text uri) := by
    rw [OrderedMap.get?_map, address_of_handlerArgs hfound hnames]
    rfl
  rw [hop] at hgiven
  cases hgiven with
  | cons hgiven hnil =>
    cases hnil
    cases hgiven with
    | converted hv hw =>
      rw [hget] at hv
      cases hv
      cases hw
      exact hbuild
    | absent hnone =>
      rw [hget] at hnone
      cases hnone

theorem destined_of_handlerOf {t : RouteSpec} {args : Arguments} {scheme : String} {p : Product}
    {h : Handling} (hp : HandlerOf outlet args scheme p) (hs : t.destination.scheme = scheme)
    (hargs : scheme = "lb" → args = [("uri", .text t.uri)]) (hh : p.handling? = some h) :
    ∃ brought, Destined outlet t h.handler brought ∧ h.filters = brought.map Step.filter := by
  cases hp with
  | forwarding hscheme =>
    cases hh
    exact ⟨[], .forwarding (hs ▸ hscheme), rfl⟩
  | balanced hvalues hbuilt =>
    rw [hargs rfl] at hvalues
    cases hvalues
    rw [balanced, t.parsed] at hbuilt
    obtain ⟨service, hservice, rfl⟩ := Outcome.map_eq_ok_iff.1 hbuilt
    cases hh
    refine ⟨_, .balancing hs ?_, rfl⟩
    cases hshown : t.destination.shownHost with
    | error e =>
      rw [hshown] at hservice
      cases hservice
    | ok shown =>
      rw [hshown] at hservice
      cases hservice
      rfl
  | answering =>
    cases hh
    exact ⟨[], .answering hs, rfl⟩

theorem exists_brought_of_handling {i j k : Journal} {t : RouteSpec} {h : Handling}
    (hc : (Catalog.discover "handler" (providers outlet)).outcomeFrom i = (.ok c.handlers, j))
    {l : Journal} (hr : (c.handling t).outcomeFrom k = (.ok h, l)) :
    ∃ brought, Destined outlet t h.handler brought ∧ h.filters = brought.map Step.filter := by
  have hops := Catalog.overloads_of_discover hc (Compiler.handlerName t)
  rw [Compiler.outcomeFrom_handling_eq_iff hops] at hr
  cases hr with
  | handled hasked hh =>
    obtain ⟨op, -, hb⟩ := Catalog.obtained_ok_iff.1 hasked
    obtain ⟨hparameters, hbuilds⟩ := handlerOf_of_discover hc (hb.mem hops)
    rw [t.normal_handlerName] at hparameters hbuilds
    by_cases hlb : t.destination.scheme = "lb"
    · have hrun := uri_of_builds hb (hparameters hlb)
      obtain ⟨r, hr, hproduct⟩ := hbuilds [("uri", .text t.uri)]
      rw [hr, Compile.outcomeFrom_lift] at hrun
      cases hrun
      exact destined_of_handlerOf (hproduct _ rfl) rfl (fun _ => rfl) hh
    · obtain ⟨args, hrun⟩ := hb.exists_eq
      obtain ⟨r, hr, hproduct⟩ := hbuilds args
      rw [hr, Compile.outcomeFrom_lift] at hrun
      cases hrun
      exact destined_of_handlerOf (hproduct _ rfl) rfl (fun h => absurd h hlb) hh

theorem Builds.anywhere {P : Product → Prop} {op : Operation} (h : Builds P op)
    {ops : List Operation} {raw : RawArgs} {absent : String → Value} {p : Product} {j k : Journal}
    (hb : Catalog.Builds ops raw absent j op (.ok p, k)) (l : Journal) :
    Catalog.Builds ops raw absent l op (.ok p, l) := by
  obtain ⟨position, args, arguments, hfound, hgiven, hrun⟩ := hb.exists_called
  obtain ⟨r, hr, -⟩ := h arguments
  have hcalled := Catalog.Builds.called (j := l) hfound hgiven
  rw [hr, Compile.outcomeFrom_lift] at hrun hcalled
  cases hrun
  exact hcalled

theorem exists_steps_of_inTurn {i k : Journal} {id : String} {ss : List OperationSpec}
    {made : List (Option Filter)}
    (hc : (Catalog.discover "filter" (providers outlet)).outcomeFrom i = (.ok c.filters, k))
    {j l : Journal}
    (h : Compile.InTurn (fun s => c.function c.filters id Product.filter? s) ss j made l) :
    ∃ ps, List.Forall₂ (Configured c) ss ps ∧ made.reduceOption = ps.map Step.filter := by
  induction h with
  | nil => exact ⟨[], .nil, rfl⟩
  | @cons s ss o made j' k' l hs _ ih =>
    obtain ⟨ps, hps, hmade⟩ := ih
    have hops := Catalog.overloads_of_discover hc s.name
    rw [Compiler.outcomeFrom_function_eq_iff hops] at hs
    cases hs with
    | skipped hasked =>
      obtain ⟨op, -, hb⟩ := Catalog.obtained_ok_iff.1 hasked
      obtain ⟨st, -, hst⟩ := (builds_filter hc (hb.mem hops)).product hb
      cases hst
    | added hasked _ hread =>
      obtain ⟨op, -, hb⟩ := Catalog.obtained_ok_iff.1 hasked
      have hbuilds := builds_filter hc (hb.mem hops)
      obtain ⟨st, ⟨p, hp, rfl⟩, rfl⟩ := hbuilds.product hb
      cases hread
      refine ⟨p :: ps, .cons ⟨hp, op, hbuilds.anywhere hb⟩ hps, ?_⟩
      rw [List.reduceOption_cons_of_some, hmade]
      rfl

theorem exists_laidOut {schemes : List String} {absent : String → Value} {i j k l : Journal}
    (hc : (Compiler.make (providers outlet) schemes absent).outcomeFrom i = (.ok c, j))
    {t : RouteSpec} {key : String} {route : Route}
    (hr : (c.compile t key).outcomeFrom k = (.ok route, l)) :
    ∃ brought added, LaidOut outlet c t route brought added := by
  obtain ⟨_, hassemble⟩ := Compiler.outcomeFrom_compile_eq_ok hr
  obtain ⟨e, -, rfl, rfl, he⟩ := Compiler.outcomeFrom_assemble_eq_ok hassemble
  have hcomposed := composed_of_by hc he
  obtain ⟨⟨_, _, hhandlers⟩, -, ⟨_, _, hfilters⟩, -, -⟩ := Compiler.outcomeFrom_make_eq_ok hc
  obtain ⟨_, _, _, _, given, made, _, hhandling, -, hmade, -, hfs⟩ := he
  obtain ⟨brought, hdestined, hbrought⟩ := exists_brought_of_handling hhandlers hhandling
  obtain ⟨added, hconfigured, hadded⟩ := exists_steps_of_inTurn hfilters hmade
  refine ⟨brought, added, hdestined, hconfigured, ?_, Predicate.observes_allOf fun p hp => ?_⟩
  · rw [CompiledRoute.route, hbrought, hfs, hadded, steps, List.map_cons, List.map_append]
    rfl
  · obtain ⟨condition, rfl⟩ := hcomposed.predicates p hp
    exact condition.observes_predicate

variable {t t' : RouteSpec} {route : Route} {brought brought' added qs : List Step}

theorem Destined.unique {h h' : Handler} (hb : Destined outlet t h brought)
    (hb' : Destined outlet t' h' brought') (ht : t'.destination = t.destination) :
    h' = h ∧ brought' = brought := by
  cases hb with
  | forwarding hs =>
    cases hb' with
    | forwarding => exact ⟨rfl, rfl⟩
    | balancing hs' => simp [← ht, hs'] at hs
    | answering hs' => simp [← ht, hs'] at hs
  | balancing hs hservice =>
    cases hb' with
    | forwarding hs' => simp [ht, hs] at hs'
    | balancing _ hservice' =>
      rw [ht, hservice] at hservice'
      cases hservice'
      exact ⟨rfl, rfl⟩
    | answering hs' => simp [ht, hs] at hs'
  | answering hs =>
    cases hb' with
    | forwarding hs' => simp [ht, hs] at hs'
    | balancing hs' => simp [ht, hs] at hs'
    | answering => exact ⟨rfl, rfl⟩

theorem Destined.brought_of_lb {h : Handler} (hb : Destined outlet t h brought)
    (hs : t.destination.scheme = "lb") : ∃ service, t.destination.shownHost = .ok service ∧
      brought = [.balance service ((outlet.instances.get? service).getD [])] := by
  cases hb with
  | forwarding hs' => simp [hs] at hs'
  | balancing _ hservice => exact ⟨_, hservice, rfl⟩
  | answering hs' => simp [hs] at hs'

theorem Configured.unique {s : OperationSpec} {p q : Step}
    (hops : Catalog.Overloads (c.filters.candidates s.name)) (hp : Configured c s p)
    (hq : Configured c s q) : q.filter = p.filter := by
  obtain ⟨_, hb⟩ := hp.built
  obtain ⟨_, hb'⟩ := hq.built
  obtain ⟨found, hfound, -, hcall⟩ := Compiler.exists_call_of_builds hops (hb [])
  obtain ⟨found', hfound', -, hcall'⟩ := Compiler.exists_call_of_builds hops (hb' [])
  rw [hfound] at hfound'
  cases hfound'
  have hproducts := (Prod.ext_iff.1 (hcall'.symm.trans hcall)).1
  exact Product.filter.inj (Except.ok.inj hproducts)

theorem map_filter_unique {ss : List OperationSpec}
    (hops : ∀ s, Catalog.Overloads (c.filters.candidates s))
    (hps : List.Forall₂ (Configured c) ss added) (hqs : List.Forall₂ (Configured c) ss qs) :
    qs.map Step.filter = added.map Step.filter := by
  induction hps generalizing qs with
  | nil =>
    cases hqs
    rfl
  | @cons s p ss ps hp _ ih =>
    cases hqs with
    | cons hq hqs => rw [List.map_cons, List.map_cons, hp.unique (hops s.name) hq, ih hqs]

theorem LaidOut.configured_split (h : LaidOut outlet c t route brought added)
    {before after : List OperationSpec} (ht : t.filters = before ++ after) :
    List.Forall₂ (Configured c) before (added.take before.length) ∧
      List.Forall₂ (Configured c) after (added.drop before.length) := by
  have htake := List.forall₂_take before.length h.configured
  have hdrop := List.forall₂_drop before.length h.configured
  rw [ht] at htake hdrop
  rw [List.take_left] at htake
  rw [List.drop_left] at hdrop
  exact ⟨htake, hdrop⟩

theorem LaidOut.reconfigured (h : LaidOut outlet c t route brought added)
    (hops : ∀ s, Catalog.Overloads (c.filters.candidates s))
    (hqs : List.Forall₂ (Configured c) t.filters qs) : LaidOut outlet c t route brought qs := by
  refine ⟨h.destined, hqs, ?_, h.observes⟩
  rw [h.filters, steps, steps, List.map_cons, List.map_cons, List.map_append, List.map_append,
    map_filter_unique hops h.configured hqs]

end Builtin

end HttpGateway
