import HttpGateway.Proofs.Builtin.Layout
import HttpGateway.Proofs.Gateway.Chain

/-!
Requests on built-in routes: the request edits come up to the first step that answers by itself, in
the order of the configuration, and the response edits before it in the reverse order.
-/

namespace HttpGateway

theorem Route.outcome_serve_of_observes {t : Route} (ht : t.predicate.Observes) {r : Request}
    {s : Surroundings} {x : Exchange} (h : ((t.predicate.accepts r).outcome s x).1 = .ok true) :
    (t.serve r).outcome s x = (t.chain r >>= fun a => pure (some a)).outcome s x := by
  have haccepts : (t.predicate.accepts r).outcome s x = (.ok true, x) := Prod.ext h (ht r s x)
  rw [outcome_serve_of_accepts haccepts, Serve.outcome_bind_some]

open Builtin.Step (passing inFolds)

namespace Builtin

variable {outlet : Outlet} {c : Compiler} {t t' : RouteSpec} {route route' : Route}
variable {brought added added' before after after' : List Step}

theorem steps_append (route : Route) (t : RouteSpec) (brought before after : List Step) :
    steps route t brought (before ++ after) = steps route t brought before ++ after := by
  rw [steps, steps, List.cons_append, List.append_assoc]

theorem LaidOut.chain_eq (h : LaidOut outlet c t route brought added) (r : Request) :
    route.chain r = inFolds (steps route t brought added) route.handler r := by
  rw [Route.chain, h.filters]
  exact Step.chain_eq _ _ r

theorem LaidOut.same_start {brought' : List Step} (h : LaidOut outlet c t route brought added)
    (h' : LaidOut outlet c t' route' brought' added') (ht : t'.destination = t.destination)
    (hid : route'.id = route.id) : route'.handler = route.handler ∧
      route'.filters = (steps route t brought added').map Step.filter := by
  obtain ⟨hhandler, hbrought⟩ := h.destined.unique h'.destined ht
  refine ⟨hhandler, ?_⟩
  rw [h'.filters, steps, steps, hid, ht, hbrought]

theorem LaidOut.chain_of_answer (h : LaidOut outlet c t route brought (before ++ after))
    (hp : ∃ p ∈ brought ++ before, p.answer?.isSome)
    (hfilters : route'.filters = (steps route t brought (before ++ after')).map Step.filter)
    (f : Handler) : Filter.chain route'.filters f = route.chain := by
  obtain ⟨p, hp, hanswers⟩ := hp
  rw [Route.chain, h.filters, hfilters, steps_append, steps_append]
  exact Step.chain_of_answer ⟨p, List.mem_cons_of_mem _ hp, hanswers⟩ after after' route.handler f

theorem LaidOut.chain_swap {e : RequestEdit} {e' : ResponseEdit}
    (h : LaidOut outlet c t route brought (before ++ .request e :: .response e' :: after))
    (hfilters : route'.filters =
      (steps route t brought (before ++ .response e' :: .request e :: after)).map Step.filter)
    (f : Handler) : Filter.chain route'.filters f = Filter.chain route.filters f := by
  rw [h.filters, hfilters, steps_append, steps_append]
  exact (Step.chain_swap (steps route t brought before) after e e' f).symm

theorem LaidOut.status_eq (h : LaidOut outlet c t route brought added) {s : Surroundings}
    {x y : Exchange} {r : Request} {a : Response} (hr : (route.chain r).outcome s x = (.ok a, y))
    {status : Int}
    (hstatus : (passing (steps route t brought added)).findSome? Step.status? = some status) :
    a.status = status := by
  rw [h.chain_eq, inFolds, Serve.outcome_bind] at hr
  split at hr
  · rw [Serve.outcome_bind] at hr
    split at hr
    · rw [Step.status_of_goOut hr, hstatus, Option.getD_some]
    · cases hr
  · cases hr

theorem LaidOut.outcome_of_no_instances {service : String}
    (h : LaidOut outlet c t route [.balance service []] added) (r : Request) (s : Surroundings)
    (x : Exchange) : ((route.chain r).outcome s x).1 =
      .ok (.ofText 503 ("No instance available for " ++ service)) := by
  rw [h.chain_eq]
  rfl

/-- An accepted request goes through two folds around the first step that answers by itself, or
around the handler. Steps behind the one that answers and the handler have no part in it, the first
step that sets a status before it decides which one goes out, a balancer without instances answers
whatever is configured, and a request edit and a response edit next to each other can be swapped. -/
theorem serve_in_two_folds {schemes : List String} {absent : String → Value} {i j k l : Journal}
    (hc : (Compiler.make (providers outlet) schemes absent).outcomeFrom i = (.ok c, j))
    {key : String} (hr : (c.compile t key).outcomeFrom k = (.ok route, l)) :
    ∃ brought added, LaidOut outlet c t route brought added ∧
      (∀ r s x, ((route.predicate.accepts r).outcome s x).1 = .ok true →
        (route.serve r).outcome s x =
          (inFolds (steps route t brought added) route.handler r >>= fun a =>
            pure (some a)).outcome s x ∧
        ∀ a y status, (route.serve r).outcome s x = (.ok (some a), y) →
          (passing (steps route t brought added)).findSome? Step.status? = some status →
          a.status = status) ∧
      (t.destination.scheme = "lb" → ∃ service, t.destination.shownHost = .ok service ∧
        ((outlet.instances.get? service).getD [] = [] →
          ∀ r s x, ((route.predicate.accepts r).outcome s x).1 = .ok true →
            ((route.serve r).outcome s x).1 =
              .ok (some (.ofText 503 ("No instance available for " ++ service))))) ∧
      ∀ t' key' route' k' l', (c.compile t' key').outcomeFrom k' = (.ok route', l') →
        t'.destination = t.destination → route'.id = route.id →
        (∀ before after after', t.filters = before ++ after → t'.filters = before ++ after' →
          (∃ p ∈ brought ++ added.take before.length, p.answer?.isSome) →
          ∀ f, Filter.chain route'.filters f = route.chain) ∧
        ∀ before p q after e e', t.filters = before ++ p :: q :: after →
          t'.filters = before ++ q :: p :: after → Configured c p (.request e) →
          Configured c q (.response e') → route'.handler = route.handler ∧
            ∀ f, Filter.chain route'.filters f = Filter.chain route.filters f := by
  obtain ⟨brought, added, hlaid⟩ := exists_laidOut hc hr
  obtain ⟨-, -, ⟨_, _, hfilters⟩, -, -⟩ := Compiler.outcomeFrom_make_eq_ok hc
  have hops : ∀ name, Catalog.Overloads (c.filters.candidates name) :=
    fun name => Catalog.overloads_of_discover hfilters name
  refine ⟨brought, added, hlaid, fun r s x hr => ?_, fun hlb => ?_,
    fun t' key' route' k' l' hr' ht hid => ⟨?_, ?_⟩⟩
  · have hserve := Route.outcome_serve_of_observes hlaid.observes hr
    refine ⟨?_, fun a y status ha hstatus => ?_⟩
    · rw [hserve, hlaid.chain_eq]
    · rw [hserve, Serve.outcome_bind_some] at ha
      obtain ⟨b, hb, hsome⟩ := Outcome.map_eq_ok_iff.1 (Prod.ext_iff.1 ha).1
      cases hsome
      exact hlaid.status_eq (Prod.ext hb rfl) hstatus
  · obtain ⟨service, hservice, rfl⟩ := hlaid.destined.brought_of_lb hlb
    refine ⟨service, hservice, fun hnone r s x hr => ?_⟩
    rw [hnone] at hlaid
    rw [Route.outcome_serve_of_observes hlaid.observes hr, Serve.outcome_bind_some,
      hlaid.outcome_of_no_instances]
    rfl
  · -- the routes agree up to a step that answers
    rintro before after after' hss hss' hp f
    obtain ⟨brought', added', hlaid'⟩ := exists_laidOut hc hr'
    obtain ⟨hbefore, -⟩ := hlaid.configured_split hss
    obtain ⟨-, hafter⟩ := hlaid'.configured_split hss'
    have hconfigured : List.Forall₂ (Configured c) t'.filters
        (added.take before.length ++ added'.drop before.length) := by
      rw [hss']
      exact List.rel_append hbefore hafter
    have hlaid' := hlaid'.reconfigured hops hconfigured
    rw [← List.take_append_drop before.length added] at hlaid
    exact hlaid.chain_of_answer hp (hlaid.same_start hlaid' ht hid).2 f
  · -- two neighbours of different directions
    rintro before p q after e e' hss hss' hp hq
    obtain ⟨brought', added', hlaid'⟩ := exists_laidOut hc hr'
    obtain ⟨hbefore, hrest⟩ := hlaid.configured_split hss
    obtain ⟨_, _, -, hrest, -⟩ := List.forall₂_cons_left_iff.1 hrest
    obtain ⟨_, behind, -, hafter, -⟩ := List.forall₂_cons_left_iff.1 hrest
    have hconfigured : List.Forall₂ (Configured c) t.filters
        (added.take before.length ++ .request e :: .response e' :: behind) := by
      rw [hss]
      exact List.rel_append hbefore (.cons hp (.cons hq hafter))
    have hconfigured' : List.Forall₂ (Configured c) t'.filters
        (added.take before.length ++ .response e' :: .request e :: behind) := by
      rw [hss']
      exact List.rel_append hbefore (.cons hq (.cons hp hafter))
    have hlaid := hlaid.reconfigured hops hconfigured
    have hlaid' := hlaid'.reconfigured hops hconfigured'
    obtain ⟨hhandler, hsteps⟩ := hlaid.same_start hlaid' ht hid
    exact ⟨hhandler, hlaid.chain_swap hsteps⟩

end Builtin

namespace Sample

def status (code : String) : OperationSpec :=
  ⟨"SetStatus", .keyed (OrderedMap.ofList [("status", code)])⟩

def moved : OperationSpec :=
  ⟨"RedirectTo", .keyed (OrderedMap.ofList [("status", "302"), ("uri", "/moved")])⟩

def redirecting : RouteSpec :=
  { forwarded with filters := [status "301", moved, status "404"] }

def redirectingSteps : List Builtin.Step :=
  [.response (.setStatus 301), .redirect ⟨302, "/moved"⟩, .response (.setStatus 404)]

def redirectingRoute : Route :=
  ⟨"r", .always, (Builtin.Step.stamp "r" backend :: redirectingSteps).map Builtin.Step.filter,
    Request.forward, {}⟩

set_option maxRecDepth 8000 in
theorem make_redirecting : ∃ c j op a b,
    (Compiler.make (Builtin.providers .empty) [] Compiler.usualAbsent).outcomeFrom [] =
      (.ok c, j) ∧
    c.handlers.candidates "http" = [op] ∧ op.parameters = [] ∧
    (∀ i, (op.build []).outcomeFrom i = (.ok (.handling ⟨Request.forward, []⟩), i)) ∧
    c.filters.candidates "SetStatus" = [a] ∧ a.parameters = [⟨"status", .int, false⟩] ∧
    (∀ i n, (a.build [("status", .int n)]).outcomeFrom i =
      (.ok (.filter (Builtin.Step.response (.setStatus n)).filter), i)) ∧
    c.filters.candidates "RedirectTo" = [b] ∧
    b.parameters = [⟨"status", .int, false⟩, ⟨"uri", .text, false⟩] ∧
    ∀ i, (b.build [("status", .int 302), ("uri", .text "/moved")]).outcomeFrom i =
      (.ok (.filter (Builtin.Step.redirect ⟨302, "/moved"⟩).filter), i) :=
  ⟨_, _, _, _, _, rfl, rfl, rfl, fun _ => rfl, rfl, rfl, fun _ _ => rfl, rfl, rfl, fun _ => rfl⟩

theorem outcomeFrom_function_of_resolves {c : Compiler} {s : OperationSpec}
    {args : OrderedMap String} {op : Operation} {position : Nat} {arguments : Arguments} {f : Filter}
    (hops : Catalog.Overloads (c.filters.candidates s.name))
    (hresolves : Catalog.Resolves (c.filters.candidates s.name) s.args
      (some ⟨op, position, args⟩))
    (hgiven : List.Forall₂ (Operation.Given c.absent (args.map .text)) op.parameters arguments)
    (hbuild : ∀ i, (op.build arguments).outcomeFrom i = (.ok (.filter f), i)) (id : String)
    (j : Journal) :
    ∃ k, (c.function c.filters id Product.filter? s).outcomeFrom j = (.ok (some f), k) := by
  have hbuilds : c.FunctionBuilds c.filters s j op (.ok (.filter f), j) := by
    rw [Compiler.FunctionBuilds, ← hbuild j]
    exact .called hresolves hgiven
  refine ⟨_, (Compiler.outcomeFrom_function_eq_iff hops).2 (.added
    (Catalog.obtained_ok_iff.2 ⟨op, rfl, hbuilds⟩) ?_ rfl)⟩
  exact fun h => Product.noConfusion h

theorem outcomeFrom_function_of_only {c : Compiler} {s : OperationSpec} {args : OrderedMap String}
    {op : Operation} {arguments : Arguments} {f : Filter}
    (hops : Catalog.Overloads (c.filters.candidates s.name))
    (honly : c.filters.candidates s.name = [op]) (hs : s.args = .keyed args)
    (hkeyed : ¬ RawArgs.AllGenerated args) (htakes : op.TakesKeys args.keys)
    (hgiven : List.Forall₂ (Operation.Given c.absent (args.map .text)) op.parameters arguments)
    (hbuild : ∀ i, (op.build arguments).outcomeFrom i = (.ok (.filter f), i)) (id : String)
    (j : Journal) :
    ∃ k, (c.function c.filters id Product.filter? s).outcomeFrom j = (.ok (some f), k) := by
  have hresolves : Catalog.Resolves (c.filters.candidates s.name) s.args
      (some ⟨op, 0, args⟩) := by
    rw [honly, hs]
    exact .keyed hkeyed (show [op][0]? = some op from rfl) htakes
  exact outcomeFrom_function_of_resolves hops hresolves hgiven hbuild id j

theorem compile_redirecting : ∃ c j k,
    (Compiler.make (Builtin.providers .empty) [] Compiler.usualAbsent).outcomeFrom [] =
      (.ok c, j) ∧ (c.compile redirecting "").outcomeFrom [] = (.ok redirectingRoute, k) := by
  obtain ⟨c, j, op, a, b, hmake, hop, hopp, hopb, ha, hap, hab, hb, hbp, hbb⟩ := make_redirecting
  obtain ⟨⟨_, _, hhandlers⟩, -, ⟨_, _, hfilters⟩, hschemes, -⟩ :=
    Compiler.outcomeFrom_make_eq_ok hmake
  have hops : ∀ name, Catalog.Overloads (c.filters.candidates name) :=
    fun name => Catalog.overloads_of_discover hfilters name
  have hstatus : ∀ code n, ParamType.int.convert? (.text code) = some (.int n) → ∀ i, ∃ k,
      (c.function c.filters "r" Product.filter? (status code)).outcomeFrom i =
        (.ok (some (Builtin.Step.response (.setStatus n)).filter), k) := by
    intro code n hn i
    refine outcomeFrom_function_of_only (hops _) ha rfl
      (RawArgs.not_allGenerated_of_mem (k := "status") List.mem_cons_self (by decide)) ?_ ?_
      (fun i => hab i n) "r" i
    · intro name
      rw [Operation.parameterNames, hap]
      rfl
    · rw [hap]
      exact .cons (.converted rfl hn) .nil
  have hmoved : ∀ i, ∃ k, (c.function c.filters "r" Product.filter? moved).outcomeFrom i =
        (.ok (some (Builtin.Step.redirect ⟨302, "/moved"⟩).filter), k) := by
    intro i
    refine outcomeFrom_function_of_only (hops _) hb rfl
      (RawArgs.not_allGenerated_of_mem (k := "status") List.mem_cons_self (by decide)) ?_ ?_
      hbb "r" i
    · intro name
      rw [Operation.parameterNames, hbp]
      rfl
    · rw [hbp]
      exact .cons (.converted rfl (by rfl)) (.cons (.converted rfl rfl) .nil)
  have hadded : ∀ i, ∃ l,
      Compile.InTurn (fun s => c.function c.filters "r" Product.filter? s) redirecting.filters i
        (redirectingSteps.map fun p => some p.filter) l := by
    intro i
    obtain ⟨_, hfirst⟩ := hstatus "301" 301 (by rfl) i
    obtain ⟨_, hsecond⟩ := hmoved _
    obtain ⟨l, hthird⟩ := hstatus "404" 404 (by rfl) _
    exact ⟨l, .cons hfirst (.cons hsecond (.cons hthird .nil))⟩
  have hhandling := handling_of_only (t := redirecting)
    (Catalog.overloads_of_discover hhandlers _) hschemes hop hopp hopb
  obtain ⟨l, hadded⟩ := hadded _
  exact ⟨c, j, _, hmake,
    Compiler.outcomeFrom_compile_eq_iff.2 (.complete (.complete (hhandling _) .nil hadded))⟩

theorem serve_in_two_folds_redirecting : ∃ c j k brought added,
    (Compiler.make (Builtin.providers .empty) [] Compiler.usualAbsent).outcomeFrom [] =
      (.ok c, j) ∧ (c.compile redirecting "").outcomeFrom [] = (.ok redirectingRoute, k) ∧
    Builtin.LaidOut .empty c redirecting redirectingRoute brought added ∧
    ∀ s x, ((inFolds (Builtin.steps redirectingRoute redirecting brought added) Request.forward
      visit).outcome s x).1 = .ok ⟨301, ⟨[("location", "/moved")]⟩, ""⟩ := by
  obtain ⟨c, j, k, hmake, hcompile⟩ := compile_redirecting
  obtain ⟨brought, added, hlaid, hserve, -⟩ := Builtin.serve_in_two_folds hmake hcompile
  refine ⟨c, j, k, brought, added, hmake, hcompile, hlaid, fun s x => ?_⟩
  obtain ⟨hfolds, -⟩ := hserve visit s x rfl
  rw [Serve.outcome_bind_some] at hfolds
  have hserved : ((redirectingRoute.serve visit).outcome s x).1 =
      .ok (some ⟨301, ⟨[("location", "/moved")]⟩, ""⟩) := by rfl
  rw [hfolds] at hserved
  obtain ⟨a, ha, hsome⟩ := Outcome.map_eq_ok_iff.1 hserved
  cases hsome
  exact ha

end Sample

end HttpGateway
