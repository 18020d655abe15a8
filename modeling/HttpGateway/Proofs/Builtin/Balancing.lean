import HttpGateway.Proofs.Builtin.Delivery
import HttpGateway.Proofs.Uri.Named

/-!
Routes that balance between the instances of a service. The service is looked up by the host of the
address, which is in lower case however the address is written.
-/

namespace HttpGateway

open HttpGateway.Text
open Serve (Sheltered)

namespace Outlet

def OverHttp (outlet : Outlet) : Prop :=
  ∀ urls ∈ outlet.instances.values, ∀ i ∈ urls, ∃ d, Uri.parse i = .ok d ∧ d.IsHttp

theorem OverHttp.instancesOf {outlet : Outlet} (h : outlet.OverHttp) {service i : String}
    (hi : i ∈ outlet.instancesOf service) : ∃ d, Uri.parse i = .ok d ∧ d.IsHttp := by
  rw [Outlet.instancesOf] at hi
  cases hurls : outlet.instances.get? service with
  | none =>
    rw [hurls] at hi
    cases hi
  | some urls =>
    rw [hurls] at hi
    exact h urls (OrderedMap.mem_values_of_get? hurls) i hi

end Outlet

namespace Builtin

variable {outlet : Outlet} {c : Compiler} {t : RouteSpec} {route : Route}
variable {s : Surroundings} {x : Exchange} {r : Request} {service : String}

theorem LaidOut.only_balances {brought added : List Step}
    (h : LaidOut outlet c t route brought added) (hscheme : t.destination.scheme = "lb")
    (hservice : t.destination.shownHost = .ok service) (hfilters : t.filters = []) :
    LaidOut outlet c t route [.balance service (outlet.instancesOf service)] [] := by
  obtain ⟨-, rfl⟩ := (Destined.balancing hscheme hservice).unique h.destined rfl
  have hconfigured := h.configured
  rw [hfilters] at hconfigured
  cases hconfigured
  exact h

theorem LaidOut.answered_503
    (h : LaidOut outlet c t route [.balance service (outlet.instancesOf service)] [])
    (haccepts : ((route.predicate.accepts r).outcome s x).1 = .ok true)
    (hnone : outlet.instancesOf service = []) :
    ((route.serve r).outcome s x).1 =
        .ok (some (.ofText 503 ("No instance available for " ++ service))) ∧
      ((route.serve r).outcome s x).2.sent = x.sent := by
  refine ⟨?_, h.sent_of_answer haccepts ⟨_, List.mem_cons_self, by rw [hnone]; rfl⟩⟩
  rw [hnone] at h
  rw [Route.outcome_serve_of_observes h.observes haccepts, Serve.outcome_bind_some,
    h.outcome_of_no_instances]
  rfl

theorem no_answer_of_instances (hsome : outlet.instancesOf service ≠ []) :
    ∀ p ∈ [Step.balance service (outlet.instancesOf service)] ++ [], p.answer? = none := by
  intro p hp
  rw [List.append_nil, List.mem_singleton] at hp
  rw [hp]
  cases hi : outlet.instancesOf service with
  | nil => exact absurd hi hsome
  | cons => rfl

theorem exists_comeIn_of_instances (t : RouteSpec) (route : Route)
    (hsome : outlet.instancesOf service ≠ [])
    (hinstances : ∀ i ∈ outlet.instancesOf service, ∃ d, Uri.parse i = .ok d ∧ d.IsHttp)
    (s : Surroundings) (r : Request) (x : Exchange) :
    ∃ z, (Step.comeIn (steps route t [.balance service (outlet.instancesOf service)] []) r).outcome
      s x = (.ok r, z) := by
  obtain ⟨i, hi, hchosen⟩ := Balancer.exists_choose hsome s.pick
  obtain ⟨d, hparse, -⟩ := hinstances i hi
  obtain ⟨y, hstamped⟩ : ∃ y,
      (Compiler.stamped route.id t.destination r).outcome s x = (.ok r, y) := ⟨_, rfl⟩
  obtain ⟨w, hpicked⟩ : ∃ w,
      (Balancer.pick service (outlet.instancesOf service) r).outcome s y = (.ok r, w) :=
    ⟨_, Balancer.outcome_pick_eq_ok_iff.2 ⟨i, d, hchosen, hparse, rfl, rfl⟩⟩
  obtain ⟨z, hlast⟩ : ∃ z, (Step.comeIn [.balance service (outlet.instancesOf service)] r).outcome
      s y = (.ok r, z) := by
    rw [Step.comeIn_cons]
    exact ⟨_, Serve.outcome_bind_ok hpicked⟩
  rw [steps, List.append_nil, Step.comeIn_cons]
  exact ⟨z, (Serve.outcome_bind_ok hstamped).trans hlast⟩

theorem Destination.exists_instance {d : Uri} (hd : Destination outlet t s d)
    (hscheme : t.destination.scheme = "lb") (hservice : t.destination.shownHost = .ok service) :
    ∃ i ∈ outlet.instancesOf service, Uri.parse i = .ok d := by
  cases hd with
  | direct hhttp =>
    obtain ⟨hdirect, -⟩ := hhttp
    rw [hscheme] at hdirect
    exact absurd hdirect (by decide)
  | picked _ hservice' hchosen hparse _ =>
    rw [hservice] at hservice'
    cases hservice'
    exact ⟨_, List.mem_of_getElem? hchosen, hparse⟩

theorem LaidOut.sent_to_instance
    (h : LaidOut outlet c t route [.balance service (outlet.instancesOf service)] [])
    (hscheme : t.destination.scheme = "lb") (hservice : t.destination.shownHost = .ok service)
    (haccepts : ((route.predicate.accepts r).outcome s x).1 = .ok true)
    (hsome : outlet.instancesOf service ≠ [])
    (hinstances : ∀ i ∈ outlet.instancesOf service, ∃ d, Uri.parse i = .ok d ∧ d.IsHttp) :
    ∃ i ∈ outlet.instancesOf service, ∃ d, Uri.parse i = .ok d ∧
      ((∃ o, ((route.serve r).outcome s x).2.sent = x.sent ++ [o] ∧ o.uri.Reaches d ∧
          ∀ a, ((route.serve r).outcome s x).1 = .ok (some a) → s.backend o = .ok a) ∨
        ∃ f, ((route.serve r).outcome s x).1 = .error f ∧
          ((route.serve r).outcome s x).2.sent = x.sent) ∧
      (r.uri.Settled → r.uri.userinfo = "" → r.Deliverable d →
        ∃ o, ((route.serve r).outcome s x).2.sent = x.sent ++ [o] ∧
          r.SentTo s.usual.headers d x.keepsHost o) := by
  have ha : Addressed outlet t := .balanced hscheme hservice hinstances
  have hanswers := no_answer_of_instances hsome
  obtain ⟨z, hin⟩ := exists_comeIn_of_instances t route hsome hinstances s r x
  obtain ⟨d, hd, har⟩ := h.exists_arrival ha hanswers hin
  have hserve : (route.serve r).outcome s x =
      (r.forward >>= fun a => pure (some a)).outcome s z := by
    rw [h.outcome_of_no_answer haccepts hanswers hin, ha.handler_eq h.destined]
    rfl
  rw [Serve.outcome_bind_some] at hserve
  have hkeep : z.keepsHost = x.keepsHost := by
    rw [h.keepsHost_eq hin, List.forall₂_nil_right_iff.1 h.configured]
    rfl
  obtain ⟨i, hi, hparse⟩ := hd.exists_instance hscheme hservice
  refine ⟨i, hi, d, hparse, ?_, fun hr huser hdeliverable => ?_⟩
  · rcases Request.sent_or_failed (s := s) (r := r) har.destination hd.settled with
      ⟨o, hsent, horigin, hbackend⟩ | ⟨f, hf⟩
    · refine .inl ⟨o, ?_, horigin, fun a hanswer => hbackend a ?_⟩
      · rw [hserve, hsent, har.sent]
      · rw [hserve] at hanswer
        obtain ⟨b, hb, hsome⟩ := Outcome.map_eq_ok_iff.1 hanswer
        rwa [Option.some.inj hsome] at hb
    · rw [hserve, hf]
      exact .inr ⟨f, rfl, har.sent⟩
  · rw [← hkeep]
    exact h.exists_sent ha haccepts hanswers hin hd har hr huser hdeliverable

/-- A route for a service of its own looks the service up by its name in lower case. Without
instances each accepted request is answered with 503, with instances it goes to one of them. -/
theorem serve_balances {schemes : List String} {absent : String → Value} {i j k l : Journal}
    (hc : (Compiler.make (providers outlet) schemes absent).outcomeFrom i = (.ok c, j))
    {key : String} (hr : (c.compile t key).outcomeFrom k = (.ok route, l)) {name : String}
    (huri : t.uri = "lb://" ++ name) (hname : ∀ ch ∈ name.toList, isUnreserved ch)
    (hfilters : t.filters = []) (hinstances : outlet.OverHttp) :
    ∃ service, t.destination.shownHost = .ok service ∧
      (¬ Uri.scriptMark <+: (Headers.lowerAscii name).toList → service = Headers.lowerAscii name) ∧
      ∀ r s x, ((route.predicate.accepts r).outcome s x).1 = .ok true →
        (outlet.instancesOf service = [] →
          ((route.serve r).outcome s x).1 =
              .ok (some (.ofText 503 ("No instance available for " ++ service))) ∧
            ((route.serve r).outcome s x).2.sent = x.sent) ∧
        (outlet.instancesOf service ≠ [] →
          ∃ i ∈ outlet.instancesOf service, ∃ d, Uri.parse i = .ok d ∧
            ((∃ o, ((route.serve r).outcome s x).2.sent = x.sent ++ [o] ∧ o.uri.Reaches d ∧
                ∀ a, ((route.serve r).outcome s x).1 = .ok (some a) → s.backend o = .ok a) ∨
              ∃ f, ((route.serve r).outcome s x).1 = .error f ∧
                ((route.serve r).outcome s x).2.sent = x.sent) ∧
            (r.uri.Settled → r.uri.userinfo = "" → r.Deliverable d →
              ∃ o, ((route.serve r).outcome s x).2.sent = x.sent ++ [o] ∧
                r.SentTo s.usual.headers d x.keepsHost o)) := by
  have hlb : lower "lb" = "lb" := by decide +kernel
  have hstart : "lb" ++ "://" = "lb://" := by decide
  have hparse : Uri.parse ("lb" ++ "://" ++ name) = .ok t.destination := by
    rw [← t.parsed, huri, hstart]
  have hchars : ∀ ch ∈ "lb".toList, Uri.isSchemeChar ch := List.all_eq_true.1 (by decide)
  obtain ⟨hscheme, hhost⟩ := Uri.host_of_parse_named (by decide) hchars hname hparse
  rw [hlb] at hscheme
  obtain ⟨brought, added, hlaid⟩ := exists_laidOut hc hr
  obtain ⟨service, hservice, -⟩ := hlaid.destined.brought_of_lb hscheme
  have hbalances := hlaid.only_balances hscheme hservice hfilters
  refine ⟨service, hservice, fun hmark => ?_, fun r s x haccepts =>
    ⟨hbalances.answered_503 haccepts, fun hsome =>
      hbalances.sent_to_instance hscheme hservice haccepts hsome fun _ => hinstances.instancesOf⟩⟩
  rw [← hhost] at hmark ⊢
  rw [Uri.shownHost_of_no_mark hmark] at hservice
  exact (Except.ok.inj hservice).symm

end Builtin

namespace Sample

def pool : Outlet :=
  ⟨none, OrderedMap.ofList [("orders", ["http://10.0.0.5:8080"]), ("Users", ["http://10.0.0.6"])]⟩

theorem make_pool : ∃ c j op,
    (Compiler.make (Builtin.providers pool) ["lb"] Compiler.usualAbsent).outcomeFrom [] =
      (.ok c, j) ∧ c.handlers.candidates "lb" = [op] ∧ op.parameters = [⟨"uri", .text, false⟩] ∧
      ∀ uri, op.build [("uri", .text uri)] = Compile.lift (Builtin.balanced pool uri) :=
  ⟨_, _, _, rfl, rfl, rfl, fun _ => rfl⟩

theorem handling_of_address {c : Compiler} {t : RouteSpec} {op : Operation} {h : Handling}
    (hops : Catalog.Overloads (c.handlers.candidates (Compiler.handlerName t)))
    (hschemes : c.addressSchemes.contains (Compiler.handlerName t))
    (honly : c.handlers.candidates (Compiler.handlerName t) = [op])
    (hparameters : op.parameters = [⟨"uri", .text, false⟩])
    (hbuild : ∀ i, (op.build [("uri", .text t.uri)]).outcomeFrom i = (.ok (.handling h), i))
    (i : Journal) : (c.handling t).outcomeFrom i = (.ok h, i) := by
  have hkeys : op.TakesKeys ["uri"] := by
    intro name
    rw [Operation.parameterNames, hparameters]
    rfl
  have hresolves : Catalog.Resolves [op] (c.handlerArgs (Compiler.handlerName t) t.uri)
      (some ⟨op, 0, OrderedMap.ofList [("uri", t.uri)]⟩) := by
    rw [Compiler.handlerArgs, if_pos hschemes]
    exact .keyed (RawArgs.not_allGenerated_of_mem (k := "uri") List.mem_cons_self (by decide)) rfl
      hkeys
  have hbuilds : c.HandlerBuilds t i op (.ok (.handling h), i) := by
    rw [Compiler.HandlerBuilds, ← hbuild i, honly]
    refine .called hresolves ?_
    rw [hparameters]
    exact .cons (.converted rfl rfl) .nil
  rw [Compiler.outcomeFrom_handling_eq_iff hops]
  exact .handled (Catalog.obtained_ok_iff.2 ⟨op, rfl, hbuilds⟩) rfl

theorem compile_balanced {t : RouteSpec} {h : Handling} (hname : Compiler.handlerName t = "lb")
    (hbuild : Builtin.balanced pool t.uri = .ok (.handling h)) (hpredicates : t.predicates = [])
    (hfilters : t.filters = []) (key : String) : ∃ c j k,
    (Compiler.make (Builtin.providers pool) ["lb"] Compiler.usualAbsent).outcomeFrom [] =
      (.ok c, j) ∧ (c.compile t key).outcomeFrom [] =
        (.ok (CompiledRoute.mk (Compiler.routeId t key) t h [] []).route, k) := by
  obtain ⟨c, j, op, hmake, hcandidates, hparameters, hop⟩ := make_pool
  obtain ⟨⟨_, _, hhandlers⟩, -, -, hschemes, -⟩ := Compiler.outcomeFrom_make_eq_ok hmake
  have hcontains : c.addressSchemes.contains (Compiler.handlerName t) := by
    have hlb : lower "lb" = "lb" := by decide +kernel
    rw [hschemes, hname, List.map_singleton, hlb]
    rfl
  rw [← hname] at hcandidates
  have hhandling := handling_of_address (h := h) (Catalog.overloads_of_discover hhandlers _)
    hcontains hcandidates hparameters fun i => by rw [hop, hbuild, Compile.outcomeFrom_lift]
  obtain ⟨k, hcompile⟩ := compile_of_handling hhandling hpredicates hfilters key
  exact ⟨c, j, k, hmake, hcompile⟩

def orders : RouteSpec :=
  ⟨"r", "lb://orders", ⟨"lb", "", "orders", none, "", none, none⟩, [], [], {}, 0, by rfl, by decide⟩

def ordersRoute : CompiledRoute :=
  ⟨"r", orders, ⟨Request.forward, [(Balancer.stage "orders" ["http://10.0.0.5:8080"]).filter]⟩, [],
    []⟩

def instanceUri : Uri := ⟨"http", "", "10.0.0.5", some 8080, "", none, none⟩

theorem serve_balances_orders : ∃ c j k,
    (Compiler.make (Builtin.providers pool) ["lb"] Compiler.usualAbsent).outcomeFrom [] =
      (.ok c, j) ∧ (c.compile orders "r").outcomeFrom [] = (.ok ordersRoute.route, k) ∧
    ∀ s x, ∃ o, ((ordersRoute.route.serve visit).outcome s x).2.sent = x.sent ++ [o] ∧
      visit.SentTo s.usual.headers instanceUri x.keepsHost o := by
  obtain ⟨c, j, k, hmake, hcompile⟩ :=
    compile_balanced (t := orders) (h := ordersRoute.handling) rfl (by rfl) rfl rfl "r"
  have hparse : Uri.parse "http://10.0.0.5:8080" = .ok instanceUri := by rfl
  have hparse' : Uri.parse "http://10.0.0.6" = .ok ⟨"http", "", "10.0.0.6", none, "", none, none⟩ := by
    rfl
  have hinstances : pool.OverHttp := by
    intro urls hurls i hi
    have hurls : urls ∈ [["http://10.0.0.5:8080"], ["http://10.0.0.6"]] := hurls
    simp only [List.mem_cons, List.not_mem_nil, or_false] at hurls
    rcases hurls with rfl | rfl
    · rw [List.mem_singleton.1 hi]
      exact ⟨_, hparse, by decide, by decide⟩
    · rw [List.mem_singleton.1 hi]
      exact ⟨_, hparse', by decide, by decide⟩
  have huri : orders.uri = "lb://" ++ "orders" := by decide
  have hname : ∀ ch ∈ "orders".toList, isUnreserved ch := List.all_eq_true.1 (by decide)
  have hmark : ¬ Uri.scriptMark <+: (Headers.lowerAscii "orders").toList := by decide +kernel
  have hservice : Headers.lowerAscii "orders" = "orders" := by decide +kernel
  have hsettled : visit.uri.Settled := by
    have hvisit : Uri.parse "http://gateway.local/" = .ok visit.uri := by rfl
    exact Uri.settled_of_parse hvisit (by decide)
  have hdeliverable : visit.Deliverable instanceUri :=
    ⟨⟨"10.0.0.5", "10.0.0.5", ⟨by rfl, by rfl⟩, by decide +kernel⟩, by decide +kernel⟩
  obtain ⟨service, -, hlower, hserves⟩ :=
    Builtin.serve_balances hmake hcompile huri hname rfl hinstances
  have hlower := (hlower hmark).trans hservice
  subst hlower
  refine ⟨c, j, k, hmake, hcompile, fun s x => ?_⟩
  obtain ⟨-, hsends⟩ := hserves visit s x rfl
  obtain ⟨i, hi, d, hd, -, hsent⟩ := hsends (List.cons_ne_nil "http://10.0.0.5:8080" [])
  have hi : i ∈ ["http://10.0.0.5:8080"] := hi
  rw [List.mem_singleton.1 hi, hparse] at hd
  cases hd
  exact hsent hsettled rfl hdeliverable

def capitalised : RouteSpec :=
  ⟨"r", "lb://Users", ⟨"lb", "", "users", none, "", none, none⟩, [], [], {}, 0, by rfl, by decide⟩

def capitalisedRoute : CompiledRoute :=
  ⟨"r", capitalised, ⟨Request.forward, [(Balancer.stage "users" []).filter]⟩, [], []⟩

theorem serve_answers_503_capitalised : ∃ c j k,
    (Compiler.make (Builtin.providers pool) ["lb"] Compiler.usualAbsent).outcomeFrom [] =
      (.ok c, j) ∧ (c.compile capitalised "r").outcomeFrom [] = (.ok capitalisedRoute.route, k) ∧
    capitalised.uri = "lb://Users" ∧ capitalised.filters = [] ∧
    pool.instancesOf "Users" = ["http://10.0.0.6"] ∧
    ∀ s x, ((capitalisedRoute.route.predicate.accepts visit).outcome s x).1 = .ok true ∧
      ((capitalisedRoute.route.serve visit).outcome s x).1 =
        .ok (some (.ofText 503 "No instance available for users")) ∧
      ((capitalisedRoute.route.serve visit).outcome s x).2.sent = x.sent := by
  obtain ⟨c, j, k, hmake, hcompile⟩ :=
    compile_balanced (t := capitalised) (h := capitalisedRoute.handling) rfl (by rfl) rfl rfl "r"
  exact ⟨c, j, k, hmake, hcompile, rfl, rfl, rfl, fun s x => ⟨rfl, rfl, rfl⟩⟩

end Sample

end HttpGateway
