import HttpGateway.Proofs.Builtin.Routes
import HttpGateway.Proofs.Gateway.Forwarding
import HttpGateway.Proofs.Gateway.RouteTable

namespace HttpGateway

open Serve (Sheltered Forwards)

namespace RequestEdit

theorem sheltered_withPath (r : Request) (path : String) : Sheltered (withPath r path) :=
  .lift _ _

theorem sheltered_withParams (r : Request) (ps : Uri.Params) : Sheltered (withParams r ps) :=
  (Sheltered.lift _ _).bind fun _ => .pure _

theorem sheltered_apply (e : RequestEdit) (r : Request) : Sheltered (e.apply r) := by
  cases e with
  | stripPath parts => exact sheltered_withPath r _
  | extendPath start => exact sheltered_withPath r _
  | setPath path => exact sheltered_withPath r path
  | substituteInPath pattern template =>
    exact (Sheltered.lift _ _).bind fun path => sheltered_withPath r path
  | addHeader name values => exact (Sheltered.require _ _).bind fun _ => .pure _
  | setHeader name values => exact .pure _
  | removeHeader name => exact (Sheltered.require _ _).bind fun _ => .pure _
  | setHost host => exact (Sheltered.setAttribute _ _).bind fun _ => .pure _
  | keepHost => exact (Sheltered.setAttribute _ _).bind fun _ => .pure _
  | addParameter name values => exact sheltered_withParams r _
  | removeParameter name => exact sheltered_withParams r _

end RequestEdit

theorem ResponseEdit.sheltered_apply (e : ResponseEdit) (a : Response) :
    Sheltered (e.apply a) := by
  refine (Sheltered.require _ _).bind fun headers => ?_
  cases e <;> exact .pure _

theorem Redirection.sheltered_respond (d : Redirection) : Sheltered d.respond :=
  (Sheltered.require _ _).bind fun _ => .pure _

theorem Condition.isSheltered_predicate (c : Condition) : c.predicate.IsSheltered := by
  refine Predicate.isSheltered_test fun r => ?_
  exact Sheltered.read.bind fun s => (Sheltered.lift _ _).bind fun _ => .pure _

theorem Balancer.isSheltered_stage (service : String) (instances : List String) :
    (Balancer.stage service instances).IsSheltered := by
  rw [stage]
  split
  · exact fun _ => .pure _
  · refine ⟨fun r => ?_, fun a => .pure a⟩
    refine Sheltered.read.bind fun s => (Sheltered.require _ _).bind fun chosen => ?_
    exact (Sheltered.lift _ _).bind fun uri => (Sheltered.setAttribute _ _).bind fun _ => .pure _

theorem Compiler.isSheltered_stamp (id : String) (destination : Uri) :
    (Compiler.stamp id destination).IsSheltered := by
  refine ⟨fun r => ?_, fun a => .pure a⟩
  exact (Sheltered.setAttribute _ _).bind fun _ =>
    (Sheltered.setAttribute _ _).bind fun _ => .pure _

theorem Request.forwards_forward (r : Request) : Forwards r.forward := by
  refine (Sheltered.attribute? _).bind_forwards fun v => ?_
  split
  · refine (Sheltered.lift _ _).bind_forwards fun shown => ?_
    refine (Sheltered.lift _ _).bind_forwards fun uri => ?_
    refine (Sheltered.attribute? _).bind_forwards fun keep => ?_
    refine (Sheltered.require _ _).bind_forwards fun headers => ?_
    refine (Sheltered.note rfl).bind_forwards fun _ => ?_
    exact (Sheltered.lift _ _).bind_forwards fun target => Serve.forwards_send _
  · exact (Sheltered.throw _).forwards

namespace Builtin

variable {outlet : Outlet}

theorem isSheltered_filterStage {st : Stage} (h : FilterStage st) : st.IsSheltered := by
  cases h with
  | request e => exact ⟨e.sheltered_apply, fun a => .pure a⟩
  | response e => exact ⟨fun r => .pure r, e.sheltered_apply⟩
  | redirection d => exact fun _ => d.sheltered_respond

theorem forwards_of_builtinHandling {h : Handling} (hh : BuiltinHandling outlet h) :
    (∀ f ∈ h.filters, ∃ st : Stage, st.IsSheltered ∧ f = st.filter) ∧
      ∀ r, Forwards (h.handler r) := by
  cases hh with
  | forwarding => exact ⟨List.forall_mem_nil _, Request.forwards_forward⟩
  | balanced service =>
    refine ⟨fun f hf => ?_, Request.forwards_forward⟩
    rw [List.mem_singleton.1 hf]
    exact ⟨_, Balancer.isSheltered_stage service _, rfl⟩
  | answering => exact ⟨List.forall_mem_nil _, fun _ => (Sheltered.pure _).forwards⟩

theorem keepsApart_of_composed {e : CompiledRoute} (h : Composed outlet e) :
    e.route.KeepsApart := by
  obtain ⟨hbrought, hhandler⟩ := forwards_of_builtinHandling h.handling
  constructor
  · refine Predicate.isSheltered_allOf fun p hp => ?_
    obtain ⟨c, rfl⟩ := h.predicates p hp
    exact c.isSheltered_predicate
  · refine fun r => Filter.forwards_chain (fun f hf => ?_) hhandler r
    rcases List.mem_append.1 hf with hf | hf
    · rcases List.mem_cons.1 hf with rfl | hf
      · exact ⟨_, Compiler.isSheltered_stamp e.id e.spec.destination, rfl⟩
      · exact hbrought f hf
    · obtain ⟨st, hst, rfl⟩ := h.filters f hf
      exact ⟨st, isSheltered_filterStage hst, rfl⟩

theorem keepsApart_of_compileAll {c : Compiler} {schemes : List String}
    {absent : String → Value} {i j : Journal}
    (hc : (Compiler.make (providers outlet) schemes absent).outcomeFrom i = (.ok c, j))
    {g : GatewaySpec} {routes : OrderedMap Route} {k l : Journal} (hg : g.check = .ok g)
    (hr : (c.compileAll g).outcomeFrom k = (.ok routes, l)) :
    ∀ t ∈ routes.values, t.KeepsApart := by
  obtain ⟨es, -, hroutes, hby⟩ := Compiler.outcomeFrom_compileAll_eq_ok hg hr
  intro t ht
  rw [OrderedMap.values, hroutes, List.map_map] at ht
  obtain ⟨e, he, rfl⟩ := List.mem_map.1 ht
  exact keepsApart_of_composed (composed_of_by hc (hby e he))

end Builtin

namespace CookieJar

theorem collect_of_no_fields {jar : CookieJar} {now : Int} {present : Nat} {o : Outbound}
    {r : Response} (h : r.headers.values "set-cookie" = []) :
    jar.collect now present o r = jar := by
  rw [collect, h]
  rfl

end CookieJar

def Surroundings.SetsNone (s : Surroundings) : Prop :=
  ∀ o response, s.backend o = .ok response → response.headers.values "set-cookie" = []

namespace Exchange

variable {α : Type}

theorem keptAfter_of_setsNone {jar : CookieJar} {es : List (Surroundings × Serve α)}
    (hes : ∀ e ∈ es, Forwards e.2) (hs : ∀ e ∈ es, e.1.SetsNone) : keptAfter jar es = jar := by
  induction es generalizing jar with
  | nil => rfl
  | cons e es ih =>
    rw [List.forall_mem_cons] at hes hs
    have hjar : (e.2.outcome e.1 (fresh jar)).2.jar = jar := by
      rcases hes.1.keeps e.1 (fresh jar) with h | ⟨o, response, hresponse, h⟩
      · exact h
      · rw [h, CookieJar.collect_of_no_fields (hs.1 o response hresponse)]
        rfl
    rw [keptAfter, hjar]
    exact ih hes.2 hs.2

end Exchange

namespace Ask

def sentWith (jar : CookieJar) (a : Ask) (routes : OrderedMap Route) (s : Surroundings)
    (r : Request) : List Outbound :=
  ((a.run routes r).outcome s (Exchange.fresh jar)).2.sent

def kept (routes : OrderedMap Route) (earlier : List (Surroundings × Ask × Request)) : CookieJar :=
  Exchange.keptAfter {} (earlier.map fun e => (e.1, e.2.1.run routes e.2.2))

/-- What routes of built-in operations send for a request is prepared from the request alone. The
requests before it have a part in it just if they left cookies that go along with it, and then
through one field. -/
theorem sent_apart_from_kept_cookies {outlet : Outlet} {c : Compiler} {schemes : List String}
    {absent : String → Value} {i j : Journal}
    (hc : (Compiler.make (Builtin.providers outlet) schemes absent).outcomeFrom i = (.ok c, j))
    {g : GatewaySpec} {routes : OrderedMap Route} {k l : Journal} (hg : g.check = .ok g)
    (hr : (c.compileAll g).outcomeFrom k = (.ok routes, l)) (a : Ask) (s : Surroundings)
    (r : Request) :
    ∃ prepared : Option Outbound,
      sentWith {} a routes s r = prepared.toList.map Outbound.finished ∧
      ∀ earlier : List (Surroundings × Ask × Request),
        (sentWith (kept routes earlier) a routes s r = sentWith {} a routes s r ↔
          ∀ o ∈ prepared, o.Untouched (kept routes earlier) s.clock) ∧
        (∀ o ∈ prepared, ¬ o.Untouched (kept routes earlier) s.clock →
          o.uri.scheme = "" ∧ sentWith (kept routes earlier) a routes s r = [] ∨
          o.uri.scheme ≠ "" ∧ ∃ v o', (kept routes earlier).field? s.clock o = some v ∧
            sentWith (kept routes earlier) a routes s r = [o'] ∧
            o.finished.ExtendedBy "cookie" v o') ∧
        ((∀ e ∈ earlier, e.1.SetsNone) →
          sentWith (kept routes earlier) a routes s r = sentWith {} a routes s r) := by
  have hroutes := Builtin.keepsApart_of_compileAll hc hg hr
  obtain ⟨prepared, hsent⟩ := (forwards_run hroutes a r).sends s (Exchange.fresh {})
  -- what is prepared is the same for all jars, so it is settled before the earlier requests are
  have hsentWith : ∀ jar, sentWith jar a routes s r = Outbound.outgoing prepared jar s.clock := by
    intro jar
    have hjar := hsent jar
    rwa [← Exchange.fresh_eq_withJar] at hjar
  refine ⟨prepared, ?_, fun earlier => ⟨?_, ?_, ?_⟩⟩
  · rw [hsentWith]
    cases prepared with
    | none => rfl
    | some o => exact Outbound.outgoing_of_untouched (.inl rfl)
  · rw [hsentWith, hsentWith]
    cases prepared with
    | none => simp [Outbound.outgoing]
    | some o =>
      have halone : Outbound.outgoing (some o) {} s.clock = [o.finished] :=
        Outbound.outgoing_of_untouched (.inl rfl)
      rw [halone, Outbound.outgoing_eq_iff]
      simp
  · intro o ho
    cases prepared with
    | none => cases ho
    | some o' =>
      cases ho
      rw [hsentWith]
      exact Outbound.outgoing_of_touched
  · intro hnone
    have hforwards : ∀ e ∈ earlier.map fun e => (e.1, e.2.1.run routes e.2.2), Forwards e.2 := by
      intro e he
      obtain ⟨e', -, rfl⟩ := List.mem_map.1 he
      exact forwards_run hroutes e'.2.1 e'.2.2
    have hquiet : ∀ e ∈ earlier.map fun e => (e.1, e.2.1.run routes e.2.2), e.1.SetsNone := by
      intro e he
      obtain ⟨e', he', rfl⟩ := List.mem_map.1 he
      exact hnone e' he'
    rw [kept, Exchange.keptAfter_of_setsNone hforwards hquiet]

end Ask

namespace Sample

def backend : Uri := ⟨"http", "", "backend.local", none, "", none, none⟩

def forwarded : RouteSpec :=
  ⟨"r", "http://backend.local", backend, [], [], {}, 0, by rfl, by decide⟩

def site : GatewaySpec := ⟨[forwarded], {}⟩

theorem ordered_site : site.ordered = [("r", forwarded)] := List.mergeSort_singleton _

theorem check_site : site.check = .ok site := by
  have h : site.idProblem? = none := by
    rw [GatewaySpec.idProblem?, ordered_site]
    rfl
  rw [GatewaySpec.check, h]

def careless : Surroundings :=
  ⟨0, 0, 0, fun _ => .ok ⟨200, ⟨[("set-cookie", "session=alice")]⟩, "ok"⟩⟩

def visit : Request := ⟨"GET", ⟨"http", "", "gateway.local", none, "/", none, none⟩, .empty, ""⟩

def alone : Outbound :=
  ⟨"GET", ⟨"http", "", "backend.local", none, "/", none, none⟩, ⟨[("host", "backend.local")]⟩, ""⟩

def revealing : Outbound :=
  { alone with headers := ⟨[("host", "backend.local"), ("cookie", "session=alice")]⟩ }

def passing : CompiledRoute := ⟨"r", forwarded, ⟨Request.forward, []⟩, [], []⟩

def onlyRoute : OrderedMap Route := OrderedMap.ofList [("r", passing.route)]

theorem make_builtin : ∃ c j op,
    (Compiler.make (Builtin.providers .empty) [] Compiler.usualAbsent).outcomeFrom [] =
      (.ok c, j) ∧ c.handlers.candidates "http" = [op] ∧ op.parameters = [] ∧
      ∀ i, (op.build []).outcomeFrom i = (.ok (.handling ⟨Request.forward, []⟩), i) :=
  ⟨_, _, _, rfl, rfl, rfl, fun _ => rfl⟩

theorem handling_of_product {c : Compiler} {t : RouteSpec} {op : Operation} {p : Product}
    {h : Handling} (hops : Catalog.Overloads (c.handlers.candidates (Compiler.handlerName t)))
    (hschemes : c.addressSchemes = [])
    (honly : c.handlers.candidates (Compiler.handlerName t) = [op]) (hparameters : op.parameters = [])
    (hbuild : ∀ i, (op.build []).outcomeFrom i = (.ok p, i)) (hp : p.handling? = some h)
    (i : Journal) : (c.handling t).outcomeFrom i = (.ok h, i) := by
  have hkeys : op.TakesKeys [] := by
    intro name
    rw [Operation.parameterNames, hparameters]
    rfl
  have hresolves : Catalog.Resolves [op] (c.handlerArgs (Compiler.handlerName t) t.uri)
      (some ⟨op, 0, {}⟩) := by
    rw [Compiler.handlerArgs, hschemes]
    exact .keyed (fun h => h.1 rfl) rfl hkeys
  have hbuilds : c.HandlerBuilds t i op (.ok p, i) := by
    rw [Compiler.HandlerBuilds, ← hbuild i, honly]
    refine .called hresolves ?_
    rw [hparameters]
    exact .nil
  rw [Compiler.outcomeFrom_handling_eq_iff hops]
  exact .handled (Catalog.obtained_ok_iff.2 ⟨op, rfl, hbuilds⟩) hp

theorem handling_of_only {c : Compiler} {t : RouteSpec} {op : Operation} {h : Handling}
    (hops : Catalog.Overloads (c.handlers.candidates (Compiler.handlerName t)))
    (hschemes : c.addressSchemes = [])
    (honly : c.handlers.candidates (Compiler.handlerName t) = [op]) (hparameters : op.parameters = [])
    (hbuild : ∀ i, (op.build []).outcomeFrom i = (.ok (.handling h), i)) (i : Journal) :
    (c.handling t).outcomeFrom i = (.ok h, i) :=
  handling_of_product hops hschemes honly hparameters hbuild rfl i

theorem compile_of_handling {c : Compiler} {t : RouteSpec} {h : Handling}
    (hhandling : ∀ i, (c.handling t).outcomeFrom i = (.ok h, i)) (hpredicates : t.predicates = [])
    (hfilters : t.filters = []) (key : String) : ∃ k, (c.compile t key).outcomeFrom [] =
      (.ok (CompiledRoute.mk (Compiler.routeId t key) t h [] []).route, k) := by
  have hgiven : ∀ k, Compile.InTurn (c.predicateStep (Compiler.routeId t key)) t.predicates k [] k := by
    rw [hpredicates]
    exact fun _ => .nil
  have hmade : ∀ k, Compile.InTurn (c.filterStep (Compiler.routeId t key)) t.filters k [] k := by
    rw [hfilters]
    exact fun _ => .nil
  exact ⟨_, Compiler.outcomeFrom_compile_eq_iff.2
    (.complete (.complete (hhandling _) (hgiven _) (hmade _)))⟩

theorem compile_bare {t : RouteSpec} (hname : Compiler.handlerName t = "http")
    (hpredicates : t.predicates = []) (hfilters : t.filters = []) (key : String) : ∃ c j k,
    (Compiler.make (Builtin.providers .empty) [] Compiler.usualAbsent).outcomeFrom [] =
      (.ok c, j) ∧ (c.compile t key).outcomeFrom [] =
        (.ok (CompiledRoute.mk (Compiler.routeId t key) t ⟨Request.forward, []⟩ [] []).route, k) := by
  -- the compiler is too large to run, so the route is followed through the steps of compilation
  obtain ⟨c, j, op, hmake, hcandidates, hparameters, hbuild⟩ := make_builtin
  obtain ⟨⟨_, _, hhandlers⟩, -, -, hschemes, -⟩ := Compiler.outcomeFrom_make_eq_ok hmake
  rw [← hname] at hcandidates
  have hhandling := handling_of_only (Catalog.overloads_of_discover hhandlers _) hschemes
    hcandidates hparameters hbuild
  obtain ⟨k, hcompile⟩ := compile_of_handling hhandling hpredicates hfilters key
  exact ⟨c, j, k, hmake, hcompile⟩

theorem compile_forwarded : ∃ c j k,
    (Compiler.make (Builtin.providers .empty) [] Compiler.usualAbsent).outcomeFrom [] =
      (.ok c, j) ∧ (c.compile forwarded "r").outcomeFrom [] = (.ok passing.route, k) :=
  compile_bare rfl rfl rfl "r"

theorem compileAll_site : ∃ c j k,
    (Compiler.make (Builtin.providers .empty) [] Compiler.usualAbsent).outcomeFrom [] =
      (.ok c, j) ∧ (c.compileAll site).outcomeFrom [] = (.ok onlyRoute, k) := by
  obtain ⟨c, j, k, hmake, hcompile⟩ := compile_forwarded
  have hnodup : (site.ordered.map Prod.fst).Nodup := by
    rw [ordered_site]
    decide
  refine ⟨c, j, k, hmake, ?_⟩
  rw [Compiler.outcomeFrom_compileAll_eq_ok_iff hnodup, ordered_site]
  exact ⟨rfl, .cons hcompile .nil⟩

theorem sentWith_visit :
    Ask.sentWith {} .dispatch onlyRoute careless visit = [alone] := by
  decide +kernel

theorem sentWith_kept_visit :
    Ask.sentWith (Ask.kept onlyRoute [(careless, .dispatch, visit)]) .dispatch onlyRoute careless
      visit = [revealing] := by
  decide +kernel

theorem sent_apart_from_kept_cookies_revealing : ∃ c j routes k v,
    (Compiler.make (Builtin.providers .empty) [] Compiler.usualAbsent).outcomeFrom [] =
      (.ok c, j) ∧ site.check = .ok site ∧ (c.compileAll site).outcomeFrom [] = (.ok routes, k) ∧
    (Ask.kept routes [(careless, .dispatch, visit)]).cookies ≠ [] ∧
    alone.ExtendedBy "cookie" v revealing := by
  obtain ⟨c, j, k, hc, hr⟩ := compileAll_site
  obtain ⟨prepared, hfirst, hearlier⟩ :=
    Ask.sent_apart_from_kept_cookies hc check_site hr .dispatch careless visit
  obtain ⟨hsame, hother, -⟩ := hearlier [(careless, .dispatch, visit)]
  rw [sentWith_visit] at hfirst
  rw [sentWith_visit, sentWith_kept_visit] at hsame
  have hne : [revealing] ≠ [alone] := by decide
  cases prepared with
  | none => cases hfirst
  | some o =>
    have hfinished : alone = o.finished := (List.cons.inj hfirst).1
    have htouched : ¬ o.Untouched (Ask.kept onlyRoute [(careless, .dispatch, visit)])
        careless.clock := by
      intro h
      refine hne (hsame.2 fun o' ho' => ?_)
      cases ho'
      exact h
    refine ⟨c, j, onlyRoute, k, ?_⟩
    rcases hother o rfl htouched with ⟨-, hnone⟩ | ⟨-, v, o', -, hsent, hextended⟩
    · rw [sentWith_kept_visit] at hnone
      cases hnone
    · rw [sentWith_kept_visit] at hsent
      have ho' : revealing = o' := (List.cons.inj hsent).1
      rw [← hfinished, ← ho'] at hextended
      exact ⟨v, hc, check_site, hr, fun h => htouched (.inl h), hextended⟩

theorem visits_differ : ∃ c j routes k x y,
    (Compiler.make (Builtin.providers .empty) [] Compiler.usualAbsent).outcomeFrom [] =
      (.ok c, j) ∧ (c.compileAll site).outcomeFrom [] = (.ok routes, k) ∧
    Exchange.inTurn careless {}
        [Ask.dispatch.run routes visit, Ask.dispatch.run routes visit] = [x, y] ∧
    x.2.sent = [alone] ∧ y.2.sent = [revealing] := by
  obtain ⟨c, j, k, hc, hr⟩ := compileAll_site
  have hturn := Exchange.inTurn_concat careless {} [Ask.dispatch.run onlyRoute visit]
    (Ask.dispatch.run onlyRoute visit)
  exact ⟨c, j, onlyRoute, k, _, _, hc, hr, hturn, sentWith_visit, sentWith_kept_visit⟩

end Sample

end HttpGateway
