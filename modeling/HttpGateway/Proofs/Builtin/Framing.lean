import HttpGateway.Proofs.Builtin.Attributes
import HttpGateway.Proofs.Builtin.Balancing
import HttpGateway.Proofs.Builtin.Sharing

namespace HttpGateway

open Serve (Steady)

namespace Builtin

variable {outlet : Outlet} {c : Compiler} {t : RouteSpec} {route : Route}
variable {brought added : List Step} {s : Surroundings} {x : Exchange} {r : Request}

theorem Destined.steady {h : Handler} (hd : Destined outlet t h brought) (r : Request) :
    Steady (h r) := by
  cases hd with
  | forwarding => exact r.steady_forward
  | balancing => exact r.steady_forward
  | answering => exact .pure _

/-- The destination that the attributes name behind a served request: that of the route, unless its
scheme is that of balanced services and the service has instances. -/
inductive Aimed (outlet : Outlet) (t : RouteSpec) (s : Surroundings) : Uri → Prop
  | own : t.destination.scheme ∈ ["http", "https", "no"] → Aimed outlet t s t.destination
  | deserted {service} : t.destination.scheme = "lb" → t.destination.shownHost = .ok service →
      outlet.instancesOf service = [] → Aimed outlet t s t.destination
  | picked {service i d} : t.destination.scheme = "lb" → t.destination.shownHost = .ok service →
      i ∈ outlet.instancesOf service →
      Balancer.choose s.pick (outlet.instancesOf service) = some i → Uri.parse i = .ok d →
      Aimed outlet t s d

theorem Destined.aimed {h : Handler} (hd : Destined outlet t h brought)
    (hinstances : ∀ service, t.destination.shownHost = .ok service →
      ∀ i ∈ outlet.instancesOf service, ∃ d, Uri.parse i = .ok d) (s : Surroundings) :
    ∃ d, Aimed outlet t s d ∧ (Step.lastAim? s brought).or (some t.destination) = some d := by
  cases hd with
  | forwarding hscheme =>
    rw [List.mem_cons, List.mem_singleton] at hscheme
    exact ⟨_, .own (by rcases hscheme with h | h <;> simp [h]), rfl⟩
  | answering hscheme => exact ⟨_, .own (by simp [hscheme]), rfl⟩
  | @balancing service hscheme hservice =>
    rw [Step.lastAim?_singleton]
    change ∃ d, Aimed outlet t s d ∧
      ((Balancer.choose s.pick (outlet.instancesOf service)).bind fun i =>
        (Uri.parse i).toOption).or (some t.destination) = some d
    by_cases hnone : outlet.instancesOf service = []
    · rw [hnone]
      exact ⟨_, .deserted hscheme hservice hnone, rfl⟩
    · obtain ⟨i, hi, hchosen⟩ := Balancer.exists_choose hnone s.pick
      obtain ⟨d, hd⟩ := hinstances service hservice i hi
      rw [hchosen, Option.bind_some, hd]
      exact ⟨d, .picked hscheme hservice hi hchosen hd, rfl⟩

theorem Destined.exists_reached {h : Handler} (hd : Destined outlet t h brought)
    (added : List Step) (s : Surroundings) (r : Request) (x : Exchange) :
    ∃ rest, Step.reached s (brought ++ added) r x = brought ++ rest ∧ ∀ p ∈ rest, p ∈ added := by
  cases hd with
  | forwarding => exact ⟨_, rfl, fun p => Step.mem_of_mem_reached⟩
  | balancing => exact Step.exists_reached_cons s _ added r x
  | answering => exact ⟨_, rfl, fun p => Step.mem_of_mem_reached⟩

theorem LaidOut.exists_reached (h : LaidOut outlet c t route brought added) (s : Surroundings)
    (r : Request) (x : Exchange) :
    ∃ rest, Step.reached s (steps route t brought added) r x =
      .stamp route.id t.destination :: (brought ++ rest) ∧ ∀ p ∈ rest, p ∈ added := by
  obtain ⟨y, hstamped⟩ : ∃ y,
      (Compiler.stamped route.id t.destination r).outcome s x = (.ok r, y) := ⟨_, rfl⟩
  have hreached : Step.reached s (steps route t brought added) r x =
      .stamp route.id t.destination :: Step.reached s (brought ++ added) r y :=
    Step.reached_cons_of_passed rfl hstamped
  obtain ⟨rest, hrest, hmem⟩ := h.destined.exists_reached added s r y
  exact ⟨rest, by rw [hreached, hrest], hmem⟩

theorem Configured.touched_subset {o : OperationSpec} {p : Step} (h : Configured c o p) :
    ∀ name ∈ p.touched, name = keepHostAttribute := by
  have hnamed := h.named
  cases p with
  | stamp => cases hnamed
  | balance => cases hnamed
  | request e =>
    intro name hname
    rw [Step.touched] at hname
    split at hname
    · exact List.mem_singleton.1 hname
    · cases hname
  | response | redirect =>
    intro name hname
    cases hname

theorem Destined.touched_subset {h : Handler} (hd : Destined outlet t h brought) :
    ∀ p ∈ brought, ∀ name ∈ p.touched, name = destinationAttribute := by
  cases hd with
  | forwarding => exact List.forall_mem_nil _
  | balancing =>
    intro p hp name hname
    rw [List.mem_singleton.1 hp] at hname
    exact List.mem_singleton.1 hname
  | answering => exact List.forall_mem_nil _

theorem Destined.touched_append {h : Handler} (hd : Destined outlet t h brought) {rest : List Step}
    (hrest : ∀ p ∈ rest, ∃ o, Configured c o p) :
    ∀ p ∈ brought ++ rest, ∀ name ∈ p.touched,
      name = destinationAttribute ∨ name = keepHostAttribute := by
  intro p hp name hname
  rcases List.mem_append.1 hp with hp | hp
  · exact .inl (hd.touched_subset p hp name hname)
  · obtain ⟨o, ho⟩ := hrest p hp
    exact .inr (ho.touched_subset name hname)

def AsksToKeepHost (t : RouteSpec) (route : Route) (brought added : List Step) (s : Surroundings)
    (r : Request) (x : Exchange) : Prop :=
  ∃ before o after, t.filters = before ++ o :: after ∧ o.keepsHost ∧
    Step.Through s (steps route t brought (added.take before.length)) r x

theorem Destined.exists_split {h : Handler} (hd : Destined outlet t h brought)
    {before after : List Step} {p : Step} (hsplit : steps route t brought added = before ++ p :: after)
    (hkeeps : p.keepsHost) :
    ∃ front, before = steps route t brought front ∧ added = front ++ p :: after := by
  have hsteps : steps route t brought added =
      (.stamp route.id t.destination :: brought) ++ added := rfl
  rw [hsteps] at hsplit
  rcases List.append_eq_append_iff.1 hsplit with ⟨front, hbefore, hadded⟩ | ⟨rest, hstart, hrest⟩
  · exact ⟨front, hbefore, hadded⟩
  · cases rest with
    | nil =>
      rw [List.append_nil] at hstart
      exact ⟨[], by rw [← hstart, steps, List.append_nil], hrest.symm⟩
    | cons q rest =>
      -- the step would be one of those in front, and none of them asks for the host
      obtain ⟨rfl, -⟩ := List.cons.inj hrest
      have hany : (Step.stamp route.id t.destination :: brought).any Step.keepsHost = true := by
        rw [hstart, List.any_append, List.any_cons, hkeeps, Bool.true_or, Bool.or_true]
      rw [List.any_cons, hd.any_keepsHost] at hany
      cases hany

theorem LaidOut.any_keepsHost_reached (h : LaidOut outlet c t route brought added) :
    (Step.reached s (steps route t brought added) r x).any Step.keepsHost = true ↔
      AsksToKeepHost t route brought added s r x := by
  rw [List.any_eq_true]
  constructor
  · rintro ⟨p, hp, hkeeps⟩
    obtain ⟨before, after, hsplit, hbefore⟩ := Step.mem_reached_iff.1 hp
    obtain ⟨front, rfl, rfl⟩ := h.destined.exists_split hsplit hkeeps
    have hfront := (List.forall₂_take_append _ front _ h.configured).length_eq
    obtain ⟨o, os, ho, -, hdrop⟩ :=
      List.forall₂_cons_right_iff.1 (List.forall₂_drop_append _ front _ h.configured)
    refine ⟨t.filters.take front.length, o, os, ?_, ?_, ?_⟩
    · rw [← hdrop, List.take_append_drop]
    · rw [← ho.keepsHost_eq, hkeeps]
    · rwa [hfront, List.take_left]
  · rintro ⟨before, o, after, hsplit, hkeeps, hbefore⟩
    obtain ⟨-, hrest⟩ := h.configured_split hsplit
    obtain ⟨p, ps, hp, -, hdrop⟩ := List.forall₂_cons_left_iff.1 hrest
    refine ⟨p, Step.mem_reached_iff.2 ⟨_, ps, ?_, hbefore⟩, ?_⟩
    · rw [← steps_append, ← hdrop, List.take_append_drop]
    · rw [hp.keepsHost_eq, hkeeps]

structure Framed (outlet : Outlet) (t : RouteSpec) (route : Route) (brought added : List Step)
    (s : Surroundings) (r : Request) (x : Exchange) (attributes : OrderedMap Value) : Prop where
  routeId : attributes.get? routeAttribute = some (.text route.id)
  destination : ∃ d, Aimed outlet t s d ∧
    attributes.get? destinationAttribute = some (.uri d)
  kept : AsksToKeepHost t route brought added s r x →
    attributes.get? keepHostAttribute = some (.bool true)
  former : ¬ AsksToKeepHost t route brought added s r x →
    attributes.get? keepHostAttribute = x.attributes.get? keepHostAttribute
  others : ∀ name, name ∉ [routeAttribute, destinationAttribute, keepHostAttribute] →
    attributes.get? name = x.attributes.get? name

theorem LaidOut.framed (h : LaidOut outlet c t route brought added)
    (hinstances : ∀ service, t.destination.shownHost = .ok service →
      ∀ i ∈ outlet.instancesOf service, ∃ d, Uri.parse i = .ok d)
    (hr : ((route.predicate.accepts r).outcome s x).1 = .ok true) :
    Framed outlet t route brought added s r x ((route.serve r).outcome s x).2.attributes := by
  have hattributes : ((route.serve r).outcome s x).2.attributes =
      (Step.reached s (steps route t brought added) r x).foldl (Step.marks s) x.attributes := by
    rw [Route.outcome_serve_of_observes h.observes hr, Serve.outcome_bind_some, Route.chain,
      h.filters]
    exact Step.attributes_chain h.destined.steady _ r s x
  rw [hattributes]
  have hany := h.any_keepsHost_reached (r := r) (s := s) (x := x)
  obtain ⟨rest, hreached, hrest⟩ := h.exists_reached s r x
  have hconfigured : ∀ p ∈ rest, ∃ o, Configured c o p :=
    fun p hp => exists_configured_of_mem h.configured (hrest p hp)
  have htouched := h.destined.touched_append hconfigured
  constructor
  · have huntouched : ∀ p ∈ brought ++ rest, routeAttribute ∉ p.touched := by
      intro p hp hname
      rcases htouched p hp _ hname with h | h <;> exact absurd h (by decide)
    rw [hreached, List.foldl_cons, Step.get?_foldl_marks_of_untouched huntouched, Step.marks,
      OrderedMap.get?_insert, if_pos rfl]
  · have hlast := lastAim?_stamped hconfigured route.id t.destination brought s
    obtain ⟨d, hd, haim⟩ := h.destined.aimed hinstances s
    refine ⟨d, hd, ?_⟩
    rw [Step.get?_foldl_marks_destination, hreached, hlast, haim]
    rfl
  · intro hasks
    rw [Step.get?_foldl_marks_keepHost, hany.2 hasks, if_pos rfl]
  · intro hasks
    rw [Step.get?_foldl_marks_keepHost, if_neg (mt hany.1 hasks)]
  · intro name hname
    simp only [List.mem_cons, List.not_mem_nil, or_false, not_or] at hname
    have huntouched : ∀ p ∈ Step.stamp route.id t.destination :: (brought ++ rest),
        name ∉ p.touched := by
      refine List.forall_mem_cons.2 ⟨?_, fun p hp hn => ?_⟩
      · rw [Step.touched, List.mem_cons, List.mem_singleton, not_or]
        exact ⟨hname.2.1, hname.1⟩
      · rcases htouched p hp _ hn with h | h
        · exact hname.2.1 h
        · exact hname.2.2 h
    rw [hreached, Step.get?_foldl_marks_of_untouched huntouched]

/-- An accepted request leaves the id of its route and the destination among the attributes, however
serving it ends: the destination is that of the route, or an instance of a balanced service that has
some. The host is to be kept if the request got to a filter that asks for it. All other attributes
stay as they are, and all of them if the request is not accepted. The request that came in shows behind
the chain what it showed before, like any other one that refers to header fields which were there. -/
theorem attributes_of_serve {schemes : List String} {absent : String → Value} {i j k l : Journal}
    (hc : (Compiler.make (providers outlet) schemes absent).outcomeFrom i = (.ok c, j))
    {key : String} (hr : (c.compile t key).outcomeFrom k = (.ok route, l))
    (hinstances : ∀ service, t.destination.shownHost = .ok service →
      ∀ i ∈ outlet.instancesOf service, ∃ d, Uri.parse i = .ok d) :
    route.id = Compiler.routeId t key ∧
    ∃ brought added, LaidOut outlet c t route brought added ∧
      (∀ r s x,
        (((route.predicate.accepts r).outcome s x).1 ≠ .ok true →
          ((route.serve r).outcome s x).2.attributes = x.attributes) ∧
        (((route.predicate.accepts r).outcome s x).1 = .ok true →
          Framed outlet t route brought added s r x
            ((route.serve r).outcome s x).2.attributes)) ∧
      ∀ (q : RequestRef) (objects : HeaderObjects) s x, q.headers < objects.length →
        ∃ objects', Step.chainRef route.handler s (steps route t brought added) q objects x =
            (((route.chain (q.seen objects)).outcome s x).1,
              ((route.chain (q.seen objects)).outcome s x).2, objects') ∧
          ∀ q' : RequestRef, q'.headers < objects.length → q'.seen objects' = q'.seen objects := by
  obtain ⟨_, hassemble⟩ := Compiler.outcomeFrom_compile_eq_ok hr
  obtain ⟨e, hid, -, rfl, -⟩ := Compiler.outcomeFrom_assemble_eq_ok hassemble
  obtain ⟨brought, added, hlaid⟩ := exists_laidOut hc hr
  refine ⟨hid, brought, added, hlaid, fun r s x => ⟨fun hrejected => ?_, hlaid.framed hinstances⟩,
    fun q objects s x hq => ?_⟩
  · rw [hlaid.exchange_of_not_accepted hrejected]
  · obtain ⟨hchain, hkept⟩ :=
      Step.chainRef_spec e.route.handler (steps e.route t brought added) hq s x
    refine ⟨_, ?_, fun q' hq' => RequestRef.seen_of_prefix hkept hq'⟩
    rw [Route.chain, hlaid.filters, hchain]

end Builtin

namespace Sample

theorem attributes_of_serve_orders : ∃ c j k,
    (Compiler.make (Builtin.providers pool) ["lb"] Compiler.usualAbsent).outcomeFrom [] =
      (.ok c, j) ∧ (c.compile orders "r").outcomeFrom [] = (.ok ordersRoute.route, k) ∧
    (∀ service, orders.destination.shownHost = .ok service →
      ∀ i ∈ pool.instancesOf service, ∃ d, Uri.parse i = .ok d) ∧
    ∀ s x, ((ordersRoute.route.serve visit).outcome s x).2.attributes.get? routeAttribute =
        some (.text "r") ∧
      ((ordersRoute.route.serve visit).outcome s x).2.attributes.get? destinationAttribute =
        some (.uri instanceUri) ∧
      ((ordersRoute.route.serve visit).outcome s x).2.attributes.get? keepHostAttribute =
        x.attributes.get? keepHostAttribute := by
  obtain ⟨c, j, k, hmake, hcompile⟩ :=
    compile_balanced (t := orders) (h := ordersRoute.handling) rfl (by rfl) rfl rfl "r"
  have hcompile : (c.compile orders "r").outcomeFrom [] = (.ok ordersRoute.route, k) := hcompile
  have hparse : Uri.parse "http://10.0.0.5:8080" = .ok instanceUri := by rfl
  have hshown : orders.destination.shownHost = .ok "orders" := by rfl
  have hpool : pool.instancesOf "orders" = ["http://10.0.0.5:8080"] := by rfl
  have hinstances : ∀ service, orders.destination.shownHost = .ok service →
      ∀ i ∈ pool.instancesOf service, ∃ d, Uri.parse i = .ok d := by
    intro service hservice i hi
    rw [hshown] at hservice
    cases hservice
    rw [hpool, List.mem_singleton] at hi
    exact ⟨instanceUri, by rw [hi, hparse]⟩
  obtain ⟨-, brought, added, -, hserves, -⟩ :=
    Builtin.attributes_of_serve hmake hcompile hinstances
  refine ⟨c, j, k, hmake, hcompile, hinstances, fun s x => ?_⟩
  obtain ⟨-, hframed⟩ := hserves visit s x
  have hframed := hframed rfl
  obtain ⟨d, hd, hdestination⟩ := hframed.destination
  refine ⟨hframed.routeId, ?_, hframed.former ?_⟩
  · rw [hdestination]
    cases hd with
    | own hscheme => exact absurd hscheme (by decide)
    | deserted _ hservice hnone =>
      rw [hshown] at hservice
      cases hservice
      rw [hpool] at hnone
      cases hnone
    | picked _ hservice hi _ hd =>
      rw [hshown] at hservice
      cases hservice
      rw [hpool, List.mem_singleton] at hi
      rw [hi, hparse] at hd
      cases hd
      rfl
  · rintro ⟨before, o, after, hsplit, -, -⟩
    exact absurd hsplit.symm (List.append_ne_nil_of_right_ne_nil before (List.cons_ne_nil o after))

end Sample

end HttpGateway
