import HttpGateway.Proofs.Builtin.Forwarding
import HttpGateway.Proofs.Builtin.Passing

namespace HttpGateway

open Serve (Sheltered)

def Uri.IsHttp (u : Uri) : Prop := u.scheme ∈ ["http", "https"] ∧ u.host ≠ ""

theorem Uri.IsHttp.settled {u : Uri} (h : u.IsHttp) {text : String} (hu : Uri.parse text = .ok u) :
    u.Settled := by
  refine settled_of_parse hu ?_
  obtain ⟨hscheme, hhost⟩ := h
  rw [isAbsolute, Bool.and_eq_true, bne_iff_ne, bne_iff_ne]
  refine ⟨fun hempty => ?_, hhost⟩
  rw [hempty] at hscheme
  exact absurd hscheme (by decide)

theorem Balancer.exists_choose {instances : List String} (h : instances ≠ []) (pick : Int) :
    ∃ i ∈ instances, choose pick instances = some i := by
  have hlength : (0 : Int) < instances.length := by
    have := List.length_pos_iff.2 h
    omega
  have hlt : (pick % instances.length).toNat < instances.length := by
    have hnonneg := Int.emod_nonneg pick (Int.ne_of_gt hlength)
    have hmod := Int.emod_lt_of_pos pick hlength
    omega
  exact ⟨instances[(pick % instances.length).toNat], List.getElem_mem hlt,
    List.getElem?_eq_getElem hlt⟩

def Outlet.instancesOf (outlet : Outlet) (service : String) : List String :=
  (outlet.instances.get? service).getD []

def OperationSpec.keepsHost (o : OperationSpec) : Bool :=
  OperationName.normal o.name ∈ ["setRequestHostHeader", "preserveHostHeader"]

namespace Builtin

namespace Step

variable {p : Step} {ps : List Step}

theorem keepsHost_of_operation {name : String} (h : p.operation? = some name) :
    p.keepsHost = decide (name ∈ ["setRequestHostHeader", "preserveHostHeader"]) := by
  cases p with
  | stamp => cases h
  | balance => cases h
  | request e =>
    cases e <;>
    · cases h
      rfl
  | response e =>
    cases e <;>
    · cases h
      rfl
  | redirect =>
    cases h
    rfl

theorem sheltered_incoming (p : Step) (r : Request) : Sheltered (p.incoming?.getD pure r) := by
  cases p with
  | stamp id destination =>
    exact (Sheltered.setAttribute _ _).bind fun _ => (Sheltered.setAttribute _ _).bind fun _ => .pure _
  | balance service instances =>
    refine Sheltered.read.bind fun s => (Sheltered.require _ _).bind fun chosen => ?_
    exact (Sheltered.lift _ _).bind fun uri => (Sheltered.setAttribute _ _).bind fun _ => .pure _
  | request e => exact e.sheltered_apply r
  | response e => exact .pure r
  | redirect d => exact .pure r

theorem sheltered_outgoing (p : Step) (a : Response) : Sheltered (p.outgoing?.getD pure a) := by
  cases p with
  | response e => exact e.sheltered_apply a
  | stamp | balance | request | redirect => exact .pure a

theorem sheltered_answer {k : Serve Response} (h : p.answer? = some k) : Sheltered k := by
  cases p with
  | balance service instances =>
    cases instances with
    | nil =>
      cases h
      exact .pure _
    | cons => cases h
  | redirect d =>
    cases h
    exact d.sheltered_respond
  | stamp | request | response => cases h

theorem sheltered_comeIn (ps : List Step) (r : Request) : Sheltered (comeIn ps r) := by
  induction ps generalizing r with
  | nil => exact .pure r
  | cons p ps ih =>
    rw [comeIn_cons]
    exact (sheltered_incoming p r).bind ih

theorem sheltered_goOut (ps : List Step) (a : Response) : Sheltered (goOut ps a) := by
  induction ps generalizing a with
  | nil => exact .pure a
  | cons p ps ih =>
    rw [goOut_cons]
    exact (ih a).bind (sheltered_outgoing p)

theorem inFolds_of_no_answer (h : ∀ p ∈ ps, p.answer? = none) (f : Handler) (r : Request) :
    inFolds ps f r = comeIn ps r >>= fun passed => f passed >>= goOut ps := by
  have hnone : ps.findSome? answer? = none := List.findSome?_eq_none_iff.2 h
  rw [inFolds, passing_of_no_answer h, hnone]
  rfl

theorem sheltered_inFolds (h : ∃ p ∈ ps, p.answer?.isSome) (f : Handler) (r : Request) :
    Sheltered (inFolds ps f r) := by
  obtain ⟨k, hk⟩ : ∃ k, ps.findSome? answer? = some k := by
    rw [← Option.isSome_iff_exists, List.findSome?_isSome_iff]
    exact h
  obtain ⟨p, -, hp⟩ := List.exists_of_findSome?_eq_some hk
  rw [inFolds, hk]
  exact (sheltered_comeIn _ r).bind fun _ => (sheltered_answer hp).bind fun a => sheltered_goOut _ a

end Step

variable {outlet : Outlet} {c : Compiler} {t : RouteSpec} {route : Route}
variable {brought added : List Step} {s : Surroundings} {x z : Exchange} {r r' : Request} {d : Uri}

inductive Addressed (outlet : Outlet) (t : RouteSpec) : Prop
  | direct : t.destination.IsHttp → Addressed outlet t
  | balanced {service} : t.destination.scheme = "lb" → t.destination.shownHost = .ok service →
      (∀ i ∈ outlet.instancesOf service, ∃ d, Uri.parse i = .ok d ∧ d.IsHttp) →
      Addressed outlet t

inductive Destination (outlet : Outlet) (t : RouteSpec) (s : Surroundings) : Uri → Prop
  | direct : t.destination.IsHttp → Destination outlet t s t.destination
  | picked {service i d} : t.destination.scheme = "lb" → t.destination.shownHost = .ok service →
      Balancer.choose s.pick (outlet.instancesOf service) = some i →
      Uri.parse i = .ok d → d.IsHttp → Destination outlet t s d

structure Arrival (d : Uri) (r : Request) (x : Exchange) (r' : Request) (z : Exchange) : Prop where
  destination : z.attributes.get? destinationAttribute = some (.uri d)
  method : r'.method = r.method
  content : r'.content = r.content
  uri : r.uri.Settled → r'.uri.Settled ∧ r'.uri.userinfo = r.uri.userinfo
  sent : z.sent = x.sent

theorem Destination.settled (h : Destination outlet t s d) : d.Settled := by
  cases h with
  | direct hhttp => exact hhttp.settled t.parsed
  | picked _ _ _ hparse hhttp => exact hhttp.settled hparse

theorem Addressed.handler_eq {h : Handler} (ha : Addressed outlet t)
    (hd : Destined outlet t h brought) : h = Request.forward := by
  cases hd with
  | forwarding => rfl
  | balancing => rfl
  | answering hno =>
    cases ha with
    | direct hhttp =>
      obtain ⟨hscheme, -⟩ := hhttp
      rw [hno] at hscheme
      exact absurd hscheme (by decide)
    | balanced hlb =>
      rw [hno] at hlb
      exact absurd hlb (by decide)

theorem Configured.aim?_eq_none {o : OperationSpec} {p : Step} (h : Configured c o p)
    (s : Surroundings) : p.aim? s = none := by
  have hnamed := h.named
  cases p with
  | stamp => cases hnamed
  | balance => cases hnamed
  | request | response | redirect => rfl

theorem exists_configured_of_mem {os : List OperationSpec}
    (h : List.Forall₂ (Configured c) os added) {p : Step} (hp : p ∈ added) :
    ∃ o, Configured c o p := by
  obtain ⟨o, -, ho⟩ := exists_of_forall₂ h.flip hp
  exact ⟨o, ho⟩

/-- No configured step sets a destination, so the last one is that of the steps that go with the
handler, or else that of the stamp. -/
theorem lastAim?_stamped {qs : List Step} (h : ∀ p ∈ qs, ∃ o, Configured c o p) (id : String)
    (destination : Uri) (brought : List Step) (s : Surroundings) :
    Step.lastAim? s (.stamp id destination :: (brought ++ qs)) =
      (Step.lastAim? s brought).or (some destination) := by
  have hnone : Step.lastAim? s qs = none := by
    refine Step.lastAim?_of_none fun p hp => ?_
    obtain ⟨o, ho⟩ := h p hp
    exact ho.aim?_eq_none s
  rw [Step.lastAim?_cons, Step.lastAim?_append, hnone, Option.none_or]
  rfl

theorem LaidOut.exists_destination (h : LaidOut outlet c t route brought added)
    (ha : Addressed outlet t) (hanswers : ∀ p ∈ brought, p.answer? = none) (s : Surroundings) :
    ∃ d, Destination outlet t s d ∧ Step.lastAim? s (steps route t brought added) = some d := by
  have hlast : Step.lastAim? s (steps route t brought added) =
      (Step.lastAim? s brought).or (some t.destination) :=
    lastAim?_stamped (fun p hp => exists_configured_of_mem h.configured hp) _ _ brought s
  rw [hlast]
  cases ha with
  | direct hhttp =>
    have hbrought : Step.lastAim? s brought = none := by
      obtain ⟨hscheme, -⟩ := hhttp
      obtain ⟨-, rfl⟩ := h.destined.unique (.forwarding hscheme) rfl
      rfl
    rw [hbrought]
    exact ⟨_, .direct hhttp, rfl⟩
  | @balanced service hscheme hservice hinstances =>
    obtain ⟨-, rfl⟩ := (Destined.balancing hscheme hservice).unique h.destined rfl
    have hsome : outlet.instancesOf service ≠ [] := by
      intro hnone
      have hanswer := hanswers (.balance service (outlet.instancesOf service))
        (List.mem_singleton_self _)
      rw [hnone] at hanswer
      cases hanswer
    obtain ⟨i, hi, hchosen⟩ := Balancer.exists_choose hsome s.pick
    obtain ⟨d, hparse, hhttp⟩ := hinstances i hi
    refine ⟨d, .picked hscheme hservice hchosen hparse hhttp, ?_⟩
    have haim : Step.lastAim? s [.balance service (outlet.instancesOf service)] = some d := by
      rw [Step.lastAim?_singleton, Step.aim?, hchosen, Option.bind_some, hparse]
      rfl
    exact congrArg (Option.or · _) haim

theorem Configured.keepsHost_eq {o : OperationSpec} {p : Step} (h : Configured c o p) :
    p.keepsHost = o.keepsHost := by
  rw [OperationSpec.keepsHost]
  exact Step.keepsHost_of_operation h.named

theorem any_keepsHost_configured {os : List OperationSpec}
    (h : List.Forall₂ (Configured c) os added) :
    added.any Step.keepsHost = os.any OperationSpec.keepsHost := by
  induction h with
  | nil => rfl
  | cons hp _ ih => rw [List.any_cons, List.any_cons, hp.keepsHost_eq, ih]

theorem Destined.any_keepsHost {h : Handler} (hd : Destined outlet t h brought) :
    brought.any Step.keepsHost = false := by
  cases hd <;> rfl

theorem LaidOut.any_keepsHost (h : LaidOut outlet c t route brought added) :
    (steps route t brought added).any Step.keepsHost = t.filters.any OperationSpec.keepsHost := by
  rw [steps, List.any_cons, List.any_append, h.destined.any_keepsHost,
    any_keepsHost_configured h.configured]
  rfl

theorem LaidOut.keepsHost_eq (h : LaidOut outlet c t route brought added)
    (hin : (Step.comeIn (steps route t brought added) r).outcome s x = (.ok r', z)) :
    z.keepsHost = (t.filters.any OperationSpec.keepsHost || x.keepsHost) := by
  have hcarried := Step.carried_of_comeIn hin
  rw [← h.any_keepsHost, Exchange.keepsHost, hcarried.keepHost]
  cases (steps route t brought added).any Step.keepsHost <;> rfl

theorem LaidOut.exchange_of_not_accepted (h : LaidOut outlet c t route brought added)
    (hr : ((route.predicate.accepts r).outcome s x).1 ≠ .ok true) :
    ((route.serve r).outcome s x).2 = x := by
  have hx := h.observes r s x
  rw [Route.serve, Serve.outcome_bind]
  rcases ho : (route.predicate.accepts r).outcome s x with ⟨f | accepted, y⟩
  · rw [ho] at hx
    exact hx
  · rw [ho] at hx hr
    cases accepted with
    | true => exact absurd rfl hr
    | false => exact hx

theorem LaidOut.sent_of_answer (h : LaidOut outlet c t route brought added)
    (hr : ((route.predicate.accepts r).outcome s x).1 = .ok true)
    (hp : ∃ p ∈ brought ++ added, p.answer?.isSome) :
    ((route.serve r).outcome s x).2.sent = x.sent := by
  obtain ⟨p, hp, hanswers⟩ := hp
  rw [Route.outcome_serve_of_observes h.observes hr, Serve.outcome_bind_some, h.chain_eq]
  exact (Step.sheltered_inFolds ⟨p, List.mem_cons_of_mem _ hp, hanswers⟩ _ r).silent s x

theorem LaidOut.outcome_of_no_answer (h : LaidOut outlet c t route brought added)
    (hr : ((route.predicate.accepts r).outcome s x).1 = .ok true)
    (hanswers : ∀ p ∈ brought ++ added, p.answer? = none)
    (hin : (Step.comeIn (steps route t brought added) r).outcome s x = (.ok r', z)) :
    (route.serve r).outcome s x =
      (route.handler r' >>= fun a =>
        Step.goOut (steps route t brought added) a >>= fun b => pure (some b)).outcome s z := by
  have hnone : ∀ p ∈ steps route t brought added, p.answer? = none :=
    List.forall_mem_cons.2 ⟨rfl, hanswers⟩
  rw [Route.outcome_serve_of_observes h.observes hr]
  simp only [h.chain_eq, Step.inFolds_of_no_answer hnone, bind_assoc]
  exact Serve.outcome_bind_ok hin

theorem LaidOut.exists_arrival (h : LaidOut outlet c t route brought added)
    (ha : Addressed outlet t) (hanswers : ∀ p ∈ brought ++ added, p.answer? = none)
    (hin : (Step.comeIn (steps route t brought added) r).outcome s x = (.ok r', z)) :
    ∃ d, Destination outlet t s d ∧ Arrival d r x r' z := by
  obtain ⟨d, hd, hlast⟩ := h.exists_destination ha
    (fun p hp => hanswers p (List.mem_append_left added hp)) s
  have hcarried := Step.carried_of_comeIn hin
  have hsilent := (Step.sheltered_comeIn (steps route t brought added) r).silent s x
  rw [hin] at hsilent
  refine ⟨d, hd, ?_, hcarried.method, hcarried.content, hcarried.uri, hsilent⟩
  rw [hcarried.destination, hlast]
  rfl

theorem LaidOut.exists_sent (h : LaidOut outlet c t route brought added)
    (ha : Addressed outlet t) (haccepts : ((route.predicate.accepts r).outcome s x).1 = .ok true)
    (hanswers : ∀ p ∈ brought ++ added, p.answer? = none)
    (hin : (Step.comeIn (steps route t brought added) r).outcome s x = (.ok r', z))
    (hd : Destination outlet t s d) (har : Arrival d r x r' z) (hr : r.uri.Settled)
    (huser : r.uri.userinfo = "") (hdeliverable : r'.Deliverable d) :
    ∃ o, ((route.serve r).outcome s x).2.sent = x.sent ++ [o] ∧
      r'.SentTo s.usual.headers d z.keepsHost o := by
  have hserve := h.outcome_of_no_answer haccepts hanswers hin
  rw [ha.handler_eq h.destined] at hserve
  obtain ⟨hsettled, huser'⟩ := har.uri hr
  obtain ⟨o, hsent, hto⟩ := Request.exists_sent (s := s) har.destination hsettled
    (huser'.trans huser) hd.settled hdeliverable
  refine ⟨o, ?_, hto⟩
  -- nothing more is sent on the way out
  have hsilent : ∀ a, Sheltered (Step.goOut (steps route t brought added) a >>= fun b =>
      pure (some b)) :=
    fun a => (Step.sheltered_goOut _ a).bind fun b => .pure (some b)
  rw [hserve, Serve.sent_bind_sheltered _ hsilent, hsent, har.sent]

end Builtin

namespace Sample

def unnamed : RouteSpec :=
  ⟨"r", "http://xn--a.local", ⟨"http", "", "xn--a.local", none, "", none, none⟩, [], [], {}, 0,
    by rfl, by decide⟩

end Sample

end HttpGateway
