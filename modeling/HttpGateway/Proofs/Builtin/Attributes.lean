import HttpGateway.Proofs.Builtin.Delivery

/-!
The attributes that the stages of an exchange share. Only the steps on the way in change them, and
just those that a request gets to.
-/

namespace HttpGateway

namespace Serve

variable {α β : Type}

/-- A computation that leaves the attributes as they are, however it ends. -/
def Steady (k : Serve α) : Prop := ∀ s x, (k.outcome s x).2.attributes = x.attributes

namespace Steady

theorem pure (a : α) : Steady (Pure.pure a : Serve α) := fun _ _ => rfl

theorem throw (f : Failure) : Steady (MonadExcept.throw f : Serve α) := fun _ _ => rfl

theorem lift {ε : Type} (means : ε → Failure) (r : Except ε α) : Steady (Serve.lift means r) := by
  intro s x
  rw [outcome_lift]

theorem require (failure : Failure) (a : Option α) : Steady (Serve.require failure a) := by
  intro s x
  rw [outcome_require]

theorem attribute? (name : String) : Steady (Serve.attribute? name) := fun _ _ => rfl

theorem note (e : Event) : Steady (Serve.note e) := fun _ _ => rfl

theorem bind_attributes (k : Serve α) {f : α → Serve β} (hf : ∀ a, Steady (f a)) (s : Surroundings)
    (x : Exchange) : ((k >>= f).outcome s x).2.attributes = (k.outcome s x).2.attributes := by
  rw [outcome_bind]
  rcases k.outcome s x with ⟨e | a, y⟩
  · rfl
  · exact hf a s y

theorem bind {k : Serve α} {f : α → Serve β} (hk : Steady k) (hf : ∀ a, Steady (f a)) :
    Steady (k >>= f) := by
  intro s x
  rw [bind_attributes k hf, hk]

theorem send (o : Outbound) : Steady o.send := by
  intro s x
  rw [outcome_send]
  rcases (o.withUsual s.usual.headers).complete x.jar s.clock with e | o
  · rfl
  · rcases taken_eq s o { x with journal := x.journal ++ [.sent o] } with h | ⟨response, -, h⟩
    · have hattributes := congrArg Exchange.attributes h
      exact hattributes
    · have hattributes := congrArg Exchange.attributes h
      exact hattributes

end Steady

end Serve

open Serve (Steady)

theorem Request.steady_forward (r : Request) : Steady r.forward := by
  refine (Steady.attribute? _).bind fun v => ?_
  split
  · refine (Steady.lift _ _).bind fun shown => ?_
    refine (Steady.lift _ _).bind fun uri => (Steady.attribute? _).bind fun v => ?_
    refine (Steady.require _ _).bind fun headers => (Steady.note _).bind fun _ => ?_
    exact (Steady.lift _ _).bind fun target => .send _
  · exact .throw _

theorem ResponseEdit.steady_apply (e : ResponseEdit) (a : Response) : Steady (e.apply a) := by
  refine (Steady.require _ _).bind fun headers => ?_
  cases e <;> exact .pure _

theorem Redirection.steady_respond (d : Redirection) : Steady d.respond :=
  (Steady.require _ _).bind fun _ => .pure _

namespace RequestEdit

theorem steady_withPath (r : Request) (path : String) : Steady (withPath r path) := .lift _ _

theorem steady_withParams (r : Request) (ps : Uri.Params) : Steady (withParams r ps) :=
  (Steady.lift _ _).bind fun _ => .pure _

theorem steady_apply {e : RequestEdit} (he : e.keepsHost = false) (r : Request) :
    Steady (e.apply r) := by
  cases e with
  | stripPath parts => exact steady_withPath r _
  | extendPath start => exact steady_withPath r _
  | setPath path => exact steady_withPath r path
  | substituteInPath pattern template =>
    exact (Steady.lift _ _).bind fun path => steady_withPath r path
  | addHeader name values => exact (Steady.require _ _).bind fun _ => .pure _
  | setHeader name values => exact .pure _
  | removeHeader name => exact (Steady.require _ _).bind fun _ => .pure _
  | setHost host => cases he
  | keepHost => cases he
  | addParameter name values => exact steady_withParams r _
  | removeParameter name => exact steady_withParams r _

theorem attributes_apply (e : RequestEdit) (r : Request) (s : Surroundings) (x : Exchange) :
    ((e.apply r).outcome s x).2.attributes =
      if e.keepsHost then x.attributes.insert keepHostAttribute (.bool true)
      else x.attributes := by
  cases he : e.keepsHost with
  | false => exact steady_apply he r s x
  | true =>
    cases e with
    | setHost host => rfl
    | keepHost => rfl
    | _ => cases he

end RequestEdit

namespace Builtin

namespace Step

def marks (s : Surroundings) (attributes : OrderedMap Value) : Step → OrderedMap Value
  | stamp id destination =>
    (attributes.insert destinationAttribute (.uri destination)).insert routeAttribute (.text id)
  | balance service instances =>
    match (balance service instances).aim? s with
    | some uri => attributes.insert destinationAttribute (.uri uri)
    | none => attributes
  | request e => if e.keepsHost then attributes.insert keepHostAttribute (.bool true) else attributes
  | response _ => attributes
  | redirect _ => attributes

variable {s : Surroundings} {p : Step} {ps : List Step} {r : Request} {x : Exchange}

theorem attributes_incoming (p : Step) (s : Surroundings) (r : Request) (x : Exchange) :
    ((p.incoming?.getD pure r).outcome s x).2.attributes = marks s x.attributes p := by
  cases p with
  | stamp id destination => rfl
  | balance service instances =>
    change ((Balancer.pick service instances r).outcome s x).2.attributes = _
    cases hi : Balancer.choose s.pick instances with
    | none => simp [Balancer.pick, marks, aim?, hi]
    | some i => cases hu : Uri.parse i <;> simp [Balancer.pick, marks, aim?, hi, hu, Except.toOption]
  | request e => exact e.attributes_apply r s x
  | response e => rfl
  | redirect d => rfl

/-- The steps that a request gets to: behind one that answers or fails there are none. -/
def reached (s : Surroundings) : List Step → Request → Exchange → List Step
  | [], _, _ => []
  | p :: ps, r, x => p :: match p.answer?, (p.incoming?.getD pure r).outcome s x with
    | none, (.ok r', y) => reached s ps r' y
    | _, _ => []

theorem steady_outgoing (p : Step) (a : Response) : Steady (p.outgoing?.getD pure a) := by
  cases p with
  | response e => exact e.steady_apply a
  | stamp | balance | request | redirect => exact .pure a

theorem steady_answer {k : Serve Response} (h : p.answer? = some k) : Steady k := by
  cases p with
  | balance service instances =>
    cases instances with
    | nil =>
      cases h
      exact .pure _
    | cons => cases h
  | redirect d =>
    cases h
    exact d.steady_respond
  | stamp | request | response => cases h

theorem marks_of_answer {k : Serve Response} (h : p.answer? = some k)
    (attributes : OrderedMap Value) : marks s attributes p = attributes := by
  cases p with
  | balance service instances =>
    cases instances with
    | nil => rfl
    | cons => cases h
  | redirect d => rfl
  | stamp | request | response => cases h

theorem reached_cons_of_answer {k : Serve Response} (h : p.answer? = some k) :
    reached s (p :: ps) r x = [p] := by
  rw [reached, h]

theorem reached_cons_of_failure {f : Failure} {y : Exchange} (h : p.answer? = none)
    (hf : (p.incoming?.getD pure r).outcome s x = (.error f, y)) :
    reached s (p :: ps) r x = [p] := by
  rw [reached, h, hf]

theorem reached_cons_of_passed {r' : Request} {y : Exchange} (h : p.answer? = none)
    (hr : (p.incoming?.getD pure r).outcome s x = (.ok r', y)) :
    reached s (p :: ps) r x = p :: reached s ps r' y := by
  rw [reached, h, hr]

theorem attributes_chain {h : Handler} (hh : ∀ r, Steady (h r)) (ps : List Step) (r : Request)
    (s : Surroundings) (x : Exchange) :
    ((Filter.chain (ps.map filter) h r).outcome s x).2.attributes =
      (reached s ps r x).foldl (marks s) x.attributes := by
  induction ps generalizing r x with
  | nil => exact hh r s x
  | cons p ps ih =>
    change ((p.filter (Filter.chain (ps.map filter) h) r).outcome s x).2.attributes = _
    cases hp : p.answer? with
    | some k =>
      rw [filter_of_answer hp, steady_answer hp, reached_cons_of_answer hp, List.foldl_cons,
        List.foldl_nil, marks_of_answer hp]
    | none =>
      have hmarks := attributes_incoming p s r x
      -- the way out sets nothing, so what counts is where the way in ends
      rw [filter_of_no_answer hp, Steady.bind_attributes _ (steady_outgoing p)]
      rcases hr : (p.incoming?.getD pure r).outcome s x with ⟨f | r', y⟩
      · rw [hr] at hmarks
        rw [Serve.outcome_bind, hr, reached_cons_of_failure hp hr]
        exact hmarks
      · rw [hr] at hmarks
        rw [Serve.outcome_bind_ok hr, ih, reached_cons_of_passed hp hr, List.foldl_cons, ← hmarks]

def Through (s : Surroundings) (ps : List Step) (r : Request) (x : Exchange) : Prop :=
  (∀ p ∈ ps, p.answer? = none) ∧ ∃ r' y, (comeIn ps r).outcome s x = (.ok r', y)

theorem through_nil : Through s [] r x := ⟨List.forall_mem_nil _, r, x, rfl⟩

theorem through_cons_iff : Through s (p :: ps) r x ↔ p.answer? = none ∧
    ∃ r' y, (p.incoming?.getD pure r).outcome s x = (.ok r', y) ∧ Through s ps r' y := by
  rw [Through, List.forall_mem_cons, comeIn_cons]
  constructor
  · rintro ⟨⟨hp, hps⟩, r'', z, hin⟩
    rw [Serve.outcome_bind] at hin
    rcases hr : (p.incoming?.getD pure r).outcome s x with ⟨f | r', y⟩
    · rw [hr] at hin
      cases hin
    · rw [hr] at hin
      exact ⟨hp, r', y, rfl, hps, r'', z, hin⟩
  · rintro ⟨hp, r', y, hr, hps, r'', z, hin⟩
    refine ⟨⟨hp, hps⟩, r'', z, ?_⟩
    rw [Serve.outcome_bind_ok hr, hin]

theorem mem_reached_iff : p ∈ reached s ps r x ↔
    ∃ before after, ps = before ++ p :: after ∧ Through s before r x := by
  induction ps generalizing r x with
  | nil => simp [reached]
  | cons q ps ih =>
    -- the first step is always reached, and those behind it from the request that it passes on
    constructor
    · intro h
      cases hq : q.answer? with
      | some k =>
        rw [reached_cons_of_answer hq, List.mem_singleton] at h
        exact ⟨[], ps, by rw [h]; rfl, through_nil⟩
      | none =>
        rcases hr : (q.incoming?.getD pure r).outcome s x with ⟨f | r', y⟩
        · rw [reached_cons_of_failure hq hr, List.mem_singleton] at h
          exact ⟨[], ps, by rw [h]; rfl, through_nil⟩
        · rw [reached_cons_of_passed hq hr, List.mem_cons] at h
          rcases h with rfl | h
          · exact ⟨[], ps, rfl, through_nil⟩
          · obtain ⟨before, after, rfl, hbefore⟩ := ih.1 h
            exact ⟨q :: before, after, rfl, through_cons_iff.2 ⟨hq, r', y, hr, hbefore⟩⟩
    · rintro ⟨before, after, hsplit, hbefore⟩
      cases before with
      | nil =>
        cases hsplit
        rw [reached]
        exact List.mem_cons_self
      | cons q' before =>
        cases hsplit
        obtain ⟨hq, r', y, hr, hbefore⟩ := through_cons_iff.1 hbefore
        rw [reached_cons_of_passed hq hr]
        exact List.mem_cons_of_mem q (ih.2 ⟨before, after, rfl, hbefore⟩)

theorem mem_of_mem_reached (h : p ∈ reached s ps r x) : p ∈ ps := by
  obtain ⟨before, after, rfl, -⟩ := mem_reached_iff.1 h
  exact List.mem_append_right before List.mem_cons_self

def touched : Step → List String
  | stamp .. => [destinationAttribute, routeAttribute]
  | balance .. => [destinationAttribute]
  | request e => if e.keepsHost then [keepHostAttribute] else []
  | response _ => []
  | redirect _ => []

theorem get?_marks_of_untouched {name : String} (h : name ∉ p.touched)
    (attributes : OrderedMap Value) : (marks s attributes p).get? name = attributes.get? name := by
  cases p with
  | stamp id destination =>
    rw [touched, List.mem_cons, List.mem_singleton, not_or] at h
    rw [marks, OrderedMap.get?_insert, OrderedMap.get?_insert, if_neg h.2, if_neg h.1]
  | balance service instances =>
    rw [touched, List.mem_singleton] at h
    rw [marks]
    split
    · rw [OrderedMap.get?_insert, if_neg h]
    · rfl
  | request e =>
    rw [marks]
    cases he : e.keepsHost with
    | false => rfl
    | true =>
      rw [touched, he, if_pos rfl, List.mem_singleton] at h
      rw [if_pos rfl, OrderedMap.get?_insert, if_neg h]
  | response | redirect => rfl

theorem get?_foldl_marks_of_untouched {name : String} (h : ∀ p ∈ ps, name ∉ p.touched)
    (attributes : OrderedMap Value) :
    (ps.foldl (marks s) attributes).get? name = attributes.get? name := by
  induction ps generalizing attributes with
  | nil => rfl
  | cons p ps ih =>
    obtain ⟨hp, hps⟩ := List.forall_mem_cons.1 h
    rw [List.foldl_cons, ih hps, get?_marks_of_untouched hp]

theorem keepHost_not_mem_touched (h : p.keepsHost = false) : keepHostAttribute ∉ p.touched := by
  cases p with
  | request e =>
    have he : e.keepsHost = false := h
    simp [touched, he]
  | stamp | balance | response | redirect => simp [touched, keepHostAttribute,
      destinationAttribute, routeAttribute]

theorem get?_marks_keepHost (p : Step) (attributes : OrderedMap Value) :
    (marks s attributes p).get? keepHostAttribute =
      if p.keepsHost then some (.bool true) else attributes.get? keepHostAttribute := by
  cases hp : p.keepsHost with
  | false => exact get?_marks_of_untouched (keepHost_not_mem_touched hp) attributes
  | true =>
    cases p with
    | request e =>
      have he : e.keepsHost = true := hp
      rw [marks, if_pos he, OrderedMap.get?_insert, if_pos rfl, if_pos rfl]
    | stamp | balance | response | redirect => cases hp

theorem get?_marks_destination (p : Step) (attributes : OrderedMap Value) :
    (marks s attributes p).get? destinationAttribute =
      ((p.aim? s).map Value.uri).or (attributes.get? destinationAttribute) := by
  cases p with
  | stamp id destination =>
    have hroute : destinationAttribute ≠ routeAttribute := by decide
    rw [marks, OrderedMap.get?_insert, if_neg hroute, OrderedMap.get?_insert, if_pos rfl]
    rfl
  | balance service instances =>
    rw [marks]
    cases (balance service instances).aim? s with
    | none => rfl
    | some uri =>
      change (attributes.insert destinationAttribute (.uri uri)).get? destinationAttribute = _
      rw [OrderedMap.get?_insert, if_pos rfl]
      rfl
  | request e =>
    have huntouched : destinationAttribute ∉ (request e).touched := by
      rw [touched]
      split <;> decide
    exact get?_marks_of_untouched huntouched attributes
  | response | redirect => rfl

theorem get?_foldl_marks_keepHost (ps : List Step) (attributes : OrderedMap Value) :
    (ps.foldl (marks s) attributes).get? keepHostAttribute =
      if ps.any keepsHost then some (.bool true) else attributes.get? keepHostAttribute := by
  induction ps generalizing attributes with
  | nil => rfl
  | cons p ps ih =>
    rw [List.foldl_cons, ih, get?_marks_keepHost, List.any_cons]
    cases p.keepsHost <;> cases ps.any keepsHost <;> rfl

theorem get?_foldl_marks_destination (ps : List Step) (attributes : OrderedMap Value) :
    (ps.foldl (marks s) attributes).get? destinationAttribute =
      ((lastAim? s ps).map Value.uri).or (attributes.get? destinationAttribute) := by
  induction ps generalizing attributes with
  | nil => rfl
  | cons p ps ih =>
    rw [List.foldl_cons, ih, get?_marks_destination, lastAim?_cons]
    cases lastAim? s ps <;> rfl

theorem exists_reached_cons (s : Surroundings) (p : Step) (ps : List Step) (r : Request)
    (x : Exchange) : ∃ rest, reached s (p :: ps) r x = p :: rest ∧ ∀ q ∈ rest, q ∈ ps := by
  cases hp : p.answer? with
  | some k => exact ⟨[], reached_cons_of_answer hp, List.forall_mem_nil _⟩
  | none =>
    rcases hr : (p.incoming?.getD pure r).outcome s x with ⟨f | r', y⟩
    · exact ⟨[], reached_cons_of_failure hp hr, List.forall_mem_nil _⟩
    · exact ⟨_, reached_cons_of_passed hp hr, fun q => mem_of_mem_reached⟩

end Step

end Builtin

end HttpGateway
