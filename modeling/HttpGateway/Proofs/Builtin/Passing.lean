import HttpGateway.Proofs.Builtin.Folds
import HttpGateway.Proofs.Message.Request

/-!
What the steps of a route keep of a request that they pass on: method and content, the user of its
address and its normal form. Of the attributes they set the destination, and whether the host is to
be kept.
-/

namespace HttpGateway

def Request.rewritten (r : Request) (f : Headers → Option Headers) : Except Failure Request :=
  match f r.headers with
  | none => .error .notAscii
  | some h => .ok (r.withHeaders h)

namespace RequestEdit

def keepsHost : RequestEdit → Bool
  | setHost _ => true
  | keepHost => true
  | _ => false

def inPlace? : RequestEdit → Option (Headers → Option Headers)
  | addHeader name values => some fun h => addedTo h name values
  | setHeader name values => some fun h => some (h.put name (Headers.joined values))
  | removeHeader name => some fun h => h.erase? name
  | setHost host => some fun h => some (h.put "host" host)
  | _ => none

variable {e : RequestEdit} {r r' : Request} {s : Surroundings} {x y : Exchange}

def leaving (e : RequestEdit) (x : Exchange) : Exchange :=
  if e.keepsHost then { x with attributes := x.attributes.insert keepHostAttribute (.bool true) }
  else x

theorem outcome_require_headers (f : Headers → Option Headers) (r : Request) (s : Surroundings)
    (x : Exchange) :
    (Serve.require .notAscii (f r.headers) >>= fun h => pure (r.withHeaders h)).outcome s x =
      (r.rewritten f, x) := by
  cases h : f r.headers <;> simp [Request.rewritten, h]

theorem outcome_apply_of_inPlace {f : Headers → Option Headers} (he : e.inPlace? = some f)
    (r : Request) (s : Surroundings) (x : Exchange) :
    (e.apply r).outcome s x = (r.rewritten f, e.leaving x) := by
  cases e with
  | addHeader name values =>
    cases he
    exact outcome_require_headers (fun h => addedTo h name values) r s x
  | setHeader name values =>
    cases he
    rfl
  | removeHeader name =>
    cases he
    exact outcome_require_headers (fun h => h.erase? name) r s x
  | setHost host =>
    cases he
    rfl
  | _ => cases he

theorem readdressed_of_withPath {path : String}
    (h : (withPath r path).outcome s x = (.ok r', y)) : r.Readdressed r' ∧ y = x := by
  cases hr : r.withRawPath path with
  | error e => simp [withPath, hr] at h
  | ok r'' =>
    obtain ⟨rfl, rfl⟩ : r'' = r' ∧ x = y := by simpa [withPath, hr] using h
    exact ⟨Request.readdressed_of_withRawPath hr, rfl⟩

theorem readdressed_of_withParams {ps : Uri.Params}
    (h : (withParams r ps).outcome s x = (.ok r', y)) : r.Readdressed r' ∧ y = x := by
  cases hr : r.uri.withParams ps with
  | error e => simp [withParams, hr] at h
  | ok uri =>
    obtain ⟨rfl, rfl⟩ : r.withUri uri = r' ∧ x = y := by simpa [withParams, hr] using h
    exact ⟨Request.readdressed_of_withParams hr, rfl⟩

theorem readdressed_of_apply (he : e.inPlace? = none)
    (h : (e.apply r).outcome s x = (.ok r', y)) : r.Readdressed r' ∧ y = e.leaving x := by
  cases e with
  | stripPath parts => exact readdressed_of_withPath h
  | extendPath start => exact readdressed_of_withPath h
  | setPath path => exact readdressed_of_withPath h
  | substituteInPath pattern template =>
    cases hpath : pattern.substitute template r.rawPath with
    | error e => simp [apply, hpath] at h
    | ok path =>
      rw [apply, Serve.outcome_bind, Serve.outcome_lift, hpath] at h
      exact readdressed_of_withPath h
  | keepHost =>
    cases h
    exact ⟨⟨rfl, fun hr => ⟨hr, rfl⟩⟩, rfl⟩
  | addParameter name values => exact readdressed_of_withParams h
  | removeParameter name => exact readdressed_of_withParams h
  | _ => cases he

structure Edited (e : RequestEdit) (r r' : Request) (x y : Exchange) : Prop where
  method : r'.method = r.method
  content : r'.content = r.content
  uri : r.uri.Settled → r'.uri.Settled ∧ r'.uri.userinfo = r.uri.userinfo
  exchange : y = if e.keepsHost then
      { x with attributes := x.attributes.insert keepHostAttribute (.bool true) }
    else x

theorem edited_of_apply (h : (e.apply r).outcome s x = (.ok r', y)) : e.Edited r r' x y := by
  cases he : e.inPlace? with
  | none =>
    obtain ⟨hr, hy⟩ := readdressed_of_apply he h
    refine ⟨?_, ?_, hr.settled, hy⟩
    · rw [hr.eq]
      rfl
    · rw [hr.eq]
      rfl
  | some f =>
    rw [outcome_apply_of_inPlace he, Request.rewritten] at h
    cases hf : f r.headers with
    | none =>
      rw [hf] at h
      cases h
    | some headers =>
      rw [hf] at h
      cases h
      exact ⟨rfl, rfl, fun hr => ⟨hr, rfl⟩, rfl⟩

end RequestEdit

theorem Balancer.outcome_pick_eq_ok_iff {service : String} {instances : List String}
    {r r' : Request} {s : Surroundings} {x y : Exchange} :
    (pick service instances r).outcome s x = (.ok r', y) ↔
      ∃ i u, choose s.pick instances = some i ∧ Uri.parse i = .ok u ∧ r' = r ∧
        y = { x with attributes := x.attributes.insert destinationAttribute (.uri u) } := by
  cases hi : choose s.pick instances with
  | none => simp [pick, hi]
  | some i =>
    cases hu : Uri.parse i with
    | error e => simp [pick, hi, hu]
    | ok u => simp [pick, hi, hu, eq_comm]

namespace Builtin.Step

def keepsHost : Step → Bool
  | request e => e.keepsHost
  | _ => false

def aim? (s : Surroundings) : Step → Option Uri
  | stamp _ destination => some destination
  | balance _ instances => (Balancer.choose s.pick instances).bind fun i => (Uri.parse i).toOption
  | _ => none

def lastAim? (s : Surroundings) (ps : List Step) : Option Uri := ps.reverse.findSome? (aim? s)

@[simp]
theorem lastAim?_append (s : Surroundings) (ps qs : List Step) :
    lastAim? s (ps ++ qs) = (lastAim? s qs).or (lastAim? s ps) := by
  rw [lastAim?, List.reverse_append, List.findSome?_append]
  rfl

@[simp]
theorem lastAim?_singleton (s : Surroundings) (p : Step) : lastAim? s [p] = p.aim? s := by
  rw [lastAim?, List.reverse_singleton, List.findSome?_singleton]

theorem lastAim?_cons (s : Surroundings) (p : Step) (ps : List Step) :
    lastAim? s (p :: ps) = (lastAim? s ps).or (p.aim? s) := by
  rw [← lastAim?_singleton]
  exact lastAim?_append s [p] ps

theorem lastAim?_of_none {s : Surroundings} {ps : List Step} (h : ∀ p ∈ ps, p.aim? s = none) :
    lastAim? s ps = none := by
  rw [lastAim?, List.findSome?_eq_none_iff]
  exact fun p hp => h p (List.mem_reverse.1 hp)

/-- What steps keep of a request, and what they set in the exchange. -/
structure Carried (s : Surroundings) (ps : List Step) (r : Request) (x : Exchange) (r' : Request)
    (y : Exchange) : Prop where
  method : r'.method = r.method
  content : r'.content = r.content
  uri : r.uri.Settled → r'.uri.Settled ∧ r'.uri.userinfo = r.uri.userinfo
  keepHost : y.attributes.get? keepHostAttribute =
    if ps.any keepsHost then some (.bool true) else x.attributes.get? keepHostAttribute
  destination : y.attributes.get? destinationAttribute =
    ((lastAim? s ps).map Value.uri).or (x.attributes.get? destinationAttribute)

variable {s : Surroundings} {p : Step} {ps : List Step} {r r' r'' : Request} {x y z : Exchange}

theorem carried_nil (s : Surroundings) (r : Request) (x : Exchange) : Carried s [] r x r x :=
  ⟨rfl, rfl, fun h => ⟨h, rfl⟩, rfl, rfl⟩

theorem Carried.cons (hp : Carried s [p] r x r' y) (hps : Carried s ps r' y r'' z) :
    Carried s (p :: ps) r x r'' z := by
  refine ⟨hps.method.trans hp.method, hps.content.trans hp.content, fun hr => ?_, ?_, ?_⟩
  · obtain ⟨hsettled, huser⟩ := hp.uri hr
    obtain ⟨hsettled', huser'⟩ := hps.uri hsettled
    exact ⟨hsettled', huser'.trans huser⟩
  -- both attributes are as the later steps leave them, and those of the first step show through
  · rw [hps.keepHost, hp.keepHost, List.any_cons, List.any_cons, List.any_nil, Bool.or_false]
    cases p.keepsHost <;> cases ps.any keepsHost <;> rfl
  · rw [hps.destination, hp.destination, lastAim?_singleton, lastAim?_cons]
    cases lastAim? s ps <;> rfl

theorem carried_of_edited {e : RequestEdit} (h : e.Edited r r' x y) :
    Carried s [request e] r x r' y := by
  have hdestination : destinationAttribute ≠ keepHostAttribute := by decide
  refine ⟨h.method, h.content, h.uri, ?_, ?_⟩
  · rw [h.exchange]
    cases he : e.keepsHost with
    | false => simp [keepsHost, he]
    | true => simp [keepsHost, he]
  · rw [h.exchange]
    cases he : e.keepsHost with
    | false => rfl
    | true => simp [hdestination, lastAim?, aim?]

theorem carried_of_incoming (h : (p.incoming?.getD pure r).outcome s x = (.ok r', y)) :
    Carried s [p] r x r' y := by
  have hkeep : keepHostAttribute ≠ destinationAttribute := by decide
  have hroute : keepHostAttribute ≠ routeAttribute := by decide
  have hroute' : destinationAttribute ≠ routeAttribute := by decide
  cases p with
  | stamp id destination =>
    cases h
    refine ⟨rfl, rfl, fun hr => ⟨hr, rfl⟩, ?_, ?_⟩
    · simp [keepsHost, hkeep, hroute]
    · simp [hroute', lastAim?, aim?]
  | balance service instances =>
    have hpicked : (Balancer.pick service instances r).outcome s x = (.ok r', y) := h
    obtain ⟨i, u, hi, hu, rfl, rfl⟩ := Balancer.outcome_pick_eq_ok_iff.1 hpicked
    refine ⟨rfl, rfl, fun hr => ⟨hr, rfl⟩, ?_, ?_⟩
    · simp [keepsHost, hkeep]
    · simp [lastAim?, aim?, hi, hu, Except.toOption]
  | request e => exact carried_of_edited (RequestEdit.edited_of_apply h)
  | response e =>
    cases h
    exact ⟨rfl, rfl, fun hr => ⟨hr, rfl⟩, rfl, rfl⟩
  | redirect d =>
    cases h
    exact ⟨rfl, rfl, fun hr => ⟨hr, rfl⟩, rfl, rfl⟩

theorem carried_of_comeIn (h : (comeIn ps r).outcome s x = (.ok r', y)) : Carried s ps r x r' y := by
  induction ps generalizing r x with
  | nil =>
    cases h
    exact carried_nil _ _ _
  | cons p ps ih =>
    rw [comeIn_cons, Serve.outcome_bind] at h
    rcases hp : (p.incoming?.getD pure r).outcome s x with ⟨f | r₁, x₁⟩
    · rw [hp] at h
      cases h
    · rw [hp] at h
      exact (carried_of_incoming hp).cons (ih h)

end Builtin.Step

end HttpGateway
