import HttpGateway.Proofs.Client.Cookies
import HttpGateway.Proofs.Outcome

/-!
Serving and the kept cookies. Most computations have nothing to do with them: they run alike
whatever cookies are kept, keep them as they are and send nothing. Around one sending they prepare a
request and leave it to the sending to complete it.
-/

namespace HttpGateway

variable {α β : Type}

def Event.sent? : Event → Option Outbound
  | .sent o => some o
  | _ => none

namespace Exchange

def sent (x : Exchange) : List Outbound := x.journal.filterMap Event.sent?

def withJar (x : Exchange) (jar : CookieJar) : Exchange := { x with jar }

@[simp]
theorem withJar_self (x : Exchange) : x.withJar x.jar = x := rfl

@[simp]
theorem jar_withJar (x : Exchange) (jar : CookieJar) : (x.withJar jar).jar = jar := rfl

@[simp]
theorem sent_withJar (x : Exchange) (jar : CookieJar) : (x.withJar jar).sent = x.sent := rfl

end Exchange

namespace Serve

@[simp]
theorem outcome_lift {ε : Type} (means : ε → Failure) (r : Except ε α) (s : Surroundings)
    (x : Exchange) : (lift means r).outcome s x = (r.mapError means, x) := by
  cases r <;> rfl

@[simp]
theorem outcome_require (failure : Failure) (a : Option α) (s : Surroundings) (x : Exchange) :
    (require failure a).outcome s x = (a.elim (.error failure) .ok, x) := by
  cases a <;> rfl

/-- A computation that has nothing to do with the kept cookies and sends nothing. -/
structure Sheltered (k : Serve α) : Prop where
  alike : ∀ s x jar,
    k.outcome s (x.withJar jar) = ((k.outcome s x).1, (k.outcome s x).2.withJar jar)
  silent : ∀ s x, (k.outcome s x).2.sent = x.sent

namespace Sheltered

theorem jar {k : Serve α} (h : Sheltered k) (s : Surroundings) (x : Exchange) :
    (k.outcome s x).2.jar = x.jar := by
  have hx := h.alike s x x.jar
  rw [Exchange.withJar_self] at hx
  exact congrArg (fun o => o.2.jar) hx

theorem pure (a : α) : Sheltered (Pure.pure a : Serve α) := ⟨fun _ _ _ => rfl, fun _ _ => rfl⟩

theorem throw (f : Failure) : Sheltered (MonadExcept.throw f : Serve α) :=
  ⟨fun _ _ _ => rfl, fun _ _ => rfl⟩

theorem read : Sheltered (MonadReader.read : Serve Surroundings) :=
  ⟨fun _ _ _ => rfl, fun _ _ => rfl⟩

theorem lift {ε : Type} (means : ε → Failure) (r : Except ε α) :
    Sheltered (Serve.lift means r) := by
  cases r with
  | ok a => exact pure a
  | error e => exact throw (means e)

theorem require (failure : Failure) (a : Option α) : Sheltered (Serve.require failure a) := by
  cases a with
  | none => exact throw failure
  | some a => exact pure a

theorem attribute? (name : String) : Sheltered (Serve.attribute? name) :=
  ⟨fun _ _ _ => rfl, fun _ _ => rfl⟩

theorem setAttribute (name : String) (v : Value) : Sheltered (Serve.setAttribute name v) :=
  ⟨fun _ _ _ => rfl, fun _ _ => rfl⟩

theorem note {e : Event} (h : e.sent? = none) : Sheltered (Serve.note e) := by
  refine ⟨fun _ _ _ => rfl, fun s x => ?_⟩
  change (x.journal ++ [e]).filterMap Event.sent? = x.journal.filterMap Event.sent?
  rw [List.filterMap_append, List.filterMap_cons_none h, List.filterMap_nil, List.append_nil]

theorem bind {k : Serve α} {f : α → Serve β} (hk : Sheltered k) (hf : ∀ a, Sheltered (f a)) :
    Sheltered (k >>= f) := by
  constructor
  · intro s x jar
    simp only [outcome_bind]
    rw [hk.alike]
    rcases k.outcome s x with ⟨e | a, y⟩
    · rfl
    · exact (hf a).alike s y jar
  · intro s x
    rw [outcome_bind, ← hk.silent s x]
    rcases k.outcome s x with ⟨e | a, y⟩
    · rfl
    · exact (hf a).silent s y

end Sheltered

/-- A computation that sends at most one request. It is prepared without regard to the kept cookies,
and only a response to it changes them. -/
structure Forwards (k : Serve α) : Prop where
  sends : ∀ (s : Surroundings) (x : Exchange), ∃ prepared, ∀ jar,
    (k.outcome s (x.withJar jar)).2.sent = x.sent ++ Outbound.outgoing prepared jar s.clock
  keeps : ∀ s x, (k.outcome s x).2.jar = x.jar ∨ ∃ o response, s.backend o = .ok response ∧
    (k.outcome s x).2.jar = x.jar.collect s.clock s.year o response

theorem Sheltered.forwards {k : Serve α} (h : Sheltered k) : Forwards k := by
  constructor
  · intro s x
    refine ⟨none, fun jar => ?_⟩
    rw [h.silent, Exchange.sent_withJar]
    exact (List.append_nil _).symm
  · intro s x
    exact .inl (h.jar s x)

theorem Sheltered.bind_forwards {k : Serve α} {f : α → Serve β} (hk : Sheltered k)
    (hf : ∀ a, Forwards (f a)) : Forwards (k >>= f) := by
  constructor
  · intro s x
    have hsilent := hk.silent s x
    rcases ho : k.outcome s x with ⟨e | a, y⟩
    · -- it fails before anything is prepared, whatever cookies are kept
      refine ⟨none, fun jar => ?_⟩
      rw [outcome_bind, hk.alike, ho]
      rw [ho] at hsilent
      rw [← hsilent]
      exact (List.append_nil _).symm
    · obtain ⟨prepared, hp⟩ := (hf a).sends s y
      refine ⟨prepared, fun jar => ?_⟩
      rw [outcome_bind, hk.alike, ho]
      rw [ho] at hsilent
      rw [← hsilent]
      exact hp jar
  · intro s x
    have hjar := hk.jar s x
    rw [outcome_bind]
    rcases ho : k.outcome s x with ⟨e | a, y⟩
    · rw [ho] at hjar
      exact .inl hjar
    · rw [ho] at hjar
      rw [← hjar]
      exact (hf a).keeps s y

theorem sent_bind_sheltered (k : Serve α) {f : α → Serve β} (hf : ∀ a, Sheltered (f a))
    (s : Surroundings) (x : Exchange) :
    ((k >>= f).outcome s x).2.sent = (k.outcome s x).2.sent := by
  rw [outcome_bind]
  rcases k.outcome s x with ⟨e | a, y⟩
  · rfl
  · exact (hf a).silent s y

theorem Forwards.bind_sheltered {k : Serve α} {f : α → Serve β} (hk : Forwards k)
    (hf : ∀ a, Sheltered (f a)) : Forwards (k >>= f) := by
  have hsent := sent_bind_sheltered k hf
  have hjar : ∀ s x, ((k >>= f).outcome s x).2.jar = (k.outcome s x).2.jar := by
    intro s x
    rw [outcome_bind]
    rcases k.outcome s x with ⟨e | a, y⟩
    · rfl
    · exact (hf a).jar s y
  constructor
  · intro s x
    obtain ⟨prepared, hp⟩ := hk.sends s x
    exact ⟨prepared, fun jar => (hsent s _).trans (hp jar)⟩
  · intro s x
    rw [hjar]
    exact hk.keeps s x

@[simp]
theorem outcome_read (s : Surroundings) (x : Exchange) :
    (MonadReader.read : Serve Surroundings).outcome s x = (.ok s, x) := rfl

@[simp]
theorem outcome_get (s : Surroundings) (x : Exchange) :
    (MonadState.get : Serve Exchange).outcome s x = (.ok x, x) := rfl

@[simp]
theorem outcome_note (e : Event) (s : Surroundings) (x : Exchange) :
    (note e).outcome s x = (.ok (), { x with journal := x.journal ++ [e] }) := rfl

@[simp]
theorem outcome_setAttribute (name : String) (v : Value) (s : Surroundings) (x : Exchange) :
    (setAttribute name v).outcome s x =
      (.ok (), { x with attributes := x.attributes.insert name v }) := rfl

@[simp]
theorem outcome_attribute? (name : String) (s : Surroundings) (x : Exchange) :
    (attribute? name).outcome s x = (.ok (x.attributes.get? name), x) := rfl

@[simp]
theorem outcome_modify (f : Exchange → Exchange) (s : Surroundings) (x : Exchange) :
    (modify f : Serve Unit).outcome s x = (.ok (), f x) := rfl

def taken (s : Surroundings) (o : Outbound) (x : Exchange) : Except Failure Response × Exchange :=
  match s.backend o with
  | .error e => (.error e, x)
  | .ok response =>
    match Outbound.cookieAddress o.uri with
    | .error e => (.error e, x)
    | .ok _ =>
      let y := x.withJar (x.jar.collect s.clock s.year o response)
      match response.location? with
      | none => (.ok response, y)
      | some location => ((o.checkLocation y.jar location).map fun _ => response, y)

theorem outcome_send (o : Outbound) (s : Surroundings) (x : Exchange) :
    o.send.outcome s x = match (o.withUsual s.usual.headers).complete x.jar s.clock with
      | .error e => (.error e, x)
      | .ok o => taken s o { x with journal := x.journal ++ [.sent o] } := by
  simp only [Outbound.send, outcome_bind, outcome_read, outcome_get, outcome_lift, outcome_note,
    outcome_modify]
  rcases (o.withUsual s.usual.headers).complete x.jar s.clock with e | o
  · rfl
  · simp only [taken, Except.mapError]
    rcases s.backend o with e | response
    · rfl
    · rcases Outbound.cookieAddress o.uri with e | _
      · rfl
      · dsimp only
        cases response.location? with
        | none => rfl
        | some location =>
          simp only [outcome_bind, outcome_get, outcome_lift, Exchange.withJar]
          rcases o.checkLocation _ location with e | _ <;> rfl

theorem taken_eq (s : Surroundings) (o : Outbound) (x : Exchange) :
    (taken s o x).2 = x ∨ ∃ response, s.backend o = .ok response ∧
      (taken s o x).2 = x.withJar (x.jar.collect s.clock s.year o response) := by
  rw [taken]
  rcases s.backend o with e | response
  · exact .inl rfl
  · rcases Outbound.cookieAddress o.uri with e | _
    · exact .inl rfl
    · refine .inr ⟨response, rfl, ?_⟩
      dsimp only
      cases response.location? <;> rfl

theorem sent_send {o o' : Outbound} {s : Surroundings} {x : Exchange}
    (h : (o.withUsual s.usual.headers).complete x.jar s.clock = .ok o') :
    (o.send.outcome s x).2.sent = x.sent ++ [o'] := by
  have hnoted : Exchange.sent { x with journal := x.journal ++ [.sent o'] } = x.sent ++ [o'] := by
    simp [Exchange.sent, Event.sent?]
  rw [outcome_send, h]
  rcases taken_eq s o' { x with journal := x.journal ++ [.sent o'] } with h | ⟨response, -, h⟩
  · exact (congrArg Exchange.sent h).trans hnoted
  · exact (congrArg Exchange.sent h).trans hnoted

theorem backend_of_send {o o' : Outbound} {s : Surroundings} {x : Exchange} {a : Response}
    (h : (o.withUsual s.usual.headers).complete x.jar s.clock = .ok o')
    (ha : (o.send.outcome s x).1 = .ok a) :
    s.backend o' = .ok a := by
  rw [outcome_send, h] at ha
  simp only [taken] at ha
  cases hbackend : s.backend o' with
  | error e =>
    rw [hbackend] at ha
    cases ha
  | ok response =>
    rw [hbackend] at ha
    dsimp only at ha
    split at ha
    · cases ha
    · split at ha
      · exact ha
      · obtain ⟨_, -, rfl⟩ := Outcome.map_eq_ok_iff.1 ha
        rfl

theorem forwards_send (o : Outbound) : Forwards o.send := by
  constructor
  · intro s x
    refine ⟨some (o.withUsual s.usual.headers), fun jar => ?_⟩
    rw [Outbound.outgoing]
    cases ho : (o.withUsual s.usual.headers).complete jar s.clock with
    | error e =>
      rw [outcome_send, Exchange.jar_withJar, ho]
      exact (List.append_nil _).symm
    | ok o' => exact sent_send ho
  · intro s x
    rw [outcome_send]
    rcases (o.withUsual s.usual.headers).complete x.jar s.clock with e | o
    · exact .inl rfl
    · rcases taken_eq s o { x with journal := x.journal ++ [.sent o] } with h | ⟨response, hr, h⟩
      · have hjar := congrArg Exchange.jar h
        exact .inl hjar
      · have hjar := congrArg Exchange.jar h
        exact .inr ⟨o, response, hr, hjar⟩

end Serve

end HttpGateway
