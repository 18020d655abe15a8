import HttpGateway.Gateway.Compiler
import HttpGateway.Proofs.Gateway.Testing

namespace HttpGateway

theorem Serve.ext_outcome {α : Type} {k l : Serve α}
    (h : ∀ s x, k.outcome s x = l.outcome s x) : k = l :=
  funext fun s => funext fun x => h s x

namespace Predicate

variable (s : Surroundings) (r : Request)

/-- The predicates of a list that are asked one after another, and how it ends: the last one that
is asked is the first one that does not accept, and what it says is the end; or all accept. -/
inductive Asked : List Predicate → Exchange → List Predicate → Except Failure Bool × Exchange → Prop
  | done {x} : Asked [] x [] (.ok true, x)
  | last {p ps x said y} : (p.accepts r).outcome s x = (said, y) → said ≠ .ok true →
      Asked (p :: ps) x [p] (said, y)
  | next {p ps x y asked o} : (p.accepts r).outcome s x = (.ok true, y) → Asked ps y asked o →
      Asked (p :: ps) x (p :: asked) o

inductive AskedBoth (ps qs : List Predicate) (x : Exchange) :
    List Predicate → Except Failure Bool × Exchange → Prop
  | first {asked said y} : Asked s r ps x asked (said, y) → said ≠ .ok true →
      AskedBoth ps qs x asked (said, y)
  | second {asked more y o} : Asked s r ps x asked (.ok true, y) → Asked s r qs y more o →
      AskedBoth ps qs x (asked ++ more) o

variable {s r} {ps qs asked asked' more : List Predicate} {x y : Exchange}
  {said : Except Failure Bool} {o o' : Except Failure Bool × Exchange}

theorem exists_asked (ps : List Predicate) (x : Exchange) : ∃ asked o, Asked s r ps x asked o := by
  induction ps generalizing x with
  | nil => exact ⟨[], _, .done⟩
  | cons p ps ih =>
    rcases h : (p.accepts r).outcome s x with ⟨said, y⟩
    by_cases hsaid : said = .ok true
    · subst hsaid
      obtain ⟨asked, o, ho⟩ := ih y
      exact ⟨p :: asked, o, .next h ho⟩
    · exact ⟨[p], _, .last h hsaid⟩

theorem Asked.outcome (h : Asked s r ps x asked o) : ((allOf ps).accepts r).outcome s x = o := by
  induction h with
  | done => rfl
  | last hp hsaid => exact Stopped.outcome (.here hp hsaid)
  | next hp _ ih =>
    rw [outcome_accepts_allOf_cons, hp]
    exact ih

theorem Asked.unique (h : Asked s r ps x asked o) (h' : Asked s r ps x asked' o') :
    asked' = asked := by
  induction h generalizing asked' with
  | done =>
    cases h'
    rfl
  | last hp hsaid =>
    cases h' with
    | last => rfl
    | next hp' =>
      cases hp.symm.trans hp'
      exact absurd rfl hsaid
  | next hp _ ih =>
    cases h' with
    | last hp' hsaid =>
      cases hp.symm.trans hp'
      exact absurd rfl hsaid
    | next hp' hps' =>
      cases hp.symm.trans hp'
      rw [ih hps']

theorem Asked.isPrefix (h : Asked s r ps x asked o) : asked <+: ps := by
  induction h with
  | done => exact List.prefix_refl []
  | @last p ps => exact ⟨ps, rfl⟩
  | @next p _ _ _ _ _ _ _ ih => exact (List.prefix_cons_inj p).2 ih

theorem Asked.append_of_stopped (h : Asked s r ps x asked (said, y)) (hsaid : said ≠ .ok true)
    (qs : List Predicate) : Asked s r (ps ++ qs) x asked (said, y) := by
  generalize ho : (said, y) = o at h
  induction h with
  | done =>
    cases ho
    exact absurd rfl hsaid
  | last hp =>
    cases ho
    exact .last hp hsaid
  | next hp _ ih => exact .next hp (ih ho)

theorem Asked.append (h : Asked s r ps x asked (.ok true, y)) (h' : Asked s r qs y more o) :
    Asked s r (ps ++ qs) x (asked ++ more) o := by
  generalize ho : (Except.ok true, y) = o' at h
  induction h with
  | done =>
    cases ho
    exact h'
  | last _ hsaid =>
    cases ho
    exact absurd rfl hsaid
  | next hp _ ih => exact .next hp (ih ho)

theorem askedBoth_iff : AskedBoth s r ps qs x asked o ↔ Asked s r (ps ++ qs) x asked o := by
  have happend : ∀ {asked o}, AskedBoth s r ps qs x asked o → Asked s r (ps ++ qs) x asked o := by
    intro asked o h
    cases h with
    | first h hsaid => exact h.append_of_stopped hsaid qs
    | second h h' => exact h.append h'
  refine ⟨happend, fun h => ?_⟩
  obtain ⟨asked', ⟨said, y⟩, hps⟩ := exists_asked (s := s) (r := r) ps x
  have hboth : ∃ asked' o', AskedBoth s r ps qs x asked' o' := by
    by_cases hsaid : said = .ok true
    · subst hsaid
      obtain ⟨more, o', hqs⟩ := exists_asked (s := s) (r := r) qs y
      exact ⟨_, _, .second hps hqs⟩
    · exact ⟨_, _, .first hps hsaid⟩
  -- a list is asked in one way only, so this is the way it was
  obtain ⟨asked', o', hboth⟩ := hboth
  rw [(happend hboth).unique h, ← h.outcome, (happend hboth).outcome]
  exact hboth

theorem AskedBoth.outcome (h : AskedBoth s r ps qs x asked o) :
    ((both (allOf ps) (allOf qs)).accepts r).outcome s x = o := by
  rw [outcome_accepts_both]
  cases h with
  | @first _ said y h hsaid =>
    rw [h.outcome]
    rcases said with _ | _ | _
    · rfl
    · rfl
    · exact absurd rfl hsaid
  | second h h' =>
    rw [h.outcome]
    exact h'.outcome

theorem accepts_allOf_append (ps qs : List Predicate) (r : Request) :
    (allOf (ps ++ qs)).accepts r = (both (allOf ps) (allOf qs)).accepts r := by
  refine Serve.ext_outcome fun s x => ?_
  obtain ⟨asked, o, h⟩ := exists_asked (s := s) (r := r) (ps ++ qs) x
  rw [h.outcome, (askedBoth_iff.2 h).outcome]

theorem outcome_accepts_test (description : String) (run : Test) (r : Request) (s : Surroundings)
    (x : Exchange) : ((test description run).accepts r).outcome s x =
      (((run r).outcome s x).1.map Value.holds, ((run r).outcome s x).2) := by
  rw [accepts, Serve.outcome_bind]
  rcases (run r).outcome s x with ⟨_ | _, y⟩ <;> rfl

/-- A conjunction asks its predicates from the left to the right, each of them at most once, and no
more after the first one that does not accept; what that one says is the answer, and otherwise it is
yes. A test accepts if the value that it yields holds, also one that came without a description. The
conjunction of two lists in one is the conjunction of their conjunctions, and asks the same. -/
theorem allOf_asks_in_turn (r : Request) :
    (∀ ps s x, ∃ asked, asked <+: ps ∧ ∀ asked' o, Asked s r ps x asked' o ↔
      asked' = asked ∧ o = ((allOf ps).accepts r).outcome s x) ∧
    (∀ description run, (Product.test run).predicate? description = some (test description run) ∧
      ∀ s x, ((test description run).accepts r).outcome s x =
        (((run r).outcome s x).1.map Value.holds, ((run r).outcome s x).2)) ∧
    ∀ ps qs, (allOf (ps ++ qs)).accepts r = (both (allOf ps) (allOf qs)).accepts r ∧
      ∀ s x asked o, AskedBoth s r ps qs x asked o ↔ Asked s r (ps ++ qs) x asked o := by
  refine ⟨fun ps s x => ?_, fun description run => ⟨rfl, fun s x => ?_⟩, fun ps qs => ?_⟩
  · obtain ⟨asked, o, h⟩ := exists_asked (s := s) (r := r) ps x
    refine ⟨asked, h.isPrefix, fun asked' o' => ⟨fun h' => ?_, ?_⟩⟩
    · exact ⟨h.unique h', h'.outcome.symm⟩
    · rintro ⟨rfl, rfl⟩
      rwa [h.outcome]
  · exact outcome_accepts_test description run r s x
  · exact ⟨accepts_allOf_append ps qs r, fun s x asked o => askedBoth_iff⟩

end Predicate

end HttpGateway
