import HttpGateway.Gateway.Route
import HttpGateway.Proofs.Outcome
import HttpGateway.Provider.Declared

namespace HttpGateway

/-- What a filter does with a request: it answers by itself, or it passes a request on and says what
it does with the response that comes back. -/
abbrev Passage := Request → Serve (Response ⊕ (Request × (Response → Serve Response)))

namespace Passage

def filter (p : Passage) : Filter := fun next r => do
  match ← p r with
  | .inl answer => return answer
  | .inr (passed, leave) => leave (← next passed)

variable (s : Surroundings)

inductive Inward : List Passage → Request → Exchange →
    List (Response → Serve Response) → Request → Exchange → Prop
  | nil {r x} : Inward [] r x [] r x
  | cons {p ps r x r' leave y leaves r'' z} :
      (p r).outcome s x = (.ok (.inr (r', leave)), y) → Inward ps r' y leaves r'' z →
      Inward (p :: ps) r x (leave :: leaves) r'' z

/-- What turns a request: the first filter that is left answers it or fails, or the handler gets it
if none is left. -/
inductive Turned (h : Handler) : List Passage → Request → Exchange →
    Except Failure Response × Exchange → Prop
  | handled {r x} : Turned h [] r x ((h r).outcome s x)
  | answered {p ps r x a y} : (p r).outcome s x = (.ok (.inl a), y) →
      Turned h (p :: ps) r x (.ok a, y)
  | failed {p ps r x f y} : (p r).outcome s x = (.error f, y) → Turned h (p :: ps) r x (.error f, y)

inductive Outward : List (Response → Serve Response) → Except Failure Response × Exchange →
    Except Failure Response × Exchange → Prop
  | nil {o} : Outward [] o o
  | failed {leaves f x} : Outward leaves (.error f, x) (.error f, x)
  | left {leave leaves a x o} : Outward leaves ((leave a).outcome s x) o →
      Outward (leave :: leaves) (.ok a, x) o

def Crossed (ps : List Passage) (h : Handler) (r : Request) (x : Exchange)
    (o : Except Failure Response × Exchange) : Prop :=
  ∃ entered rest leaves r' y turn, ps = entered ++ rest ∧ Inward s entered r x leaves r' y ∧
    Turned s h rest r' y turn ∧ Outward s leaves.reverse turn o

variable {s}

theorem outcome_filter (p : Passage) (next : Handler) (r : Request) (x : Exchange) :
    (p.filter next r).outcome s x = match (p r).outcome s x with
      | (.ok (.inl a), y) => (.ok a, y)
      | (.ok (.inr (r', leave)), y) => (next r' >>= leave).outcome s y
      | (.error f, y) => (.error f, y) := by
  rw [filter, Serve.outcome_bind]
  rcases (p r).outcome s x with ⟨f | a | ⟨r', leave⟩, y⟩ <;> rfl

@[simp]
theorem chain_cons (p : Passage) (ps : List Passage) (h : Handler) :
    Filter.chain ((p :: ps).map filter) h = p.filter (Filter.chain (ps.map filter) h) := rfl

theorem Turned.outcome {h : Handler} {ps : List Passage} {r : Request} {x : Exchange}
    {o : Except Failure Response × Exchange} (ht : Turned s h ps r x o) :
    (Filter.chain (ps.map filter) h r).outcome s x = o := by
  cases ht with
  | handled => rfl
  | answered hp => rw [chain_cons, outcome_filter, hp]
  | failed hp => rw [chain_cons, outcome_filter, hp]

theorem Turned.change {h : Handler} {p : Passage} {ps : List Passage} {r : Request} {x : Exchange}
    {o : Except Failure Response × Exchange} (ht : Turned s h (p :: ps) r x o) (qs : List Passage)
    (h' : Handler) : Turned s h' (p :: qs) r x o := by
  cases ht with
  | answered hp => exact .answered hp
  | failed hp => exact .failed hp

def leaveWith (s : Surroundings) (leave : Response → Serve Response) :
    Except Failure Response × Exchange → Except Failure Response × Exchange
  | (.ok a, x) => (leave a).outcome s x
  | (.error f, x) => (.error f, x)

theorem outcome_bind_leave (k : Serve Response) (leave : Response → Serve Response) (x : Exchange) :
    (k >>= leave).outcome s x = leaveWith s leave (k.outcome s x) := by
  rw [Serve.outcome_bind]
  rcases k.outcome s x with ⟨f | a, y⟩ <;> rfl

theorem Outward.snoc {leaves : List (Response → Serve Response)} {leave : Response → Serve Response}
    {turn o : Except Failure Response × Exchange} (h : Outward s leaves turn o) :
    Outward s (leaves ++ [leave]) turn (leaveWith s leave o) := by
  induction h with
  | @nil o =>
    rcases o with ⟨f | a, x⟩
    · exact .failed
    · exact .left .nil
  | failed => exact .failed
  | left _ ih => exact .left ih

theorem Outward.unique {leaves : List (Response → Serve Response)}
    {turn o o' : Except Failure Response × Exchange} (h : Outward s leaves turn o)
    (h' : Outward s leaves turn o') : o = o' := by
  induction h with
  | nil => cases h' <;> rfl
  | failed => cases h' <;> rfl
  | left _ ih =>
    cases h' with
    | left h' => exact ih h'

theorem exists_turned (ps : List Passage) (h : Handler) (r : Request) (x : Exchange) :
    ∃ entered rest leaves r' y turn, ps = entered ++ rest ∧ Inward s entered r x leaves r' y ∧
      Turned s h rest r' y turn := by
  induction ps generalizing r x with
  | nil => exact ⟨[], [], [], r, x, _, rfl, .nil, .handled⟩
  | cons p ps ih =>
    rcases hp : (p r).outcome s x with ⟨f | a | ⟨r', leave⟩, y⟩
    · exact ⟨[], p :: ps, [], r, x, _, rfl, .nil, .failed hp⟩
    · exact ⟨[], p :: ps, [], r, x, _, rfl, .nil, .answered hp⟩
    · obtain ⟨entered, rest, leaves, r'', z, turn, rfl, hi, ht⟩ := ih r' y
      exact ⟨p :: entered, rest, leave :: leaves, r'', z, turn, rfl, .cons hp hi, ht⟩

/-- Behind the filters that pass a request on, the rest of the chain sets what goes out. The
induction is on the way in; each filter on it adds its part to the end of the way out. -/
theorem Inward.outcome {entered : List Passage} {r r' : Request} {x y : Exchange}
    {leaves : List (Response → Serve Response)} (hi : Inward s entered r x leaves r' y)
    (rest : List Passage) (h : Handler) :
    Outward s leaves.reverse ((Filter.chain (rest.map filter) h r').outcome s y)
      ((Filter.chain ((entered ++ rest).map filter) h r).outcome s x) := by
  induction hi with
  | nil => exact .nil
  | @cons _ _ _ _ _ leave _ _ _ _ hp _ ih =>
    rw [List.cons_append, chain_cons, outcome_filter, hp, List.reverse_cons]
    have ho : Outward s (_ ++ [leave]) _ _ := ih.snoc
    rwa [← outcome_bind_leave] at ho

theorem Crossed.outcome {ps : List Passage} {h : Handler} {r : Request} {x : Exchange}
    {o : Except Failure Response × Exchange} (hc : Crossed s ps h r x o) :
    (Filter.chain (ps.map filter) h r).outcome s x = o := by
  obtain ⟨entered, rest, leaves, r', y, turn, rfl, hi, ht, ho⟩ := hc
  have hchain := hi.outcome rest h
  rw [ht.outcome] at hchain
  exact hchain.unique ho

theorem crossed_iff {ps : List Passage} {h : Handler} {r : Request} {x : Exchange}
    {o : Except Failure Response × Exchange} :
    Crossed s ps h r x o ↔ o = (Filter.chain (ps.map filter) h r).outcome s x := by
  constructor
  · intro hc
    exact hc.outcome.symm
  · rintro rfl
    obtain ⟨entered, rest, leaves, r', y, turn, rfl, hi, ht⟩ := exists_turned (s := s) ps h r x
    refine ⟨entered, rest, leaves, r', y, turn, rfl, hi, ht, ?_⟩
    rw [← ht.outcome]
    exact hi.outcome rest h

theorem outcome_change {entered : List Passage} {p : Passage} {rest : List Passage} {h : Handler}
    {r r' : Request} {x y : Exchange} {leaves : List (Response → Serve Response)}
    {turn : Except Failure Response × Exchange} (hi : Inward s entered r x leaves r' y)
    (ht : Turned s h (p :: rest) r' y turn) (rest' : List Passage) (h' : Handler) :
    (Filter.chain ((entered ++ p :: rest').map filter) h' r).outcome s x =
      (Filter.chain ((entered ++ p :: rest).map filter) h r).outcome s x := by
  have ho := hi.outcome (p :: rest) h
  have ho' := hi.outcome (p :: rest') h'
  rw [ht.outcome] at ho
  rw [(ht.change rest' h').outcome] at ho'
  exact ho'.unique ho

end Passage

def Stage.passage : Stage → Passage
  | around incoming outgoing => fun r => return .inr (← incoming r, outgoing)
  | answer respond => fun r => return .inl (← respond r)

theorem Stage.filter_passage (st : Stage) : st.passage.filter = st.filter := by
  funext next r
  cases st with
  | around incoming outgoing => simp [passage, Passage.filter, filter]
  | answer respond => simp [passage, Passage.filter, filter]

namespace Route

theorem outcome_serve_of_accepts {t : Route} {s : Surroundings} {r : Request} {x y : Exchange}
    (h : (t.predicate.accepts r).outcome s x = (.ok true, y)) :
    (t.serve r).outcome s x =
      (((t.chain r).outcome s y).1.map some, ((t.chain r).outcome s y).2) := by
  rw [serve, Serve.outcome_bind_ok h]
  exact Serve.outcome_bind_some (t.chain r) s y

/-- A request that a route accepts crosses its filters, and in no other way than it does. -/
theorem serve_crossed {t : Route} {ps : List Passage} (ht : t.filters = ps.map Passage.filter)
    {s : Surroundings} {r : Request} {x y : Exchange}
    (ha : (t.predicate.accepts r).outcome s x = (.ok true, y)) :
    (∃ o, (t.serve r).outcome s x = (o.1.map some, o.2) ∧
      ∀ o', Passage.Crossed s ps t.handler r y o' ↔ o' = o) ∧
    (∀ entered p rest leaves r' z turn, ps = entered ++ p :: rest →
      Passage.Inward s entered r y leaves r' z →
      Passage.Turned s t.handler (p :: rest) r' z turn → ∀ rest' h',
        (Filter.chain ((entered ++ p :: rest').map Passage.filter) h' r).outcome s y =
          (t.chain r).outcome s y) ∧
    ∀ xs ys h, Filter.chain (xs ++ ys) h = Filter.chain xs (Filter.chain ys h) := by
  refine ⟨⟨(t.chain r).outcome s y, outcome_serve_of_accepts ha, fun o' => ?_⟩, ?_, ?_⟩
  · rw [chain, ht]
    exact Passage.crossed_iff
  · rintro entered p rest leaves r' z turn rfl hi hturn rest' h'
    rw [chain, ht]
    exact Passage.outcome_change hi hturn rest' h'
  · intro xs ys h
    exact List.foldr_append

end Route

namespace Sample

def labels : List (String × Option Int) :=
  [("outer", none), ("inner", none), ("short", some 418), ("hidden", none)]

def stages : List Stage := labels.map fun e => Recipe.labelledStage (.text e.1) e.2

def labelled : Route := ⟨"labelled", .always, stages.map Stage.filter, fun _ => throw .notAscii, {}⟩

def crossedOver (x : Exchange) : Exchange :=
  { x with journal := x.journal ++ [.entered (.text "outer")] ++ [.entered (.text "inner")] ++
      [.cutShort (.text "short")] ++ [.left (.text "inner")] ++ [.left (.text "outer")] }

theorem filters_labelled : labelled.filters = (stages.map Stage.passage).map Passage.filter := by
  rw [List.map_map]
  exact List.map_congr_left fun st _ => st.filter_passage.symm

theorem serve_crossed_labelled : labelled.filters = (stages.map Stage.passage).map Passage.filter ∧
    ∀ s x, (labelled.predicate.accepts default).outcome s x = (.ok true, x) ∧
      Passage.Crossed s (stages.map Stage.passage) labelled.handler default x
        (.ok (.bare 418), crossedOver x) := by
  refine ⟨filters_labelled, fun s x => ⟨rfl, ?_⟩⟩
  obtain ⟨⟨⟨o, y⟩, ho, hc⟩, -⟩ := Route.serve_crossed filters_labelled (s := s) (r := default)
    (x := x) (y := x) rfl
  have hs : (labelled.serve default).outcome s x = (.ok (some (.bare 418)), crossedOver x) := rfl
  rw [hs] at ho
  rw [hc]
  rcases o with f | a <;> cases ho
  rfl

end Sample

end HttpGateway
