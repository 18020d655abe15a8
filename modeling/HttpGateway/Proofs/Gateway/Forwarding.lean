import HttpGateway.Gateway.Session
import HttpGateway.Proofs.OrderedMap
import HttpGateway.Proofs.Serving

/-!
Routes that keep their exchanges apart: nothing but the one sending of a request, which the handler
does, has to do with the cookies that the client keeps.
-/

namespace HttpGateway

open Serve (Sheltered Forwards)

def Predicate.IsSheltered (p : Predicate) : Prop := ∀ r, Sheltered (p.accepts r)

theorem Predicate.isSheltered_test {description : String} {run : Test}
    (h : ∀ r, Sheltered (run r)) : (Predicate.test description run).IsSheltered :=
  fun r => (h r).bind fun _ => .pure _

theorem Predicate.IsSheltered.both {p q : Predicate} (hp : p.IsSheltered) (hq : q.IsSheltered) :
    (Predicate.both p q).IsSheltered := by
  intro r
  refine (hp r).bind fun accepted => ?_
  cases accepted with
  | false => exact .pure false
  | true => exact hq r

theorem Predicate.allOf_of_closed {P : Predicate → Prop} (halways : P .always)
    (hboth : ∀ {p q}, P p → P q → P (.both p q)) {ps : List Predicate} (h : ∀ p ∈ ps, P p) :
    P (Predicate.allOf ps) := by
  cases ps with
  | nil => exact halways
  | cons p ps =>
    rw [allOf]
    -- the conjunction is built from the left: its first part grows along the list
    induction ps generalizing p with
    | nil => exact h p List.mem_cons_self
    | cons q ps ih =>
      refine ih (.both p q) fun b hb => ?_
      rcases List.mem_cons.1 hb with rfl | hb
      · exact hboth (h p List.mem_cons_self) (h q (List.mem_cons_of_mem p List.mem_cons_self))
      · exact h b (List.mem_cons_of_mem p (List.mem_cons_of_mem q hb))

theorem Predicate.isSheltered_allOf {ps : List Predicate} (h : ∀ p ∈ ps, p.IsSheltered) :
    (Predicate.allOf ps).IsSheltered :=
  allOf_of_closed (fun _ => .pure true) IsSheltered.both h

def Stage.IsSheltered : Stage → Prop
  | around incoming outgoing => (∀ r, Sheltered (incoming r)) ∧ ∀ a, Sheltered (outgoing a)
  | answer respond => ∀ r, Sheltered (respond r)

theorem Stage.IsSheltered.forwards {st : Stage} (h : st.IsSheltered) {next : Handler}
    (hnext : ∀ r, Forwards (next r)) (r : Request) : Forwards (st.filter next r) := by
  cases st with
  | around incoming outgoing =>
    refine (h.1 r).bind_forwards fun passed => ?_
    exact (hnext passed).bind_sheltered h.2
  | answer respond => exact (h r).forwards

theorem Filter.forwards_chain {filters : List Filter} {h : Handler}
    (hfilters : ∀ f ∈ filters, ∃ st : Stage, st.IsSheltered ∧ f = st.filter)
    (hh : ∀ r, Forwards (h r)) (r : Request) : Forwards (Filter.chain filters h r) := by
  induction filters generalizing r with
  | nil => exact hh r
  | cons f filters ih =>
    obtain ⟨⟨st, hst, rfl⟩, hrest⟩ := List.forall_mem_cons.1 hfilters
    exact hst.forwards (fun passed => ih hrest passed) r

namespace Route

/-- A route whose predicate has nothing to do with the kept cookies, and whose chain has only in the
sending of one request. -/
structure KeepsApart (t : Route) : Prop where
  predicate : t.predicate.IsSheltered
  chain : ∀ r, Forwards (t.chain r)

theorem KeepsApart.forwards_serve {t : Route} (h : t.KeepsApart) (r : Request) :
    Forwards (t.serve r) := by
  refine (h.predicate r).bind_forwards fun accepted => ?_
  cases accepted with
  | false => exact (Sheltered.pure none).forwards
  | true => exact (h.chain r).bind_sheltered fun _ => .pure _

theorem forwards_dispatch {ts : List Route} (h : ∀ t ∈ ts, t.KeepsApart) (r : Request) :
    Forwards (dispatch ts r) := by
  induction ts with
  | nil => exact (Sheltered.pure none).forwards
  | cons t ts ih =>
    obtain ⟨ht, hts⟩ := List.forall_mem_cons.1 h
    refine (ht.predicate r).bind_forwards fun accepted => ?_
    cases accepted with
    | false => exact ih hts
    | true => exact (ht.chain r).bind_sheltered fun _ => .pure _

end Route

namespace Ask

theorem sheltered_accepting {ts : List (String × Route)} (h : ∀ t ∈ ts, t.2.KeepsApart)
    (r : Request) : Sheltered (accepting r ts) := by
  induction ts with
  | nil => exact .pure []
  | cons t ts ih =>
    obtain ⟨ht, hts⟩ := List.forall_mem_cons.1 h
    refine (ht.predicate r).bind fun accepted => ?_
    exact (ih hts).bind fun _ => .pure _

theorem forwards_run {routes : OrderedMap Route} (h : ∀ t ∈ routes.values, t.KeepsApart)
    (a : Ask) (r : Request) : Forwards (a.run routes r) := by
  cases a with
  | dispatch => exact (Route.forwards_dispatch h r).bind_sheltered fun _ => .pure _
  | call key =>
    cases ht : routes.get? key with
    | none =>
      rw [run, ht]
      exact (Sheltered.throw (.unknownKey key)).forwards
    | some t =>
      have hmem : t ∈ routes.values := OrderedMap.mem_values_of_get? ht
      rw [run, ht]
      exact ((h t hmem).forwards_serve r).bind_sheltered fun _ => .pure _
  | matching =>
    refine ((sheltered_accepting (fun t ht => h t.2 ?_) r).bind fun _ => .pure _).forwards
    exact List.mem_map_of_mem ht

end Ask

namespace Exchange

theorem fresh_eq_withJar (jar : CookieJar) : fresh jar = (fresh {}).withJar jar := rfl

variable {α : Type}

def keptAfter : CookieJar → List (Surroundings × Serve α) → CookieJar
  | jar, [] => jar
  | jar, e :: es => keptAfter (e.2.outcome e.1 (fresh jar)).2.jar es

theorem inTurn_concat (s : Surroundings) (jar : CookieJar) (cs : List (Serve α)) (c : Serve α) :
    inTurn s jar (cs ++ [c]) =
      inTurn s jar cs ++ [c.outcome s (fresh (keptAfter jar (cs.map fun c => (s, c))))] := by
  induction cs generalizing jar with
  | nil => rfl
  | cons c' cs ih => exact congrArg (c'.outcome s (fresh jar) :: ·) (ih _)

end Exchange

end HttpGateway
