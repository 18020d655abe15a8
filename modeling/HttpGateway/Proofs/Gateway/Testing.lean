import HttpGateway.Gateway.Predicate
import HttpGateway.Proofs.Outcome

namespace HttpGateway.Predicate

variable (s : Surroundings) (r : Request)

def Held : List Predicate → Exchange → Exchange → Prop
  | [], x, y => y = x
  | p :: ps, x, z => ∃ y, (p.accepts r).outcome s x = (.ok true, y) ∧ Held ps y z

def Stopped (ps : List Predicate) (x : Exchange) (said : Except Failure Bool) (z : Exchange) :
    Prop :=
  ∃ before p after y, ps = before ++ p :: after ∧ Held s r before x y ∧
    (p.accepts r).outcome s y = (said, z) ∧ said ≠ .ok true

variable {s r}

theorem Stopped.here {p : Predicate} {ps : List Predicate} {x z : Exchange}
    {said : Except Failure Bool} (h : (p.accepts r).outcome s x = (said, z))
    (hs : said ≠ .ok true) : Stopped s r (p :: ps) x said z :=
  ⟨[], p, ps, x, rfl, rfl, h, hs⟩

theorem Stopped.later {p : Predicate} {ps : List Predicate} {x y z : Exchange}
    {said : Except Failure Bool} (h : (p.accepts r).outcome s x = (.ok true, y))
    (hps : Stopped s r ps y said z) : Stopped s r (p :: ps) x said z := by
  obtain ⟨before, q, after, w, rfl, hb, hq, hs⟩ := hps
  exact ⟨p :: before, q, after, w, rfl, ⟨y, h, hb⟩, hq, hs⟩

theorem held_or_stopped (ps : List Predicate) (x : Exchange) :
    (∃ y, Held s r ps x y) ∨ ∃ said y, Stopped s r ps x said y := by
  induction ps generalizing x with
  | nil => exact .inl ⟨x, rfl⟩
  | cons p ps ih =>
    rcases h : (p.accepts r).outcome s x with ⟨said, y⟩
    by_cases hs : said = .ok true
    · rw [hs] at h
      rcases ih y with ⟨z, hz⟩ | ⟨said', z, hz⟩
      · exact .inl ⟨z, y, h, hz⟩
      · exact .inr ⟨said', z, .later h hz⟩
    · exact .inr ⟨said, y, .here h hs⟩

theorem outcome_accepts_both (p q : Predicate) (x : Exchange) :
    ((both p q).accepts r).outcome s x = match (p.accepts r).outcome s x with
      | (.ok true, y) => (q.accepts r).outcome s y
      | (said, y) => (said, y) := by
  rw [accepts, Serve.outcome_bind]
  rcases (p.accepts r).outcome s x with ⟨_ | _ | _, y⟩ <;> rfl

theorem outcome_accepts_allOf_cons (p : Predicate) (ps : List Predicate) (x : Exchange) :
    ((allOf (p :: ps)).accepts r).outcome s x = match (p.accepts r).outcome s x with
      | (.ok true, y) => ((allOf ps).accepts r).outcome s y
      | (said, y) => (said, y) := by
  induction ps generalizing p x with
  | nil =>
    change (p.accepts r).outcome s x = _
    rcases (p.accepts r).outcome s x with ⟨_ | _ | _, y⟩ <;> rfl
  | cons q qs ih =>
    -- The conjunction is nested to the left, so its two innermost predicates count as one.
    change ((allOf (both p q :: qs)).accepts r).outcome s x = _
    rw [ih (both p q), outcome_accepts_both]
    rcases (p.accepts r).outcome s x with ⟨_ | _ | _, y⟩
    · rfl
    · rfl
    · exact (ih q y).symm

theorem Held.outcome {ps : List Predicate} {x y : Exchange} (h : Held s r ps x y) :
    ((allOf ps).accepts r).outcome s x = (.ok true, y) := by
  induction ps generalizing x with
  | nil =>
    cases h
    rfl
  | cons p ps ih =>
    obtain ⟨z, hp, hz⟩ := h
    rw [outcome_accepts_allOf_cons, hp]
    exact ih hz

theorem Stopped.outcome {ps : List Predicate} {x y : Exchange} {said : Except Failure Bool}
    (h : Stopped s r ps x said y) : ((allOf ps).accepts r).outcome s x = (said, y) := by
  obtain ⟨before, p, after, z, rfl, hb, hp, hs⟩ := h
  induction before generalizing x with
  | nil =>
    cases hb
    rw [List.nil_append, outcome_accepts_allOf_cons, hp]
    rcases said with _ | _ | _
    · rfl
    · rfl
    · exact absurd rfl hs
  | cons q before ih =>
    obtain ⟨w, hq, hw⟩ := hb
    rw [List.cons_append, outcome_accepts_allOf_cons, hq]
    exact ih hw

def KeepsAttributes (p : Predicate) : Prop :=
  ∀ (r : Request) (s : Surroundings) (x : Exchange),
    ((p.accepts r).outcome s x).2.attributes = x.attributes

theorem KeepsAttributes.eq {p : Predicate} (h : p.KeepsAttributes) {x y : Exchange}
    {said : Except Failure Bool} (hp : (p.accepts r).outcome s x = (said, y)) :
    y.attributes = x.attributes := by
  have hx := h r s x
  rw [hp] at hx
  exact hx

theorem Held.attributes {ps : List Predicate} {x y : Exchange} (h : Held s r ps x y)
    (hps : ∀ p ∈ ps, p.KeepsAttributes) : y.attributes = x.attributes := by
  induction ps generalizing x with
  | nil => rw [h]
  | cons p ps ih =>
    obtain ⟨z, hp, hz⟩ := h
    have hy := ih hz fun q hq => hps q (List.mem_cons_of_mem p hq)
    exact hy.trans ((hps p List.mem_cons_self).eq hp)

theorem Stopped.attributes {ps : List Predicate} {x y : Exchange} {said : Except Failure Bool}
    (h : Stopped s r ps x said y) (hps : ∀ p ∈ ps, p.KeepsAttributes) :
    y.attributes = x.attributes := by
  obtain ⟨before, p, after, z, rfl, hb, hp, -⟩ := h
  have hz := hb.attributes fun q hq => hps q (List.mem_append_left _ hq)
  have hy := (hps p (List.mem_append_right _ List.mem_cons_self)).eq hp
  exact hy.trans hz

end HttpGateway.Predicate
