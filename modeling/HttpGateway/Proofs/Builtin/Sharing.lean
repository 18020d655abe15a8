import HttpGateway.Proofs.Builtin.Passing
import Mathlib.Data.List.GetD

/-!
Requests that refer to their header fields, as copies of a request share them. A step that changes
header fields does so in place, but in a copy of its own, so that the request that came in shows what
it showed before.
-/

namespace HttpGateway

abbrev HeaderObjects := List Headers

def HeaderObjects.edit? (objects : HeaderObjects) (n : Nat) (f : Headers → Option Headers) :
    Option HeaderObjects :=
  (f (objects.getD n .empty)).map (objects.set n)

structure RequestRef where
  method : String
  uri : Uri
  headers : Nat
  content : String

namespace RequestRef

def seen (q : RequestRef) (objects : HeaderObjects) : Request :=
  ⟨q.method, q.uri, objects.getD q.headers .empty, q.content⟩

/-- A copy of the request that refers to a copy of its header fields, which is changed in place. -/
def withEditedCopy (q : RequestRef) (f : Headers → Option Headers) (objects : HeaderObjects) :
    Except Failure RequestRef × HeaderObjects :=
  let copied := objects ++ [objects.getD q.headers .empty]
  match HeaderObjects.edit? copied objects.length f with
  | none => (.error .notAscii, copied)
  | some edited => (.ok { q with headers := objects.length }, edited)

variable {q : RequestRef} {objects objects' : HeaderObjects}

theorem seen_of_prefix (h : objects <+: objects') (hq : q.headers < objects.length) :
    q.seen objects' = q.seen objects := by
  obtain ⟨more, rfl⟩ := h
  rw [seen, seen, List.getD_append _ _ _ _ hq]

theorem withEditedCopy_eq (q : RequestRef) (f : Headers → Option Headers)
    (objects : HeaderObjects) : q.withEditedCopy f objects =
      match f (q.seen objects).headers with
      | none => (.error .notAscii, objects ++ [(q.seen objects).headers])
      | some h => (.ok { q with headers := objects.length }, objects ++ [h]) := by
  have hcopy : (objects ++ [objects.getD q.headers .empty]).getD objects.length .empty =
      (q.seen objects).headers := by
    rw [List.getD_append_right _ _ _ _ (Nat.le_refl _), Nat.sub_self]
    rfl
  have hset : ∀ h, (objects ++ [objects.getD q.headers .empty]).set objects.length h =
      objects ++ [h] := by
    intro h
    rw [List.set_append_right _ _ (Nat.le_refl _), Nat.sub_self]
    rfl
  simp only [withEditedCopy, HeaderObjects.edit?, hcopy]
  cases f (q.seen objects).headers with
  | none => rfl
  | some h => simp only [Option.map_some, hset]

theorem withEditedCopy_spec (q : RequestRef) (f : Headers → Option Headers)
    (objects : HeaderObjects) :
    (q.withEditedCopy f objects).1.map (·.seen (q.withEditedCopy f objects).2) =
      (q.seen objects).rewritten f ∧
    objects <+: (q.withEditedCopy f objects).2 ∧
    ∀ q', (q.withEditedCopy f objects).1 = .ok q' →
      q'.headers < (q.withEditedCopy f objects).2.length := by
  rw [withEditedCopy_eq, Request.rewritten]
  cases f (q.seen objects).headers with
  | none => exact ⟨rfl, List.prefix_append _ _, fun _ h => by cases h⟩
  | some h =>
    refine ⟨?_, List.prefix_append _ _, fun q' hq' => ?_⟩
    · have hlast : (objects ++ [h]).getD objects.length .empty = h := by
        rw [List.getD_append_right _ _ _ _ (Nat.le_refl _), Nat.sub_self]
        rfl
      simp only [Except.map, seen, Request.withHeaders, hlast]
    · cases hq'
      rw [List.length_append, List.length_singleton]
      exact Nat.lt_succ_self _

end RequestRef

namespace RequestEdit

def applyRef (e : RequestEdit) (q : RequestRef) (objects : HeaderObjects) (s : Surroundings)
    (x : Exchange) : Except Failure RequestRef × Exchange × HeaderObjects :=
  match e.inPlace? with
  | some f =>
    let o := q.withEditedCopy f objects
    (o.1, e.leaving x, o.2)
  | none =>
    let o := (e.apply (q.seen objects)).outcome s x
    (o.1.map fun r => { q with uri := r.uri }, o.2, objects)

end RequestEdit

/-- A computation on a request and one on a request that refers to its header fields end alike, and
the objects that were there before are as they were. -/
structure Agrees (k : Serve Request) (objects : HeaderObjects) (s : Surroundings) (x : Exchange)
    (o : Except Failure RequestRef × Exchange × HeaderObjects) : Prop where
  outcome : k.outcome s x = (o.1.map (·.seen o.2.2), o.2.1)
  kept : objects <+: o.2.2
  refers : ∀ q, o.1 = .ok q → q.headers < o.2.2.length

namespace RequestEdit

variable {q : RequestRef} {objects : HeaderObjects}

theorem agrees_applyRef (e : RequestEdit) (hq : q.headers < objects.length) (s : Surroundings)
    (x : Exchange) : Agrees (e.apply (q.seen objects)) objects s x (e.applyRef q objects s x) := by
  cases he : e.inPlace? with
  | some f =>
    obtain ⟨hseen, hkept, hrefers⟩ := q.withEditedCopy_spec f objects
    have houtcome := outcome_apply_of_inPlace he (q.seen objects) s x
    rw [← hseen] at houtcome
    simp only [applyRef, he]
    exact ⟨houtcome, hkept, hrefers⟩
  | none =>
    simp only [applyRef, he]
    rcases ho : (e.apply (q.seen objects)).outcome s x with ⟨f | r, y⟩
    · exact ⟨ho, List.prefix_rfl, fun _ h => by cases h⟩
    · refine ⟨?_, List.prefix_rfl, fun q' hq' => ?_⟩
      · obtain ⟨hr, -⟩ := readdressed_of_apply he ho
        rw [ho, hr.eq]
        rfl
      · cases hq'
        exact hq

end RequestEdit

namespace Builtin.Step

def incomingRef (p : Step) (q : RequestRef) (objects : HeaderObjects) (s : Surroundings)
    (x : Exchange) : Except Failure RequestRef × Exchange × HeaderObjects :=
  match p with
  | request e => e.applyRef q objects s x
  | _ =>
    let o := (p.incoming?.getD pure (q.seen objects)).outcome s x
    (o.1.map fun _ => q, o.2, objects)

def chainRef (h : Handler) (s : Surroundings) :
    List Step → RequestRef → HeaderObjects → Exchange →
      Except Failure Response × Exchange × HeaderObjects
  | [], q, objects, x =>
    let o := (h (q.seen objects)).outcome s x
    (o.1, o.2, objects)
  | p :: ps, q, objects, x =>
    match p.answer? with
    | some k =>
      let o := k.outcome s x
      (o.1, o.2, objects)
    | none =>
      match p.incomingRef q objects s x with
      | (.error f, y, objects') => (.error f, y, objects')
      | (.ok q', y, objects') =>
        match chainRef h s ps q' objects' y with
        | (.error f, z, objects'') => (.error f, z, objects'')
        | (.ok a, z, objects'') =>
          let o := (p.outgoing?.getD pure a).outcome s z
          (o.1, o.2, objects'')

variable {q : RequestRef} {objects : HeaderObjects} {s : Surroundings} {x : Exchange}

theorem eq_of_incoming {p : Step} (hp : ∀ e, p ≠ request e) {r r' : Request} {y : Exchange}
    (h : (p.incoming?.getD pure r).outcome s x = (.ok r', y)) : r' = r := by
  cases p with
  | balance service instances =>
    obtain ⟨i, u, -, -, hr, -⟩ := Balancer.outcome_pick_eq_ok_iff.1 h
    exact hr
  | request e => exact absurd rfl (hp e)
  | stamp | response | redirect =>
    cases h
    rfl

theorem agrees_incomingRef (p : Step) (hq : q.headers < objects.length) (s : Surroundings)
    (x : Exchange) :
    Agrees (p.incoming?.getD pure (q.seen objects)) objects s x (p.incomingRef q objects s x) := by
  by_cases hp : ∃ e, p = request e
  · obtain ⟨e, rfl⟩ := hp
    exact e.agrees_applyRef hq s x
  · have hsame : p.incomingRef q objects s x =
        ((((p.incoming?.getD pure (q.seen objects)).outcome s x).1.map fun _ => q),
          ((p.incoming?.getD pure (q.seen objects)).outcome s x).2, objects) := by
      cases p with
      | request e => exact absurd ⟨e, rfl⟩ hp
      | _ => rfl
    rw [hsame]
    rcases ho : (p.incoming?.getD pure (q.seen objects)).outcome s x with ⟨f | r, y⟩
    · exact ⟨ho, List.prefix_rfl, fun _ h => by cases h⟩
    · refine ⟨?_, List.prefix_rfl, fun q' hq' => ?_⟩
      · rw [ho, eq_of_incoming (fun e he => hp ⟨e, he⟩) ho]
        rfl
      · cases hq'
        exact hq

/-- Going through the steps with shared header fields ends as going through them with a request, and
what a request showed before is what it shows then. -/
theorem chainRef_spec (h : Handler) (ps : List Step) (hq : q.headers < objects.length)
    (s : Surroundings) (x : Exchange) :
    (Filter.chain (ps.map filter) h (q.seen objects)).outcome s x =
      ((chainRef h s ps q objects x).1, (chainRef h s ps q objects x).2.1) ∧
    objects <+: (chainRef h s ps q objects x).2.2 := by
  induction ps generalizing q objects x with
  | nil => exact ⟨rfl, List.prefix_rfl⟩
  | cons p ps ih =>
    change (p.filter (Filter.chain (ps.map filter) h) (q.seen objects)).outcome s x = _ ∧ _
    rw [chainRef]
    cases hp : p.answer? with
    | some k =>
      rw [filter_of_answer hp]
      exact ⟨rfl, List.prefix_rfl⟩
    | none =>
      -- the next request refers to one of the objects again, and those so far are at their start
      obtain ⟨hstep, hkept, hrefers⟩ := p.agrees_incomingRef hq s x
      rw [filter_of_no_answer hp, Serve.outcome_bind, Serve.outcome_bind, hstep]
      rcases hr : p.incomingRef q objects s x with ⟨f | q', y, objects'⟩
      · rw [hr] at hkept
        exact ⟨rfl, hkept⟩
      · rw [hr] at hkept hrefers
        obtain ⟨hrest, hkept'⟩ := ih (hrefers q' rfl) y
        simp only [Except.map, hrest]
        rcases hc : chainRef h s ps q' objects' y with ⟨f | a, z, objects''⟩
        · rw [hc] at hkept'
          exact ⟨rfl, hkept.trans hkept'⟩
        · rw [hc] at hkept'
          exact ⟨rfl, hkept.trans hkept'⟩

end Builtin.Step

end HttpGateway
