import HttpGateway.Builtin.Filters
import HttpGateway.Builtin.Handlers
import HttpGateway.Gateway.Compiler
import HttpGateway.Proofs.Outcome

namespace HttpGateway

def Compiler.stamped (id : String) (destination : Uri) (r : Request) : Serve Request := do
  Serve.setAttribute destinationAttribute (.uri destination)
  Serve.setAttribute routeAttribute (.text id)
  return r

def Balancer.pick (service : String) (instances : List String) (r : Request) : Serve Request := do
  let chosen ← Serve.require (.unknownKey service) (choose (← read).pick instances)
  let uri ← Serve.lift .badUri (Uri.parse chosen)
  Serve.setAttribute destinationAttribute (.uri uri)
  return r

namespace Builtin

inductive Step where
  | stamp (id : String) (destination : Uri)
  | balance (service : String) (instances : List String)
  | request (e : RequestEdit)
  | response (e : ResponseEdit)
  | redirect (d : Redirection)

namespace Step

def stage : Step → Stage
  | stamp id destination => Compiler.stamp id destination
  | balance service instances => Balancer.stage service instances
  | request e => e.stage
  | response e => e.stage
  | redirect d => d.stage

def filter (p : Step) : Filter := p.stage.filter

def answer? : Step → Option (Serve Response)
  | balance service [] => some (return .ofText 503 ("No instance available for " ++ service))
  | redirect d => some d.respond
  | _ => none

def incoming? : Step → Option (Request → Serve Request)
  | stamp id destination => some (Compiler.stamped id destination)
  | balance service instances => some (Balancer.pick service instances)
  | request e => some e.apply
  | _ => none

def outgoing? : Step → Option (Response → Serve Response)
  | response e => some e.apply
  | _ => none

def operation? : Step → Option String
  | stamp .. => none
  | balance .. => none
  | request (.stripPath _) => some "stripPrefix"
  | request (.extendPath _) => some "prefixPath"
  | request (.setPath _) => some "setPath"
  | request (.substituteInPath ..) => some "rewritePath"
  | request (.addHeader ..) => some "addRequestHeader"
  | request (.setHeader ..) => some "setRequestHeader"
  | request (.removeHeader _) => some "removeRequestHeader"
  | request (.setHost _) => some "setRequestHostHeader"
  | request .keepHost => some "preserveHostHeader"
  | request (.addParameter ..) => some "addRequestParameter"
  | request (.removeParameter _) => some "removeRequestParameter"
  | response (.addHeader ..) => some "addResponseHeader"
  | response (.setHeader ..) => some "setResponseHeader"
  | response (.removeHeader _) => some "removeResponseHeader"
  | response (.setStatus _) => some "setStatus"
  | redirect _ => some "redirectTo"

def status? : Step → Option Int
  | response (.setStatus status) => some status
  | _ => none

def passing (ps : List Step) : List Step := ps.takeWhile fun p => p.answer?.isNone

def comeIn (ps : List Step) (r : Request) : Serve Request :=
  (ps.filterMap incoming?).foldlM (fun r f => f r) r

def goOut (ps : List Step) (a : Response) : Serve Response :=
  (ps.filterMap outgoing?).reverse.foldlM (fun a f => f a) a

/-- The steps around a handler: what comes in, the first answer or that of the handler, and what goes
out. -/
def inFolds (ps : List Step) (h : Handler) (r : Request) : Serve Response := do
  let passed ← comeIn (passing ps) r
  let a ← (ps.findSome? answer?).getD (h passed)
  goOut (passing ps) a

variable {p q : Step} {ps : List Step}

@[simp]
theorem comeIn_cons (p : Step) (ps : List Step) (r : Request) :
    comeIn (p :: ps) r = p.incoming?.getD pure r >>= comeIn ps := by
  rw [comeIn]
  cases hp : p.incoming? with
  | none =>
    rw [List.filterMap_cons_none hp]
    exact (pure_bind r (comeIn ps)).symm
  | some f => rw [List.filterMap_cons_some hp, List.foldlM_cons, Option.getD_some]; rfl

@[simp]
theorem goOut_cons (p : Step) (ps : List Step) (a : Response) :
    goOut (p :: ps) a = goOut ps a >>= p.outgoing?.getD pure := by
  rw [goOut]
  cases hp : p.outgoing? with
  | none =>
    rw [List.filterMap_cons_none hp]
    exact (bind_pure (goOut ps a)).symm
  | some f =>
    rw [List.filterMap_cons_some hp, List.reverse_cons, List.foldlM_append]
    refine bind_congr fun b => ?_
    exact bind_pure (f b)

theorem filter_of_answer {k : Serve Response} (h : p.answer? = some k) (next : Handler)
    (r : Request) : p.filter next r = k := by
  cases p with
  | balance service instances =>
    cases instances with
    | nil => exact Option.some.inj h
    | cons => cases h
  | redirect d => exact Option.some.inj h
  | stamp | request | response => cases h

theorem filter_of_no_answer (h : p.answer? = none) (next : Handler) (r : Request) :
    p.filter next r = p.incoming?.getD pure r >>= next >>= p.outgoing?.getD pure := by
  cases p with
  | balance service instances =>
    cases instances with
    | nil => cases h
    | cons i instances => exact (bind_assoc _ _ _).symm
  | redirect => cases h
  | stamp | request | response => exact (bind_assoc _ _ _).symm

theorem passing_cons_of_answer (h : p.answer?.isSome) : passing (p :: ps) = [] := by
  rw [passing, List.takeWhile_cons_of_neg]
  rw [Option.isNone_iff_eq_none]
  exact Option.isSome_iff_ne_none.1 h

theorem passing_cons_of_no_answer (h : p.answer? = none) : passing (p :: ps) = p :: passing ps := by
  rw [passing, List.takeWhile_cons_of_pos (by simp [h])]
  rfl

theorem passing_of_no_answer (h : ∀ p ∈ ps, p.answer? = none) : passing ps = ps := by
  induction ps with
  | nil => rfl
  | cons p ps ih =>
    obtain ⟨hp, hps⟩ := List.forall_mem_cons.1 h
    rw [passing_cons_of_no_answer hp, ih hps]

theorem chain_eq (ps : List Step) (h : Handler) (r : Request) :
    Filter.chain (ps.map filter) h r = inFolds ps h r := by
  induction ps generalizing r with
  | nil => exact (bind_pure (h r)).symm
  | cons p ps ih =>
    change p.filter (Filter.chain (ps.map filter) h) r = _
    cases hp : p.answer? with
    | some k =>
      -- both folds are empty from here on
      rw [filter_of_answer hp, inFolds, passing_cons_of_answer (by simp [hp]), List.findSome?_cons,
        hp]
      exact (bind_pure k).symm
    | none =>
      rw [filter_of_no_answer hp, inFolds, passing_cons_of_no_answer hp, List.findSome?_cons, hp]
      simp only [comeIn_cons, goOut_cons, bind_assoc, ih, inFolds]

theorem chain_of_answer {ps : List Step} (hps : ∃ p ∈ ps, p.answer?.isSome) (qs qs' : List Step)
    (h h' : Handler) :
    Filter.chain ((ps ++ qs').map filter) h' = Filter.chain ((ps ++ qs).map filter) h := by
  obtain ⟨p, hp, hanswers⟩ := hps
  obtain ⟨before, after, rfl⟩ := List.append_of_mem hp
  obtain ⟨k, hk⟩ := Option.isSome_iff_exists.1 hanswers
  simp only [List.append_assoc, List.cons_append, List.map_append, List.map_cons, Filter.chain,
    List.foldr_append, List.foldr_cons]
  congr 1
  funext r
  exact (filter_of_answer hk _ r).trans (filter_of_answer hk _ r).symm

theorem filter_request (e : RequestEdit) (next : Handler) :
    (request e).filter next = fun r => e.apply r >>= next := by
  funext r
  have hr : (request e).filter next r = e.apply r >>= next >>= pure :=
    filter_of_no_answer rfl next r
  rw [hr, bind_pure]

theorem filter_response (e : ResponseEdit) (next : Handler) :
    (response e).filter next = fun r => next r >>= e.apply := by
  funext r
  have hr : (response e).filter next r = pure r >>= next >>= e.apply :=
    filter_of_no_answer rfl next r
  rw [hr, pure_bind]

theorem filter_comm (e : RequestEdit) (e' : ResponseEdit) (next : Handler) :
    (request e).filter ((response e').filter next) =
      (response e').filter ((request e).filter next) := by
  simp only [filter_request, filter_response, bind_assoc]

theorem chain_swap (before after : List Step) (e : RequestEdit) (e' : ResponseEdit) (h : Handler) :
    Filter.chain ((before ++ request e :: response e' :: after).map filter) h =
      Filter.chain ((before ++ response e' :: request e :: after).map filter) h := by
  rw [List.map_append, List.map_append, Filter.chain, Filter.chain, List.foldr_append,
    List.foldr_append]
  congr 1
  exact filter_comm e e' (Filter.chain (after.map filter) h)

theorem status_of_apply {e : ResponseEdit} {s : Surroundings} {a b : Response} {x y : Exchange}
    (h : (e.apply a).outcome s x = (.ok b, y)) :
    b.status = (response e).status?.getD a.status := by
  rw [ResponseEdit.apply, Serve.outcome_bind] at h
  cases hk : e.headers? a.headers with
  | none =>
    rw [hk] at h
    cases h
  | some headers =>
    rw [hk] at h
    cases e <;> cases h <;> rfl

theorem status_of_goOut {s : Surroundings} {a b : Response} {x y : Exchange}
    (h : (goOut ps a).outcome s x = (.ok b, y)) :
    b.status = (ps.findSome? status?).getD a.status := by
  induction ps generalizing b y with
  | nil =>
    cases h
    rfl
  | cons p ps ih =>
    rw [goOut_cons, Serve.outcome_bind] at h
    rcases ho : (goOut ps a).outcome s x with ⟨f | b', z⟩
    · rw [ho] at h
      cases h
    · rw [ho] at h
      rw [List.findSome?_cons]
      cases p with
      | response e =>
        have hb := status_of_apply h
        cases he : (response e).status? with
        | none =>
          rw [he] at hb
          exact hb.trans (ih ho)
        | some status =>
          rw [he] at hb
          exact hb
      | stamp | balance | request | redirect =>
        cases h
        exact ih ho

end Step

end Builtin

end HttpGateway
