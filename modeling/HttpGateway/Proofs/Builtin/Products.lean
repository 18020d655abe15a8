import HttpGateway.Builtin.Registered
import HttpGateway.Proofs.Builtin.Steps
import HttpGateway.Proofs.Operation.Lookup

namespace HttpGateway.Builtin

def Offers (outlet : Outlet) (P : Product → Prop) : Member → Prop
  | .method m => m.markers ≠ [] → ∀ args, ∃ r, m.build outlet args = Compile.lift r ∧
      ∀ p, r = .ok p → P p
  | _ => True

variable {outlet : Outlet} {P : Product → Prop}

theorem offers_offered {names : List (Option String)} {formals : List (String × ParamType)}
    {build : Outlet → List Value → Option (Except Failure Product)}
    (h : ∀ values p, build outlet values = some (.ok p) → P p) :
    Offers outlet P (Method.offered names formals build) := by
  intro _ args
  refine ⟨_, rfl, fun p hp => ?_⟩
  cases hb : build outlet (args.map Prod.snd) with
  | none =>
    rw [hb] at hp
    cases hp
  | some r =>
    rw [hb] at hp
    exact h _ p (hb.trans (congrArg some hp))

def titles (e : String × Member) : List String :=
  match e.2 with
  | .method m => m.markers.filterMap (·.title? (m.name e.1))
  | _ => []

def OffersAs (outlet : Outlet) (P : String → Product → Prop) (e : String × Member) : Prop :=
  ∀ name ∈ titles e, Offers outlet (P name) e.2

theorem offersAs_of_title {P : String → Product → Prop} {e : String × Member} {name : String}
    (ht : titles e = [name]) (h : Offers outlet (P name) e.2) : OffersAs outlet P e := by
  intro title htitle
  rw [ht] at htitle
  rwa [List.mem_singleton.1 htitle]

inductive FilterStage : Stage → Prop
  | request (e : RequestEdit) : FilterStage e.stage
  | response (e : ResponseEdit) : FilterStage e.stage
  | redirection (d : Redirection) : FilterStage d.stage

def StageOf (name : String) (st : Stage) : Prop :=
  ∃ p : Step, p.operation? = some name ∧ st = p.stage

def IsFilterOf (name : String) (p : Product) : Prop := ∃ st, StageOf name st ∧ p = .filter st.filter

theorem StageOf.filterStage {name : String} {st : Stage} (h : StageOf name st) :
    FilterStage st := by
  obtain ⟨p, hp, rfl⟩ := h
  cases p with
  | request e => exact .request e
  | response e => exact .response e
  | redirect d => exact .redirection d
  | stamp => cases hp
  | balance => cases hp

section

variable {title : String}

theorem offers_stage {name : Option String} {formals : List (String × ParamType)}
    {build : List Value → Option (Except Failure Stage)}
    (h : ∀ values st, build values = some (.ok st) → StageOf title st) :
    Offers outlet (IsFilterOf title) (stage name formals build) := by
  refine offers_offered fun values p hp => ?_
  obtain ⟨r, hr, hp⟩ := Option.map_eq_some_iff.1 hp
  obtain ⟨st, rfl, rfl⟩ := Outcome.map_eq_ok_iff.1 hp
  exact ⟨st, h values st hr, rfl⟩

theorem offers_ofName {parameter : String} {make : String → Stage}
    (h : ∀ s, StageOf title (make s)) : Offers outlet (IsFilterOf title) (ofName parameter make) := by
  refine offers_stage fun values st hst => ?_
  split at hst
  · cases hst
    exact h _
  · cases hst

theorem offers_ofValues {make : String → List String → Stage}
    (h : ∀ name values, StageOf title (make name values)) :
    Offers outlet (IsFilterOf title) (ofValues make) := by
  refine offers_stage fun values st hst => ?_
  split at hst
  · obtain ⟨xs, -, hxs⟩ := Option.map_eq_some_iff.1 hst
    cases hxs
    exact h _ _
  · cases hst

end

theorem stageOf_strip {parts : Int} {st : Stage} (h : strip parts = .ok st) :
    StageOf "stripPrefix" st := by
  rw [strip] at h
  split at h
  · cases h
  · cases h
    exact ⟨.request _, rfl, rfl⟩

theorem stageOf_substitution {regexp replacement : String} {st : Stage}
    (h : substitution regexp replacement = .ok st) : StageOf "rewritePath" st := by
  obtain ⟨e, -, rfl⟩ := Outcome.map_eq_ok_iff.1 h
  exact ⟨.request _, rfl, rfl⟩

theorem offers_stripPrefix {name : Option String} {formals : List (String × ParamType)} :
    Offers outlet (IsFilterOf "stripPrefix") (stage name formals fun
      | [.int parts] => some (strip parts)
      | _ => none) := by
  refine offers_stage fun values st h => ?_
  split at h
  · exact stageOf_strip (Option.some.inj h)
  · cases h

theorem offers_rewritePath {name : Option String} {formals : List (String × ParamType)} :
    Offers outlet (IsFilterOf "rewritePath") (stage name formals fun
      | [.text regexp, .text replacement] => some (substitution regexp replacement)
      | _ => none) := by
  refine offers_stage fun values st h => ?_
  split at h
  · exact stageOf_substitution (Option.some.inj h)
  · cases h

theorem offers_setStatus {name : Option String} {formals : List (String × ParamType)} :
    Offers outlet (IsFilterOf "setStatus") (stage name formals fun
      | [.int status] => some (.ok (ResponseEdit.setStatus status).stage)
      | _ => none) := by
  refine offers_stage fun values st h => ?_
  split at h
  · cases h
    exact ⟨.response _, rfl, rfl⟩
  · cases h

theorem offers_redirectTo {name : Option String} {formals : List (String × ParamType)} :
    Offers outlet (IsFilterOf "redirectTo") (stage name formals fun
      | [.int status, .text uri] => some ((Redirection.make status uri).map Redirection.stage)
      | _ => none) := by
  refine offers_stage fun values st h => ?_
  split at h
  · obtain ⟨d, -, rfl⟩ := Outcome.map_eq_ok_iff.1 (Option.some.inj h)
    exact ⟨.redirect d, rfl, rfl⟩
  · cases h

theorem offers_preserveHost {name : Option String} {formals : List (String × ParamType)} :
    Offers outlet (IsFilterOf "preserveHostHeader") (stage name formals fun _ =>
      some (.ok RequestEdit.keepHost.stage)) := by
  refine offers_stage fun values st h => ?_
  cases h
  exact ⟨.request .keepHost, rfl, rfl⟩

theorem offersAs_filterMembers : ∀ e ∈ filterMembers, OffersAs outlet IsFilterOf e := by
  simp only [filterMembers, List.forall_mem_cons]
  refine ⟨offersAs_of_title (by decide) (offers_stage fun _ _ h => stageOf_strip (Option.some.inj h)),
    offersAs_of_title (by decide) offers_stripPrefix,
    offersAs_of_title (by decide) (offers_ofName fun _ => ⟨.request _, rfl, rfl⟩),
    offersAs_of_title (by decide) (offers_ofName fun _ => ⟨.request _, rfl, rfl⟩),
    offersAs_of_title (by decide) offers_rewritePath,
    offersAs_of_title (by decide) (offers_ofValues fun _ _ => ⟨.request _, rfl, rfl⟩),
    offersAs_of_title (by decide) (offers_ofValues fun _ _ => ⟨.request _, rfl, rfl⟩),
    offersAs_of_title (by decide) (offers_ofName fun _ => ⟨.request _, rfl, rfl⟩),
    offersAs_of_title (by decide) (offers_ofName fun _ => ⟨.request _, rfl, rfl⟩),
    offersAs_of_title (by decide) offers_preserveHost,
    offersAs_of_title (by decide) (offers_ofValues fun _ _ => ⟨.request _, rfl, rfl⟩),
    offersAs_of_title (by decide) (offers_ofName fun _ => ⟨.request _, rfl, rfl⟩),
    offersAs_of_title (by decide) (offers_ofValues fun _ _ => ⟨.response _, rfl, rfl⟩),
    offersAs_of_title (by decide) (offers_ofValues fun _ _ => ⟨.response _, rfl, rfl⟩),
    offersAs_of_title (by decide) (offers_ofName fun _ => ⟨.response _, rfl, rfl⟩),
    offersAs_of_title (by decide) offers_setStatus,
    offersAs_of_title (by decide) offers_redirectTo, List.forall_mem_nil _⟩

def IsPredicate (p : Product) : Prop := ∃ c : Condition, p = .predicate c.predicate

theorem offers_condition {name : Option String} {formals : List (String × ParamType)}
    {build : List Value → Option (Except Failure Condition)} :
    Offers outlet IsPredicate (condition name formals build) := by
  refine offers_offered fun values p hp => ?_
  obtain ⟨r, -, hp⟩ := Option.map_eq_some_iff.1 hp
  obtain ⟨c, -, rfl⟩ := Outcome.map_eq_ok_iff.1 hp
  exact ⟨c, rfl⟩

theorem offers_predicateMembers : ∀ e ∈ predicateMembers, Offers outlet IsPredicate e.2 := by
  simp only [predicateMembers, List.forall_mem_cons]
  exact ⟨offers_condition, offers_condition, offers_condition, offers_condition, offers_condition,
    offers_condition, offers_condition, offers_condition, offers_condition, offers_condition,
    offers_condition, List.forall_mem_nil _⟩

/-- The handlings of the built-in handlers: the balancer of a service picks among the instances that
the outlet has for it. -/
inductive IsHandler (outlet : Outlet) : Product → Prop
  | forwarding : IsHandler outlet (.handling ⟨Request.forward, []⟩)
  | balanced (service : String) : IsHandler outlet (.handling ⟨Request.forward,
      [(Balancer.stage service ((outlet.instances.get? service).getD [])).filter]⟩)
  | answering : IsHandler outlet (.handler answerEmpty)

inductive HandlerOf (outlet : Outlet) (args : Arguments) : String → Product → Prop
  | forwarding {scheme} : scheme ∈ ["http", "https"] →
      HandlerOf outlet args scheme (.handling ⟨Request.forward, []⟩)
  | balanced {uri p} : args.map Prod.snd = [.text uri] → Builtin.balanced outlet uri = .ok p →
      HandlerOf outlet args "lb" p
  | answering : HandlerOf outlet args "no" (.handler answerEmpty)

theorem HandlerOf.isHandler {args : Arguments} {scheme : String} {p : Product}
    (h : HandlerOf outlet args scheme p) : IsHandler outlet p := by
  cases h with
  | forwarding => exact .forwarding
  | balanced _ hp =>
    obtain ⟨u, -, hp⟩ := Outcome.bind_eq_ok_iff.1 hp
    obtain ⟨service, -, rfl⟩ := Outcome.map_eq_ok_iff.1 hp
    exact .balanced service
  | answering => exact .answering

def HandlesAs (outlet : Outlet) (e : String × Member) : Prop :=
  ∀ m, e.2 = .method m → ∀ scheme ∈ titles e,
    (scheme = "lb" → (m.signature.drop 1).map Formal.parameter = [⟨"uri", .text, false⟩]) ∧
    ∀ args, ∃ r, m.build outlet args = Compile.lift r ∧
      ∀ p, r = .ok p → HandlerOf outlet args scheme p

theorem handlesAs_unmarked (found : String) (closes : Bool) :
    HandlesAs outlet (found, .method { Method.unmarked with closes }) := by
  intro m _ scheme hscheme
  cases hscheme

theorem handlesAs_offered {found : String} {names : List (Option String)}
    {formals : List (String × ParamType)}
    {build : Outlet → List Value → Option (Except Failure Product)}
    (h : ∀ scheme ∈ titles (found, Method.offered names formals build),
      (scheme = "lb" → formals = [("uri", .text)]) ∧
      ∀ args p, build outlet (args.map Prod.snd) = some (.ok p) → HandlerOf outlet args scheme p) :
    HandlesAs outlet (found, Method.offered names formals build) := by
  intro m hm scheme hscheme
  obtain ⟨hformals, hbuild⟩ := h scheme hscheme
  cases hm
  refine ⟨fun hlb => ?_, fun args => ?_⟩
  · rw [hformals hlb]
    rfl
  · refine ⟨_, rfl, fun p hp => ?_⟩
    cases hb : build outlet (args.map Prod.snd) with
    | none =>
      rw [hb] at hp
      cases hp
    | some r =>
      rw [hb] at hp
      exact hbuild args p (hb.trans (congrArg some hp))

theorem handlesAs_handlerMembers : ∀ e ∈ handlerMembers, HandlesAs outlet e := by
  simp only [handlerMembers, List.forall_mem_cons]
  refine ⟨handlesAs_unmarked _ false, handlesAs_unmarked _ true, handlesAs_offered fun scheme h => ?_,
    handlesAs_offered fun scheme h => ?_, handlesAs_offered fun scheme h => ?_,
    handlesAs_unmarked _ false, handlesAs_unmarked _ false, List.forall_mem_nil _⟩
  · have hscheme : scheme ∈ ["http", "https"] := h
    refine ⟨fun hlb => ?_, fun args p hp => ?_⟩
    · rw [hlb] at hscheme
      exact absurd hscheme (by decide)
    · cases hp
      exact .forwarding hscheme
  · have hscheme : scheme = "lb" := List.mem_singleton.1 h
    rw [hscheme]
    refine ⟨fun _ => rfl, fun args p hp => ?_⟩
    split at hp
    · rename_i uri hvalues
      exact .balanced hvalues (Option.some.inj hp)
    · cases hp
  · have hscheme : scheme = "no" := List.mem_singleton.1 h
    rw [hscheme]
    refine ⟨fun hlb => absurd hlb (by decide), fun args p hp => ?_⟩
    cases hp
    exact .answering

theorem eq_unmarked_of_mem_root : ∀ l ∈ ProviderClass.root.layers, ∀ e ∈ l.members.entries,
    e.2 = .method .unmarked := by
  intro l hl e he
  cases List.mem_singleton.1 hl
  obtain ⟨name, -, rfl⟩ := List.mem_map.1 (OrderedMap.mem_of_mem_ofList he)
  rfl

theorem providers_eq (outlet : Outlet) :
    providers outlet = [⟨handlers, outlet⟩, ⟨predicates, .empty⟩, ⟨filters, .empty⟩] := rfl

theorem eq_of_mem_providers {p : Provider} (h : p ∈ providers outlet) :
    p = ⟨handlers, outlet⟩ ∧ p.family = "handler" ∨
      p = ⟨predicates, .empty⟩ ∧ p.family = "predicate" ∨
      p = ⟨filters, .empty⟩ ∧ p.family = "filter" := by
  rw [providers_eq, List.mem_cons, List.mem_cons, List.mem_singleton] at h
  rcases h with rfl | rfl | rfl
  · exact .inl ⟨rfl, rfl⟩
  · exact .inr (.inl ⟨rfl, rfl⟩)
  · exact .inr (.inr ⟨rfl, rfl⟩)

theorem exists_member_of_discover {family : String} {c : Catalog} {i j : Journal}
    (hc : (Catalog.discover family (providers outlet)).outcomeFrom i = (.ok c, j))
    {name : String} {op : Operation} (hop : op ∈ c.candidates name) :
    op.name = OperationName.normal name ∧ ∃ p ∈ providers outlet, p.family = family ∧
      ∃ found m, (found, .method m) ∈ p.kind.own.members.entries ∧
        op.name ∈ titles (found, .method m) ∧
        op.parameters = (m.signature.drop 1).map Formal.parameter ∧
        op.build = m.build p.outlet := by
  have hname : op.name = OperationName.normal name := by
    rw [(Catalog.discovered_of_discover hc).of_ok.2.candidates, List.mem_filter,
      decide_eq_true_eq] at hop
    exact hop.2
  obtain ⟨p, hp, hoffered⟩ := Catalog.offered_of_discover hc hop
  obtain ⟨hfamily, l, hl, found, m, hm, marker, hmarker, title, htitle, rfl⟩ :=
    Provider.exists_method_of_offered hoffered
  -- the built-in classes stand right on the root, whose methods are not marked
  have habove : p.kind.above = ProviderClass.root.layers := by
    rcases eq_of_mem_providers hp with ⟨rfl, -⟩ | ⟨rfl, -⟩ | ⟨rfl, -⟩ <;> rfl
  refine ⟨hname, p, hp, hfamily, found, m, ?_, List.mem_filterMap.2 ⟨marker, hmarker, htitle⟩, rfl,
    rfl⟩
  rw [ProviderClass.layers, habove, List.mem_cons] at hl
  rcases hl with rfl | hl
  · exact hm
  · have hunmarked := eq_unmarked_of_mem_root l hl _ hm
    cases hunmarked
    cases hmarker

def Builds (P : Product → Prop) (op : Operation) : Prop :=
  ∀ args, ∃ r, op.build args = Compile.lift r ∧ ∀ p, r = .ok p → P p

theorem builds_of_discover {family : String} {c : Catalog} {i j : Journal}
    (hc : (Catalog.discover family (providers outlet)).outcomeFrom i = (.ok c, j))
    {P : String → Product → Prop}
    (hP : ∀ p ∈ providers outlet, p.family = family → ∀ e ∈ p.kind.own.members.entries,
      OffersAs p.outlet P e)
    {name : String} {op : Operation} (hop : op ∈ c.candidates name) :
    Builds (P (OperationName.normal name)) op := by
  obtain ⟨hname, p, hp, hfamily, found, m, hm, htitle, -, hbuild⟩ :=
    exists_member_of_discover hc hop
  have hmarkers : m.markers ≠ [] := by
    obtain ⟨marker, hmarker, -⟩ := List.mem_filterMap.1 htitle
    exact List.ne_nil_of_mem hmarker
  intro args
  rw [hbuild, ← hname]
  exact hP p hp hfamily _ hm op.name htitle hmarkers args

section

variable {c : Catalog} {i j : Journal} {name : String} {op : Operation}

theorem handlerOf_of_discover
    (hc : (Catalog.discover "handler" (providers outlet)).outcomeFrom i = (.ok c, j))
    (hop : op ∈ c.candidates name) :
    (OperationName.normal name = "lb" → op.parameters = [⟨"uri", .text, false⟩]) ∧
      ∀ args, ∃ r, op.build args = Compile.lift r ∧
        ∀ p, r = .ok p → HandlerOf outlet args (OperationName.normal name) p := by
  obtain ⟨hname, p, hp, hfamily, found, m, hm, htitle, hparameters, hbuild⟩ :=
    exists_member_of_discover hc hop
  rw [hparameters, hbuild, ← hname]
  rcases eq_of_mem_providers hp with ⟨rfl, hf⟩ | ⟨rfl, hf⟩ | ⟨rfl, hf⟩
  · exact handlesAs_handlerMembers _ (OrderedMap.mem_of_mem_ofList hm) m rfl op.name htitle
  · exact absurd (hf.symm.trans hfamily) (by decide)
  · exact absurd (hf.symm.trans hfamily) (by decide)

theorem builds_handler
    (hc : (Catalog.discover "handler" (providers outlet)).outcomeFrom i = (.ok c, j))
    (hop : op ∈ c.candidates name) : Builds (IsHandler outlet) op := by
  intro args
  obtain ⟨r, hr, hP⟩ := (handlerOf_of_discover hc hop).2 args
  exact ⟨r, hr, fun p hp => (hP p hp).isHandler⟩

theorem builds_predicate
    (hc : (Catalog.discover "predicate" (providers outlet)).outcomeFrom i = (.ok c, j))
    (hop : op ∈ c.candidates name) : Builds IsPredicate op := by
  refine builds_of_discover hc (P := fun _ => IsPredicate) (fun p hp hfamily e he _ _ => ?_) hop
  rcases eq_of_mem_providers hp with ⟨rfl, hf⟩ | ⟨rfl, hf⟩ | ⟨rfl, hf⟩
  · exact absurd (hf.symm.trans hfamily) (by decide)
  · exact offers_predicateMembers e (OrderedMap.mem_of_mem_ofList he)
  · exact absurd (hf.symm.trans hfamily) (by decide)

theorem builds_filter
    (hc : (Catalog.discover "filter" (providers outlet)).outcomeFrom i = (.ok c, j))
    (hop : op ∈ c.candidates name) : Builds (IsFilterOf (OperationName.normal name)) op := by
  refine builds_of_discover hc (fun p hp hfamily e he => ?_) hop
  rcases eq_of_mem_providers hp with ⟨rfl, hf⟩ | ⟨rfl, hf⟩ | ⟨rfl, hf⟩
  · exact absurd (hf.symm.trans hfamily) (by decide)
  · exact absurd (hf.symm.trans hfamily) (by decide)
  · exact offersAs_filterMembers e (OrderedMap.mem_of_mem_ofList he)

end

end HttpGateway.Builtin
