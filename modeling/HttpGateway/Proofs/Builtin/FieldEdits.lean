import HttpGateway.Proofs.Builtin.PathEdits
import HttpGateway.Proofs.Message.Fields

/-!
Edits of header fields, which a request undergoes on its way in and a response on its way out. Edits
of ASCII names and values never fail, so a run of them is a fold over the fields, and the laws of
single edits are laws of the filters.
-/

namespace HttpGateway

open HttpGateway.Text

namespace Filter

def GivesBack (f : Filter) (a a' : Response) : Prop :=
  ∀ next r s x y, (next r).outcome s x = (.ok a, y) → (f next r).outcome s x = (.ok a', y)

theorem passesOn_chain_nil (r : Request) : PassesOn (chain []) r r := fun _ _ _ => rfl

theorem givesBack_chain_nil (a : Response) : GivesBack (chain []) a a := fun _ _ _ _ _ h => h

theorem PassesOn.chain_cons {f : Filter} {fs : List Filter} {r r' r'' : Request}
    (hf : f.PassesOn r r') (hfs : PassesOn (chain fs) r' r'') :
    PassesOn (chain (f :: fs)) r r'' := by
  intro next s x
  exact (hf (chain fs next) s x).trans (hfs next s x)

theorem GivesBack.chain_concat {f : Filter} {fs : List Filter} {a a' a'' : Response}
    (hf : f.GivesBack a a') (hfs : GivesBack (chain fs) a' a'') :
    GivesBack (chain (fs ++ [f])) a a'' := by
  intro next r s x y ha
  have hchain : chain (fs ++ [f]) next = chain fs (f next) := List.foldr_append
  rw [hchain]
  exact hfs (f next) r s x y (hf next r s x y ha)

end Filter

inductive FieldEdit where
  | add (name : String) (values : List String)
  | set (name : String) (values : List String)
  | remove (name : String)

namespace FieldEdit

open Headers

def onRequest : FieldEdit → RequestEdit
  | add name values => .addHeader name values
  | set name values => .setHeader name values
  | remove name => .removeHeader name

def onResponse : FieldEdit → ResponseEdit
  | add name values => .addHeader name values
  | set name values => .setHeader name values
  | remove name => .removeHeader name

def IsAscii : FieldEdit → Prop
  | add name values => isAscii name ∧ ∀ v ∈ values, isAscii v
  | set name values => isAscii name ∧ ∀ v ∈ values, isAscii v
  | remove name => isAscii name

def edited : FieldEdit → Headers → Headers
  | add name values, h => h.added name values
  | set name values, h => h.put name (joined values)
  | remove name, h => h.erase name

variable {e : FieldEdit} {es : List FieldEdit} {h h' : Headers} {name : String}
  {values others first second : List String}

theorem passesOn (he : e.IsAscii) (r : Request) :
    e.onRequest.stage.filter.PassesOn r (r.withHeaders (e.edited r.headers)) := by
  have hedited : ∀ s x,
      (e.onRequest.apply r).outcome s x = (.ok (r.withHeaders (e.edited r.headers)), x) := by
    intro s x
    cases e with
    | add name values =>
      refine (RequestEdit.outcome_apply_of_inPlace rfl r s x).trans ?_
      rw [Request.rewritten, addedTo_of_isAscii he.1 he.2]
      rfl
    | set name values => rfl
    | remove name =>
      refine (RequestEdit.outcome_apply_of_inPlace rfl r s x).trans ?_
      rw [Request.rewritten, erase?_of_isAscii he]
      rfl
  intro next s x
  have hfilter : e.onRequest.stage.filter next r = e.onRequest.apply r >>= next :=
    congrFun (Builtin.Step.filter_request e.onRequest next) r
  rw [hfilter]
  exact Serve.outcome_bind_ok (hedited s x)

theorem headers?_onResponse (he : e.IsAscii) (h : Headers) :
    e.onResponse.headers? h = some (e.edited h) := by
  cases e with
  | add name values => exact addedTo_of_isAscii he.1 he.2
  | set name values => exact put?_of_isAscii he.1 (isAscii_joined_iff.2 he.2)
  | remove name => exact erase?_of_isAscii he

theorem givesBack (he : e.IsAscii) (a : Response) :
    e.onResponse.stage.filter.GivesBack a { a with headers := e.edited a.headers } := by
  intro next r s x y ha
  have hfilter : e.onResponse.stage.filter next r = next r >>= e.onResponse.apply :=
    congrFun (Builtin.Step.filter_response e.onResponse next) r
  rw [hfilter, Serve.outcome_bind_ok ha, ResponseEdit.apply, headers?_onResponse he]
  cases e <;> rfl

/-- What a run of edits makes of header fields, those of any request and those of any response. The
edit that comes first is the outermost one on a request and the innermost one on a response. -/
structure Turns (es : List FieldEdit) (h h' : Headers) : Prop where
  request : ∀ r : Request, r.headers = h →
    Filter.PassesOn (Filter.chain (es.map (·.onRequest.stage.filter))) r (r.withHeaders h')
  response : ∀ a : Response, a.headers = h →
    Filter.GivesBack (Filter.chain (es.reverse.map (·.onResponse.stage.filter))) a
      { a with headers := h' }

theorem turns_nil (h : Headers) : Turns [] h h := by
  constructor
  · rintro r rfl
    exact Filter.passesOn_chain_nil r
  · rintro a rfl
    exact Filter.givesBack_chain_nil a

theorem Turns.cons (he : e.IsAscii) (hes : Turns es (e.edited h) h') : Turns (e :: es) h h' := by
  constructor
  · rintro r rfl
    exact (passesOn he r).chain_cons (hes.request (r.withHeaders (e.edited r.headers)) rfl)
  · rintro a rfl
    rw [List.reverse_cons, List.map_append]
    exact (givesBack he a).chain_concat (hes.response { a with headers := e.edited a.headers } rfl)

theorem turns_foldl (hes : ∀ e ∈ es, e.IsAscii) (h : Headers) :
    Turns es h (es.foldl (fun h e => e.edited h) h) := by
  induction es generalizing h with
  | nil => exact turns_nil h
  | cons e es ih =>
    obtain ⟨he, hes⟩ := List.forall_mem_cons.1 hes
    exact (ih hes (e.edited h)).cons he

theorem Turns.single (he : e.IsAscii) (h : Headers) : Turns [e] h (e.edited h) :=
  turns_foldl (List.forall_mem_singleton.2 he) h

theorem Turns.pair {e' : FieldEdit} (he : e.IsAscii) (he' : e'.IsAscii) (h : Headers) :
    Turns [e, e'] h (e'.edited (e.edited h)) :=
  turns_foldl (List.forall_mem_cons.2 ⟨he, List.forall_mem_singleton.2 he'⟩) h

theorem edited_add_add (hname : isAscii name)
    (hsome : first ≠ [] ∨ second = [] ∨ h.values name ≠ []) :
    (add name second).edited ((add name first).edited h) =
      (add name (first ++ second)).edited h := by
  refine (added_added hname h first second).trans ?_
  change _ = h.put name (joined (h.values name ++ (first ++ second)))
  by_cases hne : h.values name ++ first = []
  · obtain ⟨hvalues, hfirst⟩ := List.append_eq_nil_iff.1 hne
    have hsecond : second = [] := by simpa [hvalues, hfirst] using hsome
    rw [hvalues, hfirst, hsecond]
    rfl
  · rw [joined_joined hne, List.append_assoc]

theorem edited_add_add_of_none (hname : isAscii name) (hnone : h.values name = [])
    (hsecond : second ≠ []) :
    ((add name second).edited ((add name []).edited h)).fields =
      h.fields ++ [(name, ", " ++ joined second)] := by
  have hjoined : joined (joined [] :: second) = joined [] ++ ", " ++ joined second :=
    String.intercalate_cons_of_ne_nil hsecond
  have hempty : joined [] = "" := rfl
  have hadded := added_added hname h [] second
  rw [hnone, List.append_nil, hjoined, hempty, String.empty_append,
    put_of_no_values hname hnone] at hadded
  exact congrArg Headers.fields hadded

theorem edited_add_of_none (hname : isAscii name) (hnone : h.values name = []) :
    ((add name second).edited h).fields = h.fields ++ [(name, joined second)] := by
  change (h.put name (joined (h.values name ++ second))).fields = _
  rw [put_of_no_values hname hnone, hnone, List.nil_append]

theorem comma_append_ne (s : String) : ", " ++ s ≠ s := by
  intro heq
  have hlength := congrArg String.length heq
  rw [String.length_append] at hlength
  have hcomma : ", ".length = 2 := rfl
  omega

/-- Adding values in two steps comes to adding them at once, unless nothing is added at first to a
name that has no field yet. -/
theorem adds_in_two_steps (hname : isAscii name) (hfirst : ∀ v ∈ first, isAscii v)
    (hsecond : ∀ v ∈ second, isAscii v) (h : Headers) : ∃ stepwise atOnce,
    Turns [add name first, add name second] h stepwise ∧
      Turns [add name (first ++ second)] h atOnce ∧
      (stepwise = atOnce ↔ first ≠ [] ∨ second = [] ∨ h.values name ≠ []) ∧
      (first = [] → second ≠ [] → h.values name = [] →
        stepwise.fields = h.fields ++ [(name, ", " ++ joined second)] ∧
          atOnce.fields = h.fields ++ [(name, joined second)]) := by
  have hone : (add name first).IsAscii := ⟨hname, hfirst⟩
  have htwo : (add name second).IsAscii := ⟨hname, hsecond⟩
  have hboth : (add name (first ++ second)).IsAscii :=
    ⟨hname, List.forall_mem_append.2 ⟨hfirst, hsecond⟩⟩
  have hapart : first = [] → second ≠ [] → h.values name = [] →
      ((add name second).edited ((add name first).edited h)).fields =
          h.fields ++ [(name, ", " ++ joined second)] ∧
        ((add name (first ++ second)).edited h).fields = h.fields ++ [(name, joined second)] := by
    rintro rfl hne hnone
    exact ⟨edited_add_add_of_none hname hnone hne, edited_add_of_none hname hnone⟩
  refine ⟨_, _, .pair hone htwo h, .single hboth h, ?_, hapart⟩
  constructor
  · intro heq
    by_contra hnot
    simp only [not_or, not_not] at hnot
    obtain ⟨hstepwise, hatOnce⟩ := hapart hnot.1 hnot.2.1 hnot.2.2
    rw [heq, hatOnce] at hstepwise
    have hvalue : joined second = ", " ++ joined second := by simpa using hstepwise
    exact comma_append_ne _ hvalue.symm
  · exact edited_add_add hname

/-- An edit of a name leaves one field of it at most, at its first place, and touches no other name.
Only the last of several edits of a name shows, unless it adds. -/
theorem edits_stay_in_place (hname : isAscii name) (hvalues : ∀ v ∈ values, isAscii v)
    (hothers : ∀ v ∈ others, isAscii v) (h : Headers) : ∃ added replaced erased,
    Turns [add name values] h added ∧
      Written name (joined (h.values name ++ values)) h added ∧
      Turns [set name values] h replaced ∧ Written name (joined values) h replaced ∧
      Turns [remove name] h erased ∧ Erased name h erased ∧
      Turns [add name others, set name values] h replaced ∧
      Turns [add name others, remove name] h erased ∧
      Turns [set name others, remove name] h erased := by
  have hfirst : (add name values).IsAscii := ⟨hname, hvalues⟩
  have hadd : (add name others).IsAscii := ⟨hname, hothers⟩
  have hput : (set name others).IsAscii := ⟨hname, hothers⟩
  have hset : (set name values).IsAscii := ⟨hname, hvalues⟩
  have hremove : (remove name).IsAscii := hname
  have hhidden : (set name values).edited ((add name others).edited h) =
      (set name values).edited h :=
    put_put h name _ _
  have herased : ∀ value, (remove name).edited (h.put name value) = (remove name).edited h :=
    fun value => erase_put hname
  refine ⟨_, _, _, .single hfirst h, written_put h name _, .single hset h,
    written_put h name _, .single hremove h, erased_erase hname, ?_, ?_, ?_⟩
  · rw [← hhidden]
    exact .pair hadd hset h
  · rw [← herased (joined (h.values name ++ others))]
    exact .pair hadd hremove h
  · rw [← herased (joined others)]
    exact .pair hput hremove h

end FieldEdit

namespace Sample

open FieldEdit

def taggedFields : Headers := ⟨[("X-Tag", "1"), ("Accept", "*/*"), ("x-tag", "2")]⟩

theorem adds_in_two_steps_tagged : ∃ both,
    Turns [add "X-TAG" ["a"], add "X-TAG" ["b", "c"]] taggedFields both ∧
      Turns [add "X-TAG" ["a", "b", "c"]] taggedFields both := by
  have hname : Headers.isAscii "X-TAG" := by decide
  have hfirst : ∀ v ∈ ["a"], Headers.isAscii v := by decide
  have hsecond : ∀ v ∈ ["b", "c"], Headers.isAscii v := by decide
  obtain ⟨stepwise, atOnce, hstepwise, hatOnce, hsame, -⟩ :=
    adds_in_two_steps hname hfirst hsecond taggedFields
  obtain rfl := hsame.2 (.inl (by decide))
  exact ⟨stepwise, hstepwise, hatOnce⟩

def untaggedVisit : Request :=
  ⟨"GET", ⟨"http", "", "gateway.local", none, "/", none, none⟩, .empty, ""⟩

theorem addition_of_nothing_shows : ∃ stepwise atOnce,
    Filter.PassesOn (Filter.chain [(RequestEdit.addHeader "X-Tag" []).stage.filter,
      (RequestEdit.addHeader "X-Tag" ["v"]).stage.filter]) untaggedVisit stepwise ∧
    Filter.PassesOn (RequestEdit.addHeader "X-Tag" ([] ++ ["v"])).stage.filter untaggedVisit atOnce ∧
    stepwise.headers = ⟨[("X-Tag", ", v")]⟩ ∧ atOnce.headers = ⟨[("X-Tag", "v")]⟩ := by
  have hnone : (add "X-Tag" []).IsAscii := ⟨by decide, by decide⟩
  have hone : (add "X-Tag" ["v"]).IsAscii := ⟨by decide, by decide⟩
  refine ⟨_, _, (Turns.pair hnone hone .empty).request untaggedVisit rfl,
    (Turns.single hone .empty).request untaggedVisit rfl, ?_, ?_⟩
  · rfl
  · rfl

theorem edits_stay_in_place_tagged : ∃ added replaced erased,
    Turns [add "X-TAG" ["a", "b"]] taggedFields added ∧
      added.fields = [("X-TAG", "1, 2, a, b"), ("Accept", "*/*")] ∧
      Turns [add "X-TAG" ["c"], set "X-TAG" ["a", "b"]] taggedFields replaced ∧
      replaced.fields = [("X-TAG", "a, b"), ("Accept", "*/*")] ∧
      Turns [set "X-TAG" ["c"], remove "X-TAG"] taggedFields erased ∧
      erased.fields = [("Accept", "*/*")] := by
  have hname : Headers.isAscii "X-TAG" := by decide
  have hvalues : ∀ v ∈ ["a", "b"], Headers.isAscii v := by decide
  have hothers : ∀ v ∈ ["c"], Headers.isAscii v := by decide
  obtain ⟨added, replaced, erased, hadd, hadded, -, hreplaced, -, herased, hset, -, hremove⟩ :=
    edits_stay_in_place hname hvalues hothers taggedFields
  refine ⟨added, replaced, erased, hadd, ?_, hset, ?_, hremove, herased.others⟩
  · rw [hadded.unique (Headers.written_put taggedFields "X-TAG" _)]
    rfl
  · rw [hreplaced.unique (Headers.written_put taggedFields "X-TAG" _)]
    rfl

end Sample

end HttpGateway
