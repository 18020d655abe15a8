import HttpGateway.Proofs.Builtin.Delivery
import HttpGateway.Proofs.Message.Headers

/-!
Which filters suit a request. The texts of a filter are looked at when a request is served, not when
the route is compiled: a filter that does not suit makes serving fail, and one that suits never does.
-/

namespace HttpGateway

open HttpGateway.Text

namespace RequestEdit

def AsciiTexts : RequestEdit → Prop
  | addHeader name values => Headers.isAscii name ∧ ∀ v ∈ values, Headers.isAscii v
  | removeHeader name => Headers.isAscii (lower name)
  | _ => True

def newPath? : RequestEdit → Request → Option (Except Failure String)
  | stripPath parts, r => some (.ok (strippedPath parts r.rawPath))
  | extendPath start, r => some (.ok (start ++ r.rawPath))
  | setPath path, _ => some (.ok path)
  | substituteInPath pattern template, r =>
    some ((pattern.substitute template r.rawPath).mapError templateFailure)
  | _, _ => none

def newParams? : RequestEdit → Request → Option Uri.Params
  | addParameter name values, r => some (r.params.addAll name values)
  | removeParameter name, r => some (r.params.erase name)
  | _, _ => none

/-- An edit that can be made of the request. -/
structure Suits (e : RequestEdit) (r : Request) : Prop where
  texts : e.AsciiTexts
  path : ∀ o, e.newPath? r = some o → ∃ path, o = .ok path ∧ r.TakesPath path
  params : ∀ ps, e.newParams? r = some ps → r.TakesParams ps

variable {e : RequestEdit} {r : Request}

theorem inPlace?_isSome_iff {f : Headers → Option Headers} (he : e.inPlace? = some f)
    (h : Headers) : (f h).isSome ↔ (h.plain → e.AsciiTexts) := by
  cases e with
  | addHeader name values =>
    cases he
    exact Headers.addedTo_isSome_iff
  | removeHeader name =>
    cases he
    exact Headers.erase?_isSome_iff
  | setHeader name values =>
    cases he
    exact iff_of_true rfl fun _ => trivial
  | setHost host =>
    cases he
    exact iff_of_true rfl fun _ => trivial
  | _ => cases he

theorem outcome_withPath (r : Request) (path : String) (s : Surroundings) (x : Exchange) :
    (withPath r path).outcome s x = ((r.withRawPath path).mapError .badUri, x) :=
  Serve.outcome_lift _ _ s x

theorem outcome_apply_of_newPath {o : Except Failure String} (he : e.newPath? r = some o)
    (s : Surroundings) (x : Exchange) : (e.apply r).outcome s x =
      (o >>= fun path => (r.withRawPath path).mapError .badUri, x) := by
  cases e with
  | stripPath | extendPath | setPath =>
    cases he
    rw [apply, outcome_withPath, Outcome.ok_bind]
  | substituteInPath pattern template =>
    cases he
    cases h : pattern.substitute template r.rawPath <;> simp [apply, outcome_withPath, h]
  | _ => cases he

theorem outcome_apply_of_newParams {ps : Uri.Params} (he : e.newParams? r = some ps)
    (s : Surroundings) (x : Exchange) : (e.apply r).outcome s x =
      (((r.uri.withParams ps).map r.withUri).mapError .badUri, x) := by
  have hparams : (withParams r ps).outcome s x =
      (((r.uri.withParams ps).map r.withUri).mapError .badUri, x) := by
    cases h : r.uri.withParams ps <;> simp [withParams, h]
  cases e with
  | addParameter | removeParameter =>
    cases he
    exact hparams
  | _ => cases he

theorem leaving_of_newPath {o : Except Failure String} (he : e.newPath? r = some o)
    (x : Exchange) : e.leaving x = x := by
  cases e <;> first | rfl | cases he

theorem leaving_of_newParams {ps : Uri.Params} (he : e.newParams? r = some ps) (x : Exchange) :
    e.leaving x = x := by
  cases e <;> first | rfl | cases he

theorem kinds (e : RequestEdit) (r : Request) : (∃ f, e.inPlace? = some f) ∨
    (∃ o, e.newPath? r = some o) ∨ (∃ ps, e.newParams? r = some ps) ∨ e = keepHost := by
  cases e with
  | addHeader | setHeader | removeHeader | setHost => exact .inl ⟨_, rfl⟩
  | stripPath | extendPath | setPath | substituteInPath => exact .inr (.inl ⟨_, rfl⟩)
  | addParameter | removeParameter => exact .inr (.inr (.inl ⟨_, rfl⟩))
  | keepHost => exact .inr (.inr (.inr rfl))

theorem Suits.outcome_of_newPath (h : e.Suits r) (hr : r.uri.Regular)
    {o : Except Failure String} (he : e.newPath? r = some o) : ∃ path, o = .ok path ∧
      r.uri.Admits path.toList ∧ ∀ s x, (e.apply r).outcome s x =
        (.ok (r.withUri (r.uri.rebuilt (Request.pathWritten path) r.keptQuery)), x) := by
  obtain ⟨path, rfl, hpath⟩ := h.path o he
  refine ⟨path, rfl, hpath.admitted, fun s x => ?_⟩
  rw [outcome_apply_of_newPath he, Outcome.ok_bind, Request.withRawPath_of_takes hr hpath]
  rfl

theorem Suits.exists_applied (h : e.Suits r) (hr : r.uri.Regular) :
    ∃ r', ∀ s x, (e.apply r).outcome s x = (.ok r', e.leaving x) := by
  rcases e.kinds r with ⟨f, he⟩ | ⟨o, he⟩ | ⟨ps, he⟩ | rfl
  · obtain ⟨fields, hfields⟩ :=
      Option.isSome_iff_exists.1 ((inPlace?_isSome_iff he r.headers).2 fun _ => h.texts)
    refine ⟨r.withHeaders fields, fun s x => ?_⟩
    rw [outcome_apply_of_inPlace he, Request.rewritten, hfields]
  · obtain ⟨path, -, -, happlied⟩ := h.outcome_of_newPath hr he
    simp only [leaving_of_newPath he]
    exact ⟨_, happlied⟩
  · obtain ⟨uri, huri⟩ := Request.exists_withParams_of_takes hr (h.params ps he)
    refine ⟨r.withUri uri, fun s x => ?_⟩
    rw [leaving_of_newParams he, outcome_apply_of_newParams he, huri]
    rfl
  · exact ⟨r, fun s x => rfl⟩

theorem Suits.rooted (h : e.Suits r) (hr : r.uri.Regular) {path : String}
    (he : e.newPath? r = some (.ok path))
    (hrooted : r.uri.hasOrigin ∨ path.toList.head? = some '/') {s : Surroundings}
    {x y : Exchange} {r' : Request} (hout : (e.apply r).outcome s x = (.ok r', y)) :
    r'.rawPath.toList.head? = some '/' := by
  obtain ⟨_, hpath, hadmits, happlied⟩ := h.outcome_of_newPath hr he
  cases hpath
  rw [happlied] at hout
  cases hout
  refine Uri.rooted_rebuilt r.uri ?_ r.keptQuery
  by_cases hempty : path = ""
  · rw [hempty]
    exact .inr (by decide)
  · have hhead : path.toList.head? = some '/' := by
      refine hrooted.elim (fun ho => ?_) id
      exact (hadmits.rooted ho).resolve_left fun hnil => hempty (String.toList_eq_nil_iff.1 hnil)
    rw [Request.toList_pathWritten hempty, head?_escape_iff (by decide) (by decide)]
    exact .inr hhead

theorem outcome_of_not_ascii (h : ¬ e.AsciiTexts) (hplain : r.headers.plain) (s : Surroundings)
    (x : Exchange) : (e.apply r).outcome s x = (.error .notAscii, e.leaving x) := by
  obtain ⟨f, he⟩ : ∃ f, e.inPlace? = some f := by
    cases e with
    | addHeader | removeHeader => exact ⟨_, rfl⟩
    | _ => exact absurd trivial h
  have hnone : f r.headers = none := by
    rw [← Option.not_isSome_iff_eq_none, inPlace?_isSome_iff he]
    exact fun htaken => h (htaken hplain)
  rw [outcome_apply_of_inPlace he, Request.rewritten, hnone]

theorem exists_failure_of_newPath {o : Except Failure String} (he : e.newPath? r = some o)
    (hr : r.uri.Regular) (hnot : ∀ path, o = .ok path → ¬ r.TakesPath path) :
    ∃ f, ∀ s x, (e.apply r).outcome s x = (.error f, x) := by
  cases o with
  | error f => exact ⟨f, outcome_apply_of_newPath he⟩
  | ok path =>
    obtain ⟨f, hf⟩ := Request.exists_withRawPath_error hr (hnot path rfl)
    refine ⟨.badUri f, fun s x => ?_⟩
    rw [outcome_apply_of_newPath he, Outcome.ok_bind, hf]
    rfl

theorem exists_failure_of_newParams {ps : Uri.Params} (he : e.newParams? r = some ps)
    (hr : r.uri.Regular) (hnot : ¬ r.TakesParams ps) :
    ∃ f, ∀ s x, (e.apply r).outcome s x = (.error f, x) := by
  obtain ⟨f, hf⟩ := Request.exists_withParams_error hr hnot
  refine ⟨.badUri f, fun s x => ?_⟩
  rw [outcome_apply_of_newParams he, hf]
  rfl

theorem exists_failure_of_not_suits (h : ¬ e.Suits r) (hr : r.uri.Regular)
    (hplain : r.headers.plain) (x : Exchange) :
    ∃ f y, ∀ s, (e.apply r).outcome s x = (.error f, y) := by
  -- texts first: an edit of header fields asks for neither a path nor parameters
  by_cases htexts : e.AsciiTexts
  · by_cases hpath : ∃ o, e.newPath? r = some o ∧ ∀ path, o = .ok path → ¬ r.TakesPath path
    · obtain ⟨o, he, hnot⟩ := hpath
      obtain ⟨f, hf⟩ := exists_failure_of_newPath he hr hnot
      exact ⟨f, x, fun s => hf s x⟩
    · obtain ⟨ps, he, hnot⟩ : ∃ ps, e.newParams? r = some ps ∧ ¬ r.TakesParams ps := by
        by_contra hparams
        refine h ⟨htexts, fun o he => ?_, fun ps he => ?_⟩
        · by_contra hnone
          exact hpath ⟨o, he, fun path hok htakes => hnone ⟨path, hok, htakes⟩⟩
        · by_contra hnot
          exact hparams ⟨ps, he, hnot⟩
      obtain ⟨f, hf⟩ := exists_failure_of_newParams he hr hnot
      exact ⟨f, x, fun s => hf s x⟩
  · exact ⟨.notAscii, e.leaving x, fun s => outcome_of_not_ascii htexts hplain s x⟩

end RequestEdit

namespace ResponseEdit

def AsciiTexts : ResponseEdit → Prop
  | addHeader name values => Headers.isAscii name ∧ ∀ v ∈ values, Headers.isAscii v
  | setHeader name values => Headers.isAscii name ∧ ∀ v ∈ values, Headers.isAscii v
  | removeHeader name => Headers.isAscii (lower name)
  | setStatus _ => True

variable {e : ResponseEdit} {a : Response}

theorem headers?_isSome_iff (e : ResponseEdit) (h : Headers) :
    (e.headers? h).isSome ↔ (h.plain → e.AsciiTexts) := by
  cases e with
  | addHeader name values => exact Headers.addedTo_isSome_iff
  | setHeader name values =>
    rw [AsciiTexts, ← Headers.isAscii_joined_iff]
    exact Headers.put?_isSome_iff
  | removeHeader name => exact Headers.erase?_isSome_iff
  | setStatus status => exact iff_of_true rfl fun _ => trivial

theorem exists_applied (h : e.AsciiTexts) (a : Response) :
    ∃ b, ∀ s x, (e.apply a).outcome s x = (.ok b, x) := by
  obtain ⟨fields, hfields⟩ :=
    Option.isSome_iff_exists.1 ((e.headers?_isSome_iff a.headers).2 fun _ => h)
  cases e with
  | setStatus status =>
    exact ⟨{ a with status, headers := fields }, fun s x => by simp [apply, hfields]⟩
  | addHeader | setHeader | removeHeader =>
    exact ⟨{ a with headers := fields }, fun s x => by simp [apply, hfields]⟩

theorem outcome_of_not_ascii (h : ¬ e.AsciiTexts) (ha : a.headers.plain) (s : Surroundings)
    (x : Exchange) : (e.apply a).outcome s x = (.error .notAscii, x) := by
  have hnone : e.headers? a.headers = none := by
    rw [← Option.not_isSome_iff_eq_none, headers?_isSome_iff]
    exact fun htaken => h (htaken ha)
  simp [apply, hnone]

end ResponseEdit

theorem Redirection.ofFields?_isSome_iff (d : Redirection) :
    (Headers.ofFields? [("location", d.uri)]).isSome ↔ Headers.isAscii d.uri := by
  have hname : Headers.isAscii "location" := by decide
  have hplain : (Headers.mk [("location", d.uri)]).plain = Headers.isAscii d.uri := by
    simp [Headers.plain, hname]
  rw [Headers.ofFields?, hplain]
  cases Headers.isAscii d.uri <;> simp

theorem Redirection.exists_response {d : Redirection} (h : Headers.isAscii d.uri) :
    ∃ b, ∀ s x, d.respond.outcome s x = (.ok b, x) := by
  obtain ⟨fields, hfields⟩ := Option.isSome_iff_exists.1 (d.ofFields?_isSome_iff.2 h)
  exact ⟨⟨d.status, fields, ""⟩, fun s x => by simp [respond, hfields]⟩

theorem Redirection.outcome_of_not_ascii {d : Redirection} (h : ¬ Headers.isAscii d.uri)
    (s : Surroundings) (x : Exchange) : d.respond.outcome s x = (.error .notAscii, x) := by
  have hnone : Headers.ofFields? [("location", d.uri)] = none := by
    rwa [← Option.not_isSome_iff_eq_none, d.ofFields?_isSome_iff]
  simp [respond, hnone]

namespace Builtin

namespace Step

def Suits : Step → Request → Prop
  | request e, r => e.Suits r
  | response e, _ => e.AsciiTexts
  | redirect d, _ => Headers.isAscii d.uri
  | stamp .., _ => True
  | balance .., _ => True

def newPath? : Step → Request → Option (Except Failure String)
  | request e, r => e.newPath? r
  | _, _ => none

variable {p : Step} {r : Request}

theorem Suits.exists_incoming (h : p.Suits r) (hp : p.operation?.isSome) (hr : r.uri.Regular)
    (s : Surroundings) (x : Exchange) :
    ∃ r' y, (p.incoming?.getD pure r).outcome s x = (.ok r', y) := by
  cases p with
  | request e =>
    obtain ⟨r', happlied⟩ := RequestEdit.Suits.exists_applied h hr
    exact ⟨r', _, happlied s x⟩
  | response | redirect => exact ⟨r, x, rfl⟩
  | stamp | balance => cases hp

theorem Suits.rooted (h : p.Suits r) (hr : r.uri.Regular) {path : String}
    (hp : p.newPath? r = some (.ok path))
    (hrooted : r.uri.hasOrigin ∨ path.toList.head? = some '/') {s : Surroundings}
    {x y : Exchange} {r' : Request}
    (hout : (p.incoming?.getD pure r).outcome s x = (.ok r', y)) :
    r'.rawPath.toList.head? = some '/' := by
  cases p with
  | request e => exact RequestEdit.Suits.rooted h hr hp hrooted hout
  | _ => cases hp

theorem Suits.exists_outgoing (h : p.Suits r) (a : Response) (s : Surroundings) (x : Exchange) :
    ∃ b, (p.outgoing?.getD pure a).outcome s x = (.ok b, x) := by
  cases p with
  | response e =>
    obtain ⟨b, happlied⟩ := ResponseEdit.exists_applied h a
    exact ⟨b, happlied s x⟩
  | _ => exact ⟨a, rfl⟩

theorem Suits.exists_answer (h : p.Suits r) {k : Serve Response} (hk : p.answer? = some k)
    (s : Surroundings) (x : Exchange) : ∃ b, k.outcome s x = (.ok b, x) := by
  cases p with
  | redirect d =>
    cases hk
    obtain ⟨b, hb⟩ := Redirection.exists_response h
    exact ⟨b, hb s x⟩
  | balance service instances =>
    cases instances with
    | nil =>
      cases hk
      exact ⟨_, rfl⟩
    | cons => cases hk
  | _ => cases hk

end Step

variable {outlet : Outlet} {c : Compiler} {t : RouteSpec} {route : Route} {p : Step}
variable {r : Request} {s : Surroundings} {x : Exchange}

theorem Destined.brought_of_plain {h : Handler} {brought : List Step}
    (hd : Destined outlet t h brought) (hs : t.destination.scheme ∈ ["no", "http", "https"]) :
    brought = [] := by
  cases hd with
  | balancing hlb =>
    rw [hlb] at hs
    exact absurd hs (by decide)
  | _ => rfl

theorem LaidOut.exists_stamped (h : LaidOut outlet c t route [] [p])
    (haccepts : ((route.predicate.accepts r).outcome s x).1 = .ok true) : ∃ y,
      (Step.comeIn (steps route t [] [p]) r).outcome s x =
        (p.incoming?.getD pure r).outcome s y ∧
      ((route.serve r).outcome s x).1 = ((p.filter route.handler r).outcome s y).1.map some := by
  -- the stamp writes attributes only, so both runs go on with the request itself
  obtain ⟨y, hstamped⟩ : ∃ y,
      (Compiler.stamped route.id t.destination r).outcome s x = (.ok r, y) := ⟨_, rfl⟩
  have hstamp : ∀ next : Handler,
      (Step.filter (.stamp route.id t.destination) next r).outcome s x = (next r).outcome s y := by
    intro next
    have hfilter : Step.filter (.stamp route.id t.destination) next r =
        Compiler.stamped route.id t.destination r >>= next >>= pure :=
      Step.filter_of_no_answer rfl next r
    rw [hfilter, bind_pure, Serve.outcome_bind_ok hstamped]
  refine ⟨y, ?_, ?_⟩
  · have hcome : Step.comeIn (steps route t [] [p]) r =
        Compiler.stamped route.id t.destination r >>= Step.comeIn [p] := Step.comeIn_cons _ _ _
    have hlast : Step.comeIn [p] r = p.incoming?.getD pure r >>= pure := Step.comeIn_cons _ _ _
    rw [hcome, Serve.outcome_bind_ok hstamped, hlast, bind_pure]
  · rw [Route.outcome_serve_of_observes h.observes haccepts, Serve.outcome_bind_some, Route.chain,
      h.filters]
    exact congrArg (fun o => o.1.map some) (hstamp (p.filter route.handler))

theorem Destined.answers_of_no {h : Handler} {brought : List Step}
    (hd : Destined outlet t h brought) (hs : t.destination.scheme = "no") (r : Request)
    (s : Surroundings) (x : Exchange) : (h r).outcome s x = (.ok (.bare 200), x) := by
  obtain ⟨rfl, -⟩ := (Destined.answering hs).unique hd rfl
  rfl

theorem Step.Suits.exists_served (h : p.Suits r) {f : Handler} {r' : Request} {y z : Exchange}
    (hin : (p.incoming?.getD pure r).outcome s y = (.ok r', z))
    (hhandler : p.answer?.isSome ∨ ∃ a, ((f r').outcome s z).1 = .ok a) :
    ∃ b, ((p.filter f r).outcome s y).1 = .ok b := by
  cases hk : p.answer? with
  | some k =>
    obtain ⟨b, hb⟩ := h.exists_answer hk s y
    exact ⟨b, by rw [Step.filter_of_answer hk, hb]⟩
  | none =>
    obtain ⟨a, ha⟩ := hhandler.resolve_left (by rw [hk]; exact Bool.false_ne_true)
    obtain ⟨b, hb⟩ := h.exists_outgoing a s ((f r').outcome s z).2
    refine ⟨b, ?_⟩
    rw [Step.filter_of_no_answer hk, bind_assoc, Serve.outcome_bind_ok hin,
      Serve.outcome_bind_ok (Prod.ext ha rfl), hb]

theorem Step.exists_failure_of_not_suits (h : ¬ p.Suits r) (hr : r.uri.Regular)
    (hplain : r.headers.plain) {f : Handler} {y : Exchange}
    (hhandler : ∀ r' z, (p.incoming?.getD pure r).outcome s y = (.ok r', z) →
      ∃ a, ((f r').outcome s z).1 = .ok a ∧ a.headers.plain) :
    ∃ e, ((p.filter f r).outcome s y).1 = .error e := by
  cases p with
  | request e =>
    obtain ⟨failure, z, hfailure⟩ := RequestEdit.exists_failure_of_not_suits h hr hplain y
    refine ⟨failure, ?_⟩
    rw [Step.filter_request, Serve.outcome_bind, hfailure]
  | response e =>
    obtain ⟨a, ha, hfields⟩ := hhandler r y rfl
    refine ⟨.notAscii, ?_⟩
    rw [Step.filter_response, Serve.outcome_bind_ok (Prod.ext ha rfl),
      ResponseEdit.outcome_of_not_ascii h hfields]
  | redirect d =>
    refine ⟨.notAscii, ?_⟩
    rw [Step.filter_of_answer rfl, Redirection.outcome_of_not_ascii h]
  | stamp | balance => exact absurd trivial h

/-- Whether a route with one filter answers depends on the filter: if it suits the request, the
request is passed on, with a path that begins with a slash if a new one is asked for, and is answered
if the handler answers. If it does not suit, the request fails. -/
theorem serve_suited {schemes : List String} {absent : String → Value} {i j k l : Journal}
    (hc : (Compiler.make (providers outlet) schemes absent).outcomeFrom i = (.ok c, j))
    {key : String} (hr : (c.compile t key).outcomeFrom k = (.ok route, l)) {o : OperationSpec}
    (hfilters : t.filters = [o]) (hscheme : t.destination.scheme ∈ ["no", "http", "https"]) :
    ∃ p, Configured c o p ∧ ∀ text r s x, Uri.parse text = .ok r.uri → r.headers.plain →
      ((route.predicate.accepts r).outcome s x).1 = .ok true →
      (p.Suits r → ∃ r' y, (Step.comeIn (steps route t [] [p]) r).outcome s x = (.ok r', y) ∧
        (∀ path, p.newPath? r = some (.ok path) →
          (r.uri.hasOrigin ∨ path.toList.head? = some '/') → r'.rawPath.toList.head? = some '/') ∧
        (p.answer?.isSome ∨ t.destination.scheme = "no" ∨
            (∃ a, ((route.handler r').outcome s y).1 = .ok a) →
          ∃ b, ((route.serve r).outcome s x).1 = .ok (some b))) ∧
      (¬ p.Suits r →
        (∀ r' y, (Step.comeIn (steps route t [] [p]) r).outcome s x = (.ok r', y) →
          t.destination.scheme = "no" ∨
            ∃ a, ((route.handler r').outcome s y).1 = .ok a ∧ a.headers.plain) →
        ∃ f, ((route.serve r).outcome s x).1 = .error f) := by
  obtain ⟨brought, added, hlaid⟩ := exists_laidOut hc hr
  obtain rfl := hlaid.destined.brought_of_plain hscheme
  obtain ⟨p, hp, rfl⟩ : ∃ p, Configured c o p ∧ added = [p] := by
    have hconfigured := hlaid.configured
    rw [hfilters] at hconfigured
    obtain ⟨p, ps, hp, hps, rfl⟩ := List.forall₂_cons_left_iff.1 hconfigured
    exact ⟨p, hp, congrArg (p :: ·) (List.forall₂_nil_left_iff.1 hps)⟩
  refine ⟨p, hp, fun text r s x hparse hplain haccepts => ?_⟩
  have hregular := Uri.regular_of_parse hparse
  obtain ⟨y, hin, hserve⟩ := hlaid.exists_stamped haccepts
  rw [hin, hserve]
  constructor
  · intro hsuits
    have hoperation : p.operation?.isSome := Option.isSome_of_eq_some hp.named
    obtain ⟨r', z, hout⟩ := hsuits.exists_incoming hoperation hregular s y
    refine ⟨r', z, hout, fun path hpath hrooted => hsuits.rooted hregular hpath hrooted hout,
      fun hhandler => ?_⟩
    obtain ⟨b, hb⟩ := hsuits.exists_served (f := route.handler) hout <| hhandler.imp_right fun h =>
      h.elim (fun hno => ⟨_, congrArg Prod.fst (hlaid.destined.answers_of_no hno r' s z)⟩) id
    exact ⟨b, by rw [hb]; rfl⟩
  · intro hnot hhandler
    obtain ⟨e, he⟩ := Step.exists_failure_of_not_suits (f := route.handler) hnot hregular hplain
      fun r' z hout => (hhandler r' z hout).elim (fun hno =>
        ⟨_, congrArg Prod.fst (hlaid.destined.answers_of_no hno r' s z), rfl⟩) id
    exact ⟨e, by rw [he]; rfl⟩

end Builtin

namespace Sample

def settingPath (path : String) : RouteSpec :=
  ⟨"r", "no://local", ⟨"no", "", "local", none, "", none, none⟩, [],
    [⟨"SetPath", .positional [path]⟩], {}, 0, by rfl, by decide⟩

def settingPathRoute (path : String) : Route :=
  ⟨"r", .always, [Builtin.Step.stamp "r" ⟨"no", "", "local", none, "", none, none⟩,
    .request (.setPath path)].map Builtin.Step.filter, Builtin.answerEmpty, {}⟩

set_option maxRecDepth 8000 in
theorem make_settingPath : ∃ c j op a,
    (Compiler.make (Builtin.providers .empty) [] Compiler.usualAbsent).outcomeFrom [] =
      (.ok c, j) ∧
    c.handlers.candidates "no" = [op] ∧ op.parameters = [] ∧
    (∀ i, (op.build []).outcomeFrom i = (.ok (.handler Builtin.answerEmpty), i)) ∧
    c.filters.candidates "SetPath" = [a] ∧ a.parameters = [⟨"path", .text, false⟩] ∧
    ∀ i path, (a.build [("path", .text path)]).outcomeFrom i =
      (.ok (.filter (Builtin.Step.request (.setPath path)).filter), i) :=
  ⟨_, _, _, _, rfl, rfl, rfl, fun _ => rfl, rfl, rfl, fun _ _ => rfl⟩

theorem compile_settingPath (path : String) : ∃ c j k,
    (Compiler.make (Builtin.providers .empty) [] Compiler.usualAbsent).outcomeFrom [] =
      (.ok c, j) ∧
    (c.compile (settingPath path) "").outcomeFrom [] = (.ok (settingPathRoute path), k) := by
  obtain ⟨c, j, op, a, hmake, hop, hopp, hopb, ha, hap, hab⟩ := make_settingPath
  have hname : Compiler.handlerName (settingPath path) = "no" := RouteSpec.handlerName_eq _
  obtain ⟨⟨_, _, hhandlers⟩, -, ⟨_, _, hfilters⟩, hschemes, -⟩ :=
    Compiler.outcomeFrom_make_eq_ok hmake
  have hfilter : ∀ i, ∃ k,
      (c.function c.filters "r" Product.filter? ⟨"SetPath", .positional [path]⟩).outcomeFrom i =
        (.ok (some (Builtin.Step.request (.setPath path)).filter), k) := by
    intro i
    have hresolves : Catalog.Resolves ([] ++ a :: []) (.positional [path])
        (some ⟨a, 0, OrderedMap.ofList [("path", path)]⟩) := by
      refine .positional (.listed _) rfl (List.forall_mem_nil _) ?_ ?_
      · rw [Operation.parameterNames, hap]
        rfl
      · rw [Operation.parameterNames, hap]
        rfl
    rw [List.nil_append, ← ha] at hresolves
    refine outcomeFrom_function_of_resolves (Catalog.overloads_of_discover hfilters _) hresolves ?_
      (fun i => hab i path) "r" i
    rw [hap]
    exact .cons (.converted rfl rfl) .nil
  rw [← hname] at hop
  -- a journal grows while compiling, so the filter is resolved for whatever journal it starts from
  have hhandling := handling_of_product (Catalog.overloads_of_discover hhandlers _) hschemes hop
    hopp hopb rfl
  obtain ⟨l, hl⟩ := hfilter _
  exact ⟨c, j, _, hmake, Compiler.outcomeFrom_compile_eq_iff.2
    (.complete (.complete (hhandling _) .nil (.cons hl .nil)))⟩

theorem parse_visit : Uri.parse "http://gateway.local/" = .ok visit.uri := by rfl

theorem serve_suited_slash : ∃ c j k p,
    (Compiler.make (Builtin.providers .empty) [] Compiler.usualAbsent).outcomeFrom [] =
      (.ok c, j) ∧
    (c.compile (settingPath "/users") "").outcomeFrom [] = (.ok (settingPathRoute "/users"), k) ∧
    Builtin.Configured c ⟨"SetPath", .positional ["/users"]⟩ p ∧ p.Suits visit := by
  obtain ⟨c, j, k, hmake, hcompile⟩ := compile_settingPath "/users"
  obtain ⟨p, hp, hserve⟩ := Builtin.serve_suited hmake hcompile rfl List.mem_cons_self
  refine ⟨c, j, k, p, hmake, hcompile, hp, ?_⟩
  have hserved : (((settingPathRoute "/users").serve visit).outcome careless default).1 =
      .ok (some (.bare 200)) := by rfl
  -- the run is evaluated, and a step that does not suit would have made it fail
  by_contra hnot
  obtain ⟨f, hf⟩ := (hserve _ visit careless default parse_visit rfl rfl).2 hnot fun _ _ _ => .inl rfl
  rw [hserved] at hf
  cases hf

theorem serve_fails_unrooted : ∃ c j k,
    (Compiler.make (Builtin.providers .empty) [] Compiler.usualAbsent).outcomeFrom [] =
      (.ok c, j) ∧
    (c.compile (settingPath "users") "").outcomeFrom [] = (.ok (settingPathRoute "users"), k) ∧
    Uri.parse "http://gateway.local/" = .ok visit.uri ∧ visit.headers.plain ∧ ∀ s x,
      (((settingPathRoute "users").predicate.accepts visit).outcome s x).1 = .ok true ∧
      (((settingPathRoute "users").serve visit).outcome s x).1 =
        .error (.badUri .pathNotRooted) := by
  obtain ⟨c, j, k, hmake, hcompile⟩ := compile_settingPath "users"
  exact ⟨c, j, k, hmake, hcompile, parse_visit, rfl, fun s x => ⟨rfl, rfl⟩⟩

end Sample

end HttpGateway
