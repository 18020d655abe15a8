import HttpGateway.Proofs.Builtin.Layout
import HttpGateway.Proofs.Message.Request

namespace HttpGateway

open HttpGateway.Text HttpGateway.Pattern

namespace Pattern

theorem forall₂_of_segmentsMatch {ps ss : List String} (hps : "**" ∉ ps)
    (h : segmentsMatch (ps ++ ["**"]) ss) :
    List.Forall₂ (fun p s => segmentAccepts p s) ps (ss.take ps.length) := by
  induction ps generalizing ss with
  | nil => exact .nil
  | cons p ps ih =>
    rw [List.mem_cons, not_or] at hps
    have hp : p ≠ "**" := Ne.symm hps.1
    cases ss with
    | nil => simp [segmentsMatch, hp] at h
    | cons s ss =>
      rw [List.cons_append, segmentsMatch, if_neg hp, Bool.and_eq_true] at h
      exact .cons h.1 (ih hps.2 h.2)

end Pattern

namespace RequestEdit

theorem toList_intercalate_segments (parts : Nat) (path : String) :
    ("/".intercalate ((segments '/' path).drop parts)).toList =
      joinBy '/' ((runs '/' path.toList).drop parts) := by
  have hslash : "/" = String.singleton '/' := rfl
  rw [hslash, toList_intercalate_eq_joinBy, segments_eq, ← List.map_drop, List.map_map]
  congr 1
  exact (List.map_congr_left fun p _ => String.toList_ofList).trans (List.map_id' _)

theorem toList_strippedPath (parts : Nat) (path : String) : ∃ tail, (tail = [] ∨ tail = ['/']) ∧
    (strippedPath parts path).toList =
      '/' :: (joinBy '/' ((runs '/' path.toList).drop parts) ++ tail) := by
  have hjoin := toList_intercalate_segments parts path
  simp only [strippedPath]
  split
  · exact ⟨['/'], .inr rfl, by simp [hjoin]⟩
  · exact ⟨[], .inl rfl, by simp [hjoin]⟩

theorem runs_strippedPath (parts : Nat) (path : String) :
    runs '/' (strippedPath parts path).toList = (runs '/' path.toList).drop parts := by
  have hruns : runs '/' (joinBy '/' ((runs '/' path.toList).drop parts)) =
      (runs '/' path.toList).drop parts :=
    runs_joinBy fun p hp => (mem_runs (List.mem_of_mem_drop hp)).2
  obtain ⟨tail, rfl | rfl, htail⟩ := toList_strippedPath parts path
  · rw [htail, List.append_nil, runs_cons, hruns]
  · rw [htail, runs_cons, runs_append, hruns]
    exact List.append_nil _

theorem mem_splitAt_strippedPath {parts : Nat} {path : String} {p : List Char}
    (h : p ∈ splitAt '/' (strippedPath parts path).toList) : p = [] ∨ p ∈ splitAt '/' path.toList := by
  by_cases hp : p = []
  · exact .inl hp
  · have hrun : p ∈ runs '/' (strippedPath parts path).toList := by
      rw [runs, List.mem_filter, decide_eq_true_eq]
      exact ⟨h, hp⟩
    rw [runs_strippedPath] at hrun
    exact .inr (mem_runs (List.mem_of_mem_drop hrun)).1

def strippedTo (parts : Nat) (path : String) : String :=
  Request.pathWritten (strippedPath parts path)

theorem toList_strippedTo (parts : Nat) (path : String) : (strippedTo parts path).toList =
    escape Request.keptInPath (strippedPath parts path).toList := by
  obtain ⟨tail, -, htail⟩ := toList_strippedPath parts path
  have hne : strippedPath parts path ≠ "" := by
    intro hempty
    rw [hempty] at htail
    cases htail
  rw [strippedTo, Request.pathWritten, if_neg hne, String.toList_ofList]

theorem settledPath_strippedTo {parts : Nat} {path : String} (h : Uri.SettledPath path) :
    Uri.SettledPath (strippedTo parts path) := by
  obtain ⟨tail, -, htail⟩ := toList_strippedPath parts path
  have hpieces : splitAt '/' (strippedTo parts path).toList =
      (splitAt '/' (strippedPath parts path).toList).map (escape Request.keptInPath) := by
    rw [toList_strippedTo, splitAt_escape (by decide) (by decide)]
  refine ⟨fun c hc => ?_, .inr ?_, fun d hd hmem => ?_⟩
  · rw [toList_strippedTo] at hc
    exact Request.pathSafe_of_keptInPath (safe_of_mem_escape (by decide) hc)
  · rw [toList_strippedTo, htail, escape_cons_of_safe (by decide)]
    rfl
  · rw [hpieces, List.mem_map] at hmem
    obtain ⟨p, hp, rfl⟩ := hmem
    have hp' := Uri.mem_dots_of_escape hd
    rcases mem_splitAt_strippedPath hp with rfl | hp
    · exact absurd hp' (by decide)
    · exact h.dotless p hp' hp

theorem segments_strippedTo {path : String} (h : PlainSlashes path.toList) (parts : Nat) :
    segments '/' (unescape (strippedTo parts path)) =
      (segments '/' (unescape path)).drop parts := by
  have hdecoded : decoded (strippedTo parts path).toList =
      decoded (strippedPath parts path).toList := by
    rw [toList_strippedTo, decoded, decoded, unescapeBytes_escape Request.keepsEscapes_keptInPath]
  have hpieces : ∀ p ∈ splitAt '/' (strippedPath parts path).toList, '/' ∉ decoded p := by
    intro p hp
    rcases mem_splitAt_strippedPath hp with rfl | hp
    · rw [decoded_nil]
      exact List.not_mem_nil
    · exact slash_notMem_decoded (notMem_of_mem_splitAt hp) (h.of_infix (infix_of_mem_splitAt hp))
  rw [segments_eq, segments_eq, unescape_eq, unescape_eq, String.toList_ofList,
    String.toList_ofList, hdecoded, runs_decoded hpieces, runs_decoded_of_plain h,
    runs_strippedPath, List.map_drop, List.map_drop]

end RequestEdit

namespace Builtin

def strippedUri (parts : Nat) (r : Request) : Uri :=
  r.uri.moved r.uri (RequestEdit.strippedTo parts r.rawPath) r.keptQuery

theorem queryText_strippedUri {r : Request} (h : r.uri.Settled) (parts : Nat) :
    (strippedUri parts r).queryText = r.uri.queryText := by
  rw [strippedUri, Uri.queryText, Uri.moved, r.escaped_keptQuery h, r.getD_keptQuery]

theorem rawPath_strippedUri {r : Request} (h : r.uri.Settled) (parts : Nat) :
    (strippedUri parts r).rawPath = RequestEdit.strippedTo parts r.rawPath := by
  have hpath : Uri.SettledPath (RequestEdit.strippedTo parts r.rawPath) :=
    RequestEdit.settledPath_strippedTo (Uri.settledPath_rawPath h.path)
  have hne : RequestEdit.strippedTo parts r.rawPath ≠ "" := by
    intro hempty
    obtain ⟨tail, -, htail⟩ := RequestEdit.toList_strippedPath parts r.rawPath
    have hlist := RequestEdit.toList_strippedTo parts r.rawPath
    rw [hempty, htail, escape_cons_of_safe (by decide)] at hlist
    cases hlist
  rw [strippedUri, Uri.rawPath, Uri.moved, hpath.flatten, hpath.escaped, if_neg hne]

theorem strip_eq (parts : Nat) : strip parts = .ok (RequestEdit.stripPath parts).stage := by
  rw [strip, if_neg (by omega), Int.toNat_natCast]

theorem filter_stripPath (parts : Nat) (next : Handler) (r : Request) :
    (RequestEdit.stripPath parts).stage.filter next r = Serve.lift .badUri
      ((r.uri.withPath (RequestEdit.strippedTo parts r.rawPath) r.keptQuery).map r.withUri) >>=
        next := by
  have hfilter := congrFun (Step.filter_request (.stripPath parts) next) r
  rw [RequestEdit.apply, RequestEdit.withPath, Request.withRawPath_eq] at hfilter
  exact hfilter

/-- A pattern of single segments with two stars behind them, and an edit that strips as many
segments: what the edit leaves of the path is what the two stars stand for, and the query stays. -/
theorem strip_behind_pattern {text pattern : String} {ps : List String} {r : Request}
    {s : Surroundings} {x y : Exchange} (hparse : Uri.parse text = .ok r.uri)
    (habsolute : r.uri.isAbsolute) (hplain : PlainSlashes r.rawPath.toList)
    (hpattern : segments '/' pattern = ps ++ ["**"]) (hps : "**" ∉ ps)
    (haccepts : ((Condition.path pattern).predicate.accepts r).outcome s x = (.ok true, y)) :
    ∃ st, strip ps.length = .ok st ∧
      List.Forall₂ (fun p s => segmentAccepts p s) ps ((segments '/' r.path).take ps.length) ∧
      (Uri.Fit (r.uri.limited (RequestEdit.strippedTo ps.length r.rawPath) r.uri.query) →
        ∃ uri, (∀ next, (st.filter next r).outcome s y = (next (r.withUri uri)).outcome s y) ∧
          segments '/' (r.withUri uri).path = (segments '/' r.path).drop ps.length ∧
          uri.queryText = r.uri.queryText) ∧
      (¬ Uri.Fit (r.uri.limited (RequestEdit.strippedTo ps.length r.rawPath) r.uri.query) →
        ∃ part, ∀ next,
          (st.filter next r).outcome s y = (.error (.badUri (.partTooLong part)), y)) := by
  have hr : r.uri.Settled := Uri.settled_of_parse hparse habsolute
  have hmatch : segmentsMatch (ps ++ ["**"]) (segments '/' r.path) := by
    rw [Condition.outcome_accepts, Condition.holds, hpattern] at haccepts
    exact Except.ok.inj (Prod.ext_iff.1 haccepts).1
  -- an empty query is dropped, which does not change any length
  have hlimited : r.uri.limited (RequestEdit.strippedTo ps.length r.rawPath) r.uri.query =
      r.uri.limited (RequestEdit.strippedTo ps.length r.rawPath) r.keptQuery := by
    rw [Uri.limited, Uri.limited, r.getD_keptQuery, Uri.queryText]
  have hpath : Uri.SettledPath (RequestEdit.strippedTo ps.length r.rawPath) :=
    RequestEdit.settledPath_strippedTo (Uri.settledPath_rawPath hr.path)
  rw [hlimited]
  refine ⟨_, strip_eq ps.length, forall₂_of_segmentsMatch hps hmatch, fun hfit => ?_,
    fun hfit => ?_⟩
  · refine ⟨strippedUri ps.length r, fun next => ?_, ?_, queryText_strippedUri hr ps.length⟩
    · rw [filter_stripPath, hr.withPath_of_fit hpath.rooted hfit, Serve.outcome_bind,
        Serve.outcome_lift]
      rfl
    · rw [Request.path, Uri.decodedPath, Request.withUri, rawPath_strippedUri hr]
      exact RequestEdit.segments_strippedTo hplain ps.length
  · obtain ⟨part, hpart⟩ := hr.withPath_of_not_fit hfit
    refine ⟨part, fun next => ?_⟩
    simp [filter_stripPath, hpart]

end Builtin

namespace Sample

def escapedVisit : Request :=
  ⟨"GET", ⟨"http", "", "gateway.local", none, "/api/v%201//%zz/", some "q=1", none⟩, .empty, ""⟩

theorem strip_behind_pattern_escaped : ∃ st, Builtin.strip 1 = .ok st ∧ ∀ s x, ∃ uri,
    ((Condition.path "/a?i/**").predicate.accepts escapedVisit).outcome s x = (.ok true, x) ∧
    (∀ next, (st.filter next escapedVisit).outcome s x =
      (next (escapedVisit.withUri uri)).outcome s x) ∧
    segments '/' (escapedVisit.withUri uri).path = ["v 1", "%zz"] ∧ uri.queryText = "q=1" := by
  have hparse : Uri.parse "http://gateway.local/api/v%201//%zz/?q=1" = .ok escapedVisit.uri := by
    rfl
  have hplain : PlainSlashes escapedVisit.rawPath.toList :=
    ⟨by decide +kernel, by decide +kernel⟩
  have hpattern : segments '/' "/a?i/**" = ["a?i"] ++ ["**"] := by decide
  have hsegments : segments '/' escapedVisit.path = ["api", "v 1", "%zz"] := by decide +kernel
  have hfit : Uri.Fit (escapedVisit.uri.limited
      (RequestEdit.strippedTo 1 escapedVisit.rawPath) escapedVisit.uri.query) := by
    decide +kernel
  have haccepts : ∀ s x,
      ((Condition.path "/a?i/**").predicate.accepts escapedVisit).outcome s x = (.ok true, x) := by
    intro s x
    have hfirst : segmentAccepts "a?i" "api" := by decide +kernel
    rw [Condition.outcome_accepts, Condition.holds, hpattern, hsegments]
    simp [segmentsMatch, hfirst]
  refine ⟨_, rfl, fun s x => ?_⟩
  obtain ⟨st, hstrip, -, hleft, -⟩ :=
    Builtin.strip_behind_pattern hparse (by decide) hplain hpattern (by decide) (haccepts s x)
  obtain ⟨uri, hnext, hpath, hquery⟩ := hleft hfit
  rw [hsegments] at hpath
  cases hstrip
  exact ⟨uri, haccepts s x, hnext, hpath, hquery⟩

end Sample

end HttpGateway
