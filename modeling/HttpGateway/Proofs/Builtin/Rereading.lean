import HttpGateway.Proofs.Builtin.PathEdits
import HttpGateway.Proofs.Pattern.Substitution

namespace HttpGateway

open HttpGateway.Text HttpGateway.Pattern

theorem Request.obtained_of_build {r : Request} {method text content : String}
    {fields : List (String × String)} (h : build method text fields content = .ok r) :
    r.uri.Obtained := by
  obtain ⟨uri, huri, h⟩ := Outcome.bind_eq_ok_iff.1 h
  obtain ⟨headers, -, hr⟩ := Outcome.bind_eq_ok_iff.1 h
  cases hr
  cases hparse : Uri.parse text with
  | error e =>
    rw [hparse] at huri
    cases huri
  | ok u =>
    rw [hparse] at huri
    cases huri
    exact .read hparse

namespace RequestEdit

variable {r : Request} {c : Compiled} {template : String} {parts : List TemplatePart}

theorem newPath_extendPath_empty (r : Request) :
    (extendPath (pathStart "")).newPath? r = some (.ok r.rawPath) := by
  have hstart : pathStart "" = "" := by decide
  rw [newPath?, hstart, String.empty_append]

theorem newPath_substituteInPath (h : c.MatchesNowhere r.rawPath)
    (hread : readTemplate c template = .ok parts) :
    (substituteInPath c template).newPath? r = some (.ok r.rawPath) := by
  rw [newPath?, h.substitute, hread]
  rfl

end RequestEdit

namespace Builtin

open RequestEdit

variable {r r' : Request}

structure WrittenBack (r r' : Request) : Prop where
  written : r.withRawPath r.rawPath = .ok r'
  path : r'.rawPath = Request.recoded r.rawPath
  query : r'.uri.queryText = r.uri.queryText
  extended : Filter.PassesOn (extendPath (pathStart "")).stage.filter r r'
  substituted : ∀ regexp replacement e parts, Expression.read regexp = .ok e →
    e.compiled.MatchesNowhere r.rawPath →
    readTemplate e.compiled (template replacement) = .ok parts →
    ∃ st, substitution regexp replacement = .ok st ∧ Filter.PassesOn st.filter r r'
  stripped : ∃ st r'', strip 0 = .ok st ∧ Filter.PassesOn st.filter r r'' ∧
    StrippedOf 0 r.rawPath r''.rawPath ∧ r''.uri.queryText = r.uri.queryText

theorem pathWritten_rawPath (hr : r.uri.Settled) :
    Request.pathWritten r.rawPath = Request.recoded r.rawPath :=
  Request.pathWritten_of_safe (ne_empty_of_rooted (Uri.head?_rawPath hr.path))
    (Uri.settledPath_rawPath hr.path).safe

theorem writtenBack_repathed (hr : r.uri.Settled)
    (hfit : Uri.Fit (r.uri.limited (Request.recoded r.rawPath) r.uri.query)) :
    WrittenBack r (r.repathed r.rawPath) := by
  have hraw : Uri.SettledPath r.rawPath := Uri.settledPath_rawPath hr.path
  have hrooted : r.rawPath.toList.head? = some '/' := Uri.head?_rawPath hr.path
  have hpath := pathWritten_rawPath hr
  rw [← hpath] at hfit
  have hwritten : r.withRawPath r.rawPath = .ok (r.repathed r.rawPath) :=
    Request.withRawPath_of_fit hr (.inr hrooted) hfit
  have hstripped := withRawPath_strippedPath hr
    (hfit.of_length_le (length_strippedTo_le hrooted 0))
  refine ⟨hwritten, ?_, Request.queryText_repathed hr _,
    passesOn_of_newPath (newPath_extendPath_empty r) hwritten, ?_,
    _, _, strip_eq 0, passesOn_stripPath hstripped, strippedOf_repathed hr 0,
    Request.queryText_repathed hr _⟩
  · rw [Request.rawPath_repathed_of_settled, hpath]
    exact Request.settledPath_pathWritten hrooted hraw.dotless
  · intro regexp replacement e parts hregexp hnowhere hread
    refine ⟨_, ?_, passesOn_of_newPath (newPath_substituteInPath hnowhere hread) hwritten⟩
    rw [substitution, hregexp]
    rfl

/-- The path of a request that came in by an absolute address can be read and written back. That is
the identity unless the path holds one of the characters that are escaped then. -/
theorem writtenBack_of_build {method text content : String} {fields : List (String × String)}
    (hbuild : Request.build method text fields content = .ok r) (habsolute : r.uri.isAbsolute) :
    (Uri.Fit (r.uri.limited (Request.recoded r.rawPath) r.uri.query) → ∃ r', WrittenBack r r') ∧
      (¬ Uri.Fit (r.uri.limited (Request.recoded r.rawPath) r.uri.query) →
        ∃ part, r.withRawPath r.rawPath = .error (.partTooLong part)) ∧
      (Request.recoded r.rawPath = r.rawPath ↔
        ∀ c ∈ Request.recodedSigns, c ∉ r.rawPath.toList) := by
  have hobtained : r.uri.Obtained := Request.obtained_of_build hbuild
  have hr : r.uri.Settled := hobtained.settled habsolute
  refine ⟨fun hfit => ⟨_, writtenBack_repathed hr hfit⟩, fun hfit => ?_,
    Request.recoded_eq_self_iff⟩
  rw [← pathWritten_rawPath hr] at hfit
  exact Request.withRawPath_of_not_fit hr hfit

end Builtin

namespace Sample

def barredVisit : Request :=
  ⟨"GET", ⟨"http", "", "gateway.local", none, "/a%2Fb//|%C3%A9", some "q=1", none⟩, .empty, ""⟩

def lastLetterClass : CharClass := ⟨false, .exact, [.literal 122]⟩

def lastLetter : Expression := ⟨"z", ⟨.one lastLetterClass, 0, []⟩⟩

theorem writtenBack_of_build_barred : ∃ r' st, Builtin.WrittenBack barredVisit r' ∧
    r'.rawPath = "/a%2Fb//%7C%C3%A9" ∧ Builtin.substitution "z" "y" = .ok st ∧
      Filter.PassesOn st.filter barredVisit r' := by
  have hbuild : Request.build "get" "http://gateway.local/a%2Fb//|é?q=1" [] "" =
      .ok barredVisit := by
    rfl
  have hfit : Uri.Fit (barredVisit.uri.limited (Request.recoded barredVisit.rawPath)
      barredVisit.uri.query) := by
    decide +kernel
  obtain ⟨r', hback⟩ := (Builtin.writtenBack_of_build hbuild (by decide)).1 hfit
  have hread : Expression.read "z" = .ok lastLetter := by rfl
  have hnowhere : lastLetter.compiled.MatchesNowhere barredVisit.rawPath := by
    have hnone : ∀ pos ≤ barredVisit.rawPath.toList.length,
        (barredVisit.rawPath.toList[pos]?).any lastLetterClass.holds = false := by
      decide +kernel
    intro pos hpos
    simp [Compiled.matchAt, Regex.run, lastLetter, hnone pos hpos]
  have hpath : Request.recoded barredVisit.rawPath = "/a%2Fb//%7C%C3%A9" := by decide +kernel
  obtain ⟨st, hst, hpasses⟩ := hback.substituted "z" "y" lastLetter _ hread hnowhere rfl
  exact ⟨r', st, hback, hback.path.trans hpath, hst, hpasses⟩

theorem written_back_differs : ∃ r r',
    Request.build "GET" "http://gateway.local/a[b" [] "" = .ok r ∧ r.uri.isAbsolute ∧
      r.withRawPath r.rawPath = .ok r' ∧ r'.rawPath ≠ r.rawPath :=
  ⟨⟨"GET", ⟨"http", "", "gateway.local", none, "/a[b", none, none⟩, .empty, ""⟩,
    ⟨"GET", ⟨"http", "", "gateway.local", none, "/a%5Bb", none, none⟩, .empty, ""⟩, by rfl,
    by decide, by rfl, by decide⟩

end Sample

end HttpGateway
