import HttpGateway.Builtin.Edits
import HttpGateway.Message.Build
import HttpGateway.Proofs.Message.Request
import HttpGateway.Proofs.Uri.Moved
import HttpGateway.Proofs.Uri.Obtained

namespace HttpGateway

open HttpGateway.Text

namespace Request

variable {r : Request} {path path' : String}

def repathed (r : Request) (path : String) : Request :=
  r.withUri (r.uri.moved r.uri (pathWritten path) r.keptQuery)

theorem limited_keptQuery (r : Request) (path : String) :
    r.uri.limited path r.keptQuery = r.uri.limited path r.uri.query := by
  rw [Uri.limited, Uri.limited, r.getD_keptQuery, Uri.queryText]

theorem keptInPath_of_mem_pathWritten {c : Char} (h : c ∈ (pathWritten path).toList) :
    keptInPath c := by
  rw [pathWritten, String.toList_ofList] at h
  exact safe_of_mem_escape (by decide) h

theorem pathWritten_ne_empty (path : String) : pathWritten path ≠ "" := by
  intro hnil
  have hlist := congrArg String.toList hnil
  rw [pathWritten, String.toList_ofList, String.toList_empty, escape_eq_nil_iff,
    String.toList_eq_nil_iff] at hlist
  split at hlist
  · exact absurd hlist (by decide)
  · contradiction

theorem head?_pathWritten (h : path = "" ∨ path.toList.head? = some '/') :
    (pathWritten path).toList.head? = some '/' := by
  rcases h with rfl | h
  · decide
  · have hne : path ≠ "" := by
      rintro rfl
      cases h
    rwa [toList_pathWritten hne, head?_escape_iff (by decide) (by decide)]

theorem pathWritten_of_kept (hne : path ≠ "") (h : ∀ c ∈ path.toList, keptInPath c) :
    pathWritten path = path := by
  rw [← String.toList_inj, toList_pathWritten hne, escape_of_safe h]

theorem pathWritten_pathWritten (path : String) :
    pathWritten (pathWritten path) = pathWritten path :=
  pathWritten_of_kept (pathWritten_ne_empty path) fun _ hc => keptInPath_of_mem_pathWritten hc

/-- The characters that the path of an address may hold and that no new path does. -/
def recodedSigns : List Char := "[\\]^|".toList

def recoded (path : String) : String :=
  String.ofList (escape (fun c => !recodedSigns.contains c) path.toList)

theorem keptInPath_of_pathSafe {c : Char} (h : Uri.pathSafe c) :
    keptInPath c = !recodedSigns.contains c := by
  have hall : ∀ n < 128, Uri.pathSafe (Char.ofNat n) →
      keptInPath (Char.ofNat n) = !recodedSigns.contains (Char.ofNat n) := by
    decide
  have hle : c.toNat ≤ 126 := by
    simp only [Uri.pathSafe, Bool.and_eq_true, decide_eq_true_eq] at h
    exact h.1.2
  exact forall_ascii (P := fun c => Uri.pathSafe c → keptInPath c = !recodedSigns.contains c) hall
    (by omega) h

theorem toList_recoded {path : String} (h : ∀ c ∈ path.toList, Uri.pathSafe c) :
    (recoded path).toList = escape keptInPath path.toList := by
  rw [recoded, String.toList_ofList]
  exact (escape_congr fun c hc => keptInPath_of_pathSafe (h c hc)).symm

theorem recoded_eq_self_iff {path : String} :
    recoded path = path ↔ ∀ c ∈ recodedSigns, c ∉ path.toList := by
  rw [← String.toList_inj, recoded, String.toList_ofList, escape_eq_self_iff]
  simp only [Bool.not_eq_true', List.contains_eq_mem, decide_eq_false_iff_not]
  exact ⟨fun h c hc hmem => h c hmem hc, fun h c hmem hc => h c hc hmem⟩

theorem pathWritten_of_safe (hne : path ≠ "") (h : ∀ c ∈ path.toList, Uri.pathSafe c) :
    pathWritten path = recoded path := by
  rw [← String.toList_inj, toList_pathWritten hne, toList_recoded h]

theorem settledPath_pathWritten (hrooted : path.toList.head? = some '/')
    (hdotless : ∀ d ∈ Uri.dots, d ∉ splitAt '/' path.toList) :
    Uri.SettledPath (pathWritten path) := by
  have hne : path ≠ "" := by
    rintro rfl
    cases hrooted
  refine ⟨fun c hc => pathSafe_of_keptInPath (keptInPath_of_mem_pathWritten hc),
    .inr (head?_pathWritten (.inr hrooted)), fun d hd hmem => ?_⟩
  rw [toList_pathWritten hne, splitAt_escape (by decide) (by decide), List.mem_map] at hmem
  obtain ⟨p, hp, rfl⟩ := hmem
  exact hdotless p (Uri.mem_dots_of_escape hd) hp

theorem withRawPath_of_fit (h : r.uri.Settled) (hpath : path = "" ∨ path.toList.head? = some '/')
    (hfit : Uri.Fit (r.uri.limited (pathWritten path) r.uri.query)) :
    r.withRawPath path = .ok (r.repathed path) := by
  rw [← limited_keptQuery] at hfit
  rw [withRawPath_eq, h.withPath_of_fit (.inr (head?_pathWritten hpath)) hfit]
  rfl

theorem withRawPath_of_not_fit (h : r.uri.Settled)
    (hfit : ¬ Uri.Fit (r.uri.limited (pathWritten path) r.uri.query)) :
    ∃ part, r.withRawPath path = .error (.partTooLong part) := by
  rw [← limited_keptQuery] at hfit
  obtain ⟨part, hpart⟩ := h.withPath_of_not_fit hfit
  refine ⟨part, ?_⟩
  rw [withRawPath_eq, hpart]
  rfl

theorem settled_repathed (h : r.uri.Settled) (hpath : path = "" ∨ path.toList.head? = some '/') :
    (r.repathed path).uri.Settled :=
  h.moved h (.inr (head?_pathWritten hpath)) r.keptQuery

theorem queryText_repathed (h : r.uri.Settled) (path : String) :
    (r.repathed path).uri.queryText = r.uri.queryText := by
  change (r.keptQuery.map _).getD "" = r.uri.queryText
  rw [escaped_keptQuery h, getD_keptQuery]

theorem repathed_repathed (h : r.uri.Settled) (path path' : String) :
    (r.repathed path).repathed path' = r.repathed path' := by
  have hquery : (r.repathed path).keptQuery = r.keptQuery := by
    rw [keptQuery, keptQuery, queryText_repathed h]
  rw [repathed, hquery]
  exact congrArg r.withUri (Uri.moved_moved r.uri _ _ _ _)

theorem repathed_congr (h : pathWritten path = pathWritten path') :
    r.repathed path = r.repathed path' := by
  rw [repathed, repathed, h]

theorem fit_repathed {written : String} (h : r.uri.Settled)
    (hfit : Uri.Fit (r.uri.limited written r.uri.query)) (path : String)
    (hlength : path'.length ≤ written.length) :
    Uri.Fit ((r.repathed path).uri.limited path' (r.repathed path).uri.query) := by
  rw [← limited_keptQuery] at hfit ⊢
  refine Uri.fit_moved hfit hlength ?_
  rw [getD_keptQuery, getD_keptQuery, queryText_repathed h]

section Kept

theorem rawPath_repathed (r : Request) (path : String) : (r.repathed path).rawPath =
    if Uri.escaped Uri.pathSafe (Uri.flatten (pathWritten path)) = "" then "/"
    else Uri.escaped Uri.pathSafe (Uri.flatten (pathWritten path)) := rfl

theorem rawPath_repathed_of_settled (r : Request) (h : Uri.SettledPath (pathWritten path)) :
    (r.repathed path).rawPath = pathWritten path := by
  rw [rawPath_repathed, h.flatten, h.escaped, if_neg (pathWritten_ne_empty path)]

theorem keptInPath_of_mem_flatten (hpath : path = "" ∨ path.toList.head? = some '/') {c : Char}
    (hc : c ∈ (Uri.flatten (pathWritten path)).toList) : keptInPath c := by
  rcases Uri.mem_flatten (.inr (head?_pathWritten hpath)) hc with rfl | hc
  · decide
  · exact keptInPath_of_mem_pathWritten hc

theorem rawPath_repathed_of_rooted (r : Request)
    (hpath : path = "" ∨ path.toList.head? = some '/') : (r.repathed path).rawPath =
      if Uri.flatten (pathWritten path) = "" then "/" else Uri.flatten (pathWritten path) := by
  rw [rawPath_repathed, Uri.escaped_of_safe]
  exact fun c hc => pathSafe_of_keptInPath (keptInPath_of_mem_flatten hpath hc)

theorem keptInPath_of_mem_rawPath (r : Request) (hpath : path = "" ∨ path.toList.head? = some '/')
    {c : Char} (hc : c ∈ (r.repathed path).rawPath.toList) : keptInPath c := by
  rw [rawPath_repathed_of_rooted r hpath] at hc
  split at hc
  · rw [show c = '/' by simpa using hc]
    decide
  · exact keptInPath_of_mem_flatten hpath hc

theorem length_rawPath_repathed_le (r : Request)
    (hpath : path = "" ∨ path.toList.head? = some '/') :
    (r.repathed path).rawPath.length ≤ (pathWritten path).length := by
  rw [rawPath_repathed_of_rooted r hpath]
  split
  · obtain ⟨tail, htail⟩ := List.head?_eq_some_iff.1 (head?_pathWritten hpath)
    rw [← String.length_toList (s := pathWritten path), htail]
    exact Nat.succ_le_succ (Nat.zero_le _)
  · exact Uri.length_flatten_le (pathWritten path)

end Kept

theorem facts_of_keptInPath {c : Char} (h : keptInPath c) : c.toNat < 128 ∧ c ≠ '?' ∧ c ≠ '#' := by
  have hsafe := pathSafe_of_keptInPath h
  simp only [Uri.pathSafe, Bool.and_eq_true, decide_eq_true_eq] at hsafe
  have hle : c.toNat ≤ 126 := hsafe.1.2
  refine ⟨by omega, ?_, ?_⟩
  · rintro rfl
    exact absurd h (by decide)
  · rintro rfl
    exact absurd h (by decide)

structure PathChanged (r r' : Request) : Prop where
  method : r'.method = r.method
  headers : r'.headers = r.headers
  content : r'.content = r.content
  elsewhere : r.uri.SameElsewhere r'.uri
  rooted : r'.rawPath.toList.head? = some '/'
  plain : ∀ c ∈ r'.rawPath.toList, c.toNat < 128 ∧ c ≠ '?' ∧ c ≠ '#'

theorem pathChanged_repathed (hr : r.uri.Settled)
    (hpath : path = "" ∨ path.toList.head? = some '/') : r.PathChanged (r.repathed path) := by
  refine ⟨rfl, rfl, rfl, hr.sameElsewhere ?_, Uri.head?_rawPath (settled_repathed hr hpath).path,
    fun c hc => facts_of_keptInPath (keptInPath_of_mem_rawPath r hpath hc)⟩
  rw [escaped_keptQuery hr, getD_keptQuery]

theorem pathWritten_rawPath_repathed (hr : r.uri.Settled)
    (hpath : path = "" ∨ path.toList.head? = some '/') :
    pathWritten (r.repathed path).rawPath = (r.repathed path).rawPath := by
  refine pathWritten_of_kept ?_ fun c hc => keptInPath_of_mem_rawPath r hpath hc
  intro hnil
  have hrooted := (pathChanged_repathed hr hpath).rooted
  rw [hnil] at hrooted
  cases hrooted

/-- A new path that is empty or begins with a slash changes the path of a request and nothing else.
Getting that path once more changes neither it nor the query. -/
theorem withRawPath_stays_in_path (hobtained : r.uri.Obtained) (habsolute : r.uri.isAbsolute)
    (hpath : path = "" ∨ path.toList.head? = some '/') :
    (Uri.Fit (r.uri.limited (pathWritten path) r.uri.query) → ∃ r' r'',
      r.withRawPath path = .ok r' ∧
      (∀ s x, ((RequestEdit.setPath path).apply r).outcome s x = (.ok r', x)) ∧
      r.PathChanged r' ∧
      r'.withRawPath r'.rawPath = .ok r'' ∧ r''.rawPath = r'.rawPath ∧
      r''.uri.queryText = r'.uri.queryText) ∧
    (¬ Uri.Fit (r.uri.limited (pathWritten path) r.uri.query) →
      ∃ part, r.withRawPath path = .error (.partTooLong part)) := by
  have hr : r.uri.Settled := hobtained.settled habsolute
  have hr' := settled_repathed hr hpath
  have hchanged := pathChanged_repathed hr hpath
  -- what was written holds no character that is escaped, so it is written again as it is
  have hagain := pathWritten_rawPath_repathed hr hpath
  refine ⟨fun hfit => ?_, withRawPath_of_not_fit hr⟩
  have hwritten := withRawPath_of_fit hr hpath hfit
  refine ⟨r.repathed path, (r.repathed path).repathed (r.repathed path).rawPath, hwritten,
    fun s x => ?_, hchanged, ?_, ?_, queryText_repathed hr' _⟩
  · rw [RequestEdit.apply, RequestEdit.withPath, hwritten]
    rfl
  · refine withRawPath_of_fit hr' (.inr hchanged.rooted) (fit_repathed hr hfit path ?_)
    rw [hagain]
    exact length_rawPath_repathed_le r hpath
  · have hsettled := Uri.settledPath_rawPath hr'.path
    rw [← Request.rawPath, ← hagain] at hsettled
    rw [rawPath_repathed_of_settled _ hsettled, hagain]

end Request

namespace Sample

def namedVisit : Request :=
  ⟨"GET", ⟨"http", "me", "gateway.local", some 8080, "/api", some "q=1", some "top"⟩, .empty, ""⟩

theorem withRawPath_stays_in_path_marked : ∃ r',
    namedVisit.withRawPath "/a?b#c//../é%2F" = .ok r' ∧ namedVisit.PathChanged r' ∧
      r'.rawPath = "/a%3Fb%23c/%C3%A9%2F" := by
  have hparse : Uri.parse "http://me@gateway.local:8080/api?q=1#top" = .ok namedVisit.uri := by rfl
  have hfit : Uri.Fit (namedVisit.uri.limited (Request.pathWritten "/a?b#c//../é%2F")
      namedVisit.uri.query) := by
    decide +kernel
  obtain ⟨r', -, hr', -, hchanged, -⟩ :=
    (Request.withRawPath_stays_in_path (.read hparse) (by decide) (.inr (by decide))).1 hfit
  have hrun : (namedVisit.withRawPath "/a?b#c//../é%2F").map Request.rawPath =
      .ok "/a%3Fb%23c/%C3%A9%2F" := by
    decide +kernel
  rw [hr'] at hrun
  exact ⟨r', hr', hchanged, Except.ok.inj hrun⟩

theorem withRawPath_changes_origin : ∃ r r', Request.build "GET" "HTTP://a^b:80/" [] "" = .ok r ∧
    r.uri.isAbsolute ∧ r.withRawPath "/x" = .ok r' ∧ r'.uri.host ≠ r.uri.host ∧
    r'.uri.port ≠ r.uri.port :=
  ⟨⟨"GET", ⟨"http", "", "a%5Eb", some 80, "/", none, none⟩, .empty, ""⟩,
    ⟨"GET", ⟨"http", "", "a%5eb", none, "/x", none, none⟩, .empty, ""⟩, by rfl, by decide, by rfl,
    by decide, by decide⟩

end Sample

end HttpGateway
