import HttpGateway.Proofs.Uri.Settled

namespace HttpGateway.Uri

open HttpGateway.Text

def hasAuthority (u : Uri) : Bool := u.userinfo != "" || u.host != "" || u.port.isSome

def hasOrigin (u : Uri) : Bool :=
  u.userinfo != "" || u.host != "" || (writtenPort u.scheme u.port).isSome

/-- A path begins with a slash where a host stands before it, and does not look like a host or a
scheme where it comes first. -/
structure Admits (u : Uri) (path : List Char) : Prop where
  rooted : u.hasOrigin → path = [] ∨ path.head? = some '/'
  leading : ¬ u.hasOrigin → u.scheme = "" → ¬ ['/', '/'] <+: path ∧ path.head? ≠ some ':'

structure Regular (u : Uri) : Prop where
  scheme : lower u.scheme = u.scheme
  userinfo : escaped userinfoSafe u.userinfo = u.userinfo
  host : u.host = "" ∨ SettledHost u.host
  port : ∀ n ∈ u.port, Whole.Readable n
  path : u.Admits u.path.toList

def rebuilt (u : Uri) (path : String) (query : Option String) : Uri :=
  { u with
    host := rehosted u.host
    port := writtenPort u.scheme u.port
    path := escaped pathSafe (if u.scheme != "" || u.hasOrigin then flatten path else path)
    query := query.map (escaped querySafe)
    fragment := u.fragment.map (escaped fragmentSafe) }

theorem admits_escape_iff {u : Uri} {safe : Char → Bool} (hslash : safe '/') (hcolon : safe ':')
    {path : List Char} : u.Admits (escape safe path) ↔ u.Admits path := by
  have hnil : escape safe path = [] ↔ path = [] := escape_eq_nil_iff
  have htwo : ['/', '/'] <+: escape safe path ↔ ['/', '/'] <+: path :=
    prefix_escape_iff fun c hc => by
      rw [List.eq_of_mem_replicate (n := 2) hc]
      exact ⟨hslash, by decide⟩
  have hrooted := or_congr hnil (head?_escape_iff hslash (by decide) path)
  have hleading :=
    and_congr (not_congr htwo) (not_congr (head?_escape_iff hcolon (by decide) path))
  constructor
  · intro h
    exact ⟨fun ho => hrooted.1 (h.rooted ho), fun ho hs => hleading.1 (h.leading ho hs)⟩
  · intro h
    exact ⟨fun ho => hrooted.2 (h.rooted ho), fun ho hs => hleading.2 (h.leading ho hs)⟩

theorem checkPath_eq_ok_iff {u : Uri} {path : String} :
    checkPath path (u.scheme != "") u.hasOrigin = .ok () ↔ u.Admits path.toList := by
  have htwo : path.toList.take 2 = ['/', '/'] ↔ ['/', '/'] <+: path.toList := by
    rw [List.prefix_iff_eq_take, eq_comm]
    rfl
  cases ho : u.hasOrigin with
  | true =>
    rw [checkPath_of_authority]
    constructor
    · intro h
      refine ⟨fun _ => ?_, fun hno => absurd ho hno⟩
      split at h
      · assumption
      · cases h
    · intro h
      exact if_pos (h.rooted ho)
  | false =>
    have hno : ¬ u.hasOrigin := Bool.eq_false_iff.1 ho
    rw [checkPath]
    constructor
    · intro h
      refine ⟨fun hyes => absurd hyes hno, fun _ hs => ?_⟩
      rw [hs] at h
      simp only [bne_self_eq_false, Bool.false_eq_true, if_false, htwo] at h
      split at h
      · cases h
      · split at h
        · cases h
        · exact ⟨‹_›, ‹_›⟩
    · intro h
      by_cases hs : u.scheme = ""
      · obtain ⟨hslashes, hcolon⟩ := h.leading hno hs
        simp [hs, htwo, hslashes, hcolon]
      · simp [hs]

theorem exists_checkPath_error {u : Uri} {path : String} (h : ¬ u.Admits path.toList) :
    ∃ e, checkPath path (u.scheme != "") u.hasOrigin = .error e := by
  rw [← checkPath_eq_ok_iff] at h
  cases hc : checkPath path (u.scheme != "") u.hasOrigin with
  | error e => exact ⟨e, rfl⟩
  | ok => exact absurd hc h

theorem hasAuthority_of_hasOrigin {u : Uri} (h : u.hasOrigin) : u.hasAuthority := by
  rw [hasOrigin, Bool.or_eq_true] at h
  rw [hasAuthority, Bool.or_eq_true]
  refine h.imp_right fun hport => ?_
  obtain ⟨n, hn⟩ := Option.isSome_iff_exists.1 hport
  rw [(Option.filter_eq_some_iff.1 hn).1]
  rfl

theorem hasOrigin_of_no_scheme {u : Uri} (h : u.scheme = "") : u.hasOrigin = u.hasAuthority := by
  have hport : writtenPort "" u.port = u.port := by
    cases u.port <;> rfl
  rw [hasOrigin, hasAuthority, h, hport]

theorem Parts.path_of_normal {p : Parts} {u : Uri} (h : p.normal = .ok u) :
    checkPath p.path (u.scheme != "") u.hasAuthority = .ok () ∧ u.path = escaped pathSafe
      (if u.scheme != "" || u.hasAuthority then flatten p.path else p.path) := by
  simp only [Parts.normal, Outcome.bind_eq_ok_iff] at h
  obtain ⟨host, -, port, -, _, hpath, h⟩ := h
  cases h
  exact ⟨hpath, rfl⟩

theorem Parts.admits_of_normal {p : Parts} {u : Uri} (h : p.normal = .ok u) :
    u.Admits u.path.toList := by
  obtain ⟨hchecked, hpath⟩ := Parts.path_of_normal h
  constructor
  · intro ho
    have hauthority := hasAuthority_of_hasOrigin ho
    rw [hauthority, checkPath_of_authority] at hchecked
    split at hchecked
    · rw [hpath, hauthority, Bool.or_true, if_pos rfl]
      exact (settledPath_normal ‹_›).rooted
    · cases hchecked
  · intro ho hs
    have hnone := hasOrigin_of_no_scheme hs
    have hadmits : u.Admits (escape pathSafe p.path.toList) := by
      rw [← hnone, checkPath_eq_ok_iff] at hchecked
      exact (admits_escape_iff (by decide) (by decide)).2 hchecked
    rw [← hnone, hs, Bool.eq_false_iff.2 ho] at hpath
    rw [hpath, bne_self_eq_false, Bool.or_false, if_neg Bool.false_ne_true, escaped,
      String.toList_ofList]
    exact hadmits.leading ho hs

theorem regular_of_parse {s : String} {u : Uri} (h : parse s = .ok u) : u.Regular := by
  have hnormal := normal_of_parse h
  obtain ⟨-, huser, hhost, hport, -⟩ := Parts.normal_eq_ok hnormal
  refine ⟨lower_scheme_of_parse h, ?_, ?_, readable_of_normalPort hport,
    Parts.admits_of_normal hnormal⟩
  · rw [huser]
    exact escaped_of_safe fun c hc => safe_of_mem_escaped (by decide) hc
  · by_cases hne : u.host = ""
    · exact .inl hne
    · exact .inr (settledHost_of_normal hhost hne (Parts.sound_ofText s).host)

namespace Regular

variable {u : Uri} {path : String} {query : Option String}

theorem normalHost_eq (h : u.Regular) : normalHost (bracketed u.host) = .ok (rehosted u.host) := by
  rcases h.host with hnone | hsettled
  · rw [hnone]
    rfl
  · exact normalHost_bracketed hsettled

theorem rehosted_bne (h : u.Regular) : (rehosted u.host != "") = (u.host != "") := by
  rcases h.host with hnone | hsettled
  · rw [hnone]
    rfl
  · rw [bne_iff_ne.2 (Settled.rehosted_ne_empty hsettled), bne_iff_ne.2 hsettled.ne_empty]

theorem withPath_eq (h : u.Regular) (path : String) (query : Option String) :
    u.withPath path query = (checkLengths (u.limited path query) >>= fun _ =>
      (checkPath path (u.scheme != "") u.hasOrigin).map fun _ => u.rebuilt path query) := by
  have hnormal : Parts.normal ⟨u.scheme, u.userinfo, bracketed u.host, some (portDigits u.port),
      path, query, u.fragment⟩ =
        (checkPath path (u.scheme != "") u.hasOrigin).map fun _ => u.rebuilt path query := by
    rw [Parts.normal]
    simp only [h.scheme, h.userinfo, h.normalHost_eq, normalPort_digits h.port u.scheme,
      Outcome.ok_bind, h.rehosted_bne]
    rw [← hasOrigin]
    cases checkPath path (u.scheme != "") u.hasOrigin <;> rfl
  rw [withPath, rebuild, parts_of_host h.host]
  exact congrArg (checkLengths _ >>= fun _ => ·) hnormal

theorem withQuery_eq (h : u.Regular) (query : Option String) :
    u.withQuery query = u.withPath u.path query := by
  rw [withQuery, withPath, parts_of_host h.host]

theorem withPath_of_admits (h : u.Regular) (hpath : u.Admits path.toList)
    (hfit : Fit (u.limited path query)) : u.withPath path query = .ok (u.rebuilt path query) := by
  rw [h.withPath_eq, checkLengths_of_fit hfit, Outcome.ok_bind, checkPath_eq_ok_iff.2 hpath]
  rfl

theorem exists_withPath_error (h : u.Regular)
    (hnot : ¬ (u.Admits path.toList ∧ Fit (u.limited path query))) :
    ∃ e, u.withPath path query = .error e := by
  rw [h.withPath_eq]
  by_cases hfit : Fit (u.limited path query)
  · obtain ⟨e, he⟩ := exists_checkPath_error fun hpath => hnot ⟨hpath, hfit⟩
    rw [checkLengths_of_fit hfit, Outcome.ok_bind, he]
    exact ⟨e, rfl⟩
  · obtain ⟨part, hpart⟩ := checkLengths_of_not_fit hfit
    rw [hpart]
    exact ⟨_, rfl⟩

end Regular

theorem rooted_rebuilt (u : Uri) {path : String}
    (h : path.toList = [] ∨ path.toList.head? = some '/') (query : Option String) :
    (u.rebuilt path query).rawPath.toList.head? = some '/' := by
  have hslash : pathSafe '/' := by decide
  have hpath : (u.rebuilt path query).path.toList = [] ∨
      (u.rebuilt path query).path.toList.head? = some '/' := by
    rw [rebuilt]
    dsimp only
    split
    · exact (settledPath_normal h).rooted
    · rwa [escaped, String.toList_ofList, escape_eq_nil_iff, head?_escape_iff hslash (by decide)]
  rw [rawPath]
  split
  · rfl
  · exact hpath.resolve_left fun hnil => ‹¬ _› (String.toList_eq_nil_iff.1 hnil)

end HttpGateway.Uri
