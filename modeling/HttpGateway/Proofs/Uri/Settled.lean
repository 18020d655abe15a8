import HttpGateway.Proofs.Outcome
import HttpGateway.Proofs.Uri.Authority

/-!
Absolute addresses in normal form. Normalising one of them once more, with another path, query or
origin in its place, keeps the parts that were not replaced.
-/

namespace HttpGateway.Uri

open HttpGateway.Text

/-- An absolute address whose parts are in normal form. -/
structure Settled (u : Uri) : Prop where
  schemed : u.scheme ≠ ""
  scheme : ∀ c ∈ u.scheme.toList, isSchemeChar c ∧ c.toLower = c
  userinfo : ∀ c ∈ u.userinfo.toList, userinfoSafe c
  host : SettledHost u.host
  port : ∀ n ∈ u.port, Whole.Readable n
  path : SettledPath u.path
  query : ∀ q ∈ u.query, ∀ c ∈ q.toList, querySafe c
  fragment : ∀ f ∈ u.fragment, ∀ c ∈ f.toList, fragmentSafe c

theorem isSchemeChar_ascii {c : Char} (h : isSchemeChar c) : c.toNat < 128 := by
  simp only [isSchemeChar, Bool.or_eq_true, beq_iff_eq] at h
  rcases h with ((h | rfl) | rfl) | rfl
  · exact isAlphanum_ascii h
  · decide
  · decide
  · decide

structure Parts.Sound (p : Parts) : Prop where
  scheme : ∀ c ∈ p.scheme.toList, isSchemeChar c
  host : '@' ∉ p.host.toList

theorem isSchemeChar_of_mem_cutScheme {cs : List Char} {c : Char} (h : c ∈ (cutScheme cs).1) :
    isSchemeChar c := by
  rw [cutScheme] at h
  split at h
  · split at h
    · exact List.all_eq_true.1 List.all_takeWhile c h
    · cases h
  · cases h

theorem at_notMem_cutHost {cs : List Char} (h : '@' ∉ cs) : '@' ∉ (cutHost cs).1 := by
  have hplain : '@' ∉ cs.takeWhile (· ≠ ':') := fun hmem => h ((List.takeWhile_sublist _).mem hmem)
  by_cases hhead : cs.head? = some '['
  · obtain ⟨tail, rfl⟩ := List.head?_eq_some_iff.1 hhead
    rcases hcut : cutLast ']' ('[' :: tail) with ⟨_ | inner, rest⟩
    · rwa [cutHost_of_no_bracket fun _ => by rw [hcut]]
    · rw [eq_of_cutLast hcut, List.mem_append, not_or] at h
      rw [cutHost_of_bracket hcut, List.mem_append, not_or]
      exact ⟨h.1, by decide⟩
  · rwa [cutHost_of_no_bracket fun h => absurd h hhead]

theorem Parts.sound_ofText (s : String) : (Parts.ofText s).Sound := by
  constructor
  · intro c hc
    change c ∈ (String.ofList (cutScheme s.toList).1).toList at hc
    rw [String.toList_ofList] at hc
    exact isSchemeChar_of_mem_cutScheme hc
  · have hhost : ∀ authority : List Char, '@' ∉ (cutHostAndUser authority).2.1 := fun authority =>
      at_notMem_cutHost (notMem_cutLast '@' authority)
    change '@' ∉ (String.ofList _).toList
    rw [String.toList_ofList]
    exact hhost _

theorem SettledHost.ne_empty {host : String} (h : SettledHost host) : host ≠ "" := by
  cases h with
  | ipv6 hip =>
    rintro rfl
    cases colon_mem_of_isIPv6 hip
  | plain hne => exact hne

theorem checkPath_of_authority (path : String) (hasScheme : Bool) :
    checkPath path hasScheme true =
      if path.toList = [] ∨ path.toList.head? = some '/' then .ok () else .error .pathNotRooted :=
  rfl

theorem Parts.normal_eq_ok {p : Parts} {u : Uri} (h : p.normal = .ok u) :
    u.scheme = lower p.scheme ∧ u.userinfo = escaped userinfoSafe p.userinfo ∧
      normalHost p.host = .ok u.host ∧ normalPort p.scheme p.port = .ok u.port ∧
      (u.isAbsolute → (p.path.toList = [] ∨ p.path.toList.head? = some '/') ∧
        u.path = escaped pathSafe (flatten p.path)) ∧
      u.query = p.query.map (escaped querySafe) ∧
      u.fragment = p.fragment.map (escaped fragmentSafe) := by
  simp only [Parts.normal, Outcome.bind_eq_ok_iff] at h
  obtain ⟨host, hhost, port, hport, _, hpath, h⟩ := h
  cases h
  refine ⟨rfl, rfl, hhost, hport, fun ha => ?_, rfl, rfl⟩
  simp only [isAbsolute, Bool.and_eq_true] at ha
  simp only [ha.1, ha.2, Bool.or_true, Bool.true_or, checkPath_of_authority] at hpath
  split at hpath
  · refine ⟨‹_›, ?_⟩
    simp only [ha.1, Bool.true_or, if_true]
  · cases hpath

theorem scheme_lower {scheme : String} (h : ∀ c ∈ scheme.toList, isSchemeChar c) :
    ∀ c ∈ (lower scheme).toList, isSchemeChar c ∧ c.toLower = c := by
  have hlow : ∀ n < 128, isSchemeChar (Char.ofNat n) → isSchemeChar (Char.ofNat n).toLower := by
    decide
  intro c hc
  rw [lower_ascii fun c hc => isSchemeChar_ascii (h c hc), toList_lowerAscii] at hc
  obtain ⟨d, hd, rfl⟩ := List.mem_map.1 hc
  have hascii := isSchemeChar_ascii (h d hd)
  refine ⟨?_, toLower_toLower d⟩
  exact forall_ascii (P := fun c => isSchemeChar c → isSchemeChar c.toLower) hlow hascii (h d hd)

theorem safe_of_mem_escaped {safe : Char → Bool} (hsigns : escapeSigns.all safe) {s : String}
    {c : Char} (h : c ∈ (escaped safe s).toList) : safe c := by
  rw [escaped, String.toList_ofList] at h
  exact safe_of_mem_escape hsigns h

theorem safe_of_mem_map_escaped {safe : Char → Bool} (hsigns : escapeSigns.all safe)
    {written : Option String} :
    ∀ q ∈ written.map (escaped safe), ∀ c ∈ q.toList, safe c := by
  intro q hq c hc
  obtain ⟨w, -, rfl⟩ := Option.map_eq_some_iff.1 hq
  exact safe_of_mem_escaped hsigns hc

theorem Parts.Sound.settled {p : Parts} (hp : p.Sound) {u : Uri} (h : p.normal = .ok u)
    (ha : u.isAbsolute) : u.Settled := by
  obtain ⟨hscheme, huser, hhost, hport, hpath, hquery, hfragment⟩ := Parts.normal_eq_ok h
  obtain ⟨hrooted, hpath⟩ := hpath ha
  simp only [isAbsolute, Bool.and_eq_true, bne_iff_ne] at ha
  refine ⟨ha.1, ?_, ?_, settledHost_of_normal hhost ha.2 hp.host, readable_of_normalPort hport, ?_,
    ?_, ?_⟩
  · rw [hscheme]
    exact scheme_lower hp.scheme
  · rw [huser]
    exact fun c hc => safe_of_mem_escaped (by decide) hc
  · rw [hpath]
    exact settledPath_normal hrooted
  · rw [hquery]
    exact safe_of_mem_map_escaped (by decide)
  · rw [hfragment]
    exact safe_of_mem_map_escaped (by decide)

theorem normal_of_parse {s : String} {u : Uri} (h : parse s = .ok u) :
    (Parts.ofText s).normal = .ok u := by
  rw [parse] at h
  split at h
  · cases h
  · split at h
    · cases h
    · exact h

theorem scheme_of_parse {s : String} {u : Uri} (h : parse s = .ok u) :
    ∀ c ∈ u.scheme.toList, isSchemeChar c ∧ c.toLower = c := by
  rw [(Parts.normal_eq_ok (normal_of_parse h)).1]
  exact scheme_lower (Parts.sound_ofText s).scheme

theorem lower_scheme_of_parse {s : String} {u : Uri} (h : parse s = .ok u) :
    lower u.scheme = u.scheme := by
  rw [lower_ascii fun c hc => isSchemeChar_ascii (scheme_of_parse h c hc).1]
  exact lowerAscii_eq_self fun c hc => (scheme_of_parse h c hc).2

theorem settled_of_parse {s : String} {u : Uri} (h : parse s = .ok u) (ha : u.isAbsolute) :
    u.Settled :=
  (Parts.sound_ofText s).settled (normal_of_parse h) ha

theorem parts_of_host {u : Uri} (h : u.host = "" ∨ SettledHost u.host) :
    u.parts = ⟨u.scheme, u.userinfo, bracketed u.host, some (portDigits u.port), u.path, u.query,
      u.fragment⟩ := by
  have hcut : cutHostAndUser u.authority.toList =
      (u.userinfo.toList, (bracketed u.host).toList, some (portDigits u.port).toList) := by
    rcases h with hnone | hsettled
    · rw [cutHostAndUser_of_no_host hnone, hnone]
      rfl
    · exact cutHostAndUser_authority hsettled
  rw [parts, hcut]
  simp only [String.ofList_toList, Option.map_some]

namespace Settled

variable {u : Uri}

theorem parts_eq (h : u.Settled) :
    u.parts = ⟨u.scheme, u.userinfo, bracketed u.host, some (portDigits u.port), u.path, u.query,
      u.fragment⟩ :=
  parts_of_host (.inr h.host)

theorem lower_scheme (h : u.Settled) : lower u.scheme = u.scheme := by
  rw [lower_ascii fun c hc => isSchemeChar_ascii (h.scheme c hc).1]
  exact lowerAscii_eq_self fun c hc => (h.scheme c hc).2

theorem rehosted_ne_empty {host : String} (h : SettledHost host) : rehosted host ≠ "" := by
  rw [rehosted]
  split
  · exact h.ne_empty
  · intro he
    have hnil := congrArg String.toList he
    rw [toList_lowerAscii] at hnil
    exact h.ne_empty (String.toList_inj.1 (List.map_eq_nil_iff.1 hnil))

theorem escaped_userinfo (h : u.Settled) : escaped userinfoSafe u.userinfo = u.userinfo :=
  escaped_of_safe h.userinfo

theorem escaped_fragment (h : u.Settled) : u.fragment.map (escaped fragmentSafe) = u.fragment := by
  cases hf : u.fragment with
  | none => rfl
  | some f => exact congrArg some (escaped_of_safe (h.fragment f hf))

theorem escaped_query (h : u.Settled) : u.query.map (escaped querySafe) = u.query := by
  cases hq : u.query with
  | none => rfl
  | some q => exact congrArg some (escaped_of_safe (h.query q hq))

theorem normal_eq (h : u.Settled) {origin : Uri} (ho : origin.Settled) {port : Option String}
    {read : Option Int} (hport : normalPort origin.scheme port = .ok read) (path : String)
    (query : Option String) :
    Parts.normal
        ⟨origin.scheme, u.userinfo, bracketed origin.host, port, path, query, u.fragment⟩ =
      if path.toList = [] ∨ path.toList.head? = some '/' then
        .ok ⟨origin.scheme, u.userinfo, rehosted origin.host, read, escaped pathSafe (flatten path),
          query.map (escaped querySafe), u.fragment⟩
      else .error .pathNotRooted := by
  have hscheme : (origin.scheme != "") = true := bne_iff_ne.2 ho.schemed
  have hhost : (rehosted origin.host != "") = true := bne_iff_ne.2 (rehosted_ne_empty ho.host)
  rw [Parts.normal]
  simp only [normalHost_bracketed ho.host, hport, ho.lower_scheme, h.escaped_userinfo,
    h.escaped_fragment, hscheme, hhost, Outcome.ok_bind, Bool.or_true, Bool.true_or,
    checkPath_of_authority, if_true]
  split <;> rfl

end Settled

def Fit (parts : List (String × String)) : Prop := ∀ p ∈ parts, p.2.length ≤ lengthLimit

instance (parts : List (String × String)) : Decidable (Fit parts) :=
  inferInstanceAs (Decidable (∀ p ∈ parts, p.2.length ≤ lengthLimit))

theorem checkLengths_of_fit {parts : List (String × String)} (h : Fit parts) :
    checkLengths parts = .ok () := by
  have hnone : parts.find? (fun p => lengthLimit < p.2.length) = none := by
    rw [List.find?_eq_none]
    intro p hp
    rw [decide_eq_true_eq]
    exact Nat.not_lt.2 (h p hp)
  rw [checkLengths, hnone]

theorem checkLengths_of_not_fit {parts : List (String × String)} (h : ¬ Fit parts) :
    ∃ part, checkLengths parts = .error (.partTooLong part) := by
  cases hfind : parts.find? (fun p => lengthLimit < p.2.length) with
  | none =>
    refine absurd (fun p hp => ?_) h
    have hlong := List.find?_eq_none.1 hfind p hp
    rw [decide_eq_true_eq] at hlong
    exact Nat.le_of_not_lt hlong
  | some p =>
    rw [checkLengths, hfind]
    exact ⟨p.1, rfl⟩

/-- The address with another origin, and with another path and query in their normal form. -/
def moved (u origin : Uri) (path : String) (query : Option String) : Uri :=
  { u with
    scheme := origin.scheme
    host := rehosted origin.host
    port := writtenPort origin.scheme origin.port
    path := escaped pathSafe (flatten path)
    query := query.map (escaped querySafe) }

def limited (u : Uri) (path : String) (query : Option String) : List (String × String) :=
  [("scheme", u.scheme), ("authority", u.authority), ("path", path), ("query", query.getD ""),
    ("fragment", u.fragment.getD "")]

def limitedFor (u origin : Uri) : List (String × String) :=
  [("scheme", origin.scheme), ("authority", u.authority), ("path", u.path), ("query", u.queryText),
    ("fragment", u.fragment.getD ""), ("host", bracketed origin.host),
    ("port", portDigits origin.port)]

theorem SettledHost.rehosted {host : String} (h : SettledHost host) :
    SettledHost (Uri.rehosted host) := by
  refine settledHost_of_normal (normalHost_bracketed h) (Settled.rehosted_ne_empty h) ?_
  cases h with
  | ipv6 hip hat => simpa [bracketed, if_pos (colon_mem_of_isIPv6 hip)] using hat
  | plain hne hsafe hip hlower =>
    rw [bracketed, if_neg (SettledHost.colon_notMem hsafe)]
    exact fun hmem => absurd (hsafe '@' hmem) (by decide)

namespace Settled

variable {u origin : Uri} {path : String} {query : Option String}

theorem moved (h : u.Settled) (ho : origin.Settled)
    (hpath : path.toList = [] ∨ path.toList.head? = some '/') (query : Option String) :
    (u.moved origin path query).Settled := by
  refine ⟨ho.schemed, ho.scheme, h.userinfo, ho.host.rehosted, fun n hn => ?_,
    settledPath_normal hpath, safe_of_mem_map_escaped (by decide), h.fragment⟩
  exact ho.port n (Option.filter_eq_some_iff.1 hn).1

theorem withPath_eq (h : u.Settled) (path : String) (query : Option String) :
    u.withPath path query = (checkLengths (u.limited path query) >>= fun _ =>
      if path.toList = [] ∨ path.toList.head? = some '/' then .ok (u.moved u path query)
      else .error .pathNotRooted) := by
  have hnormal := h.normal_eq h (normalPort_digits h.port u.scheme) path query
  rw [withPath, rebuild, h.parts_eq]
  exact congrArg (checkLengths _ >>= fun _ => ·) hnormal

theorem withOrigin_eq (h : u.Settled) (ho : origin.Settled) :
    u.withOrigin origin = (checkLengths (u.limitedFor origin) >>= fun _ =>
      .ok (u.moved origin u.path u.query)) := by
  have hnormal := h.normal_eq ho (normalPort_text ho.port origin.scheme) u.path u.query
  rw [if_pos h.path.rooted] at hnormal
  rw [withOrigin, rebuild, h.parts_eq]
  exact congrArg (checkLengths _ >>= fun _ => ·) hnormal

theorem withQuery_eq (h : u.Settled) (query : Option String) :
    u.withQuery query = u.withPath u.path query := by
  rw [withQuery, withPath, h.parts_eq]

theorem withPath_of_fit (h : u.Settled) (hpath : path.toList = [] ∨ path.toList.head? = some '/')
    (hfit : Fit (u.limited path query)) : u.withPath path query = .ok (u.moved u path query) := by
  rw [h.withPath_eq, checkLengths_of_fit hfit, Outcome.ok_bind, if_pos hpath]

theorem withPath_of_not_fit (h : u.Settled) (hfit : ¬ Fit (u.limited path query)) :
    ∃ part, u.withPath path query = .error (.partTooLong part) := by
  obtain ⟨part, hpart⟩ := checkLengths_of_not_fit hfit
  rw [h.withPath_eq, hpart]
  exact ⟨part, rfl⟩

theorem of_withPath (h : u.Settled) {v : Uri} (hv : u.withPath path query = .ok v) :
    v = u.moved u path query ∧ v.Settled := by
  rw [h.withPath_eq, Outcome.bind_eq_ok_iff] at hv
  obtain ⟨-, -, hv⟩ := hv
  split at hv
  · rename_i hpath
    cases hv
    exact ⟨rfl, h.moved h hpath query⟩
  · cases hv

theorem withOrigin_of_fit (h : u.Settled) (ho : origin.Settled) (hfit : Fit (u.limitedFor origin)) :
    u.withOrigin origin = .ok (u.moved origin u.path u.query) := by
  rw [h.withOrigin_eq ho, checkLengths_of_fit hfit, Outcome.ok_bind]

theorem moved_eq (h : u.Settled) (origin : Uri) :
    u.moved origin u.path u.query = { u with
      scheme := origin.scheme
      host := Uri.rehosted origin.host
      port := writtenPort origin.scheme origin.port } := by
  rw [Uri.moved, h.path.flatten, h.path.escaped, h.escaped_query]

end Settled

/-- An address that points to the origin of another one. The case of the digits in the escapes of a
host may differ, and the port that a scheme has anyway may be left out. -/
structure AtOrigin (u origin : Uri) : Prop where
  scheme : u.scheme = origin.scheme
  host : Headers.lowerAscii u.host = Headers.lowerAscii origin.host
  plainHost : '%' ∉ origin.host.toList → u.host = origin.host
  port : u.port = writtenPort origin.scheme origin.port

theorem atOrigin_of_rehosted {u origin : Uri} (ho : origin.Settled)
    (hscheme : u.scheme = origin.scheme) (hhost : u.host = rehosted origin.host)
    (hport : u.port = writtenPort origin.scheme origin.port) : u.AtOrigin origin := by
  refine ⟨hscheme, ?_, fun hplain => ?_, hport⟩
  · rw [hhost, rehosted]
    split
    · rfl
    · exact lowerAscii_lowerAscii origin.host
  · rw [hhost, rehosted]
    split
    · rfl
    · cases ho.host with
      | ipv6 hip => exact absurd (colon_mem_of_isIPv6 hip) ‹_›
      | plain _ _ _ hlower => exact hlower hplain

theorem atOrigin_of_withOrigin {u v origin : Uri} (ho : origin.Settled)
    (h : u.withOrigin origin = .ok v) : v.AtOrigin origin := by
  rw [withOrigin, rebuild, Outcome.bind_eq_ok_iff] at h
  obtain ⟨-, -, h⟩ := h
  obtain ⟨hscheme, -, hhost, hport, -⟩ := Parts.normal_eq_ok h
  have hbracketed := normalHost_bracketed ho.host
  have hwritten := normalPort_text ho.port origin.scheme
  refine atOrigin_of_rehosted ho (hscheme.trans ho.lower_scheme) ?_ ?_
  · exact Except.ok.inj (hhost.symm.trans hbracketed)
  · exact Except.ok.inj (hport.symm.trans hwritten)

theorem AtOrigin.isAbsolute {u origin : Uri} (h : u.AtOrigin origin) (ho : origin.Settled) :
    u.isAbsolute := by
  have hhost : u.host ≠ "" := by
    intro hempty
    have hnil := congrArg String.toList h.host
    rw [hempty, toList_lowerAscii, toList_lowerAscii] at hnil
    exact ho.host.ne_empty (String.toList_inj.1 (List.map_eq_nil_iff.1 hnil.symm))
  rw [Uri.isAbsolute, Bool.and_eq_true, bne_iff_ne, bne_iff_ne, h.scheme]
  exact ⟨ho.schemed, hhost⟩

end HttpGateway.Uri
