import HttpGateway.Message.Request
import HttpGateway.Proofs.Uri.Rebuilding

namespace HttpGateway

open HttpGateway.Text

namespace Request

theorem pathSafe_of_keptInPath {c : Char} (h : keptInPath c) : Uri.pathSafe c := by
  have hascii : c.toNat < 128 := by
    simp only [keptInPath, isUnreserved, Bool.or_eq_true, beq_iff_eq] at h
    rcases h with ((((h | rfl) | rfl) | rfl) | rfl) | h
    · exact isAlphanum_ascii h
    · decide
    · decide
    · decide
    · decide
    · have hkept : "/%:@!$&'()*+,;=".toList.all fun d => d.toNat < 128 := by decide
      exact of_decide_eq_true (List.all_eq_true.1 hkept c (List.contains_iff_mem.1 h))
  have hall : ∀ n < 128, keptInPath (Char.ofNat n) → Uri.pathSafe (Char.ofNat n) := by decide
  exact forall_ascii (P := fun c => keptInPath c → Uri.pathSafe c) hall hascii h

theorem keepsEscapes_keptInPath : KeepsEscapes keptInPath := by
  refine ⟨by decide, fun c hc => ?_⟩
  obtain ⟨n, hn⟩ := Option.isSome_iff_exists.1 hc
  have hascii : c.toNat < 128 := by
    obtain ⟨hlt, hlow, hhigh⟩ := hexValue?_eq_some hn
    omega
  have hall : ∀ n < 128, (hexValue? (Char.ofNat n)).isSome → keptInPath (Char.ofNat n) := by
    decide
  exact forall_ascii (P := fun c => (hexValue? c).isSome → keptInPath c) hall hascii hc

def keptQuery (r : Request) : Option String :=
  if r.uri.queryText = "" then none else some r.uri.queryText

@[simp]
theorem getD_keptQuery (r : Request) : r.keptQuery.getD "" = r.uri.queryText := by
  rw [keptQuery]
  split
  · exact Eq.symm ‹_›
  · rfl

theorem escaped_keptQuery {r : Request} (h : r.uri.Settled) :
    r.keptQuery.map (Uri.escaped Uri.querySafe) = r.keptQuery := by
  rw [keptQuery]
  split
  · rfl
  · rw [Option.map_some, Uri.queryText]
    cases hq : r.uri.query with
    | none => rfl
    | some q => exact congrArg some (Uri.escaped_of_safe (h.query q hq))

def pathWritten (path : String) : String :=
  String.ofList (escape keptInPath (if path = "" then "/" else path).toList)

theorem withRawPath_eq (r : Request) (path : String) :
    r.withRawPath path = (r.uri.withPath (pathWritten path) r.keptQuery).map r.withUri := by
  simp only [withRawPath, keptQuery, pathWritten]
  generalize r.uri.withPath _ _ = uri
  cases uri <;> rfl

structure TakesPath (r : Request) (path : String) : Prop where
  admitted : r.uri.Admits path.toList
  fit : Uri.Fit (r.uri.limited (pathWritten path) r.keptQuery)

def TakesParams (r : Request) (ps : Uri.Params) : Prop :=
  Uri.Fit (r.uri.limited r.uri.path (some ps.text))

@[simp]
theorem toList_pathWritten {path : String} (h : path ≠ "") :
    (pathWritten path).toList = escape keptInPath path.toList := by
  rw [pathWritten, if_neg h, String.toList_ofList]

theorem admits_pathWritten_iff {u : Uri} {path : String} :
    u.Admits (pathWritten path).toList ↔ u.Admits path.toList := by
  by_cases h : path = ""
  · have hslash : (pathWritten "").toList = ['/'] := by decide
    rw [h, hslash]
    constructor
    · exact fun _ => ⟨fun _ => .inl rfl, fun _ _ => by decide⟩
    · exact fun _ => ⟨fun _ => .inr rfl, fun _ _ => by decide⟩
  · rw [toList_pathWritten h]
    exact Uri.admits_escape_iff (by decide) (by decide)

theorem withRawPath_of_takes {r : Request} {path : String} (h : r.uri.Regular)
    (hpath : r.TakesPath path) : r.withRawPath path =
      .ok (r.withUri (r.uri.rebuilt (pathWritten path) r.keptQuery)) := by
  rw [withRawPath_eq,
    h.withPath_of_admits (admits_pathWritten_iff.2 hpath.admitted) hpath.fit]
  rfl

theorem exists_withRawPath_error {r : Request} {path : String} (h : r.uri.Regular)
    (hpath : ¬ r.TakesPath path) : ∃ e, r.withRawPath path = .error e := by
  obtain ⟨e, he⟩ : ∃ e, r.uri.withPath (pathWritten path) r.keptQuery = .error e :=
    h.exists_withPath_error fun hadmits =>
      hpath ⟨admits_pathWritten_iff.1 hadmits.1, hadmits.2⟩
  rw [withRawPath_eq, he]
  exact ⟨e, rfl⟩

theorem withParams_eq {r : Request} (h : r.uri.Regular) (ps : Uri.Params) : ∃ query,
    r.uri.withParams ps = r.uri.withPath r.uri.path query ∧ query.getD "" = ps.text := by
  rw [Uri.withParams, h.withQuery_eq]
  refine ⟨_, rfl, ?_⟩
  split
  · rename_i hnone
    rw [Uri.Params.text, Uri.Params.pairs, List.length_eq_zero_iff.1 hnone]
    rfl
  · rfl

theorem exists_withParams_of_takes {r : Request} {ps : Uri.Params} (h : r.uri.Regular)
    (hps : r.TakesParams ps) : ∃ uri, r.uri.withParams ps = .ok uri := by
  obtain ⟨query, heq, hquery⟩ := withParams_eq h ps
  rw [TakesParams, Uri.limited, Option.getD_some, ← hquery] at hps
  exact ⟨_, heq.trans (h.withPath_of_admits h.path hps)⟩

theorem exists_withParams_error {r : Request} {ps : Uri.Params} (h : r.uri.Regular)
    (hps : ¬ r.TakesParams ps) : ∃ e, r.uri.withParams ps = .error e := by
  obtain ⟨query, heq, hquery⟩ := withParams_eq h ps
  rw [TakesParams, Uri.limited, Option.getD_some, ← hquery] at hps
  obtain ⟨e, he⟩ := h.exists_withPath_error fun hfit => hps hfit.2
  exact ⟨e, heq.trans he⟩

structure Readdressed (r r' : Request) : Prop where
  eq : r' = r.withUri r'.uri
  settled : r.uri.Settled → r'.uri.Settled ∧ r'.uri.userinfo = r.uri.userinfo

theorem Readdressed.of_withPath {r r' : Request} {path : String} {query : Option String}
    (h : (r.uri.withPath path query).map r.withUri = .ok r') : r.Readdressed r' := by
  obtain ⟨uri, huri, rfl⟩ := Outcome.map_eq_ok_iff.1 h
  refine ⟨rfl, fun hr => ?_⟩
  obtain ⟨hmoved, hsettled⟩ := hr.of_withPath huri
  refine ⟨hsettled, ?_⟩
  change uri.userinfo = r.uri.userinfo
  rw [hmoved, Uri.moved]

theorem readdressed_of_withRawPath {r r' : Request} {path : String}
    (h : r.withRawPath path = .ok r') : r.Readdressed r' := by
  rw [withRawPath_eq] at h
  exact .of_withPath h

theorem readdressed_of_withParams {r : Request} {ps : Uri.Params} {uri : Uri}
    (h : r.uri.withParams ps = .ok uri) : r.Readdressed (r.withUri uri) := by
  refine ⟨rfl, fun hr => ?_⟩
  rw [Uri.withParams, hr.withQuery_eq] at h
  obtain ⟨hmoved, hsettled⟩ := hr.of_withPath h
  refine ⟨hsettled, ?_⟩
  change uri.userinfo = r.uri.userinfo
  rw [hmoved, Uri.moved]

end Request

end HttpGateway
