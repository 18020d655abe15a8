import HttpGateway.Proofs.Builtin.Stripping
import HttpGateway.Proofs.Builtin.Suiting
import HttpGateway.Proofs.Message.RawPath

/-!
Edits of the path one after another: stripping twice strips the sum, and stripping takes back what
was put in front. Both are read off the pieces between the slashes.
-/

namespace HttpGateway

open HttpGateway.Text

namespace Filter

def PassesOn (f : Filter) (r r' : Request) : Prop :=
  ∀ next s x, (f next r).outcome s x = (next r').outcome s x

theorem PassesOn.chain_pair {f g : Filter} {r r' r'' : Request} (hf : f.PassesOn r r')
    (hg : g.PassesOn r' r'') : PassesOn (chain [f, g]) r r'' := by
  intro next s x
  calc (chain [f, g] next r).outcome s x = (f (g next) r).outcome s x := rfl
    _ = (g next r').outcome s x := hf (g next) s x
    _ = (next r'').outcome s x := hg next s x

end Filter

namespace RequestEdit

variable {m n : Nat} {path : String} {ps qs : List (List Char)}

def leftOver (n : Nat) (ps : List (List Char)) : List (List Char) := (ps.filter (· ≠ [])).drop n

/-- The pieces of a path without its first segments. The last one is empty if the path ends in a
slash, and if no segment is left. -/
def keptPieces (n : Nat) (ps : List (List Char)) : List (List Char) :=
  [] :: (leftOver n ps ++ if leftOver n ps = [] ∨ ps.getLast? = some [] then [[]] else [])

theorem mem_leftOver {p : List Char} (h : p ∈ leftOver n ps) : p ∈ ps ∧ p ≠ [] := by
  simpa using List.mem_filter.1 (List.mem_of_mem_drop h)

theorem mem_keptPieces {p : List Char} (h : p ∈ keptPieces n ps) : p = [] ∨ p ∈ ps := by
  simp only [keptPieces, List.mem_cons, List.mem_append] at h
  rcases h with h | h | h
  · exact .inl h
  · exact .inr (mem_leftOver h).1
  · split at h
    · exact .inl (List.mem_singleton.1 h)
    · cases h

theorem endsInSlash_iff : endsInSlash path ↔ path.toList.getLast? = some '/' := beq_iff_eq

theorem lt_length_segments_iff :
    n < (segments '/' path).length ↔ leftOver n (splitAt '/' path.toList) ≠ [] := by
  rw [segments_eq, List.length_map, leftOver, ← List.length_pos_iff, List.length_drop,
    Nat.sub_pos_iff_lt]
  rfl

theorem toList_strippedPath_eq_joinBy (n : Nat) (path : String) :
    (strippedPath n path).toList = joinBy '/' (keptPieces n (splitAt '/' path.toList)) := by
  have htoList : (strippedPath n path).toList =
      '/' :: (joinBy '/' (leftOver n (splitAt '/' path.toList)) ++
        if endsInSlash path && n < (segments '/' path).length then ['/'] else []) := by
    have hjoin := toList_intercalate_segments n path
    rw [strippedPath]
    split <;> simp [hjoin, runs, leftOver]
  rw [htoList, keptPieces]
  by_cases hnil : leftOver n (splitAt '/' path.toList) = []
  · have hnone : ¬ n < (segments '/' path).length := by rwa [lt_length_segments_iff, not_not]
    simp [hnil, hnone, joinBy]
  · have hmore : n < (segments '/' path).length := lt_length_segments_iff.2 hnil
    by_cases hend : endsInSlash path
    · have hlast : (splitAt '/' path.toList).getLast? = some [] :=
        getLast?_splitAt_iff.2 (.inr (endsInSlash_iff.1 hend))
      rw [joinBy_nil_cons '/' (by simp [hnil]), if_pos (Or.inr hlast), joinBy_concat_nil '/' hnil]
      simp [hend, hmore]
    · have hlast : ¬ (splitAt '/' path.toList).getLast? = some [] := by
        rw [getLast?_splitAt_iff, not_or]
        refine ⟨fun hempty => hnil ?_, mt endsInSlash_iff.2 hend⟩
        rw [hempty]
        exact List.drop_nil
      rw [if_neg (not_or.2 ⟨hnil, hlast⟩), List.append_nil, joinBy_nil_cons '/' hnil]
      simp [hend]

theorem splitAt_strippedPath (n : Nat) (path : String) :
    splitAt '/' (strippedPath n path).toList = keptPieces n (splitAt '/' path.toList) := by
  have hpieces : ∀ p ∈ keptPieces n (splitAt '/' path.toList), '/' ∉ p := by
    intro p hp
    rcases mem_keptPieces hp with rfl | hp
    · exact List.not_mem_nil
    · exact notMem_of_mem_splitAt hp
  rw [toList_strippedPath_eq_joinBy]
  exact splitAt_joinBy (List.cons_ne_nil _ _) hpieces

theorem keptPieces_congr (hleft : leftOver n ps = leftOver m qs)
    (hlast : leftOver m qs ≠ [] → (ps.getLast? = some [] ↔ qs.getLast? = some [])) :
    keptPieces n ps = keptPieces m qs := by
  rw [keptPieces, keptPieces, hleft]
  by_cases hnil : leftOver m qs = []
  · simp [hnil]
  · simp [hnil, hlast hnil]

theorem filter_keptPieces (n : Nat) (ps : List (List Char)) :
    (keptPieces n ps).filter (· ≠ []) = leftOver n ps := by
  have hleft : (leftOver n ps).filter (· ≠ []) = leftOver n ps :=
    List.filter_eq_self.2 fun p hp => decide_eq_true (mem_leftOver hp).2
  rw [keptPieces, List.filter_cons_of_neg (by simp), List.filter_append, hleft]
  split <;> simp

theorem getLast?_keptPieces (h : leftOver n ps ≠ []) :
    (keptPieces n ps).getLast? = some [] ↔ ps.getLast? = some [] := by
  rw [keptPieces]
  by_cases hlast : ps.getLast? = some []
  · simp [hlast, List.getLast?_cons]
  · rw [if_neg (not_or.2 ⟨h, hlast⟩), List.append_nil]
    refine iff_of_false (fun hempty => ?_) hlast
    rw [List.getLast?_cons, Option.some.injEq, List.getLast?_eq_some_getLast h,
      Option.getD_some] at hempty
    exact (mem_leftOver (List.getLast_mem h)).2 hempty

theorem keptPieces_keptPieces (m n : Nat) (ps : List (List Char)) :
    keptPieces n (keptPieces m ps) = keptPieces (m + n) ps := by
  have hleft : leftOver n (keptPieces m ps) = leftOver (m + n) ps := by
    rw [leftOver, filter_keptPieces, leftOver, leftOver, List.drop_drop]
  refine keptPieces_congr hleft fun hne => getLast?_keptPieces fun hnil => hne ?_
  rw [← hleft, leftOver, filter_keptPieces, hnil, List.drop_nil]

theorem leftOver_map {f : List Char → List Char} (hf : ∀ p, f p = [] ↔ p = []) (n : Nat)
    (ps : List (List Char)) : leftOver n (ps.map f) = (leftOver n ps).map f := by
  rw [leftOver, List.filter_map, leftOver, List.map_drop]
  congr 2
  refine List.filter_congr fun p _ => ?_
  simp [hf]

theorem getLast?_map_iff {f : List Char → List Char} (hf : ∀ p, f p = [] ↔ p = []) :
    (ps.map f).getLast? = some [] ↔ ps.getLast? = some [] := by
  rw [List.getLast?_map]
  cases ps.getLast? <;> simp [hf]

theorem map_keptPieces {f : List Char → List Char} (hf : ∀ p, f p = [] ↔ p = []) (n : Nat)
    (ps : List (List Char)) : keptPieces n (ps.map f) = (keptPieces n ps).map f := by
  have hnil : f [] = [] := (hf []).2 rfl
  simp only [keptPieces, leftOver_map hf, getLast?_map_iff hf, List.map_eq_nil_iff, List.map_cons,
    List.map_append, hnil]
  split <;> simp [hnil]

theorem keptPieces_append (ps : List (List Char)) (hqs : qs ≠ []) :
    keptPieces (ps.filter (· ≠ [])).length ([] :: (ps ++ qs)) = keptPieces 0 ([] :: qs) := by
  refine keptPieces_congr ?_ fun _ => ?_
  · rw [leftOver, leftOver, List.filter_cons_of_neg (by simp), List.filter_cons_of_neg (by simp),
      List.filter_append, List.drop_left, List.drop_zero]
  · rw [List.getLast?_cons, List.getLast?_cons, List.getLast?_append_of_ne_nil ps hqs]

theorem extent_keptPieces_le (hps : ps ≠ []) (n : Nat) :
    extent (keptPieces n ([] :: ps)) ≤ extent ([] :: ps) := by
  have hsub : (leftOver n ([] :: ps)).Sublist (ps.filter (· ≠ [])) := by
    rw [leftOver, List.filter_cons_of_neg (by simp)]
    exact List.drop_sublist _ _
  have hone : extent [[]] = 1 := rfl
  -- an empty piece at the end is made up for: no segment is left, or the path had one as well
  have hless : leftOver n ([] :: ps) = [] ∨ ps.getLast? = some [] →
      extent (leftOver n ([] :: ps)) + 1 ≤ extent ps := by
    rintro (hnil | hlast)
    · rw [hnil]
      exact extent_pos hps
    · obtain ⟨qs, rfl⟩ := List.getLast?_eq_some_iff.1 hlast
      rw [List.filter_append, List.filter_cons_of_neg (by simp), List.filter_nil,
        List.append_nil] at hsub
      have hqs := extent_le_of_sublist (hsub.trans List.filter_sublist)
      rw [extent_append, hone]
      omega
  have hlast : ([] :: ps).getLast? = ps.getLast? := List.getLast?_cons_of_ne_nil hps
  have hall := extent_le_of_sublist (hsub.trans List.filter_sublist)
  rw [keptPieces, extent_cons, extent_cons, extent_append, hlast]
  split
  · have := hless ‹_›
    omega
  · rw [show extent [] = 0 from rfl]
    omega

theorem ne_empty_of_rooted (hrooted : path.toList.head? = some '/') : path ≠ "" := by
  rintro rfl
  cases hrooted

theorem head?_strippedPath (n : Nat) (path : String) :
    (strippedPath n path).toList.head? = some '/' := by
  obtain ⟨tail, -, htail⟩ := toList_strippedPath n path
  rw [htail]
  rfl

theorem strippedTo_eq (hne : path ≠ "") (n : Nat) :
    strippedTo n path = strippedPath n (Request.pathWritten path) := by
  -- escaping goes piece by piece and empties none, so it may come first
  rw [← String.toList_inj, toList_strippedTo, toList_strippedPath_eq_joinBy,
    toList_strippedPath_eq_joinBy, escape_joinBy (by decide), ← map_keptPieces,
    Request.toList_pathWritten hne, splitAt_escape (by decide) (by decide)]
  exact fun p => escape_eq_nil_iff

theorem strippedPath_strippedPath (m n : Nat) (path : String) :
    strippedPath n (strippedPath m path) = strippedPath (m + n) path := by
  rw [← String.toList_inj, toList_strippedPath_eq_joinBy, splitAt_strippedPath,
    keptPieces_keptPieces, ← toList_strippedPath_eq_joinBy]

theorem strippedTo_ne_empty (n : Nat) (path : String) : strippedTo n path ≠ "" :=
  Request.pathWritten_ne_empty _

theorem strippedTo_pathWritten (hne : path ≠ "") (n : Nat) :
    strippedTo n (Request.pathWritten path) = strippedTo n path := by
  rw [strippedTo_eq (Request.pathWritten_ne_empty path), Request.pathWritten_pathWritten,
    strippedTo_eq hne]

theorem strippedTo_strippedTo (hne : path ≠ "") (m n : Nat) :
    strippedTo n (strippedTo m path) = strippedTo (m + n) path := by
  have hwritten : Request.pathWritten (strippedTo m path) = strippedTo m path :=
    Request.pathWritten_pathWritten _
  rw [strippedTo_eq (strippedTo_ne_empty m path), hwritten, strippedTo_eq hne,
    strippedPath_strippedPath, strippedTo_eq hne]

theorem length_strippedTo_le (hrooted : path.toList.head? = some '/') (n : Nat) :
    (strippedTo n path).length ≤ (Request.pathWritten path).length := by
  have hne := ne_empty_of_rooted hrooted
  obtain ⟨tail, htail⟩ := List.head?_eq_some_iff.1 (Request.head?_pathWritten (.inr hrooted))
  have hjoined := length_joinBy_le '/' (List.cons_ne_nil [] (splitAt '/' tail))
    (extent_keptPieces_le (splitAt_ne_nil '/' tail) n)
  have hpieces : splitAt '/' (Request.pathWritten path).toList = [] :: splitAt '/' tail := by
    rw [htail]
    rfl
  rwa [← hpieces, ← toList_strippedPath_eq_joinBy, joinBy_splitAt, String.length_toList,
    String.length_toList, ← strippedTo_eq hne] at hjoined

theorem length_strippedTo_pathWritten_le (hrooted : path.toList.head? = some '/') (n : Nat) :
    (strippedTo n (Request.pathWritten path)).length ≤ (Request.pathWritten path).length := by
  have hlength := length_strippedTo_le (Request.head?_pathWritten (.inr hrooted)) n
  rwa [Request.pathWritten_pathWritten] at hlength

/-- A path without the first segments of another one, in which each slash stands alone. The segments
that are left are those of the other path, but for characters that no new path holds. -/
structure StrippedOf (n : Nat) (path stripped : String) : Prop where
  rooted : stripped.toList.head? = some '/'
  single : ¬ ['/', '/'] <:+: stripped.toList
  segments : segments '/' stripped = ((segments '/' path).drop n).map Request.recoded
  closed : stripped ≠ "/" ∧ endsInSlash stripped ↔
    endsInSlash path ∧ n < (Text.segments '/' path).length

theorem splitAt_strippedTo (n : Nat) (path : String) : splitAt '/' (strippedTo n path).toList =
    keptPieces n ((splitAt '/' path.toList).map (escape Request.keptInPath)) := by
  rw [toList_strippedTo, splitAt_escape (by decide) (by decide), splitAt_strippedPath,
    map_keptPieces fun p => escape_eq_nil_iff]

theorem not_slashes_infix {cs : List Char} (h : splitAt '/' cs = keptPieces n ps) :
    ¬ ['/', '/'] <:+: cs := by
  rintro ⟨a, b, rfl⟩
  have hcut : splitAt '/' (a ++ ['/', '/'] ++ b) = splitAt '/' a ++ [] :: splitAt '/' b := by
    rw [List.append_assoc]
    exact splitAt_append a ('/' :: b)
  obtain ⟨p, qs, hqs⟩ := List.exists_cons_of_ne_nil (splitAt_ne_nil '/' a)
  have hb := splitAt_ne_nil '/' b
  rw [hcut, hqs, keptPieces, List.cons_append, List.cons.injEq] at h
  -- the empty piece at the end stands behind the last slash, so the one between the two slashes
  -- would be a segment
  have hmem : [] ∈ leftOver n ps := by
    obtain ⟨-, h⟩ := h
    split at h
    · have hlast := congrArg List.dropLast h
      rw [List.dropLast_concat, List.dropLast_append_of_ne_nil (List.cons_ne_nil _ _),
        List.dropLast_cons_of_ne_nil hb] at hlast
      rw [← hlast]
      exact List.mem_append_right qs List.mem_cons_self
    · rw [List.append_nil] at h
      rw [← h]
      exact List.mem_append_right qs List.mem_cons_self
  exact (mem_leftOver hmem).2 rfl

theorem recoded_ofList {p : List Char} (h : ∀ c ∈ p, Uri.pathSafe c) :
    Request.recoded (String.ofList p) = String.ofList (escape Request.keptInPath p) := by
  rw [← String.toList_inj, String.toList_ofList, Request.toList_recoded, String.toList_ofList]
  rwa [String.toList_ofList]

theorem segments_strippedTo_eq (hsafe : ∀ c ∈ path.toList, Uri.pathSafe c) (n : Nat) :
    segments '/' (strippedTo n path) = ((segments '/' path).drop n).map Request.recoded := by
  have hruns : runs '/' (strippedTo n path).toList =
      ((runs '/' path.toList).drop n).map (escape Request.keptInPath) := by
    rw [toList_strippedTo, runs_escape (by decide) (by decide), runs_strippedPath]
  rw [segments_eq, hruns, segments_eq, ← List.map_drop, List.map_map, List.map_map]
  refine List.map_congr_left fun p hp => ?_
  have hpart : p <:+: path.toList := infix_of_mem_splitAt (mem_runs (List.mem_of_mem_drop hp)).1
  rw [Function.comp_apply, Function.comp_apply, recoded_ofList]
  exact fun c hc => hsafe c (hpart.mem hc)

theorem endsInSlash_iff_getLast? (hne : path ≠ "") :
    endsInSlash path ↔ (splitAt '/' path.toList).getLast? = some [] := by
  rw [endsInSlash_iff, getLast?_splitAt_iff,
    or_iff_right fun hnil => hne (String.toList_eq_nil_iff.1 hnil)]

theorem strippedTo_of_none_left (h : ¬ n < (segments '/' path).length) :
    strippedTo n path = "/" := by
  have hnone : leftOver n (splitAt '/' path.toList) = [] := by
    rwa [lt_length_segments_iff, not_not] at h
  rw [← String.toList_inj, ← joinBy_splitAt '/' (strippedTo n path).toList, splitAt_strippedTo,
    keptPieces, leftOver_map fun p => escape_eq_nil_iff, hnone]
  simp [joinBy]

theorem strippedOf_strippedTo (h : Uri.SettledPath path) (hne : path ≠ "") (n : Nat) :
    StrippedOf n path (strippedTo n path) := by
  have hsettled : Uri.SettledPath (strippedTo n path) := settledPath_strippedTo h
  have hcut := splitAt_strippedTo n path
  have hsegments := segments_strippedTo_eq h.safe n
  refine ⟨hsettled.rooted.resolve_left fun hnil => strippedTo_ne_empty n path
    (String.toList_eq_nil_iff.1 hnil), not_slashes_infix hcut, hsegments, ?_⟩
  by_cases hmore : n < (segments '/' path).length
  · have hleft : leftOver n ((splitAt '/' path.toList).map (escape Request.keptInPath)) ≠ [] := by
      rw [leftOver_map fun p => escape_eq_nil_iff, ne_eq, List.map_eq_nil_iff]
      exact lt_length_segments_iff.1 hmore
    have hroot : strippedTo n path ≠ "/" := by
      intro hslash
      have hnone : segments '/' "/" = [] := by decide
      rw [hslash, hnone, eq_comm, List.map_eq_nil_iff, List.drop_eq_nil_iff] at hsegments
      omega
    rw [endsInSlash_iff_getLast? (strippedTo_ne_empty n path), hcut, getLast?_keptPieces hleft,
      getLast?_map_iff fun p => escape_eq_nil_iff, endsInSlash_iff_getLast? hne]
    exact ⟨fun hend => ⟨hend.2, hmore⟩, fun hend => ⟨hroot, hend.1⟩⟩
  · rw [strippedTo_of_none_left hmore]
    exact iff_of_false (fun hend => hend.1 rfl) fun hend => hmore hend.2

theorem splitAt_pathStart_append (text : String) {tail : List Char}
    (hpath : path.toList = '/' :: tail) : ∃ qs, qs.filter (· ≠ []) = runs '/' text.toList ∧
      splitAt '/' (pathStart text ++ path).toList = [] :: (qs ++ splitAt '/' tail) := by
  have hruns : runs '/' (trimBy (· = '/') text.toList) = runs '/' text.toList := runs_trimBy _
  simp only [pathStart]
  split
  · rename_i hnil
    refine ⟨[], ?_, ?_⟩
    · rw [← hruns, hnil]
      rfl
    · rw [String.empty_append, hpath]
      rfl
  · refine ⟨splitAt '/' (trimBy (· = '/') text.toList), hruns, ?_⟩
    rw [String.toList_append, String.toList_ofList, hpath, List.cons_append, splitAt, if_pos rfl,
      splitAt_append]

theorem head?_pathStart_append (text : String) (hrooted : path.toList.head? = some '/') :
    (pathStart text ++ path).toList.head? = some '/' := by
  simp only [pathStart]
  split
  · rwa [String.empty_append]
  · simp

theorem strippedTo_pathStart_append (text : String) (hrooted : path.toList.head? = some '/') :
    strippedTo (segments '/' text).length (pathStart text ++ path) = strippedTo 0 path := by
  obtain ⟨tail, htail⟩ := List.head?_eq_some_iff.1 hrooted
  obtain ⟨qs, hqs, hpieces⟩ := splitAt_pathStart_append text htail
  have hcut : splitAt '/' path.toList = [] :: splitAt '/' tail := by
    rw [htail]
    rfl
  have hcount : (segments '/' text).length = (qs.filter (· ≠ [])).length := by
    rw [segments_eq, List.length_map, hqs]
  rw [strippedTo, strippedTo]
  congr 1
  rw [← String.toList_inj, toList_strippedPath_eq_joinBy, toList_strippedPath_eq_joinBy, hpieces,
    hcut, hcount, keptPieces_append qs (splitAt_ne_nil '/' tail)]

theorem dotless_pathStart_append {text : String} (h : Uri.SettledPath path)
    (hrooted : path.toList.head? = some '/')
    (hdots : ∀ p ∈ segments '/' text, p ≠ "." ∧ p ≠ "..") :
    ∀ d ∈ Uri.dots, d ∉ splitAt '/' (pathStart text ++ path).toList := by
  obtain ⟨tail, htail⟩ := List.head?_eq_some_iff.1 hrooted
  obtain ⟨qs, hqs, hpieces⟩ := splitAt_pathStart_append text htail
  intro d hd hmem
  have hne : d ≠ [] := by
    rintro rfl
    exact absurd hd (by decide)
  rw [hpieces, List.mem_cons, List.mem_append] at hmem
  rcases hmem with hmem | hmem | hmem
  · exact hne hmem
  · have hrun : d ∈ runs '/' text.toList := by
      rw [← hqs, List.mem_filter]
      exact ⟨hmem, decide_eq_true hne⟩
    have hsegment : String.ofList d ∈ segments '/' text := by
      rw [segments_eq]
      exact List.mem_map_of_mem hrun
    obtain ⟨hone, htwo⟩ := hdots _ hsegment
    simp only [Uri.dots, List.mem_cons, List.not_mem_nil, or_false] at hd
    rcases hd with rfl | rfl
    · exact hone rfl
    · exact htwo rfl
  · refine h.dotless d hd ?_
    rw [htail, splitAt, if_pos rfl]
    exact List.mem_cons_of_mem [] hmem

theorem passesOn_of_newPath {e : RequestEdit} {r r' : Request}
    (he : e.newPath? r = some (.ok path)) (hr : r.withRawPath path = .ok r') :
    Filter.PassesOn e.stage.filter r r' := by
  intro next s x
  have hfilter : e.stage.filter next r = e.apply r >>= next :=
    congrFun (Builtin.Step.filter_request e next) r
  have hedited := outcome_apply_of_newPath he s x
  rw [Outcome.ok_bind, hr] at hedited
  rw [hfilter]
  exact Serve.outcome_bind_ok hedited

end RequestEdit

namespace Builtin

open RequestEdit

variable {r : Request} {path : String}

theorem passesOn_stripPath {n : Nat} {r' : Request}
    (h : r.withRawPath (strippedPath n r.rawPath) = .ok r') :
    Filter.PassesOn (stripPath n).stage.filter r r' :=
  passesOn_of_newPath rfl h

theorem withRawPath_strippedPath (hr : r.uri.Settled) {n : Nat}
    (hfit : Uri.Fit (r.uri.limited (strippedTo n r.rawPath) r.uri.query)) :
    r.withRawPath (strippedPath n r.rawPath) = .ok (r.repathed (strippedPath n r.rawPath)) :=
  Request.withRawPath_of_fit hr (.inr (head?_strippedPath n r.rawPath)) hfit

theorem withRawPath_strippedPath_repathed (hr : r.uri.Settled)
    (hrooted : path.toList.head? = some '/') (hsettled : Uri.SettledPath (Request.pathWritten path))
    (hfit : Uri.Fit (r.uri.limited (Request.pathWritten path) r.uri.query)) (n : Nat) :
    (r.repathed path).withRawPath (strippedPath n (r.repathed path).rawPath) =
      .ok (r.repathed (strippedPath n (Request.pathWritten path))) := by
  have hraw := r.rawPath_repathed_of_settled hsettled
  have hfit' : Uri.Fit ((r.repathed path).uri.limited (strippedTo n (r.repathed path).rawPath)
      (r.repathed path).uri.query) := by
    rw [hraw]
    exact Request.fit_repathed hr hfit path (length_strippedTo_pathWritten_le hrooted n)
  have hstrip := withRawPath_strippedPath (Request.settled_repathed hr (.inr hrooted)) hfit'
  rw [hstrip, Request.repathed_repathed hr, hraw]

theorem strippedOf_repathed (hr : r.uri.Settled) (n : Nat) :
    StrippedOf n r.rawPath (r.repathed (strippedPath n r.rawPath)).rawPath := by
  have hraw : Uri.SettledPath r.rawPath := Uri.settledPath_rawPath hr.path
  have hrooted : r.rawPath.toList.head? = some '/' := Uri.head?_rawPath hr.path
  rw [Request.rawPath_repathed_of_settled r (settledPath_strippedTo hraw)]
  exact strippedOf_strippedTo hraw (ne_empty_of_rooted hrooted) n

/-- Stripping segments twice is stripping as many of them at once. -/
theorem strip_adds_up (hobtained : r.uri.Obtained) (habsolute : r.uri.isAbsolute) {m : Nat}
    (hfit : Uri.Fit (r.uri.limited (strippedTo m r.rawPath) r.uri.query)) (n : Nat) :
    ∃ first second both r', strip m = .ok first ∧ strip n = .ok second ∧
      strip (m + n : Nat) = .ok both ∧
      Filter.PassesOn (Filter.chain [first.filter, second.filter]) r r' ∧
      Filter.PassesOn both.filter r r' ∧
      StrippedOf (m + n) r.rawPath r'.rawPath ∧ r'.uri.queryText = r.uri.queryText := by
  have hr : r.uri.Settled := hobtained.settled habsolute
  have hraw : Uri.SettledPath r.rawPath := Uri.settledPath_rawPath hr.path
  have hrooted : r.rawPath.toList.head? = some '/' := Uri.head?_rawPath hr.path
  have hne := ne_empty_of_rooted hrooted
  have hsettled : Uri.SettledPath (Request.pathWritten (strippedPath m r.rawPath)) :=
    settledPath_strippedTo hraw
  have hagain : strippedTo n (strippedTo m r.rawPath) = strippedTo (m + n) r.rawPath :=
    strippedTo_strippedTo hne m n
  have hfirst := withRawPath_strippedPath hr hfit
  have hsecond := withRawPath_strippedPath_repathed hr (head?_strippedPath m r.rawPath)
    hsettled hfit n
  -- what both leave is no longer than what the first one leaves, so the limits hold for it too
  have hboth : r.withRawPath (strippedPath (m + n) r.rawPath) =
      .ok (r.repathed (strippedPath (m + n) r.rawPath)) := by
    refine withRawPath_strippedPath hr (hfit.of_length_le ?_)
    rw [← hagain]
    exact length_strippedTo_pathWritten_le (head?_strippedPath m r.rawPath) n
  have hsame : r.repathed (strippedPath n (Request.pathWritten (strippedPath m r.rawPath))) =
      r.repathed (strippedPath (m + n) r.rawPath) := Request.repathed_congr hagain
  rw [hsame] at hsecond
  exact ⟨_, _, _, r.repathed (strippedPath (m + n) r.rawPath), strip_eq m, strip_eq n,
    strip_eq (m + n), (passesOn_stripPath hfirst).chain_pair (passesOn_stripPath hsecond),
    passesOn_stripPath hboth, strippedOf_repathed hr (m + n), Request.queryText_repathed hr _⟩

/-- Segments that are put in front of a path are stripped again. What is left is what stripping
nothing leaves. -/
theorem strip_takes_back_start (hobtained : r.uri.Obtained) (habsolute : r.uri.isAbsolute)
    {text : String} (hdots : ∀ p ∈ segments '/' text, p ≠ "." ∧ p ≠ "..")
    (hfit : Uri.Fit (r.uri.limited (Request.pathWritten (pathStart text ++ r.rawPath))
      r.uri.query)) :
    ∃ back none r', strip (segments '/' text).length = .ok back ∧ strip 0 = .ok none ∧
      Filter.PassesOn (Filter.chain [(extendPath (pathStart text)).stage.filter, back.filter])
        r r' ∧
      Filter.PassesOn none.filter r r' ∧
      StrippedOf 0 r.rawPath r'.rawPath ∧ r'.uri.queryText = r.uri.queryText := by
  have hr : r.uri.Settled := hobtained.settled habsolute
  have hraw : Uri.SettledPath r.rawPath := Uri.settledPath_rawPath hr.path
  have hrooted : r.rawPath.toList.head? = some '/' := Uri.head?_rawPath hr.path
  have hextended : (pathStart text ++ r.rawPath).toList.head? = some '/' :=
    head?_pathStart_append text hrooted
  have hsettled : Uri.SettledPath (Request.pathWritten (pathStart text ++ r.rawPath)) :=
    Request.settledPath_pathWritten hextended (dotless_pathStart_append hraw hrooted hdots)
  have hfirst := Request.withRawPath_of_fit hr (.inr hextended) hfit
  have hback := withRawPath_strippedPath_repathed hr hextended hsettled hfit
    (segments '/' text).length
  have hleft : strippedTo (segments '/' text).length
      (Request.pathWritten (pathStart text ++ r.rawPath)) = strippedTo 0 r.rawPath := by
    rw [strippedTo_pathWritten (ne_empty_of_rooted hextended),
      strippedTo_pathStart_append text hrooted]
  have hnone : r.withRawPath (strippedPath 0 r.rawPath) =
      .ok (r.repathed (strippedPath 0 r.rawPath)) := by
    refine withRawPath_strippedPath hr (hfit.of_length_le ?_)
    rw [← strippedTo_pathStart_append text hrooted]
    exact length_strippedTo_le hextended _
  have hsame : r.repathed (strippedPath (segments '/' text).length
      (Request.pathWritten (pathStart text ++ r.rawPath))) =
        r.repathed (strippedPath 0 r.rawPath) := Request.repathed_congr hleft
  rw [hsame] at hback
  exact ⟨_, _, r.repathed (strippedPath 0 r.rawPath), strip_eq (segments '/' text).length,
    strip_eq 0, (passesOn_of_newPath rfl hfirst).chain_pair (passesOn_stripPath hback),
    passesOn_stripPath hnone, strippedOf_repathed hr 0, Request.queryText_repathed hr _⟩

end Builtin

namespace Sample

def listedVisit : Request :=
  ⟨"GET", ⟨"http", "", "gateway.local", none, "/x/a//b[1]/%2F/", some "q=1", none⟩, .empty, ""⟩

theorem strip_adds_up_twice : ∃ first both r',
    Builtin.strip 1 = .ok first ∧ Builtin.strip 2 = .ok both ∧
      Filter.PassesOn (Filter.chain [first.filter, first.filter]) listedVisit r' ∧
      Filter.PassesOn both.filter listedVisit r' ∧
      segments '/' r'.rawPath = ["b%5B1%5D", "%2F"] ∧ r'.uri.queryText = "q=1" := by
  have hparse : Uri.parse "http://gateway.local/x/a//b[1]/%2F/?q=1" = .ok listedVisit.uri := by rfl
  have hfit : Uri.Fit (listedVisit.uri.limited (RequestEdit.strippedTo 1 listedVisit.rawPath)
      listedVisit.uri.query) := by
    decide +kernel
  obtain ⟨first, second, both, r', hfirst, hsecond, hboth, htwice, honce, hleft, hquery⟩ :=
    Builtin.strip_adds_up (.read hparse) (by decide) hfit 1
  obtain rfl : first = second := Except.ok.inj (hfirst.symm.trans hsecond)
  have hsegments : ((segments '/' listedVisit.rawPath).drop 2).map Request.recoded =
      ["b%5B1%5D", "%2F"] := by
    decide +kernel
  exact ⟨first, both, r', hfirst, hboth, htwice, honce, hleft.segments.trans hsegments, hquery⟩

theorem strip_takes_back_start_marked : ∃ back none r',
    Builtin.strip 2 = .ok back ∧ Builtin.strip 0 = .ok none ∧
      Filter.PassesOn (Filter.chain [(RequestEdit.extendPath "/v 1//é?").stage.filter, back.filter])
        listedVisit r' ∧
      Filter.PassesOn none.filter listedVisit r' ∧
      segments '/' r'.rawPath = ["x", "a", "b%5B1%5D", "%2F"] ∧ r'.uri.queryText = "q=1" := by
  have hparse : Uri.parse "http://gateway.local/x/a//b[1]/%2F/?q=1" = .ok listedVisit.uri := by rfl
  have hdots : ∀ p ∈ segments '/' "//v 1//é?/", p ≠ "." ∧ p ≠ ".." := by decide +kernel
  have hfit : Uri.Fit (listedVisit.uri.limited (Request.pathWritten
      (RequestEdit.pathStart "//v 1//é?/" ++ listedVisit.rawPath)) listedVisit.uri.query) := by
    decide +kernel
  obtain ⟨back, none, r', hback, hnone, hextended, hplain, hleft, hquery⟩ :=
    Builtin.strip_takes_back_start (.read hparse) (by decide) hdots hfit
  have hcount : (segments '/' "//v 1//é?/").length = 2 := by decide +kernel
  have hstart : RequestEdit.pathStart "//v 1//é?/" = "/v 1//é?" := by decide +kernel
  have hsegments : ((segments '/' listedVisit.rawPath).drop 0).map Request.recoded =
      ["x", "a", "b%5B1%5D", "%2F"] := by
    decide +kernel
  rw [hcount] at hback
  rw [hstart] at hextended
  exact ⟨back, none, r', hback, hnone, hextended, hplain, hleft.segments.trans hsegments, hquery⟩

end Sample

end HttpGateway
