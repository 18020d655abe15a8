import HttpGateway.Proofs.Text.Percent
import HttpGateway.Uri.Parts

namespace HttpGateway.Uri

open HttpGateway.Text

def dots : List (List Char) := [['.'], ['.', '.']]

structure SettledPath (path : String) : Prop where
  safe : ∀ c ∈ path.toList, pathSafe c
  rooted : path.toList = [] ∨ path.toList.head? = some '/'
  dotless : ∀ d ∈ dots, d ∉ splitAt '/' path.toList

theorem flatten_of_dotless {path : String} (h : ∀ d ∈ dots, d ∉ splitAt '/' path.toList) :
    flatten path = path := by
  have hone : ['.'] ∉ splitAt '/' path.toList := h _ (by decide)
  have htwo : ['.', '.'] ∉ splitAt '/' path.toList := h _ (by decide)
  rw [flatten, if_neg (not_or.2 ⟨hone, htwo⟩)]

theorem SettledPath.flatten {path : String} (h : SettledPath path) : flatten path = path :=
  flatten_of_dotless h.dotless

theorem escaped_of_safe {safe : Char → Bool} {s : String} (h : ∀ c ∈ s.toList, safe c) :
    escaped safe s = s := by
  rw [escaped, escape_of_safe h, String.ofList_toList]

theorem SettledPath.escaped {path : String} (h : SettledPath path) :
    escaped pathSafe path = path :=
  escaped_of_safe h.safe

def keepSegment (kept : List (List Char)) (s : List Char) : List (List Char) :=
  if s = ['.'] then kept
  else if s = ['.', '.'] then if kept = [[]] then kept else kept.dropLast
  else kept ++ [s]

structure KeptSegments (ss kept : List (List Char)) : Prop where
  rooted : kept.head? = some []
  dotless : ∀ d ∈ dots, d ∉ kept
  taken : ∀ s ∈ kept, s ∈ ss

theorem KeptSegments.keep {ss kept : List (List Char)} (h : KeptSegments ss kept) {s : List Char}
    (hs : s ∈ ss) : KeptSegments ss (keepSegment kept s) := by
  rw [keepSegment]
  split
  · exact h
  · rename_i hone
    split
    · split
      · exact h
      · rename_i htwo hroot
        obtain ⟨ks, rfl⟩ := List.head?_eq_some_iff.1 h.rooted
        have hks : ks ≠ [] := fun hks => hroot (congrArg ([] :: ·) hks)
        refine ⟨?_, fun d hd hmem => ?_, fun k hk => ?_⟩
        · rw [List.dropLast_cons_of_ne_nil hks]
          rfl
        · exact h.dotless d hd (List.dropLast_subset _ hmem)
        · exact h.taken k (List.dropLast_subset _ hk)
    · rename_i htwo
      have hdot : s ∉ dots := by simpa [dots] using ⟨hone, htwo⟩
      refine ⟨?_, fun d hd hmem => ?_, fun k hk => ?_⟩
      · rw [List.head?_append, h.rooted]
        rfl
      · rcases List.mem_append.1 hmem with hmem | hmem
        · exact h.dotless d hd hmem
        · rw [List.mem_singleton.1 hmem] at hd
          exact hdot hd
      · rcases List.mem_append.1 hk with hk | hk
        · exact h.taken k hk
        · rwa [List.mem_singleton.1 hk]

theorem KeptSegments.foldl {ss kept : List (List Char)} (h : KeptSegments ss kept)
    {rest : List (List Char)} (hrest : ∀ s ∈ rest, s ∈ ss) :
    KeptSegments ss (rest.foldl keepSegment kept) := by
  induction rest generalizing kept with
  | nil => exact h
  | cons s rest ih =>
    obtain ⟨hs, hrest⟩ := List.forall_mem_cons.1 hrest
    exact ih (h.keep hs) hrest

theorem keptSegments_dropDots {ss : List (List Char)} (h : ss.head? = some []) :
    KeptSegments ss (dropDots ss) := by
  obtain ⟨rest, rfl⟩ := List.head?_eq_some_iff.1 h
  have hroot : KeptSegments ([] :: rest) [[]] := by
    refine ⟨rfl, by decide, fun s hs => ?_⟩
    rw [List.mem_singleton.1 hs]
    exact List.mem_cons_self
  exact hroot.foldl fun s hs => List.mem_cons_of_mem [] hs

theorem mem_dots_of_escape {safe : Char → Bool} {p : List Char} (h : escape safe p ∈ dots) :
    p ∈ dots := by
  have hdots : ∀ d ∈ dots, '%' ∉ d := by decide
  rwa [eq_of_escape_no_percent (hdots _ h)] at h

theorem head?_splitAt_iff {cs : List Char} :
    (splitAt '/' cs).head? = some [] ↔ cs = [] ∨ cs.head? = some '/' := by
  cases cs with
  | nil => simp [splitAt]
  | cons c cs =>
    obtain ⟨p, ps, hp⟩ := List.exists_cons_of_ne_nil (splitAt_ne_nil '/' cs)
    rw [splitAt, hp]
    split <;> simp_all

theorem settledPath_normal {path : String}
    (h : path.toList = [] ∨ path.toList.head? = some '/') :
    SettledPath (Uri.escaped pathSafe (Uri.flatten path)) := by
  have hsigns : escapeSigns.all pathSafe := by decide
  have hflat : (splitAt '/' (Uri.flatten path).toList).head? = some [] ∧
      ∀ d ∈ dots, d ∉ splitAt '/' (Uri.flatten path).toList := by
    have hkept := keptSegments_dropDots (head?_splitAt_iff.2 h)
    rw [Uri.flatten]
    split
    · have hne : dropDots (splitAt '/' path.toList) ≠ [] := by
        intro hnil
        have hroot := hkept.rooted
        rw [hnil] at hroot
        cases hroot
      rw [String.toList_ofList, splitAt_joinBy hne fun s hs =>
        notMem_of_mem_splitAt (hkept.taken s hs)]
      exact ⟨hkept.rooted, hkept.dotless⟩
    · rename_i hnone
      refine ⟨head?_splitAt_iff.2 h, fun d hd hmem => hnone ?_⟩
      simp only [dots, List.mem_cons, List.not_mem_nil, or_false] at hd
      rcases hd with rfl | rfl
      · exact .inl hmem
      · exact .inr hmem
  have hpieces : splitAt '/' (Uri.escaped pathSafe (Uri.flatten path)).toList =
      (splitAt '/' (Uri.flatten path).toList).map (escape pathSafe) := by
    rw [Uri.escaped, String.toList_ofList, splitAt_escape (by decide) (by decide)]
  refine ⟨fun c hc => ?_, head?_splitAt_iff.1 ?_, fun d hd hmem => ?_⟩
  · rw [Uri.escaped, String.toList_ofList] at hc
    exact safe_of_mem_escape hsigns hc
  · rw [hpieces, List.head?_map, hflat.1]
    rfl
  · rw [hpieces, List.mem_map] at hmem
    obtain ⟨s, hs, rfl⟩ := hmem
    exact hflat.2 s (mem_dots_of_escape hd) hs

theorem settledPath_rawPath {u : Uri} (h : SettledPath u.path) : SettledPath u.rawPath := by
  rw [rawPath]
  split
  · exact ⟨List.all_eq_true.1 (by decide), by decide, by decide⟩
  · exact h

theorem head?_rawPath {u : Uri} (h : SettledPath u.path) :
    u.rawPath.toList.head? = some '/' := by
  rw [rawPath]
  split
  · rfl
  · exact h.rooted.resolve_left fun hnil => ‹¬ _› (String.toList_eq_nil_iff.1 hnil)

end HttpGateway.Uri
