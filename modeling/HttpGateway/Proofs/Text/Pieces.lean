import HttpGateway.Text.Pieces

namespace HttpGateway.Text

variable {sep : Char}

theorem cut_append {a : List Char} (h : sep ∉ a) (b : List Char) :
    cut sep (a ++ sep :: b) = (a, some b) := by
  induction a with
  | nil => simp [cut]
  | cons c a ih =>
    have hc : c ≠ sep := fun he => h (he ▸ List.mem_cons_self)
    rw [List.cons_append, cut, if_neg hc, ih fun ha => h (List.mem_cons_of_mem c ha)]

theorem cut_of_notMem {cs : List Char} (h : sep ∉ cs) : cut sep cs = (cs, none) := by
  induction cs with
  | nil => rfl
  | cons c cs ih =>
    have hc : c ≠ sep := fun he => h (he ▸ List.mem_cons_self)
    rw [cut, if_neg hc, ih fun hcs => h (List.mem_cons_of_mem c hcs)]

theorem notMem_cut (sep : Char) (cs : List Char) : sep ∉ (cut sep cs).1 := by
  induction cs with
  | nil => exact List.not_mem_nil
  | cons c cs ih =>
    by_cases hc : c = sep
    · simp [cut, hc]
    · simp only [cut, if_neg hc, List.mem_cons, not_or]
      exact ⟨Ne.symm hc, ih⟩

theorem prefix_cut (sep : Char) (cs : List Char) : (cut sep cs).1 <+: cs := by
  induction cs with
  | nil => exact List.prefix_refl []
  | cons c cs ih =>
    rw [cut]
    split
    · exact List.nil_prefix
    · exact List.cons_prefix_cons.2 ⟨rfl, ih⟩

theorem eq_of_cut {cs a b : List Char} (h : cut sep cs = (a, some b)) : cs = a ++ sep :: b := by
  induction cs generalizing a with
  | nil => cases h
  | cons c cs ih =>
    rw [cut] at h
    split at h
    · rename_i hc
      cases h
      rw [hc]
      rfl
    · obtain ⟨rfl, hb⟩ := Prod.mk.inj h
      exact congrArg (c :: ·) (ih (Prod.ext rfl hb))

theorem cutLast_append (a : List Char) {b : List Char} (h : sep ∉ b) :
    cutLast sep (a ++ sep :: b) = (some a, b) := by
  have hcs : (a ++ sep :: b).reverse = b.reverse ++ sep :: a.reverse := by simp
  rw [cutLast, hcs, cut_append (by rwa [List.mem_reverse])]
  simp

theorem cutLast_of_notMem {cs : List Char} (h : sep ∉ cs) : cutLast sep cs = (none, cs) := by
  rw [cutLast, cut_of_notMem (by rwa [List.mem_reverse])]
  simp

theorem eq_of_cutLast {cs a b : List Char} (h : cutLast sep cs = (some a, b)) :
    cs = a ++ sep :: b := by
  rw [cutLast] at h
  rcases hc : cut sep cs.reverse with ⟨tail, _ | head⟩
  · rw [hc] at h
    cases h
  · rw [hc] at h
    cases h
    have hcs := congrArg List.reverse (eq_of_cut hc)
    simpa using hcs

theorem notMem_cutLast (sep : Char) (cs : List Char) : sep ∉ (cutLast sep cs).2 := by
  rw [cutLast, List.mem_reverse]
  exact notMem_cut sep cs.reverse

@[simp]
theorem splitAt_append (a b : List Char) :
    splitAt sep (a ++ sep :: b) = splitAt sep a ++ splitAt sep b := by
  induction a with
  | nil => simp [splitAt]
  | cons c a ih =>
    rw [List.cons_append, splitAt, splitAt, ih]
    by_cases hc : c = sep
    · simp [hc]
    · obtain ⟨p, ps, ha⟩ := List.exists_cons_of_ne_nil (splitAt_ne_nil sep a)
      simp [hc, ha]

theorem splitAt_of_notMem {cs : List Char} (h : sep ∉ cs) : splitAt sep cs = [cs] := by
  induction cs with
  | nil => rfl
  | cons c cs ih =>
    have hc : c ≠ sep := fun he => h (he ▸ List.mem_cons_self)
    rw [splitAt, if_neg hc, ih fun hcs => h (List.mem_cons_of_mem c hcs)]

theorem splitAt_append_of_notMem {a : List Char} (h : sep ∉ a) (b : List Char) :
    ∃ p ps, splitAt sep (a ++ b) = (a ++ p) :: ps := by
  induction a with
  | nil =>
    obtain ⟨p, ps, hb⟩ := List.exists_cons_of_ne_nil (splitAt_ne_nil sep b)
    exact ⟨p, ps, hb⟩
  | cons c a ih =>
    have hc : c ≠ sep := fun he => h (he ▸ List.mem_cons_self)
    obtain ⟨p, ps, ha⟩ := ih fun ha => h (List.mem_cons_of_mem c ha)
    exact ⟨p, ps, by simp [splitAt, hc, ha]⟩

theorem prefix_joinBy (p : List Char) (ps : List (List Char)) : p <+: joinBy sep (p :: ps) := by
  cases ps with
  | nil => exact List.prefix_refl p
  | cons q ps => exact List.prefix_append p _

theorem splitAt_joinBy {ps : List (List Char)} (hne : ps ≠ []) (h : ∀ p ∈ ps, sep ∉ p) :
    splitAt sep (joinBy sep ps) = ps := by
  induction ps with
  | nil => exact absurd rfl hne
  | cons p ps ih =>
    obtain ⟨hp, hps⟩ := List.forall_mem_cons.1 h
    cases ps with
    | nil => exact splitAt_of_notMem hp
    | cons q ps =>
      rw [joinBy, splitAt_append, splitAt_of_notMem hp, ih (List.cons_ne_nil q ps) hps]
      rfl

theorem notMem_of_mem_splitAt {cs p : List Char} (h : p ∈ splitAt sep cs) : sep ∉ p := by
  induction cs generalizing p with
  | nil =>
    cases List.mem_singleton.1 h
    exact List.not_mem_nil
  | cons c cs ih =>
    rw [splitAt] at h
    split at h
    · rcases List.mem_cons.1 h with rfl | h
      · exact List.not_mem_nil
      · exact ih h
    · rename_i hc
      obtain ⟨q, qs, hcs⟩ := List.exists_cons_of_ne_nil (splitAt_ne_nil sep cs)
      rw [hcs] at h ih
      rcases List.mem_cons.1 h with rfl | h
      · simpa [Ne.symm hc] using ih List.mem_cons_self
      · exact ih (List.mem_cons_of_mem q h)

theorem infix_joinBy {ps : List (List Char)} {p : List Char} (h : p ∈ ps) :
    p <:+: joinBy sep ps := by
  induction ps with
  | nil => cases h
  | cons q ps ih =>
    cases ps with
    | nil =>
      rw [List.mem_singleton.1 h]
      exact List.infix_refl q
    | cons r ps =>
      rw [joinBy]
      rcases List.mem_cons.1 h with rfl | h
      · exact (List.prefix_append p _).isInfix
      · exact (ih h).trans ((List.suffix_cons sep _).trans (List.suffix_append q _)).isInfix

theorem mem_joinBy {c : Char} {ps : List (List Char)} (h : c ∈ joinBy sep ps) :
    c = sep ∨ ∃ p ∈ ps, c ∈ p := by
  induction ps with
  | nil => cases h
  | cons p ps ih =>
    cases ps with
    | nil => exact .inr ⟨p, List.mem_singleton_self p, h⟩
    | cons q ps =>
      rw [joinBy, List.mem_append, List.mem_cons] at h
      rcases h with h | h | h
      · exact .inr ⟨p, List.mem_cons_self, h⟩
      · exact .inl h
      · rcases ih h with hsep | ⟨p', hp', hc⟩
        · exact .inl hsep
        · exact .inr ⟨p', List.mem_cons_of_mem p hp', hc⟩

theorem infix_of_mem_splitAt {cs p : List Char} (h : p ∈ splitAt sep cs) : p <:+: cs := by
  have hp : p <:+: joinBy sep (splitAt sep cs) := infix_joinBy h
  rwa [joinBy_splitAt] at hp

theorem mem_of_splitAt {cs : List Char} {c : Char} (h : c ∈ cs) :
    c = sep ∨ ∃ p ∈ splitAt sep cs, c ∈ p := by
  induction cs with
  | nil => cases h
  | cons d cs ih =>
    obtain ⟨q, qs, hcs⟩ := List.exists_cons_of_ne_nil (splitAt_ne_nil sep cs)
    rw [splitAt]
    rw [hcs] at ih ⊢
    split
    · rcases List.mem_cons.1 h with rfl | h
      · exact .inl ‹_›
      · rcases ih h with hsep | ⟨p, hp, hc⟩
        · exact .inl hsep
        · exact .inr ⟨p, List.mem_cons_of_mem [] hp, hc⟩
    · rcases List.mem_cons.1 h with rfl | h
      · exact .inr ⟨c :: q, List.mem_cons_self, List.mem_cons_self⟩
      · rcases ih h with hsep | ⟨p, hp, hc⟩
        · exact .inl hsep
        · rcases List.mem_cons.1 hp with rfl | hp
          · exact .inr ⟨d :: p, List.mem_cons_self, List.mem_cons_of_mem d hc⟩
          · exact .inr ⟨p, List.mem_cons_of_mem _ hp, hc⟩

theorem toList_intercalate_eq_joinBy (c : Char) (ss : List String) :
    ((String.singleton c).intercalate ss).toList = joinBy c (ss.map String.toList) := by
  rw [String.toList_intercalate, String.toList_singleton]
  generalize ss.map String.toList = ps
  induction ps with
  | nil => rfl
  | cons p ps ih =>
    cases ps with
    | nil => simp [joinBy, List.intercalate]
    | cons q ps =>
      rw [joinBy, ← ih]
      simp [List.intercalate]

def runs (sep : Char) (cs : List Char) : List (List Char) := (splitAt sep cs).filter (· ≠ [])

theorem segments_eq (sep : Char) (s : String) :
    segments sep s = (runs sep s.toList).map String.ofList := by
  rw [segments, pieces, runs, List.filter_map]
  congr 1
  refine List.filter_congr fun p _ => ?_
  simp

@[simp]
theorem runs_append (a b : List Char) : runs sep (a ++ sep :: b) = runs sep a ++ runs sep b := by
  rw [runs, splitAt_append, List.filter_append]
  rfl

@[simp]
theorem runs_cons (b : List Char) : runs sep (sep :: b) = runs sep b := runs_append [] b

theorem mem_runs {cs p : List Char} (h : p ∈ runs sep cs) :
    p ∈ splitAt sep cs ∧ p ≠ [] ∧ sep ∉ p := by
  rw [runs, List.mem_filter, decide_eq_true_eq] at h
  exact ⟨h.1, h.2, notMem_of_mem_splitAt h.1⟩

theorem runs_joinBy {ps : List (List Char)} (h : ∀ p ∈ ps, p ≠ [] ∧ sep ∉ p) :
    runs sep (joinBy sep ps) = ps := by
  cases ps with
  | nil => simp [joinBy, runs, splitAt]
  | cons p ps =>
    rw [runs, splitAt_joinBy (List.cons_ne_nil p ps) fun q hq => (h q hq).2]
    exact List.filter_eq_self.2 fun q hq => by simpa using (h q hq).1

theorem joinBy_nil_cons (sep : Char) {ps : List (List Char)} (hne : ps ≠ []) :
    joinBy sep ([] :: ps) = sep :: joinBy sep ps := by
  cases ps with
  | nil => exact absurd rfl hne
  | cons p ps => rfl

theorem joinBy_concat_nil (sep : Char) {ps : List (List Char)} (hne : ps ≠ []) :
    joinBy sep (ps ++ [[]]) = joinBy sep ps ++ [sep] := by
  induction ps with
  | nil => exact absurd rfl hne
  | cons p ps ih =>
    cases ps with
    | nil => rfl
    | cons q ps =>
      simp only [List.cons_append, joinBy] at ih ⊢
      rw [ih (List.cons_ne_nil q ps), List.append_assoc]
      rfl

theorem getLast?_splitAt_iff {cs : List Char} :
    (splitAt sep cs).getLast? = some [] ↔ cs = [] ∨ cs.getLast? = some sep := by
  rcases List.eq_nil_or_concat cs with rfl | ⟨ds, c, rfl⟩
  · simp [splitAt]
  · by_cases hc : c = sep
    · rw [hc, List.concat_eq_append, splitAt_append]
      simp [splitAt]
    · simp only [List.concat_eq_append, List.append_eq_nil_iff, List.cons_ne_nil, and_false,
        false_or, List.getLast?_concat, Option.some.injEq, hc, iff_false]
      intro hlast
      obtain ⟨ps, hps⟩ := List.getLast?_eq_some_iff.1 hlast
      have hjoin := joinBy_splitAt sep (ds ++ [c])
      rw [hps] at hjoin
      cases ps with
      | nil => simp [joinBy] at hjoin
      | cons p ps =>
        rw [joinBy_concat_nil sep (List.cons_ne_nil p ps)] at hjoin
        exact hc (List.append_inj_right' hjoin.symm rfl |> List.singleton_inj.1)

theorem runs_dropWhile (cs : List Char) : runs sep (cs.dropWhile (· = sep)) = runs sep cs := by
  induction cs with
  | nil => rfl
  | cons c cs ih =>
    by_cases hc : c = sep
    · rw [List.dropWhile_cons_of_pos (by simpa using hc), ih, hc, runs_cons]
    · rw [List.dropWhile_cons_of_neg (by simpa using hc)]

theorem runs_concat (cs : List Char) : runs sep (cs ++ [sep]) = runs sep cs := by
  rw [runs_append]
  simp [runs, splitAt]

theorem runs_trimBy (cs : List Char) : runs sep (trimBy (· = sep) cs) = runs sep cs := by
  have hend : ∀ ds : List Char,
      runs sep (ds.dropWhile (· = sep)).reverse = runs sep ds.reverse := by
    intro ds
    induction ds with
    | nil => rfl
    | cons c ds ih =>
      by_cases hc : c = sep
      · rw [List.dropWhile_cons_of_pos (by simpa using hc), ih, hc, List.reverse_cons, runs_concat]
      · rw [List.dropWhile_cons_of_neg (by simpa using hc)]
  rw [trimBy, hend, List.reverse_reverse, runs_dropWhile]

def extent : List (List Char) → Nat
  | [] => 0
  | p :: ps => p.length + 1 + extent ps

@[simp]
theorem extent_cons (p : List Char) (ps : List (List Char)) :
    extent (p :: ps) = p.length + 1 + extent ps := rfl

@[simp]
theorem extent_append (ps qs : List (List Char)) : extent (ps ++ qs) = extent ps + extent qs := by
  induction ps with
  | nil => exact (Nat.zero_add _).symm
  | cons p ps ih =>
    rw [List.cons_append, extent_cons, extent_cons, ih]
    omega

theorem extent_pos {ps : List (List Char)} (hne : ps ≠ []) : 0 < extent ps := by
  cases ps with
  | nil => exact absurd rfl hne
  | cons p ps =>
    rw [extent_cons]
    omega

theorem extent_le_of_sublist {ps qs : List (List Char)} (h : ps.Sublist qs) :
    extent ps ≤ extent qs := by
  induction h with
  | slnil => exact Nat.le_refl _
  | cons p _ ih =>
    rw [extent_cons]
    omega
  | cons_cons p _ ih =>
    rw [extent_cons, extent_cons]
    omega

theorem length_joinBy {ps : List (List Char)} (hne : ps ≠ []) :
    (joinBy sep ps).length + 1 = extent ps := by
  induction ps with
  | nil => exact absurd rfl hne
  | cons p ps ih =>
    cases ps with
    | nil => simp [joinBy, extent]
    | cons q ps =>
      have htail := ih (List.cons_ne_nil q ps)
      rw [extent_cons, ← htail, joinBy]
      simp only [List.length_append, List.length_cons]
      omega

theorem length_joinBy_le (sep : Char) {ps qs : List (List Char)} (hne : qs ≠ [])
    (h : extent ps ≤ extent qs) : (joinBy sep ps).length ≤ (joinBy sep qs).length := by
  have hqs : (joinBy sep qs).length + 1 = extent qs := length_joinBy hne
  cases ps with
  | nil => exact Nat.zero_le _
  | cons p ps =>
    have hps : (joinBy sep (p :: ps)).length + 1 = extent (p :: ps) :=
      length_joinBy (List.cons_ne_nil p ps)
    omega

end HttpGateway.Text
