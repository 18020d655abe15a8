import HttpGateway.Proofs.Text.Pieces

/-!
Texts in a list: each of them is written with a backslash in front of its commas, and a plain comma
stands between two of them. Cutting the list gives the written texts back, and each of them stands
for the text that it was written for.
-/

namespace HttpGateway.Text

def escapeCommas (cs : List Char) : List Char :=
  cs.flatMap fun c => if c = ',' then ['\\', ','] else [c]

def escapedCommas (s : String) : String := String.ofList (escapeCommas s.toList)

def commaList (xs : List String) : String := ",".intercalate (xs.map escapedCommas)

/-- Texts that a list can hold: without blank ends, without the character that stands for a comma
while the list is cut, and without a backslash in front of a comma of the list. -/
structure Listable (xs : List String) : Prop where
  trimmed : ∀ x ∈ xs, strip x = x
  unmarked : ∀ x ∈ xs, commaMark ∉ x.toList
  separate : ∀ x ∈ xs.dropLast, x.toList.getLast? ≠ some '\\'

def replaceEscaped (d : Char) : List Char → List Char
  | '\\' :: ',' :: cs => d :: replaceEscaped d cs
  | c :: cs => c :: replaceEscaped d cs
  | [] => []

def replaceCommas (d : Char) (cs : List Char) : List Char := cs.map fun c => if c = ',' then d else c

theorem markCommas_eq (cs : List Char) : markCommas cs = replaceEscaped commaMark cs := by
  fun_induction markCommas cs with
  | case1 cs ih => rw [replaceEscaped, ih]
  | case2 c cs hnone ih => rw [replaceEscaped, ih]; exact hnone
  | case3 => rfl

theorem plainCommas_eq (cs : List Char) : plainCommas cs = replaceEscaped ',' cs := by
  fun_induction plainCommas cs with
  | case1 cs ih => rw [replaceEscaped, ih]
  | case2 c cs hnone ih => rw [replaceEscaped, ih]; exact hnone
  | case3 => rfl

theorem markCommas_of_none {cs : List Char} (h : hasEscapedComma cs = false) :
    markCommas cs = cs := by
  fun_induction markCommas cs with
  | case1 cs ih => cases h
  | case2 c cs hnone ih =>
    rw [hasEscapedComma] at h
    · rw [ih h]
    · exact hnone
  | case3 => rfl

theorem hasEscapedComma_of_notMem {cs : List Char} (h : '\\' ∉ cs) :
    hasEscapedComma cs = false := by
  fun_induction hasEscapedComma cs with
  | case1 => exact absurd List.mem_cons_self h
  | case2 c cs _ ih => exact ih fun hcs => h (List.mem_cons_of_mem c hcs)
  | case3 => rfl

theorem unmarkCommas_of_notMem {cs : List Char} (h : commaMark ∉ cs) : unmarkCommas cs = cs := by
  induction cs with
  | nil => rfl
  | cons c cs ih =>
    rw [List.mem_cons, not_or] at h
    rw [unmarkCommas, List.flatMap_cons, if_neg (Ne.symm h.1), ← unmarkCommas, ih h.2]
    rfl

theorem mem_of_mem_trimBy {p : Char → Bool} {cs : List Char} {c : Char} (h : c ∈ trimBy p cs) :
    c ∈ cs := by
  rw [trimBy, List.mem_reverse] at h
  have hfront := List.mem_reverse.1 ((List.dropWhile_suffix p).mem h)
  exact (List.dropWhile_suffix p).mem hfront

theorem trimBy_map {p : Char → Bool} {f : Char → Char} (h : ∀ c, p (f c) = p c) (cs : List Char) :
    trimBy p (cs.map f) = (trimBy p cs).map f := by
  have hp : p ∘ f = p := funext h
  rw [trimBy, List.dropWhile_map, hp, ← List.map_reverse, List.dropWhile_map, hp, ← List.map_reverse,
    trimBy]

theorem commaPieces_eq {cs : List Char} (h : commaMark ∉ cs) :
    commaPieces cs =
      (splitAt ',' (markCommas cs)).map fun p => unmarkCommas (trimBy isBlank p) := by
  rw [commaPieces]
  split
  · rfl
  · rename_i hnone
    rw [markCommas_of_none (Bool.eq_false_iff.2 hnone)]
    refine List.map_congr_left fun p hp => (unmarkCommas_of_notMem fun hmem => h ?_).symm
    exact (infix_of_mem_splitAt hp).mem (mem_of_mem_trimBy hmem)

theorem escapeCommas_cons_comma (cs : List Char) :
    escapeCommas (',' :: cs) = '\\' :: ',' :: escapeCommas cs := rfl

theorem escapeCommas_cons_of_ne {c : Char} (h : c ≠ ',') (cs : List Char) :
    escapeCommas (c :: cs) = c :: escapeCommas cs := by
  rw [escapeCommas, List.flatMap_cons, if_neg h]
  rfl

theorem head?_escapeCommas (cs : List Char) : (escapeCommas cs).head? ≠ some ',' := by
  cases cs with
  | nil => simp [escapeCommas]
  | cons c cs =>
    by_cases hc : c = ','
    · rw [hc, escapeCommas_cons_comma]
      simp
    · rw [escapeCommas_cons_of_ne hc]
      exact fun h => hc (Option.some.inj h)

theorem mem_escapeCommas {cs : List Char} {c : Char} (h : c ∈ escapeCommas cs) :
    c ∈ cs ∨ c = '\\' := by
  obtain ⟨d, hd, hc⟩ := List.mem_flatMap.1 h
  split at hc
  · rename_i hcomma
    rw [hcomma] at hd
    rw [List.mem_cons, List.mem_singleton] at hc
    rcases hc with rfl | rfl
    · exact .inr rfl
    · exact .inl hd
  · cases List.mem_singleton.1 hc
    exact .inl hd

theorem subset_escapeCommas (cs : List Char) : cs ⊆ escapeCommas cs := by
  intro c hc
  refine List.mem_flatMap.2 ⟨c, hc, ?_⟩
  split
  · exact List.mem_cons_of_mem _ (List.mem_singleton.2 ‹_›)
  · exact List.mem_singleton_self c

theorem escapeCommas_eq_self_iff {cs : List Char} : escapeCommas cs = cs ↔ ',' ∉ cs := by
  induction cs with
  | nil => simp [escapeCommas]
  | cons c cs ih =>
    by_cases hc : c = ','
    · simp [hc, escapeCommas_cons_comma]
    · simp [escapeCommas_cons_of_ne hc, ih, Ne.symm hc]

theorem escapeCommas_joinBy {ps : List (List Char)} (h : ∀ p ∈ ps, ',' ∉ p) :
    escapeCommas (joinBy ',' ps) = ['\\', ','].intercalate ps := by
  induction ps with
  | nil => rfl
  | cons p ps ih =>
    obtain ⟨hp, hps⟩ := List.forall_mem_cons.1 h
    have hself : escapeCommas p = p := escapeCommas_eq_self_iff.2 hp
    cases ps with
    | nil => simpa [joinBy, List.intercalate] using hself
    | cons q ps =>
      have hsplit : escapeCommas (joinBy ',' (p :: q :: ps)) =
          escapeCommas p ++ '\\' :: ',' :: escapeCommas (joinBy ',' (q :: ps)) := by
        simp [joinBy, escapeCommas]
      rw [hsplit, hself, ih hps]
      simp [List.intercalate]

variable {d : Char} {cs : List Char}

theorem replaceEscaped_cons {c : Char} (h : c = '\\' → cs.head? ≠ some ',') :
    replaceEscaped d (c :: cs) = c :: replaceEscaped d cs := by
  rw [replaceEscaped]
  rintro ds rfl rfl
  exact h rfl rfl

theorem replaceEscaped_append {rest : List Char}
    (h : cs.getLast? = some '\\' → rest.head? ≠ some ',') :
    replaceEscaped d (escapeCommas cs ++ rest) = replaceCommas d cs ++ replaceEscaped d rest := by
  induction cs with
  | nil => rfl
  | cons c cs ih =>
    have hcs : cs.getLast? = some '\\' → rest.head? ≠ some ',' := by
      intro hlast
      rw [List.getLast?_cons, hlast] at h
      exact h rfl
    by_cases hc : c = ','
    · rw [hc, escapeCommas_cons_comma]
      exact congrArg (d :: ·) (ih hcs)
    · have hhead : c = '\\' → (escapeCommas cs ++ rest).head? ≠ some ',' := by
        intro hslash
        cases cs with
        | nil => exact h (hslash ▸ rfl)
        | cons c' cs =>
          have hne : escapeCommas (c' :: cs) ≠ [] :=
            List.ne_nil_of_mem (subset_escapeCommas _ List.mem_cons_self)
          rw [List.head?_append, Option.or_of_isSome (List.isSome_head?.2 hne)]
          exact head?_escapeCommas (c' :: cs)
      rw [escapeCommas_cons_of_ne hc, List.cons_append, replaceEscaped_cons hhead, ih hcs,
        replaceCommas, replaceCommas, List.map_cons, if_neg hc]
      rfl

theorem replaceEscaped_escapeCommas (d : Char) (cs : List Char) :
    replaceEscaped d (escapeCommas cs) = replaceCommas d cs := by
  have h : replaceEscaped d (escapeCommas cs ++ []) = replaceCommas d cs ++ replaceEscaped d [] :=
    replaceEscaped_append fun _ => by simp
  rwa [List.append_nil, replaceEscaped, List.append_nil] at h

theorem plainCommas_escapeCommas (cs : List Char) : plainCommas (escapeCommas cs) = cs := by
  rw [plainCommas_eq, replaceEscaped_escapeCommas, replaceCommas]
  refine (List.map_congr_left fun c _ => ?_).trans (List.map_id' cs)
  split
  · exact Eq.symm ‹_›
  · rfl

theorem unmarkCommas_replaceCommas (h : commaMark ∉ cs) :
    unmarkCommas (replaceCommas commaMark cs) = escapeCommas cs := by
  rw [unmarkCommas, replaceCommas, List.flatMap_map, escapeCommas, List.flatMap, List.flatMap]
  refine congrArg List.flatten (List.map_congr_left fun c hc => ?_)
  by_cases hcomma : c = ','
  · simp [hcomma]
  · have hmark : c ≠ commaMark := ne_of_mem_of_not_mem hc h
    simp [hcomma, hmark]

theorem comma_notMem_replaceCommas (cs : List Char) : ',' ∉ replaceCommas commaMark cs := by
  intro h
  obtain ⟨c, -, hc⟩ := List.mem_map.1 h
  split at hc
  · exact absurd hc (by decide)
  · exact absurd hc ‹_›

theorem trimBy_replaceCommas (cs : List Char) :
    trimBy isBlank (replaceCommas commaMark cs) =
      replaceCommas commaMark (trimBy isBlank cs) := by
  refine trimBy_map (fun c => ?_) cs
  split
  · rename_i hc
    rw [hc]
    decide
  · rfl

theorem replaceEscaped_joinBy {ps : List (List Char)}
    (h : ∀ p ∈ ps.dropLast, p.getLast? ≠ some '\\') :
    replaceEscaped d (joinBy ',' (ps.map escapeCommas)) =
      joinBy ',' (ps.map (replaceCommas d)) := by
  induction ps with
  | nil => rfl
  | cons p ps ih =>
    cases ps with
    | nil => exact replaceEscaped_escapeCommas d p
    | cons q ps =>
      rw [List.dropLast_cons_cons, List.forall_mem_cons] at h
      have hcomma : ∀ cs, replaceEscaped d (',' :: cs) = ',' :: replaceEscaped d cs := fun cs =>
        replaceEscaped_cons fun hc => absurd hc (by decide)
      have hjoin : ∀ f : List Char → List Char, joinBy ',' ((p :: q :: ps).map f) =
          f p ++ ',' :: joinBy ',' ((q :: ps).map f) := fun f => rfl
      rw [hjoin, hjoin, replaceEscaped_append fun hlast => absurd hlast h.1, hcomma, ih h.2]

theorem commaPieces_joinBy {ps : List (List Char)} (hne : ps ≠ []) (hmark : ∀ p ∈ ps, commaMark ∉ p)
    (h : ∀ p ∈ ps.dropLast, p.getLast? ≠ some '\\') :
    commaPieces (joinBy ',' (ps.map escapeCommas)) =
      ps.map fun p => escapeCommas (trimBy isBlank p) := by
  have hmarkless : commaMark ∉ joinBy ',' (ps.map escapeCommas) := by
    intro hmem
    rcases mem_joinBy hmem with hc | ⟨q, hq, hc⟩
    · exact absurd hc (by decide)
    · obtain ⟨p, hp, rfl⟩ := List.mem_map.1 hq
      rcases mem_escapeCommas hc with hc | hc
      · exact hmark p hp hc
      · exact absurd hc (by decide)
  have hcut : splitAt ',' (joinBy ',' (ps.map (replaceCommas commaMark))) =
      ps.map (replaceCommas commaMark) := by
    refine splitAt_joinBy (fun hnil => hne (List.map_eq_nil_iff.1 hnil)) ?_
    exact List.forall_mem_map.2 fun p _ => comma_notMem_replaceCommas p
  rw [commaPieces_eq hmarkless, markCommas_eq, replaceEscaped_joinBy h, hcut, List.map_map]
  refine List.map_congr_left fun p hp => ?_
  rw [Function.comp_apply, trimBy_replaceCommas,
    unmarkCommas_replaceCommas fun hmem => hmark p hp (mem_of_mem_trimBy hmem)]

theorem toList_escapedCommas (s : String) : (escapedCommas s).toList = escapeCommas s.toList :=
  String.toList_ofList

theorem escapedCommas_eq_self_iff {s : String} : escapedCommas s = s ↔ ',' ∉ s.toList := by
  rw [← escapeCommas_eq_self_iff, ← toList_escapedCommas, String.toList_inj]

theorem toList_commaList (xs : List String) :
    (commaList xs).toList = joinBy ',' ((xs.map String.toList).map escapeCommas) := by
  have hcomma : "," = String.singleton ',' := rfl
  rw [commaList, hcomma, toList_intercalate_eq_joinBy, List.map_map, List.map_map]
  congr 1
  exact List.map_congr_left fun x _ => toList_escapedCommas x

theorem Listable.commaPieces {xs : List String} (h : Listable xs) (hne : xs ≠ []) :
    commaPieces (commaList xs).toList = xs.map fun x => escapeCommas x.toList := by
  have htrimmed : ∀ x ∈ xs, trimBy isBlank x.toList = x.toList := fun x hx => by
    have hx := congrArg String.toList (h.trimmed x hx)
    rwa [strip, String.toList_ofList] at hx
  have hseparate : ∀ p ∈ (xs.map String.toList).dropLast, p.getLast? ≠ some '\\' := by
    rw [← List.map_dropLast]
    exact List.forall_mem_map.2 h.separate
  rw [toList_commaList, commaPieces_joinBy (fun hnil => hne (List.map_eq_nil_iff.1 hnil))
    (List.forall_mem_map.2 h.unmarked) hseparate, List.map_map]
  refine List.map_congr_left fun x hx => ?_
  rw [Function.comp_apply, htrimmed x hx]

end HttpGateway.Text
