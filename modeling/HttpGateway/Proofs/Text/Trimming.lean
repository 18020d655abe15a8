import Mathlib.Data.List.DropRight
import HttpGateway.Proofs.Text.Pieces

namespace HttpGateway.Text

variable {p : Char → Bool} {sep : Char}

theorem trimBy_eq_rdropWhile (p : Char → Bool) (cs : List Char) :
    trimBy p cs = (cs.dropWhile p).rdropWhile p := rfl

theorem dropWhile_trimBy (p : Char → Bool) (cs : List Char) :
    (trimBy p cs).dropWhile p = trimBy p cs := by
  have hprefix : trimBy p cs <+: cs.dropWhile p := List.rdropWhile_prefix p (cs.dropWhile p)
  cases htrim : trimBy p cs with
  | nil => rfl
  | cons c ds =>
    -- what is left begins as it did before its end was trimmed
    rw [htrim] at hprefix
    obtain ⟨rest, hrest⟩ := hprefix
    have hne : cs.dropWhile p ≠ [] := by
      rw [← hrest]
      exact List.cons_ne_nil _ _
    have hhead := List.head_dropWhile_not p hne
    simp only [← hrest, List.cons_append, List.head_cons] at hhead
    exact List.dropWhile_cons_of_neg (Bool.eq_false_iff.1 hhead)

theorem trimBy_trimBy (p : Char → Bool) (cs : List Char) : trimBy p (trimBy p cs) = trimBy p cs := by
  rw [trimBy_eq_rdropWhile p (trimBy p cs), dropWhile_trimBy, trimBy_eq_rdropWhile,
    List.rdropWhile_idempotent]

theorem strip_strip (s : String) : strip (strip s) = strip s := by
  rw [strip, strip, String.toList_ofList, trimBy_trimBy]

theorem trimBy_cons {c : Char} (hc : p c) (cs : List Char) : trimBy p (c :: cs) = trimBy p cs := by
  rw [trimBy, List.dropWhile_cons_of_pos hc, trimBy]

theorem trimBy_concat {c : Char} (hc : p c) (cs : List Char) :
    trimBy p (cs ++ [c]) = trimBy p cs := by
  rw [trimBy_eq_rdropWhile, trimBy_eq_rdropWhile, List.dropWhile_append]
  split
  · rename_i hnil
    rw [List.isEmpty_iff.1 hnil, List.dropWhile_cons_of_pos hc, List.dropWhile_nil]
  · exact List.rdropWhile_concat_pos p _ c hc

theorem trimBy_between {as bs : List Char} (has : ∀ c ∈ as, p c) (hbs : ∀ c ∈ bs, p c)
    (cs : List Char) : trimBy p (as ++ cs ++ bs) = trimBy p cs := by
  have hback : trimBy p (as ++ cs ++ bs) = trimBy p (as ++ cs) := by
    induction bs using List.reverseRecOn with
    | nil => rw [List.append_nil]
    | append_singleton bs b ih =>
      rw [List.forall_mem_append, List.forall_mem_singleton] at hbs
      rw [← List.append_assoc, trimBy_concat hbs.2, ih hbs.1]
  rw [hback, trimBy, List.dropWhile_append_of_pos has, trimBy]

theorem splitAt_concat {c : Char} (hc : c ≠ sep) (cs : List Char) :
    ∃ ps q, splitAt sep cs = ps ++ [q] ∧ splitAt sep (cs ++ [c]) = ps ++ [q ++ [c]] := by
  induction cs with
  | nil => exact ⟨[], [], rfl, by simp [splitAt, hc]⟩
  | cons d cs ih =>
    obtain ⟨ps, q, hcs, hlonger⟩ := ih
    rw [List.cons_append, splitAt, splitAt, hcs, hlonger]
    by_cases hd : d = sep
    · exact ⟨[] :: ps, q, by simp [hd]⟩
    · cases ps with
      | nil => exact ⟨[], d :: q, by simp [hd]⟩
      | cons r ps => exact ⟨(d :: r) :: ps, q, by simp [hd]⟩

theorem map_trimBy_splitAt_cons {c : Char} (hc : p c) (hsep : c ≠ sep) (cs : List Char) :
    (splitAt sep (c :: cs)).map (trimBy p) = (splitAt sep cs).map (trimBy p) := by
  obtain ⟨q, qs, hcs⟩ := List.exists_cons_of_ne_nil (splitAt_ne_nil sep cs)
  rw [splitAt, if_neg hsep, hcs]
  simp [trimBy_cons hc]

theorem map_trimBy_splitAt_concat {c : Char} (hc : p c) (hsep : c ≠ sep) (cs : List Char) :
    (splitAt sep (cs ++ [c])).map (trimBy p) = (splitAt sep cs).map (trimBy p) := by
  obtain ⟨ps, q, hcs, hlonger⟩ := splitAt_concat hsep cs
  rw [hcs, hlonger]
  simp [trimBy_concat hc]

theorem map_trimBy_splitAt_trimBy (hsep : p sep = false) (cs : List Char) :
    (splitAt sep (trimBy p cs)).map (trimBy p) = (splitAt sep cs).map (trimBy p) := by
  have hne : ∀ {c}, p c → c ≠ sep := by
    rintro c hc rfl
    exact Bool.false_ne_true (hsep.symm.trans hc)
  have hfront : ∀ ds : List Char,
      (splitAt sep (ds.dropWhile p)).map (trimBy p) = (splitAt sep ds).map (trimBy p) := by
    intro ds
    induction ds with
    | nil => rfl
    | cons d ds ih =>
      by_cases hd : p d
      · rw [List.dropWhile_cons_of_pos hd, ih, map_trimBy_splitAt_cons hd (hne hd)]
      · rw [List.dropWhile_cons_of_neg hd]
  have hback : ∀ ds : List Char,
      (splitAt sep (ds.rdropWhile p)).map (trimBy p) = (splitAt sep ds).map (trimBy p) := by
    intro ds
    induction ds using List.reverseRecOn with
    | nil => rfl
    | append_singleton ds d ih =>
      by_cases hd : p d
      · rw [List.rdropWhile_concat_pos p ds d hd, ih, map_trimBy_splitAt_concat hd (hne hd)]
      · rw [List.rdropWhile_concat_neg p ds d hd]
  rw [trimBy_eq_rdropWhile, hback, hfront]

end HttpGateway.Text
