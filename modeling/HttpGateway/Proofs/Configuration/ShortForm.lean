import Mathlib.Data.List.TakeWhile
import HttpGateway.Configuration.Binding
import HttpGateway.Proofs.Text.Commas

namespace HttpGateway

open HttpGateway.Text

namespace Text

theorem trimBy_eq_nil_iff {p : Char → Bool} {cs : List Char} :
    trimBy p cs = [] ↔ ∀ c ∈ cs, p c := by
  rw [trimBy, List.reverse_eq_nil_iff, List.dropWhile_eq_nil_iff]
  constructor
  · intro h
    by_contra hsome
    have hne : cs.dropWhile p ≠ [] := mt List.dropWhile_eq_nil_iff.1 hsome
    have hhead := h _ (List.mem_reverse.2 (List.head_mem hne))
    rw [List.head_dropWhile_not p hne] at hhead
    cases hhead
  · intro h c hc
    exact h c ((List.dropWhile_suffix p).mem (List.mem_reverse.1 hc))

theorem strip_eq_empty_iff {s : String} : strip s = "" ↔ ∀ c ∈ s.toList, isBlank c := by
  rw [strip, ← trimBy_eq_nil_iff, ← String.toList_inj, String.toList_ofList]
  rfl

theorem Listable.strip_ne_empty {xs : List String} (h : Listable xs) (hne : xs ≠ [])
    (hblank : xs ≠ [""]) : strip (commaList xs) ≠ "" := by
  rw [Ne, strip_eq_empty_iff, toList_commaList]
  intro hall
  cases xs with
  | nil => exact hne rfl
  | cons x xs =>
    cases xs with
    | nil =>
      have hx : x ≠ "" := fun hx => hblank (congrArg (fun x => [x]) hx)
      rw [← h.trimmed x List.mem_cons_self, Ne, strip_eq_empty_iff] at hx
      exact hx fun c hc => hall c (subset_escapeCommas _ hc)
    | cons y xs =>
      have hcomma : isBlank ',' := hall ',' (List.mem_append_right _ List.mem_cons_self)
      exact absurd hcomma (by decide)

end Text

namespace OperationSpec

open Binding

def shortForm (name : String) (args : List String) : String := name ++ "=" ++ commaList args

theorem readArgs_eq_map_strip {xs : List String} (hmark : ∀ x ∈ xs, commaMark ∉ x.toList)
    (hseparate : ∀ x ∈ xs.dropLast, x.toList.getLast? ≠ some '\\')
    (hblank : strip (commaList xs) ≠ "") : readArgs (commaList xs).toList = xs.map strip := by
  have hne : xs.map String.toList ≠ [] := by
    intro hnil
    rw [List.map_eq_nil_iff.1 hnil] at hblank
    exact hblank rfl
  have hends : ∀ p ∈ (xs.map String.toList).dropLast, p.getLast? ≠ some '\\' := by
    rw [← List.map_dropLast]
    exact List.forall_mem_map.2 hseparate
  rw [readArgs, String.ofList_toList, if_neg hblank, toList_commaList,
    commaPieces_joinBy hne (List.forall_mem_map.2 hmark) hends, List.map_map, List.map_map]
  refine List.map_congr_left fun x _ => ?_
  rw [Function.comp_apply, Function.comp_apply, plainCommas_escapeCommas, strip]

theorem readArgs_commaList {xs : List String} (h : Listable xs) (hblank : xs ≠ [""]) :
    readArgs (commaList xs).toList = xs := by
  by_cases hne : xs = []
  · subst hne
    decide
  · rw [readArgs_eq_map_strip h.unmarked h.separate (h.strip_ne_empty hne hblank)]
    exact (List.map_congr_left h.trimmed).trans (List.map_id' xs)

theorem bindName_of_stripped {name : String} (hne : name ≠ "") (hname : strip name = name) :
    bindName name = .ok name := by
  rw [bindName, hname, if_neg hne]

theorem ofText_cut {name : String} (hequals : '=' ∉ name.toList) (args : String) :
    ofText (name ++ "=" ++ args) = (atStep (.field "name") (bindName name)).map fun name =>
      ⟨name, .positional (readArgs args.toList)⟩ := by
  have htext : (name ++ "=" ++ args).toList = name.toList ++ '=' :: args.toList := by simp
  rw [ofText, htext, cut_append hequals]
  simp only [String.ofList_toList, Option.map_some, Option.getD_some]

/-- The short form binds to the name and the arguments that it was written for. -/
theorem bind_shortForm {name : String} {xs : List String} (model : String) (hne : name ≠ "")
    (hname : strip name = name) (hequals : '=' ∉ name.toList) (hxs : Listable xs)
    (hblank : xs ≠ [""]) :
    bind model (.text (shortForm name xs)) = .ok ⟨name, .positional xs⟩ := by
  rw [bind, shortForm, ofText_cut hequals, bindName_of_stripped hne hname,
    readArgs_commaList hxs hblank]
  rfl

end OperationSpec

namespace Sample

theorem bind_shortForm_commas :
    strip "Header" = "Header" ∧ Listable ["a,b", "", "x=\\,y", ",", "end\\"] ∧
      OperationSpec.shortForm "Header" ["a,b", "", "x=\\,y", ",", "end\\"] =
        "Header=a\\,b,,x=\\\\,y,\\,,end\\" ∧
      OperationSpec.bind "FilterProperties" (.text "Header=a\\,b,,x=\\\\,y,\\,,end\\") =
        .ok ⟨"Header", .positional ["a,b", "", "x=\\,y", ",", "end\\"]⟩ := by
  have hlistable : Listable ["a,b", "", "x=\\,y", ",", "end\\"] :=
    ⟨by decide, by decide, by decide⟩
  have hform : OperationSpec.shortForm "Header" ["a,b", "", "x=\\,y", ",", "end\\"] =
      "Header=a\\,b,,x=\\\\,y,\\,,end\\" := by decide
  have hname : strip "Header" = "Header" := by decide
  have hbind := OperationSpec.bind_shortForm "FilterProperties" (by decide) hname (by decide)
    hlistable (by decide)
  rw [hform] at hbind
  exact ⟨hname, hlistable, hform, hbind⟩

end Sample

end HttpGateway
