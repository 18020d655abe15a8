import HttpGateway.Operation.ParamType
import HttpGateway.Configuration.Binding
import HttpGateway.Proofs.Text.Commas

namespace HttpGateway.ParamType

open HttpGateway.Text

theorem mapM_read?_text (xs : List String) :
    (xs.map Value.text).mapM (read? text) = some (xs.map .text) := by
  induction xs with
  | nil => rfl
  | cons x xs ih => rw [List.map_cons, List.mapM_cons, ih]; rfl

theorem read?_listOf_text (xs : List String) :
    read? (listOf text) (.list (xs.map .text)) = some (.list (xs.map .text)) := by
  rw [read?]
  simp only [Value.elements?, Option.bind_eq_bind, Option.bind_some, mapM_read?_text]
  rfl

theorem textPieces_commaList {xs : List String} (h : Listable xs) (hne : xs ≠ [])
    (hfull : ∀ x ∈ xs, x ≠ "") :
    textPieces (commaList xs) = .list ((xs.map escapedCommas).map .text) := by
  have hkept : ∀ p ∈ xs.map fun x => escapeCommas x.toList, decide (p ≠ []) = true := by
    refine List.forall_mem_map.2 fun x hx => decide_eq_true fun hnil => hfull x hx ?_
    have hempty : x.toList = [] := List.subset_nil.1 (hnil ▸ subset_escapeCommas x.toList)
    exact String.toList_eq_nil_iff.1 hempty
  rw [textPieces, h.commaPieces hne, List.filter_eq_self.2 hkept, List.map_map, List.map_map]
  rfl

/-- A text that writes a list converts to its elements with their escapes, so only the texts without
a comma come back. -/
theorem convert?_commaList {xs : List String} (h : Listable xs) (hne : xs ≠ [])
    (hfull : ∀ x ∈ xs, x ≠ "") :
    (listOf text).convert? (.text (commaList xs)) =
        some (.list ((xs.map escapedCommas).map .text)) ∧
      ((listOf text).convert? (.text (commaList xs)) = some (.list (xs.map .text)) ↔
        ∀ x ∈ xs, ',' ∉ x.toList) := by
  have hconvert : (listOf text).convert? (.text (commaList xs)) =
      some (.list ((xs.map escapedCommas).map .text)) := by
    rw [← read?_listOf_text, ← textPieces_commaList h hne hfull]
    rfl
  refine ⟨hconvert, ?_⟩
  rw [hconvert, Option.some.injEq, Value.list.injEq, List.map_map, List.map_inj_left]
  simp only [Function.comp_apply, Value.text.injEq, escapedCommas_eq_self_iff]

end HttpGateway.ParamType

namespace HttpGateway.Sample

open HttpGateway.Text

theorem convert?_commaList_pair :
    Listable ["a,b", "c"] ∧ (∀ x ∈ ["a,b", "c"], x ≠ "") ∧
      (ParamType.listOf .text).convert? (.text "a\\,b,c") =
        some (.list [.text "a\\,b", .text "c"]) := by
  have hlistable : Listable ["a,b", "c"] := ⟨by decide, by decide, by decide⟩
  have hconvert := ParamType.convert?_commaList hlistable (by decide) (by decide)
  exact ⟨hlistable, by decide, hconvert.1⟩

theorem convert?_keeps_escape :
    Listable ["a,b"] ∧ commaList ["a,b"] = "a\\,b" ∧
      OperationSpec.bind "FilterProperties" (.text "Method=a\\,b") =
        .ok ⟨"Method", .positional ["a,b"]⟩ ∧
      (ParamType.listOf .text).convert? (.text "a\\,b") = some (.list [.text "a\\,b"]) ∧
      (ParamType.listOf .text).convert? (.text "a\\,b") ≠ some (.list [.text "a,b"]) := by
  have hconvert : (ParamType.listOf .text).convert? (.text "a\\,b") =
      some (.list [.text "a\\,b"]) := rfl
  refine ⟨⟨by decide, by decide, by decide⟩, by decide, rfl, hconvert, ?_⟩
  rw [hconvert]
  intro h
  simp at h

end HttpGateway.Sample
