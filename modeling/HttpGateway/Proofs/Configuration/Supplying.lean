import HttpGateway.Proofs.Configuration.Items
import HttpGateway.Proofs.Operation.Reception

namespace HttpGateway

/-- Data of arguments has an item for a parameter, one of those of the names: it is that item, or has
it in a list at the place of the name, under the name, or under the generated key of the place. -/
inductive Value.Supplies : (names : List String) → Value → (name : String) → Value → Prop
  | alone {name v} : RawArgs.ofValue v = .bare v.argumentText → Supplies [name] v name v
  | listed {names items name v} : (name, v) ∈ names.zip items →
      Supplies names (.list items) name v
  | tupled {names items name v} : (name, v) ∈ names.zip items →
      Supplies names (.tuple items) name v
  | keyed {names es name v} : (es.map Prod.fst).Nodup →
      (∃ e ∈ es, ∀ digits, ¬ RawArgs.Generated e.1 digits) → (name, v) ∈ es →
      Supplies names (.map es) name v
  | generated {names es sorted name v} {index : String → Nat} : (es.map Prod.fst).Nodup →
      (∀ e ∈ es, ∃ digits, RawArgs.Generated e.1 digits ∧
        RawArgs.readIndex digits = .ok (index e.1)) →
      SortedBy (fun e : String × Value => index e.1) es sorted →
      (name, v) ∈ names.zip (sorted.map Prod.snd) → Supplies names (.map es) name v

namespace Value

variable {family : String} {providers : List Provider} {c : Catalog} {i j : Journal}
  {found : Catalog.Resolved} {raw : RawArgs} {name : String}

theorem get?_of_positional (hc : (Catalog.discover family providers).outcomeFrom i = (.ok c, j))
    (hf : c.find name raw = .ok (some found)) {items : List Value}
    (hraw : raw.Positional (items.map argumentText)) {k : String} {v : Value}
    (hv : (k, v) ∈ found.operation.parameterNames.zip items) :
    found.args.get? k = some v.argumentText := by
  have hentries := ((Catalog.find_eq_some_iff hc).1 hf).entries_of_positional hraw
  apply (OrderedMap.mem_iff_lookup found.args.distinct).1
  rw [hentries, List.zip_map_right]
  exact List.mem_map.2 ⟨(k, v), hv, rfl⟩

def argumentTexts (es : List (String × Value)) : OrderedMap String :=
  OrderedMap.ofList (es.map fun e => (e.1, e.2.argumentText))

theorem entries_argumentTexts {es : List (String × Value)} (h : (es.map Prod.fst).Nodup) :
    (argumentTexts es).entries = es.map fun e => (e.1, e.2.argumentText) := by
  apply OrderedMap.entries_ofList
  rwa [List.map_map]

theorem positional_of_generated {es sorted : List (String × Value)} {index : String → Nat}
    (hkeys : (es.map Prod.fst).Nodup) (hne : es ≠ [])
    (hindex : ∀ e ∈ es, ∃ digits, RawArgs.Generated e.1 digits ∧
      RawArgs.readIndex digits = .ok (index e.1))
    (hsorted : SortedBy (fun e : String × Value => index e.1) es sorted) :
    (RawArgs.ofValue (.map es)).Positional ((sorted.map Prod.snd).map argumentText) := by
  have hentries := entries_argumentTexts hkeys
  have hread : ∀ k ∈ (argumentTexts es).keys,
      ∃ digits, RawArgs.Generated k digits ∧ RawArgs.readIndex digits = .ok (index k) := by
    intro k hk
    rw [OrderedMap.keys, hentries, List.map_map] at hk
    obtain ⟨e, he, rfl⟩ := List.mem_map.1 hk
    exact hindex e he
  have hall : RawArgs.AllGenerated (argumentTexts es) := by
    refine ⟨?_, fun k hk => ?_⟩
    · rw [hentries]
      exact fun hnil => hne (List.map_eq_nil_iff.1 hnil)
    · obtain ⟨digits, hdigits, -⟩ := hread k hk
      exact ⟨digits, hdigits⟩
  have hsort := hsorted.map (fun e : String × String => index e.1)
    fun e : String × Value => (e.1, e.2.argumentText)
  rw [← hentries] at hsort
  have hpositional := RawArgs.Positional.generated hall hread hsort
  rwa [List.map_map] at hpositional ⊢

theorem Supplies.get? (hc : (Catalog.discover family providers).outcomeFrom i = (.ok c, j))
    {args : Value} (hf : c.find name (.ofValue args) = .ok (some found)) {k : String} {v : Value}
    (h : args.Supplies found.operation.parameterNames k v) :
    found.args.get? k = some v.argumentText := by
  generalize hnames : found.operation.parameterNames = names at h
  cases h with
  | alone hbare =>
    have hraw : (RawArgs.ofValue args).Positional ([args].map argumentText) := by
      rw [hbare]
      exact .bare args.argumentText
    apply get?_of_positional hc hf hraw
    simp [hnames]
  | listed hv =>
    subst hnames
    exact get?_of_positional hc hf (.listed _) hv
  | tupled hv =>
    subst hnames
    exact get?_of_positional hc hf (.listed _) hv
  | @keyed _ es _ _ hkeys hplain hv =>
    have hentries := entries_argumentTexts hkeys
    have hargs : ¬ RawArgs.AllGenerated (argumentTexts es) := by
      rintro ⟨-, hall⟩
      obtain ⟨e, he, hungenerated⟩ := hplain
      have hkey : e.1 ∈ (argumentTexts es).keys := by
        rw [OrderedMap.keys, hentries, List.map_map]
        exact List.mem_map_of_mem he
      obtain ⟨digits, hdigits⟩ := hall e.1 hkey
      exact hungenerated digits hdigits
    have hfound : found.args = argumentTexts es :=
      ((Catalog.find_eq_some_iff hc).1 hf).args_of_keyed hargs
    rw [hfound]
    apply (OrderedMap.mem_iff_lookup (argumentTexts es).distinct).1
    rw [hentries]
    exact List.mem_map.2 ⟨(k, v), hv, rfl⟩
  | @generated _ es sorted _ _ index hkeys hindex hsorted hv =>
    subst hnames
    have hne : es ≠ [] := by
      rintro rfl
      obtain ⟨e, he, -⟩ := List.mem_map.1 (List.of_mem_zip hv).2
      cases hsorted.mem_iff.1 he
    exact get?_of_positional hc hf (positional_of_generated hkeys hne hindex hsorted) hv

end Value

end HttpGateway
