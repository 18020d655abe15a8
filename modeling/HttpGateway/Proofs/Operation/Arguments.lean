import HttpGateway.Operation.Arguments
import HttpGateway.Proofs.OrderedMap
import HttpGateway.Proofs.Outcome
import HttpGateway.Proofs.StableSort

namespace HttpGateway.RawArgs

open HttpGateway.Text

structure Generated (key : String) (digits : List Char) : Prop where
  text : key = generatedStart ++ String.ofList digits
  written : digits ≠ []
  signs : ∀ c ∈ digits, isDigitSign c

theorem indexDigits?_eq_some_iff {key : String} {digits : List Char} :
    indexDigits? key = some digits ↔ Generated key digits := by
  rw [indexDigits?]
  constructor
  · intro h
    split at h
    · rename_i hc
      cases h
      rw [Bool.and_eq_true, Bool.and_eq_true, List.isPrefixOf_iff_prefix] at hc
      obtain ⟨⟨⟨digits, hd⟩, hw⟩, hs⟩ := hc
      rw [← hd, List.drop_left] at hw hs ⊢
      refine ⟨?_, by simpa using hw, List.all_eq_true.1 hs⟩
      rw [← String.toList_inj, String.toList_append, String.toList_ofList, hd]
    · cases h
  · rintro ⟨rfl, hw, hs⟩
    rw [String.toList_append, String.toList_ofList, List.drop_left]
    refine if_pos ?_
    rw [Bool.and_eq_true, Bool.and_eq_true, List.isPrefixOf_iff_prefix]
    exact ⟨⟨List.prefix_append _ _, by simpa using hw⟩, List.all_eq_true.2 hs⟩

theorem Generated.unique {key : String} {digits digits' : List Char} (h : Generated key digits)
    (h' : Generated key digits') : digits = digits' := by
  rw [← indexDigits?_eq_some_iff] at h h'
  exact Option.some.inj (h.symm.trans h')

def AllGenerated (args : OrderedMap String) : Prop :=
  args.entries ≠ [] ∧ ∀ k ∈ args.keys, ∃ digits, Generated k digits

theorem not_allGenerated_of_mem {args : OrderedMap String} {k : String} (hk : k ∈ args.keys)
    (hd : indexDigits? k = none) : ¬ AllGenerated args := by
  rintro ⟨-, hall⟩
  obtain ⟨digits, hdigits⟩ := hall k hk
  rw [indexDigits?_eq_some_iff.2 hdigits] at hd
  cases hd

def Readable : RawArgs → Prop
  | positional _ => True
  | keyed args => AllGenerated args → ∀ k ∈ args.keys, ∀ digits, Generated k digits →
      ∃ n, readIndex digits = .ok n

inductive Positional : RawArgs → List String → Prop
  | listed (values) : Positional (.positional values) values
  | bare (value) : Positional (.bare value) [value]
  | generated {args sorted} {index : String → Nat} : AllGenerated args →
      (∀ k ∈ args.keys, ∃ digits, Generated k digits ∧ readIndex digits = .ok (index k)) →
      SortedBy (fun e : String × String => index e.1) args.entries sorted →
      Positional (.keyed args) (sorted.map Prod.snd)

theorem mapM_indexDigits? {index : String → Nat} {es : List (String × String)}
    (h : ∀ e ∈ es, ∃ digits, Generated e.1 digits ∧ readIndex digits = .ok (index e.1)) :
    ∃ ds, (es.mapM fun e => (indexDigits? e.1).map fun ds => (ds, e.2)) = some ds ∧
      (ds.mapM fun e => (readIndex e.1).map fun n => (n, e.2)) =
        .ok (es.map fun e => (index e.1, e.2)) := by
  induction es with
  | nil => exact ⟨[], rfl, rfl⟩
  | cons e es ih =>
    obtain ⟨digits, hg, hr⟩ := h e List.mem_cons_self
    obtain ⟨ds, hds, hns⟩ := ih fun e' he' => h e' (List.mem_cons_of_mem e he')
    refine ⟨(digits, e.2) :: ds, ?_, ?_⟩
    · rw [List.mapM_cons, indexDigits?_eq_some_iff.2 hg, hds]
      rfl
    · rw [List.mapM_cons, hr, hns]
      rfl

theorem values?_of_positional {raw : RawArgs} {values : List String} (h : raw.Positional values) :
    raw.values? = .ok (some values) := by
  cases h with
  | listed => rfl
  | bare => rfl
  | @generated args sorted index hall hindex hsorted =>
    have hes : ∀ e ∈ args.entries, ∃ digits, Generated e.1 digits ∧
        readIndex digits = .ok (index e.1) :=
      fun e he => hindex e.1 (List.mem_map_of_mem he)
    obtain ⟨ds, hds, hns⟩ := mapM_indexDigits? hes
    have hsort := hsorted.map Prod.fst fun e : String × String => (index e.1, e.2)
    have hby : byIndex (args.entries.map fun e => (index e.1, e.2)) = sorted.map Prod.snd := by
      rw [byIndex, SortedBy.unique (.of_mergeSort Prod.fst _) hsort, List.map_map]
      rfl
    rw [values?, if_neg hall.1, hds]
    change Except.map _ (ds.mapM fun e => (readIndex e.1).map fun n => (n, e.2)) = _
    rw [hns, Except.map, hby]

theorem exists_of_mapM_eq_some {α β : Type} {f : α → Option β} {as : List α} {bs : List β}
    (h : as.mapM f = some bs) : ∀ a ∈ as, ∃ b, f a = some b := by
  induction as generalizing bs with
  | nil =>
    intro a ha
    cases ha
  | cons a as ih =>
    rw [List.mapM_cons, Option.bind_eq_bind, Option.bind_eq_some_iff] at h
    obtain ⟨b, hb, h⟩ := h
    rw [Option.bind_eq_bind, Option.bind_eq_some_iff] at h
    obtain ⟨bs', hbs, -⟩ := h
    intro a' ha
    rcases List.mem_cons.1 ha with rfl | ha
    · exact ⟨b, hb⟩
    · exact ih hbs a' ha

theorem values?_of_keyed {args : OrderedMap String} (h : ¬ AllGenerated args) :
    (keyed args).values? = .ok none := by
  rw [values?]
  by_cases he : args.entries = []
  · exact if_pos he
  · rw [if_neg he]
    cases hm : args.entries.mapM fun e => (indexDigits? e.1).map fun ds => (ds, e.2) with
    | none => rfl
    | some es =>
      refine absurd ⟨he, fun k hk => ?_⟩ h
      obtain ⟨e, hmem, rfl⟩ := List.mem_map.1 hk
      obtain ⟨b, hb⟩ := exists_of_mapM_eq_some hm e hmem
      obtain ⟨digits, hd, -⟩ := Option.map_eq_some_iff.1 hb
      exact ⟨digits, indexDigits?_eq_some_iff.1 hd⟩

theorem align_of_positional {raw : RawArgs} {values : List String} (h : raw.Positional values)
    (names : List String) :
    raw.align names = .ok (if values.length = names.length then
      some (OrderedMap.ofList (names.zip values)) else none) := by
  rw [align, values?_of_positional h]
  cases raw with
  | keyed args => exact (apply_ite Except.ok _ _ _).symm
  | positional vs => exact (apply_ite Except.ok _ _ _).symm

theorem align_of_keyed {args : OrderedMap String} (h : ¬ AllGenerated args) (names : List String) :
    (keyed args).align names = .ok (some args) := by
  rw [align, values?_of_keyed h]
  rfl

theorem positional_or_keyed {raw : RawArgs} (h : raw.Readable) :
    (∃ values, raw.Positional values) ∨ ∃ args, raw = .keyed args ∧ ¬ AllGenerated args := by
  cases raw with
  | positional values => exact .inl ⟨values, .listed values⟩
  | keyed args =>
    by_cases hall : AllGenerated args
    · have hk : ∀ k, ∃ n, k ∈ args.keys →
          ∃ digits, Generated k digits ∧ readIndex digits = .ok n := by
        intro k
        by_cases hmem : k ∈ args.keys
        · obtain ⟨digits, hd⟩ := hall.2 k hmem
          obtain ⟨n, hn⟩ := h hall k hmem digits hd
          exact ⟨n, fun _ => ⟨digits, hd, hn⟩⟩
        · exact ⟨0, fun hm => absurd hm hmem⟩
      obtain ⟨index, hindex⟩ := Classical.skolem.1 hk
      exact .inl ⟨_, .generated hall hindex (.of_mergeSort (fun e => index e.1) args.entries)⟩
    · exact .inr ⟨args, rfl, hall⟩

/-- Why arguments whose keys are all generated do not go by their position: the first index in the
order of the entries that cannot be read. -/
inductive Unreadable : RawArgs → IndexError → Prop
  | index {args before key value after digits e} : AllGenerated args →
      args.entries = before ++ (key, value) :: after →
      (∀ b ∈ before, ∃ digits n, Generated b.1 digits ∧ readIndex digits = .ok n) →
      Generated key digits → readIndex digits = .error e → Unreadable (.keyed args) e

def keyIndex (key : String) : Except IndexError Nat := readIndex ((indexDigits? key).getD [])

theorem keyIndex_of_generated {key : String} {digits : List Char} (h : Generated key digits) :
    keyIndex key = readIndex digits := by
  rw [keyIndex, indexDigits?_eq_some_iff.2 h, Option.getD_some]

theorem mapM_keyIndex {es : List (String × String)}
    (h : ∀ e ∈ es, ∃ digits, Generated e.1 digits) :
    ∃ ds, (es.mapM fun e => (indexDigits? e.1).map fun ds => (ds, e.2)) = some ds ∧
      (ds.mapM fun e => (readIndex e.1).map fun n => (n, e.2)) =
        es.mapM fun e => (keyIndex e.1).map fun n => (n, e.2) := by
  induction es with
  | nil => exact ⟨[], rfl, rfl⟩
  | cons e es ih =>
    obtain ⟨⟨digits, hd⟩, hes⟩ := List.forall_mem_cons.1 h
    obtain ⟨ds, hds, hns⟩ := ih hes
    refine ⟨(digits, e.2) :: ds, ?_, ?_⟩
    · rw [List.mapM_cons, indexDigits?_eq_some_iff.2 hd, hds]
      rfl
    · rw [List.mapM_cons, List.mapM_cons, keyIndex_of_generated hd, hns]

theorem values?_of_allGenerated {args : OrderedMap String} (h : AllGenerated args) :
    (keyed args).values? =
      (args.entries.mapM fun e => (keyIndex e.1).map fun n => (n, e.2)).map
        fun es => some (byIndex es) := by
  have hes : ∀ e ∈ args.entries, ∃ digits, Generated e.1 digits :=
    fun e he => h.2 e.1 (List.mem_map_of_mem he)
  obtain ⟨ds, hds, hns⟩ := mapM_keyIndex hes
  rw [values?, if_neg h.1, hds, ← hns]

theorem values?_eq_error_iff {raw : RawArgs} {e : IndexError} :
    raw.values? = .error e ↔ raw.Unreadable e := by
  constructor
  · intro h
    cases raw with
    | positional values => cases h
    | keyed args =>
      by_cases hall : AllGenerated args
      · rw [values?_of_allGenerated hall, Outcome.map_eq_error_iff, Outcome.mapM_eq_error_iff] at h
        obtain ⟨before, ⟨key, value⟩, after, hes, hbefore, hkey⟩ := h
        have hgenerated : ∀ b ∈ args.entries, ∃ digits, Generated b.1 digits :=
          fun b hb => hall.2 b.1 (List.mem_map_of_mem hb)
        rw [hes, List.forall_mem_append, List.forall_mem_cons] at hgenerated
        obtain ⟨hgenerated, ⟨digits, hd⟩, -⟩ := hgenerated
        rw [Outcome.map_eq_error_iff, keyIndex_of_generated hd] at hkey
        refine .index hall hes (fun b hb => ?_) hd hkey
        obtain ⟨digits, hd⟩ := hgenerated b hb
        obtain ⟨c, hc⟩ := hbefore b hb
        obtain ⟨n, hn, -⟩ := Outcome.map_eq_ok_iff.1 hc
        rw [keyIndex_of_generated hd] at hn
        exact ⟨digits, n, hd, hn⟩
      · rw [values?_of_keyed hall] at h
        cases h
  · rintro ⟨hall, hes, hbefore, hd, hr⟩
    rw [values?_of_allGenerated hall, Outcome.map_eq_error_iff, Outcome.mapM_eq_error_iff]
    refine ⟨_, _, _, hes, fun b hb => ?_, ?_⟩
    · obtain ⟨digits, n, hd, hn⟩ := hbefore b hb
      rw [keyIndex_of_generated hd, hn]
      exact ⟨(n, b.2), rfl⟩
    · rw [Outcome.map_eq_error_iff, keyIndex_of_generated hd, hr]

theorem exists_unreadable_of_not_readable {raw : RawArgs} (h : ¬ raw.Readable) :
    ∃ e, raw.Unreadable e := by
  cases hv : raw.values? with
  | error e => exact ⟨e, values?_eq_error_iff.1 hv⟩
  | ok o =>
    refine absurd ?_ h
    cases raw with
    | positional values => trivial
    | keyed args =>
      intro hall key hkey digits hd
      rw [values?_of_allGenerated hall, Outcome.map_eq_ok_iff] at hv
      obtain ⟨es, hes, -⟩ := hv
      obtain ⟨e, he, rfl⟩ := List.mem_map.1 hkey
      obtain ⟨b, hb⟩ := Outcome.exists_of_mapM_eq_ok hes e he
      obtain ⟨n, hn, -⟩ := Outcome.map_eq_ok_iff.1 hb
      rw [keyIndex_of_generated hd] at hn
      exact ⟨n, hn⟩

end HttpGateway.RawArgs
