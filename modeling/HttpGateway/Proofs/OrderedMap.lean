import HttpGateway.OrderedMap
import Mathlib.Data.List.Forall2
import Mathlib.Data.List.Induction

namespace HttpGateway.OrderedMap

variable {α : Type}

theorem ext_entries {m n : OrderedMap α} (h : m.entries = n.entries) : m = n := by
  cases m
  cases n
  cases h
  rfl

theorem putEntry_of_notMem {k : String} {v : α} {es : List (String × α)}
    (h : k ∉ es.map Prod.fst) : putEntry k v es = es ++ [(k, v)] := by
  induction es with
  | nil => rfl
  | cons e es ih =>
    obtain ⟨k', v'⟩ := e
    rw [List.map_cons, List.mem_cons, not_or] at h
    rw [putEntry, if_neg (Ne.symm h.1), ih h.2, List.cons_append]

theorem keys_putEntry_of_mem {k : String} {v : α} {es : List (String × α)}
    (h : k ∈ es.map Prod.fst) : (putEntry k v es).map Prod.fst = es.map Prod.fst := by
  induction es with
  | nil => cases h
  | cons e es ih =>
    obtain ⟨k', v'⟩ := e
    by_cases hk : k' = k
    · rw [putEntry, if_pos hk, List.map_cons, List.map_cons, hk]
    · rw [List.map_cons, List.mem_cons] at h
      have hes := ih (h.resolve_left (Ne.symm hk))
      rw [putEntry, if_neg hk, List.map_cons, List.map_cons, hes]

theorem putEntry_putEntry (k : String) (v w : α) (es : List (String × α)) :
    putEntry k w (putEntry k v es) = putEntry k w es := by
  induction es with
  | nil => simp [putEntry]
  | cons e es ih =>
    obtain ⟨k', v'⟩ := e
    by_cases hk : k' = k
    · simp [putEntry, hk]
    · simp [putEntry, hk, ih]

theorem filter_putEntry (k : String) (v : α) (es : List (String × α)) :
    (putEntry k v es).filter (·.1 != k) = es.filter (·.1 != k) := by
  induction es with
  | nil => simp [putEntry]
  | cons e es ih =>
    obtain ⟨k', v'⟩ := e
    by_cases hk : k' = k
    · simp [putEntry, hk]
    · simp [putEntry, hk, ih]

theorem insert_insert (m : OrderedMap α) (k : String) (v w : α) :
    (m.insert k v).insert k w = m.insert k w :=
  ext_entries (putEntry_putEntry k v w m.entries)

theorem erase_insert (m : OrderedMap α) (k : String) (v : α) :
    (m.insert k v).erase k = m.erase k :=
  ext_entries (filter_putEntry k v m.entries)

theorem keys_insert (m : OrderedMap α) (k : String) (v : α) :
    (m.insert k v).keys = if k ∈ m.keys then m.keys else m.keys ++ [k] := by
  by_cases h : k ∈ m.keys
  · rw [if_pos h]
    exact keys_putEntry_of_mem h
  · rw [if_neg h]
    change (putEntry k v m.entries).map Prod.fst = m.entries.map Prod.fst ++ [k]
    rw [putEntry_of_notMem h, List.map_append, List.map_singleton]

theorem foldl_insert_of_nodup (m : OrderedMap α) (es : List (String × α))
    (h : ((m.entries ++ es).map Prod.fst).Nodup) :
    (es.foldl (fun m e => m.insert e.1 e.2) m).entries = m.entries ++ es := by
  induction es generalizing m with
  | nil => rw [List.foldl_nil, List.append_nil]
  | cons e es ih =>
    have hnew : e.1 ∉ m.entries.map Prod.fst := by
      intro hm
      rw [List.map_append, List.map_cons] at h
      exact (List.nodup_append.1 h).2.2 e.1 hm e.1 List.mem_cons_self rfl
    have hput : (m.insert e.1 e.2).entries = m.entries ++ [e] := putEntry_of_notMem hnew
    rw [List.foldl_cons, ih, hput, List.append_assoc, List.singleton_append]
    rwa [hput, List.append_assoc, List.singleton_append]

theorem entries_ofList {es : List (String × α)} (h : (es.map Prod.fst).Nodup) :
    (ofList es).entries = es :=
  foldl_insert_of_nodup empty es h

theorem mem_putEntry {k : String} {v : α} {es : List (String × α)} {e : String × α}
    (h : e ∈ putEntry k v es) : e = (k, v) ∨ e ∈ es := by
  induction es with
  | nil => exact .inl (List.mem_singleton.1 h)
  | cons e' es ih =>
    obtain ⟨k', v'⟩ := e'
    by_cases hk : k' = k
    · rw [putEntry, if_pos hk, List.mem_cons] at h
      exact h.imp_right (List.mem_cons_of_mem _)
    · rw [putEntry, if_neg hk, List.mem_cons] at h
      rcases h with rfl | h
      · exact .inr List.mem_cons_self
      · exact (ih h).imp_right (List.mem_cons_of_mem _)

theorem mem_foldl_insert {m : OrderedMap α} {es : List (String × α)} {e : String × α}
    (h : e ∈ (es.foldl (fun m e => m.insert e.1 e.2) m).entries) : e ∈ m.entries ∨ e ∈ es := by
  induction es generalizing m with
  | nil => exact .inl h
  | cons e' es ih =>
    rcases ih h with h | h
    · rcases mem_putEntry h with rfl | h
      · exact .inr List.mem_cons_self
      · exact .inl h
    · exact .inr (List.mem_cons_of_mem e' h)

theorem mem_of_mem_ofList {es : List (String × α)} {e : String × α} (h : e ∈ (ofList es).entries) :
    e ∈ es := by
  rcases mem_foldl_insert h with h | h
  · cases h
  · exact h

theorem get?_foldl_insert (m : OrderedMap α) (es : List (String × α)) (k : String) :
    (es.foldl (fun m e => m.insert e.1 e.2) m).get? k = (es.reverse.lookup k).or (m.get? k) := by
  induction es generalizing m with
  | nil => rfl
  | cons e es ih =>
    rw [List.foldl_cons, ih, get?_insert, List.reverse_cons, List.lookup_append, lookup_cons_eq,
      Option.or_assoc]
    congr 1
    by_cases h : k = e.1
    · rw [if_pos h, if_pos h, Option.some_or]
    · rw [if_neg h, if_neg h, List.lookup_nil, Option.none_or]

theorem get?_ofList (es : List (String × α)) (k : String) :
    (ofList es).get? k = es.reverse.lookup k := by
  have hnone : (empty : OrderedMap α).get? k = none := rfl
  rw [ofList, get?_foldl_insert, hnone, Option.or_none]

theorem keys_ofList (es : List (String × α)) :
    (ofList es).keys = (es.map Prod.fst).eraseDups := by
  induction es using List.reverseRecOn with
  | nil => rfl
  | append_singleton es e ih =>
    have hlast : ofList (es ++ [e]) = (ofList es).insert e.1 e.2 := by
      rw [ofList, List.foldl_append]
      rfl
    rw [hlast, keys_insert, ih, List.map_append, List.eraseDups_append]
    by_cases h : e.1 ∈ es.map Prod.fst
    · simp [h, List.removeAll]
    · simp [h, List.removeAll, List.eraseDups_cons]

theorem lookup_isSome_iff {k : String} {es : List (String × α)} :
    (es.lookup k).isSome ↔ k ∈ es.map Prod.fst := by
  induction es with
  | nil => simp
  | cons e es ih =>
    obtain ⟨k', v⟩ := e
    rw [lookup_cons_eq, List.map_cons, List.mem_cons]
    by_cases h : k = k'
    · simp [h]
    · simp [h, ih]

theorem get?_isSome_iff {m : OrderedMap α} {k : String} : (m.get? k).isSome ↔ k ∈ m.keys :=
  lookup_isSome_iff

theorem get?_eq_none_iff {m : OrderedMap α} {k : String} : m.get? k = none ↔ k ∉ m.keys := by
  rw [← get?_isSome_iff, Option.not_isSome_iff_eq_none]

theorem mem_values_of_get? {m : OrderedMap α} {k : String} {v : α} (h : m.get? k = some v) :
    v ∈ m.values := by
  obtain ⟨before, after, hm, -⟩ := List.lookup_eq_some_iff.1 h
  rw [values, hm]
  simp

theorem eq_of_lookup {es fs : List (String × α)} (hes : (es.map Prod.fst).Nodup)
    (hk : es.map Prod.fst = fs.map Prod.fst)
    (hl : ∀ k ∈ es.map Prod.fst, es.lookup k = fs.lookup k) : es = fs := by
  induction es generalizing fs with
  | nil =>
    cases fs with
    | nil => rfl
    | cons f fs => cases hk
  | cons e es ih =>
    obtain ⟨k, v⟩ := e
    cases fs with
    | nil => cases hk
    | cons f fs =>
      obtain ⟨k', w⟩ := f
      obtain ⟨hkk, hks⟩ := List.cons.inj hk
      cases hkk
      rw [List.map_cons, List.nodup_cons] at hes
      have hv : v = w := by
        have h := hl k List.mem_cons_self
        rwa [lookup_cons_eq, if_pos rfl, lookup_cons_eq, if_pos rfl, Option.some_inj] at h
      have hrest : es = fs := by
        refine ih hes.2 hks fun x hx => ?_
        have hne : x ≠ k := by
          rintro rfl
          exact hes.1 hx
        have h := hl x (List.mem_cons_of_mem k hx)
        rwa [lookup_cons_eq, if_neg hne, lookup_cons_eq, if_neg hne] at h
      rw [hv, hrest]

theorem ext_get? {m n : OrderedMap α} (hk : m.keys = n.keys)
    (h : ∀ k ∈ m.keys, m.get? k = n.get? k) : m = n :=
  ext_entries (eq_of_lookup m.distinct hk h)

theorem get?_map {β : Type} (f : α → β) (m : OrderedMap α) (k : String) :
    (m.map f).get? k = (m.get? k).map f := by
  change (m.entries.map fun e => (e.1, f e.2)).lookup k = (m.entries.lookup k).map f
  induction m.entries with
  | nil => rfl
  | cons e es ih =>
    obtain ⟨k', v⟩ := e
    rw [List.map_cons, lookup_cons_eq, lookup_cons_eq, ih]
    by_cases h : k = k'
    · rw [if_pos h, if_pos h, Option.map_some]
    · rw [if_neg h, if_neg h]

theorem mem_iff_lookup {es : List (String × α)} (hes : (es.map Prod.fst).Nodup) {k : String} {v : α} :
    (k, v) ∈ es ↔ es.lookup k = some v := by
  induction es with
  | nil => simp
  | cons e es ih =>
    obtain ⟨k', v'⟩ := e
    rw [List.map_cons, List.nodup_cons] at hes
    rw [List.mem_cons, lookup_cons_eq, ih hes.2]
    by_cases hk : k = k'
    · subst hk
      have hnone : es.lookup k ≠ some v := fun h =>
        hes.1 (lookup_isSome_iff.1 (Option.isSome_iff_exists.2 ⟨v, h⟩))
      simp [hnone, eq_comm]
    · simp [hk]

theorem get?_of_perm {m n : OrderedMap α} (h : m.entries.Perm n.entries) (k : String) :
    m.get? k = n.get? k := by
  refine Option.ext fun v => ?_
  change m.entries.lookup k = some v ↔ n.entries.lookup k = some v
  rw [← mem_iff_lookup m.distinct, ← mem_iff_lookup n.distinct, h.mem_iff]

section Related

variable {β : Type} {R : α → β → Prop}

def RelatedEntries (R : α → β → Prop) (e : String × α) (f : String × β) : Prop :=
  e.1 = f.1 ∧ R e.2 f.2

def Related (R : α → β → Prop) (m : OrderedMap α) (n : OrderedMap β) : Prop :=
  List.Forall₂ (RelatedEntries R) m.entries n.entries

theorem map_fst_of_forall₂ {es : List (String × α)} {fs : List (String × β)}
    (h : List.Forall₂ (RelatedEntries R) es fs) : es.map Prod.fst = fs.map Prod.fst := by
  induction h with
  | nil => rfl
  | cons hef _ ih => rw [List.map_cons, List.map_cons, hef.1, ih]

theorem forall₂_putEntry {k : String} {v : α} {w : β} {es : List (String × α)}
    {fs : List (String × β)} (hv : R v w) (h : List.Forall₂ (RelatedEntries R) es fs) :
    List.Forall₂ (RelatedEntries R) (putEntry k v es) (putEntry k w fs) := by
  induction h with
  | nil => exact .cons ⟨rfl, hv⟩ .nil
  | @cons e f es fs hef hrest ih =>
    obtain ⟨x, a⟩ := e
    obtain ⟨y, b⟩ := f
    obtain ⟨hkey, hab⟩ := hef
    cases hkey
    by_cases hk : x = k
    · rw [putEntry, putEntry, if_pos hk, if_pos hk]
      exact .cons ⟨rfl, hv⟩ hrest
    · rw [putEntry, putEntry, if_neg hk, if_neg hk]
      exact .cons ⟨rfl, hab⟩ ih

theorem rel_lookup {es : List (String × α)} {fs : List (String × β)}
    (h : List.Forall₂ (RelatedEntries R) es fs) (k : String) :
    Option.Rel R (es.lookup k) (fs.lookup k) := by
  induction h with
  | nil => exact .none
  | @cons e f es fs hef _ ih =>
    rw [lookup_cons_eq, lookup_cons_eq, ← hef.1]
    by_cases hk : k = e.1
    · rw [if_pos hk, if_pos hk]
      exact .some hef.2
    · rw [if_neg hk, if_neg hk]
      exact ih

namespace Related

variable {m : OrderedMap α} {n : OrderedMap β}

theorem insert (h : Related R m n) (k : String) {v : α} {w : β} (hv : R v w) :
    Related R (m.insert k v) (n.insert k w) :=
  forall₂_putEntry hv h

theorem keys (h : Related R m n) : m.keys = n.keys := map_fst_of_forall₂ h

theorem values (h : Related R m n) : List.Forall₂ R m.values n.values :=
  List.rel_map (fun _ _ he => he.2) h

theorem get? (h : Related R m n) (k : String) : Option.Rel R (m.get? k) (n.get? k) :=
  rel_lookup h k

end Related

theorem related_ofList {es : List (String × α)} {fs : List (String × β)}
    (h : List.Forall₂ (RelatedEntries R) es fs) : Related R (ofList es) (ofList fs) := by
  have hempty : Related R empty empty := .nil
  refine List.rel_foldl (fun m n hmn e f hef => ?_) hempty h
  rw [hef.1]
  exact hmn.insert f.1 hef.2

end Related

end HttpGateway.OrderedMap
