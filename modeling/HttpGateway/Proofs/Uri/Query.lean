import HttpGateway.Proofs.OrderedMap
import HttpGateway.Proofs.Uri.Settled
import HttpGateway.Uri.Query
import Mathlib.Data.Bool.AllAny

/-!
Queries as they are written for parameters: each name and each value is read back as it was, and the
values of a name come together at the place of the first one. So parameters survive being written,
however many edits come one after the other.
-/

namespace HttpGateway.Uri.Params

open HttpGateway.Text

variable {ps : Params} {name x : String} {values : List String}

section Texts

def encodeSign (c : Char) : List Char :=
  if c = ' ' then ['+'] else if isUnreserved c then [c] else escapeChar c

theorem encodeText_eq (s : String) : encodeText s = s.toList.flatMap encodeSign := rfl

theorem isUnreserved_signs : ∀ n < 128, isUnreserved (Char.ofNat n) →
    querySafe (Char.ofNat n) ∧ Char.ofNat n ∉ ['+', '&', '=', '%', ' '] := by
  decide

theorem facts_of_isUnreserved {c : Char} (h : isUnreserved c) :
    querySafe c ∧ c ∉ ['+', '&', '=', '%', ' '] := by
  have hascii : c.toNat < 128 := by
    simp only [isUnreserved, Bool.or_eq_true, beq_iff_eq] at h
    rcases h with (((h | rfl) | rfl) | rfl) | rfl
    · exact isAlphanum_ascii h
    all_goals decide
  exact forall_ascii (P := fun c => isUnreserved c → querySafe c ∧ c ∉ ['+', '&', '=', '%', ' '])
    isUnreserved_signs hascii h

theorem signs_of_mem_encodeText {s : String} {c : Char} (h : c ∈ encodeText s) :
    querySafe c ∧ c ≠ '&' ∧ c ≠ '=' := by
  have hsigns : ∀ d ∈ escapeSigns, querySafe d ∧ d ≠ '&' ∧ d ≠ '=' :=
    List.all_iff_forall_prop.1 (by decide)
  rw [encodeText_eq, List.mem_flatMap] at h
  obtain ⟨d, -, hd⟩ := h
  rw [encodeSign] at hd
  split at hd
  · rw [List.mem_singleton.1 hd]
    decide
  · split at hd
    · rw [List.mem_singleton.1 hd]
      have hfacts := facts_of_isUnreserved ‹_›
      simp only [List.mem_cons, not_or] at hfacts
      exact ⟨hfacts.1, hfacts.2.2.1, hfacts.2.2.2.1⟩
    · exact hsigns c (mem_escapeChar hd)

def spaced (c : Char) : Char := if c = '+' then ' ' else c

theorem map_spaced_encodeText (s : String) :
    (encodeText s).map spaced = escape (fun c => isUnreserved c || c == ' ') s.toList := by
  have hsigns : ∀ d ∈ escapeSigns, spaced d = d := List.all_iff_forall_prop.1 (by decide)
  rw [encodeText_eq, List.map_flatMap, escape]
  refine List.flatMap_congr fun c _ => ?_
  rw [encodeSign]
  by_cases hspace : c = ' '
  · simp [hspace, spaced]
  · rw [if_neg hspace]
    by_cases hc : isUnreserved c
    · have hfacts := facts_of_isUnreserved hc
      simp only [List.mem_cons, not_or] at hfacts
      simp [hc, spaced, hfacts.2.1]
    · have hself : (escapeChar c).map spaced = escapeChar c :=
        List.map_congr_left (fun d hd => hsigns d (mem_escapeChar hd)) |>.trans (List.map_id _)
      simp [hc, hspace, hself]

theorem decodeText_encodeText (s : String) : decodeText (encodeText s) = s := by
  have hpercent : ¬ (isUnreserved '%' || '%' == ' ') := by decide
  have hmap : (encodeText s).map (fun c => if c = '+' then ' ' else c) =
      escape (fun c => isUnreserved c || c == ' ') s.toList :=
    map_spaced_encodeText s
  rw [decodeText, hmap, unescape, String.toList_ofList, unescapeBytes_escape_of_percent hpercent,
    readUtf8_utf8, String.ofList_toList]

theorem readPair_encodePair (p : String × String) : readPair (encodePair p) = p := by
  have hname : '=' ∉ encodeText p.1 := fun hmem => (signs_of_mem_encodeText hmem).2.2 rfl
  rw [readPair, encodePair, cut_append hname]
  simp [decodeText_encodeText]

theorem signs_of_mem_encodePair {p : String × String} {c : Char} (h : c ∈ encodePair p) :
    querySafe c ∧ c ≠ '&' := by
  rw [encodePair, List.mem_append, List.mem_cons] at h
  rcases h with h | rfl | h
  · exact ⟨(signs_of_mem_encodeText h).1, (signs_of_mem_encodeText h).2.1⟩
  · decide
  · exact ⟨(signs_of_mem_encodeText h).1, (signs_of_mem_encodeText h).2.1⟩

theorem querySafe_of_mem_text {c : Char} (h : c ∈ ps.text.toList) : querySafe c := by
  rw [text, String.toList_ofList] at h
  rcases mem_joinBy h with rfl | ⟨p, hp, hc⟩
  · decide
  · obtain ⟨pair, -, rfl⟩ := List.mem_map.1 hp
    exact (signs_of_mem_encodePair hc).1

end Texts

section Groups

def Grouped (ps : Params) : Prop := ∀ e ∈ ps.entries, e.2 ≠ []

theorem grouped_empty : Grouped {} := List.forall_mem_nil _

theorem Grouped.add (h : ps.Grouped) (name value : String) : (ps.add name value).Grouped := by
  intro e he
  rcases OrderedMap.mem_putEntry he with rfl | he
  · simp
  · exact h e he

theorem Grouped.addAll (h : ps.Grouped) (name : String) (values : List String) :
    (ps.addAll name values).Grouped := by
  induction values generalizing ps with
  | nil => exact h
  | cons v values ih => exact ih (h.add name v)

theorem Grouped.erase (h : ps.Grouped) (name : String) : Grouped (OrderedMap.erase ps name) :=
  fun e he => h e (List.mem_filter.1 he).1

theorem grouped_ofPairs (pairs : List (String × String)) : (ofPairs pairs).Grouped := by
  have hfold : ∀ ps : Params, ps.Grouped →
      (pairs.foldl (fun ps p => ps.add p.1 p.2) ps).Grouped := by
    induction pairs with
    | nil => exact fun ps h => h
    | cons p pairs ih => exact fun ps h => ih (ps.add p.1 p.2) (h.add p.1 p.2)
  exact hfold {} grouped_empty

theorem addAll_of_ne_nil (ps : Params) (name : String) (hne : values ≠ []) :
    ps.addAll name values = OrderedMap.insert ps name (ps.valuesOf name ++ values) := by
  induction values generalizing ps with
  | nil => exact absurd rfl hne
  | cons v values ih =>
    by_cases hvalues : values = []
    · rw [hvalues]
      rfl
    · have hold : (ps.add name v).valuesOf name = ps.valuesOf name ++ [v] := by
        rw [valuesOf, add, OrderedMap.alter, OrderedMap.get?_insert, if_pos rfl]
        rfl
      have hstep : ps.addAll name (v :: values) = (ps.add name v).addAll name values := rfl
      rw [hstep, ih (ps.add name v) hvalues, hold, List.append_assoc, List.singleton_append, add,
        OrderedMap.alter, OrderedMap.insert_insert]

theorem addAll_addAll (ps : Params) (name : String) (first second : List String) :
    (ps.addAll name first).addAll name second = ps.addAll name (first ++ second) :=
  List.foldl_append.symm

theorem valuesOf_addAll (ps : Params) (name : String) (values : List String) :
    (ps.addAll name values).valuesOf name = ps.valuesOf name ++ values := by
  by_cases hvalues : values = []
  · rw [hvalues, List.append_nil]
    rfl
  · rw [addAll_of_ne_nil ps name hvalues, valuesOf, OrderedMap.get?_insert, if_pos rfl]
    rfl

theorem get?_addAll_of_ne (hx : x ≠ name) (values : List String) :
    (ps.addAll name values).get? x = ps.get? x := by
  by_cases hvalues : values = []
  · rw [hvalues]
    rfl
  · rw [addAll_of_ne_nil ps name hvalues, OrderedMap.get?_insert, if_neg hx]

theorem erase_addAll (ps : Params) (name : String) (values : List String) :
    OrderedMap.erase (ps.addAll name values) name = OrderedMap.erase ps name := by
  by_cases hvalues : values = []
  · rw [hvalues]
    rfl
  · rw [addAll_of_ne_nil ps name hvalues, OrderedMap.erase_insert]

theorem entries_addAll_of_new (hnew : name ∉ ps.keys) (hne : values ≠ []) :
    (ps.addAll name values).entries = ps.entries ++ [(name, values)] := by
  have hnone : ps.valuesOf name = [] := by rw [valuesOf, OrderedMap.get?_eq_none_iff.2 hnew]; rfl
  rw [addAll_of_ne_nil ps name hne, hnone, List.nil_append]
  exact OrderedMap.putEntry_of_notMem hnew

theorem foldl_pairs (es : List (String × List String)) (ps : Params) :
    (es.flatMap fun e => e.2.map fun v => (e.1, v)).foldl (fun ps p => ps.add p.1 p.2) ps =
      es.foldl (fun ps e => ps.addAll e.1 e.2) ps := by
  induction es generalizing ps with
  | nil => rfl
  | cons e es ih =>
    rw [List.flatMap_cons, List.foldl_append, ih, List.foldl_map]
    rfl

theorem entries_foldl_addAll (ps : Params) {es : List (String × List String)}
    (hne : ∀ e ∈ es, e.2 ≠ []) (hnodup : ((ps.entries ++ es).map Prod.fst).Nodup) :
    (es.foldl (fun ps e => ps.addAll e.1 e.2) ps).entries = ps.entries ++ es := by
  induction es generalizing ps with
  | nil => rw [List.foldl_nil, List.append_nil]
  | cons e es ih =>
    obtain ⟨hvalues, hne⟩ := List.forall_mem_cons.1 hne
    have hnew : e.1 ∉ ps.keys := by
      intro hmem
      rw [List.map_append, List.map_cons] at hnodup
      exact (List.nodup_append.1 hnodup).2.2 e.1 hmem e.1 List.mem_cons_self rfl
    have hentries : (ps.addAll e.1 e.2).entries = ps.entries ++ [e] :=
      entries_addAll_of_new hnew hvalues
    rw [List.foldl_cons, ih _ hne, hentries, List.append_assoc, List.singleton_append]
    rwa [hentries, List.append_assoc, List.singleton_append]

theorem ofPairs_pairs (h : ps.Grouped) : ofPairs ps.pairs = ps := by
  apply OrderedMap.ext_entries
  rw [ofPairs, pairs, foldl_pairs]
  exact entries_foldl_addAll {} h ps.distinct

end Groups

theorem ofQuery_eq (query : String) :
    ofQuery query = ofPairs ((runs '&' query.toList).map readPair) := rfl

theorem grouped_ofQuery (query : String) : (ofQuery query).Grouped := grouped_ofPairs _

theorem ofQuery_text (h : ps.Grouped) : ofQuery ps.text = ps := by
  have hpieces : ∀ p ∈ ps.pairs.map encodePair, p ≠ [] ∧ '&' ∉ p := by
    refine List.forall_mem_map.2 fun p _ => ⟨by simp [encodePair], fun hmem => ?_⟩
    exact (signs_of_mem_encodePair hmem).2 rfl
  have hread : ∀ pairs : List (String × String), (pairs.map encodePair).map readPair = pairs := by
    intro pairs
    rw [List.map_map]
    exact (List.map_congr_left fun p _ => readPair_encodePair p).trans (List.map_id pairs)
  rw [ofQuery_eq, text, String.toList_ofList, runs_joinBy hpieces, hread, ofPairs_pairs h]

end HttpGateway.Uri.Params
