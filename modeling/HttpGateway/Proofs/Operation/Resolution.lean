import HttpGateway.Proofs.Operation.Arguments
import HttpGateway.Proofs.Provider.Discovery
import Mathlib.Data.List.Perm.Subperm

namespace HttpGateway

theorem Operation.matchesKeys_iff {op : Operation} {keys : List String}
    (hop : op.parameterNames.Nodup) (hkeys : keys.Nodup) :
    op.matchesKeys keys ↔ op.TakesKeys keys := by
  rw [matchesKeys, Bool.and_eq_true, beq_iff_eq, List.all_eq_true]
  constructor
  · rintro ⟨hlength, hall⟩ k
    have hsub : keys ⊆ op.parameterNames := fun k hk => List.contains_iff_mem.1 (hall k hk)
    have hperm := (hkeys.subperm hsub).perm_of_length_le (Nat.le_of_eq hlength)
    exact hperm.mem_iff.symm
  · intro h
    refine ⟨((List.perm_ext_iff_of_nodup hop hkeys).2 h).length_eq, fun k hk => ?_⟩
    exact List.contains_iff_mem.2 ((h k).2 hk)

namespace Catalog

inductive Resolves (ops : List Operation) : RawArgs → Option Resolved → Prop
  | keyed {args op position} : ¬ RawArgs.AllGenerated args → ops[position]? = some op →
      op.TakesKeys args.keys → Resolves ops (.keyed args) (some ⟨op, position, args⟩)
  | unkeyed {args} : ¬ RawArgs.AllGenerated args →
      (∀ op ∈ ops, ¬ op.TakesKeys args.keys) → Resolves ops (.keyed args) none
  | positional {raw values before op after args} : raw.Positional values →
      ops = before ++ op :: after →
      (∀ earlier ∈ before, earlier.parameterNames.length ≠ values.length) →
      op.parameterNames.length = values.length → args.entries = op.parameterNames.zip values →
      Resolves ops raw (some ⟨op, before.length, args⟩)
  | unplaced {raw values} : raw.Positional values →
      (∀ op ∈ ops, op.parameterNames.length ≠ values.length) → Resolves ops raw none

/-- Operations of one name, as a catalog keeps them: no name of a parameter comes twice, and no two
operations have the same ones. -/
structure Overloads (ops : List Operation) : Prop where
  nodup : ∀ op ∈ ops, op.parameterNames.Nodup
  distinct : ops.Pairwise fun a b => ¬ a.TakesKeys b.parameterNames

theorem Overloads.position_unique {ops : List Operation} (h : Overloads ops) {i j : Nat}
    {a b : Operation} {keys : List String} (hi : ops[i]? = some a) (hj : ops[j]? = some b)
    (ha : a.TakesKeys keys) (hb : b.TakesKeys keys) : i = j := by
  obtain ⟨hil, rfl⟩ := List.getElem?_eq_some_iff.1 hi
  obtain ⟨hjl, rfl⟩ := List.getElem?_eq_some_iff.1 hj
  have hpairs := List.pairwise_iff_getElem.1 h.distinct
  rcases Nat.lt_trichotomy i j with hij | hij | hij
  · exact absurd (fun k => (ha k).trans (hb k).symm) (hpairs i j hil hjl hij)
  · exact hij
  · exact absurd (fun k => (hb k).trans (ha k).symm) (hpairs j i hjl hil hij)

def Missed (raw : RawArgs) (op : Operation) : Prop :=
  raw.align op.parameterNames = .ok none ∨
    ∃ args, raw.align op.parameterNames = .ok (some args) ∧ op.matchesKeys args.keys = false

theorem firstFit_append {raw : RawArgs} {before : List Operation} (h : ∀ op ∈ before, Missed raw op)
    (i : Nat) (after : List Operation) :
    firstFit raw i (before ++ after) = firstFit raw (i + before.length) after := by
  induction before generalizing i with
  | nil => rfl
  | cons op before ih =>
    have hrest := ih (fun o ho => h o (List.mem_cons_of_mem op ho)) (i + 1)
    have hlength : i + 1 + before.length = i + (op :: before).length := by
      rw [List.length_cons]
      omega
    rw [hlength] at hrest
    rw [List.cons_append, firstFit, ← hrest]
    rcases h op List.mem_cons_self with ha | ⟨args, ha, hm⟩
    · rw [ha]
    · rw [ha]
      simp only [hm, Bool.false_eq_true, if_false]

theorem firstFit_cons {raw : RawArgs} {op : Operation} {args : OrderedMap String}
    (ha : raw.align op.parameterNames = .ok (some args)) (hm : op.matchesKeys args.keys) (i : Nat)
    (after : List Operation) : firstFit raw i (op :: after) = .ok (some ⟨op, i, args⟩) := by
  rw [firstFit, ha]
  exact if_pos hm

theorem missed_of_length {raw : RawArgs} {values : List String} (hraw : raw.Positional values)
    {op : Operation} (h : op.parameterNames.length ≠ values.length) : Missed raw op := by
  refine .inl ?_
  rw [RawArgs.align_of_positional hraw, if_neg (Ne.symm h)]

theorem Overloads.missed_of_keys {ops : List Operation} (h : Overloads ops)
    {args : OrderedMap String} (hargs : ¬ RawArgs.AllGenerated args) {op : Operation}
    (hop : op ∈ ops) (hk : ¬ op.TakesKeys args.keys) : Missed (.keyed args) op := by
  have hm : ¬ op.matchesKeys args.keys := fun hm =>
    hk ((Operation.matchesKeys_iff (h.nodup op hop) args.distinct).1 hm)
  exact .inr ⟨args, RawArgs.align_of_keyed hargs _, Bool.eq_false_iff.2 hm⟩

theorem firstFit_of_missed {raw : RawArgs} {ops : List Operation} (h : ∀ op ∈ ops, Missed raw op) :
    firstFit raw 0 ops = .ok none := by
  have hrun := firstFit_append h 0 []
  rw [List.append_nil] at hrun
  rw [hrun, firstFit]

theorem firstFit_of_split {raw : RawArgs} {before : List Operation} {op : Operation}
    {args : OrderedMap String} (h : ∀ earlier ∈ before, Missed raw earlier)
    (ha : raw.align op.parameterNames = .ok (some args)) (hm : op.matchesKeys args.keys)
    (after : List Operation) :
    firstFit raw 0 (before ++ op :: after) = .ok (some ⟨op, before.length, args⟩) := by
  rw [firstFit_append h, firstFit_cons ha hm, Nat.zero_add]

theorem Resolves.firstFit {ops : List Operation} {raw : RawArgs} {o : Option Resolved}
    (h : Resolves ops raw o) (hops : Overloads ops) : firstFit raw 0 ops = .ok o := by
  cases h with
  | @keyed args op position hargs hop hkeys =>
    obtain ⟨hlt, hget⟩ := List.getElem?_eq_some_iff.1 hop
    have hsplit : ops = ops.take position ++ op :: ops.drop (position + 1) := by
      rw [← hget, List.getElem_cons_drop, List.take_append_drop]
    have hlength : (ops.take position).length = position := by
      rw [List.length_take]
      omega
    have hbefore : ∀ earlier ∈ ops.take position, Missed (.keyed args) earlier := by
      intro earlier he
      obtain ⟨i, hi, hearlier⟩ := List.mem_take_iff_getElem.1 he
      refine hops.missed_of_keys hargs (List.mem_of_mem_take he) fun hk => ?_
      have hi := List.getElem?_eq_some_iff.2 ⟨_, hearlier⟩
      have hposition := hops.position_unique hi hop hk hkeys
      omega
    have hm := (Operation.matchesKeys_iff (hops.nodup op (List.mem_of_getElem? hop))
      args.distinct).2 hkeys
    have hrun := firstFit_of_split hbefore (RawArgs.align_of_keyed hargs op.parameterNames) hm
      (ops.drop (position + 1))
    rwa [← hsplit, hlength] at hrun
  | @unkeyed args hargs hkeys =>
    exact firstFit_of_missed fun op hop => hops.missed_of_keys hargs hop (hkeys op hop)
  | @positional raw values before op after args hraw hsplit hbefore hlength hentries =>
    have hzip : (op.parameterNames.zip values).map Prod.fst = op.parameterNames :=
      List.map_fst_zip (Nat.le_of_eq hlength)
    have hop : op ∈ ops := by
      rw [hsplit]
      exact List.mem_append_right before List.mem_cons_self
    have hargs : OrderedMap.ofList (op.parameterNames.zip values) = args := by
      refine OrderedMap.ext_entries ?_
      rw [hentries]
      refine OrderedMap.entries_ofList ?_
      rw [hzip]
      exact hops.nodup op hop
    have ha : raw.align op.parameterNames = .ok (some args) := by
      rw [RawArgs.align_of_positional hraw, if_pos hlength.symm, hargs]
    have hkeys : args.keys = op.parameterNames := by
      rw [OrderedMap.keys, hentries, hzip]
    have hm := (Operation.matchesKeys_iff (hops.nodup op hop) args.distinct).2 fun k => by
      change _ ↔ k ∈ args.keys
      rw [hkeys]
    have hmissed : ∀ earlier ∈ before, Missed raw earlier :=
      fun earlier he => missed_of_length hraw (hbefore earlier he)
    rw [hsplit]
    exact firstFit_of_split hmissed ha hm after
  | @unplaced raw values hraw hlength =>
    exact firstFit_of_missed fun op hop => missed_of_length hraw (hlength op hop)

theorem exists_resolves (ops : List Operation) {raw : RawArgs} (hraw : raw.Readable)
    (hops : Overloads ops) : ∃ o, Resolves ops raw o := by
  rcases RawArgs.positional_or_keyed hraw with ⟨values, hvalues⟩ | ⟨args, rfl, hargs⟩
  · cases hf : ops.find? fun op => op.parameterNames.length = values.length with
    | none =>
      refine ⟨none, .unplaced hvalues fun op hop => ?_⟩
      simpa using List.find?_eq_none.1 hf op hop
    | some op =>
      obtain ⟨hlength, before, after, hsplit, hbefore⟩ := List.find?_eq_some_iff_append.1 hf
      have hl : op.parameterNames.length = values.length := by simpa using hlength
      have hzip : (op.parameterNames.zip values).map Prod.fst = op.parameterNames :=
        List.map_fst_zip (Nat.le_of_eq hl)
      have hop : op ∈ ops := List.mem_of_find?_eq_some hf
      refine ⟨some ⟨op, before.length, op.parameterNames.zip values, ?_⟩, .positional hvalues hsplit
        (fun earlier he => by simpa using hbefore earlier he) hl rfl⟩
      rw [hzip]
      exact hops.nodup op hop
  · by_cases hex : ∃ op ∈ ops, op.TakesKeys args.keys
    · obtain ⟨op, hop, hkeys⟩ := hex
      obtain ⟨position, hposition⟩ := List.mem_iff_getElem?.1 hop
      exact ⟨_, .keyed hargs hposition hkeys⟩
    · exact ⟨none, .unkeyed hargs fun op hop hkeys => hex ⟨op, hop, hkeys⟩⟩

theorem overloads_candidates {c : Catalog} {fs : List Finding} (hfs : Finding.Clear fs)
    (hc : c.Groups (Finding.offers fs))
    (hnodup : ∀ op ∈ Finding.offers fs, op.parameterNames.Nodup) (name : String) :
    Overloads (c.candidates name) := by
  rw [hc.candidates]
  refine ⟨fun op hop => hnodup op (List.mem_of_mem_filter hop), ?_⟩
  refine (hfs.pairwise_offers.filter _).imp_of_mem fun {a b} ha hb h => ?_
  have han : a.name = OperationName.normal name := by simpa using (List.mem_filter.1 ha).2
  have hbn : b.name = OperationName.normal name := by simpa using (List.mem_filter.1 hb).2
  exact h (han.trans hbn.symm)

/-- In a catalog that discovery made, configured arguments choose one operation or none, and lookup
finds what they choose. -/
theorem find_eq_resolution {family : String} {providers : List Provider} {c : Catalog}
    {i j : Journal} (hc : (discover family providers).outcomeFrom i = (.ok c, j)) (name : String)
    {raw : RawArgs} (hraw : raw.Readable) :
    c.candidates name =
        (Finding.offers (findings family providers)).filter (·.name = OperationName.normal name) ∧
      (∀ (keys : List String) (m n : Nat) (a b : Operation), (c.candidates name)[m]? = some a →
        (c.candidates name)[n]? = some b → a.TakesKeys keys → b.TakesKeys keys → m = n) ∧
      ∃ o, c.find name raw = .ok o ∧ ∀ o', Resolves (c.candidates name) raw o' ↔ o' = o := by
  have hd := discovered_discover family providers i
  rw [hc] at hd
  obtain ⟨hclear, hgroups⟩ := hd.of_ok
  have hops : Overloads (c.candidates name) := by
    refine overloads_candidates hclear hgroups (fun op hop => ?_) name
    obtain ⟨p, -, hp⟩ := List.mem_flatMap.1 (Finding.mem_offers.1 hop)
    exact Provider.nodup_parameterNames hp
  refine ⟨hgroups.candidates name, ?_, ?_⟩
  · intro keys m n a b hm hn ha hb
    exact hops.position_unique hm hn ha hb
  · obtain ⟨o, ho⟩ := exists_resolves (c.candidates name) hraw hops
    refine ⟨o, ho.firstFit hops, fun o' => ⟨fun h => ?_, ?_⟩⟩
    · have heq := (h.firstFit hops).symm.trans (ho.firstFit hops)
      cases heq
      rfl
    · rintro rfl
      exact ho

end Catalog

namespace Sample

def parameter (name : String) : Formal := ⟨name, .unwritten, false, .ordinary⟩

def marked (parameters : List String) (name : Value) : Member :=
  .method ⟨parameters.map parameter, [⟨name, {}⟩], false, fun _ _ => return .value .null, none⟩

def headers : Provider :=
  ⟨⟨⟨1, "Headers", some "headers", some "predicate", OrderedMap.ofList
      [("header", marked ["name"] .null),
        ("matching", marked ["name", "regexp"] (.text "Header"))]⟩,
    ProviderClass.root.layers⟩, .empty⟩

def swapped : OrderedMap String := OrderedMap.ofList [("_genkey_1", "b"), ("_genkey_0", "a")]

def index (key : String) : Nat := if key = "_genkey_1" then 1 else 0

theorem index_swapped : ∀ k ∈ swapped.keys, ∃ digits, RawArgs.Generated k digits ∧
    RawArgs.readIndex digits = .ok (index k) := by
  intro k hk
  have hkeys : swapped.keys = ["_genkey_1", "_genkey_0"] := by rfl
  rw [hkeys, List.mem_cons, List.mem_singleton] at hk
  rcases hk with rfl | rfl
  · exact ⟨['1'], RawArgs.indexDigits?_eq_some_iff.1 (by decide), by decide⟩
  · exact ⟨['0'], RawArgs.indexDigits?_eq_some_iff.1 (by decide), by decide⟩

theorem readable_swapped : (RawArgs.keyed swapped).Readable := by
  intro _ k hk digits hd
  obtain ⟨digits', hd', hn⟩ := index_swapped k hk
  rw [hd.unique hd']
  exact ⟨index k, hn⟩

theorem positional_swapped : (RawArgs.keyed swapped).Positional ["a", "b"] := by
  have hall : RawArgs.AllGenerated swapped := by
    refine ⟨by decide, fun k hk => ?_⟩
    obtain ⟨digits, hd, -⟩ := index_swapped k hk
    exact ⟨digits, hd⟩
  have hsorted : SortedBy (fun e : String × String => index e.1) swapped.entries
      [("_genkey_0", "a"), ("_genkey_1", "b")] := by
    refine ⟨by decide, fun k => ?_⟩
    have hentries : swapped.entries = [("_genkey_1", "b"), ("_genkey_0", "a")] := by rfl
    have h₀ : index "_genkey_0" = 0 := by rfl
    have h₁ : index "_genkey_1" = 1 := by rfl
    rw [hentries]
    by_cases hk : 0 = k
    · simp [← hk, h₀, h₁]
    · simp [hk, h₀, h₁, List.filter_cons]
  exact .generated hall index_swapped hsorted

theorem find_swapped : ∃ c j op,
    (Catalog.discover "predicate" [headers]).outcomeFrom [] = (.ok c, j) ∧
    (RawArgs.keyed swapped).Readable ∧ op.parameterNames = ["name", "regexp"] ∧
    c.find "Header" (.keyed swapped) =
      .ok (some ⟨op, 1, OrderedMap.ofList [("name", "a"), ("regexp", "b")]⟩) := by
  have hc : ∃ c j a b, (Catalog.discover "predicate" [headers]).outcomeFrom [] = (.ok c, j) ∧
      c.candidates "Header" = [a, b] ∧ a.parameterNames = ["name"] ∧
      b.parameterNames = ["name", "regexp"] := ⟨_, _, _, _, rfl, rfl, rfl, rfl⟩
  obtain ⟨c, j, a, b, hc, hcandidates, ha, hb⟩ := hc
  obtain ⟨-, -, o, ho, hall⟩ := Catalog.find_eq_resolution hc "Header" readable_swapped
  have hresolves : Catalog.Resolves ([a] ++ b :: []) (.keyed swapped)
      (some ⟨b, 1, OrderedMap.ofList [("name", "a"), ("regexp", "b")]⟩) := by
    refine .positional positional_swapped rfl (fun earlier he => ?_) ?_ ?_
    · rw [List.mem_singleton.1 he, ha]
      decide
    · rw [hb]
      rfl
    · rw [hb]
      rfl
  rw [hcandidates] at hall
  rw [← (hall _).1 hresolves] at ho
  exact ⟨c, j, b, hc, readable_swapped, hb, ho⟩

end Sample

end HttpGateway
