import HttpGateway.Proofs.Number.Whole
import HttpGateway.Proofs.Operation.Lookup

namespace HttpGateway

namespace RawArgs

open HttpGateway.Text

variable {indices : List Nat} {values : List String} {args : OrderedMap String}

theorem isDigitSign_of_isDigit {c : Char} (h : c.isDigit) : isDigitSign c := by
  rw [isDigitSign, isDecimal, digitValue?_of_isDigit h]
  rfl

theorem generated_generatedKey (n : Nat) : Generated (generatedKey n) (Nat.toDigits 10 n) := by
  refine ⟨?_, Nat.toDigits_ne_nil, fun c hc => ?_⟩
  · rw [generatedKey, Whole.text, if_neg (by omega), Int.natAbs_natCast]
  · exact isDigitSign_of_isDigit (Whole.isDigit_of_mem_toDigits hc)

theorem readIndex_toDigits {n : Nat} (h : n < 10 ^ Whole.digitLimit) :
    readIndex (Nat.toDigits 10 n) = .ok n := by
  have hlength : ((Nat.toDigits 10 n).takeWhile isDecimal).length ≤ Whole.digitLimit :=
    Nat.le_trans (List.takeWhile_prefix _).length_le
      ((Nat.length_toDigits_le_iff (by decide) (by decide)).2 h)
  rw [readIndex, if_neg (Nat.not_lt.2 hlength), Whole.digitsValue?_toDigits]

theorem keyIndex_generatedKey {n : Nat} (h : n < 10 ^ Whole.digitLimit) :
    keyIndex (generatedKey n) = .ok n := by
  rw [keyIndex_of_generated (generated_generatedKey n), readIndex_toDigits h]

def place (key : String) : Nat := (keyIndex key).toOption.getD 0

theorem place_generatedKey {n : Nat} (h : n < 10 ^ Whole.digitLimit) :
    place (generatedKey n) = n := by
  rw [place, keyIndex_generatedKey h]
  rfl

def indexed (indices : List Nat) (values : List String) : List (String × String) :=
  (indices.map fun n : Nat => generatedKey n).zip values

theorem map_fst_indexed (hlength : indices.length = values.length) :
    (indexed indices values).map Prod.fst = indices.map fun n : Nat => generatedKey n :=
  List.map_fst_zip (Nat.le_of_eq (by rw [List.length_map, hlength]))

theorem map_snd_indexed (hlength : indices.length = values.length) :
    (indexed indices values).map Prod.snd = values :=
  List.map_snd_zip (Nat.le_of_eq (by rw [List.length_map, hlength]))

theorem map_place_indexed (hlimit : ∀ n ∈ indices, n < 10 ^ Whole.digitLimit)
    (hlength : indices.length = values.length) :
    (indexed indices values).map (fun e => place e.1) = indices :=
  calc (indexed indices values).map (fun e => place e.1)
      = ((indexed indices values).map Prod.fst).map place := by
        rw [List.map_map]
        rfl
    _ = (indices.map fun n : Nat => generatedKey n).map place := by rw [map_fst_indexed hlength]
    _ = indices.map (place ∘ fun n : Nat => generatedKey n) := by rw [List.map_map]
    _ = indices.map id := by
        refine List.map_congr_left fun n hn => ?_
        rw [Function.comp_apply, place_generatedKey (hlimit n hn), id]
    _ = indices := List.map_id indices

theorem sortedBy_indexed (hascending : indices.Pairwise (· < ·))
    (hlimit : ∀ n ∈ indices, n < 10 ^ Whole.digitLimit) (hlength : indices.length = values.length)
    {es : List (String × String)} (hes : es.Perm (indexed indices values)) :
    SortedBy (fun e : String × String => place e.1) es (indexed indices values) := by
  have hplaces := map_place_indexed hlimit hlength
  have hself : SortedBy (fun e : String × String => place e.1) (indexed indices values)
      (indexed indices values) := by
    refine ⟨?_, fun _ => rfl⟩
    rw [← List.pairwise_map (R := (· ≤ ·)), hplaces]
    exact hascending.imp Nat.le_of_lt
  refine hself.of_perm hes.symm ?_
  rw [(hes.map fun e => place e.1).nodup_iff, hplaces]
  exact hascending.imp Nat.ne_of_lt

theorem positional_of_indexed (hascending : indices.Pairwise (· < ·))
    (hlimit : ∀ n ∈ indices, n < 10 ^ Whole.digitLimit) (hlength : indices.length = values.length)
    (hvalues : values ≠ []) (hargs : args.entries.Perm (indexed indices values)) :
    (keyed args).Positional values := by
  have hkeys : ∀ k ∈ args.keys, ∃ n ∈ indices, generatedKey (n : Nat) = k := by
    intro k hk
    have hmem := (hargs.map Prod.fst).mem_iff.1 hk
    rw [map_fst_indexed hlength] at hmem
    exact List.mem_map.1 hmem
  have hall : AllGenerated args := by
    refine ⟨fun hnil => ?_, fun k hk => ?_⟩
    · rw [hnil] at hargs
      rw [← map_snd_indexed hlength, hargs.nil_eq.symm] at hvalues
      exact hvalues rfl
    · obtain ⟨n, -, rfl⟩ := hkeys k hk
      exact ⟨_, generated_generatedKey n⟩
  rw [← map_snd_indexed hlength]
  refine .generated hall (fun k hk => ?_) (sortedBy_indexed hascending hlimit hlength hargs)
  obtain ⟨n, hn, rfl⟩ := hkeys k hk
  refine ⟨_, generated_generatedKey n, ?_⟩
  rw [place_generatedKey (hlimit n hn)]
  exact readIndex_toDigits (hlimit n hn)

end RawArgs

namespace Catalog

theorem firstFit_congr {raw raw' : RawArgs} (h : ∀ names, raw.align names = raw'.align names)
    (i : Nat) (ops : List Operation) : firstFit raw i ops = firstFit raw' i ops := by
  induction ops generalizing i with
  | nil => rfl
  | cons op ops ih => rw [firstFit, firstFit, h, ih]

theorem find_of_positional (c : Catalog) (name : String) {raw raw' : RawArgs} {values : List String}
    (h : raw.Positional values) (h' : raw'.Positional values) : c.find name raw = c.find name raw' := by
  refine firstFit_congr (fun names => ?_) 0 _
  rw [RawArgs.align_of_positional h, RawArgs.align_of_positional h']

theorem Resolves.rekeyed {ops : List Operation} {raw : RawArgs} {values : List String}
    {found : Resolved} (h : Resolves ops raw (some found)) (hraw : raw.Positional values)
    {args : OrderedMap String} (hargs : args.entries.Perm found.args.entries)
    (hkeyed : ¬ RawArgs.AllGenerated args) :
    Resolves ops (.keyed args) (some { found with args }) := by
  have hkeys : ∀ k, k ∈ found.args.keys ↔ k ∈ args.keys := fun k => (hargs.map Prod.fst).symm.mem_iff
  cases h with
  | keyed hargs' => exact absurd hraw.allGenerated hargs'
  | @positional _ values' before op after args' _ hsplit _ hlength hentries =>
    refine .keyed hkeyed ?_ fun k => ?_
    · rw [hsplit, List.getElem?_append_right (Nat.le_refl _), Nat.sub_self]
      rfl
    · rw [← hkeys, OrderedMap.keys, hentries, List.map_fst_zip (Nat.le_of_eq hlength)]

/-- The spellings of some values find the same: listed, or under generated keys whose indices ascend,
with any gaps and in any order of the entries. Keyed by the parameters of the operation that is
found, they find it again, unless generated keys name its parameters. -/
theorem find_spelled_alike {family : String} {providers : List Provider} {c : Catalog}
    {i j : Journal} (hc : (discover family providers).outcomeFrom i = (.ok c, j)) (name : String)
    {values : List String} (hvalues : values ≠ []) :
    ∃ o, c.find name (.positional values) = .ok o ∧
      (∀ (indices : List Nat) (args : OrderedMap String), indices.Pairwise (· < ·) →
        (∀ n ∈ indices, n < 10 ^ Whole.digitLimit) → indices.length = values.length →
        args.entries.Perm (RawArgs.indexed indices values) →
        c.find name (.keyed args) = .ok o) ∧
      ∀ found, o = some found → (∀ p ∈ found.operation.parameterNames, ¬ RawArgs.isGenerated p) →
        ∀ args : OrderedMap String, args.entries.Perm found.args.entries →
          c.find name (.keyed args) = .ok (some { found with args }) ∧
            ∀ k, args.get? k = found.args.get? k := by
  have hops := overloads_of_discover hc name
  have hreadable : RawArgs.Readable (.positional values) := trivial
  obtain ⟨o, ho⟩ := exists_resolves (c.candidates name) hreadable hops
  have hfind : c.find name (.positional values) = .ok o := ho.firstFit hops
  refine ⟨o, hfind, fun indices args hascending hlimit hlength hargs => ?_, ?_⟩
  · have hpositional :=
      RawArgs.positional_of_indexed hascending hlimit hlength hvalues hargs
    rw [← hfind]
    exact find_of_positional c name hpositional (.listed values)
  · rintro found rfl hnames args hargs
    refine ⟨?_, OrderedMap.get?_of_perm hargs⟩
    obtain ⟨-, hperm, hconfigured⟩ := ho.supplies hops
    -- there is a value, so there is a key, and no key of the operation is a generated one
    have hkeyed : ¬ RawArgs.AllGenerated args := by
      rintro ⟨hne, hall⟩
      obtain ⟨e, he⟩ := List.exists_mem_of_ne_nil _ hne
      have hkey : e.1 ∈ args.keys := List.mem_map_of_mem he
      obtain ⟨digits, hdigits⟩ := hall e.1 hkey
      refine hnames e.1 (hperm.mem_iff.1 ((hargs.map Prod.fst).mem_iff.1 hkey)) ?_
      rw [RawArgs.isGenerated, RawArgs.indexDigits?_eq_some_iff.2 hdigits]
      rfl
    exact (ho.rekeyed (.listed values) hargs hkeyed).firstFit hops

end Catalog

namespace Sample

def gapped : OrderedMap String := OrderedMap.ofList [("_genkey_10", "b"), ("_genkey_2", "a")]

def turned : OrderedMap String := OrderedMap.ofList [("regexp", "b"), ("name", "a")]

theorem find_spelled_alike_gapped : ∃ c j op,
    (Catalog.discover "predicate" [headers]).outcomeFrom [] = (.ok c, j) ∧
    c.find "Header" (.positional ["a", "b"]) =
      .ok (some ⟨op, 1, OrderedMap.ofList [("name", "a"), ("regexp", "b")]⟩) ∧
    c.find "Header" (.keyed gapped) =
      .ok (some ⟨op, 1, OrderedMap.ofList [("name", "a"), ("regexp", "b")]⟩) ∧
    c.find "Header" (.keyed turned) = .ok (some ⟨op, 1, turned⟩) := by
  have hc : ∃ c j op, (Catalog.discover "predicate" [headers]).outcomeFrom [] = (.ok c, j) ∧
      op.parameterNames = ["name", "regexp"] ∧ c.find "Header" (.positional ["a", "b"]) =
        .ok (some ⟨op, 1, OrderedMap.ofList [("name", "a"), ("regexp", "b")]⟩) :=
    ⟨_, _, _, rfl, rfl, rfl⟩
  obtain ⟨c, j, op, hc, hnames, hfind⟩ := hc
  obtain ⟨o, ho, hkeyed, hagain⟩ :=
    Catalog.find_spelled_alike hc "Header" (List.cons_ne_nil "a" ["b"])
  obtain rfl := Except.ok.inj (hfind.symm.trans ho)
  have hlimit : ∀ n ∈ [2, 10], n < 10 ^ Whole.digitLimit := by
    have hpow : 10 ^ 2 ≤ 10 ^ Whole.digitLimit := Nat.pow_le_pow_right (by decide) (by decide)
    intro n hn
    rw [List.mem_cons, List.mem_singleton] at hn
    omega
  have hplaces : gapped.entries.Perm (RawArgs.indexed [2, 10] ["a", "b"]) := .swap _ _ _
  have hturned : turned.entries.Perm
      (OrderedMap.ofList [("name", "a"), ("regexp", "b")]).entries := .swap _ _ _
  refine ⟨c, j, op, hc, hfind, hkeyed [2, 10] gapped (by decide) hlimit rfl hplaces, ?_⟩
  refine (hagain _ rfl (fun p hp => ?_) turned hturned).1
  rw [hnames, List.mem_cons, List.mem_singleton] at hp
  rcases hp with rfl | rfl <;> decide

end Sample

end HttpGateway
