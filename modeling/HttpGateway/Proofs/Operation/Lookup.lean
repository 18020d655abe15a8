import HttpGateway.Proofs.Operation.Resolution

namespace HttpGateway

def RawArgs.configured : RawArgs → List String
  | keyed args => args.values
  | positional values => values

theorem RawArgs.Positional.perm_configured {raw : RawArgs} {values : List String}
    (h : raw.Positional values) : values.Perm raw.configured := by
  cases h with
  | listed => exact .refl _
  | bare => exact .refl _
  | generated _ _ hsorted => exact hsorted.perm.map Prod.snd

theorem RawArgs.align_of_unreadable {raw : RawArgs} {e : IndexError} (h : raw.Unreadable e)
    (names : List String) : raw.align names = .error e := by
  rw [align, values?_eq_error_iff.2 h]
  rfl

theorem Operation.TakesKeys.perm {op : Operation} {keys : List String} (h : op.TakesKeys keys)
    (hop : op.parameterNames.Nodup) (hkeys : keys.Nodup) : keys.Perm op.parameterNames :=
  (List.perm_ext_iff_of_nodup hkeys hop).2 fun k => (h k).symm

theorem RawArgs.Positional.readable {raw : RawArgs} {values : List String}
    (h : raw.Positional values) : raw.Readable := by
  cases h with
  | listed => trivial
  | bare => trivial
  | generated _ hindex _ =>
    intro _ k hk digits hd
    obtain ⟨digits', hd', hn⟩ := hindex k hk
    rw [hd.unique hd']
    exact ⟨_, hn⟩

theorem RawArgs.Positional.unique {raw : RawArgs} {values values' : List String}
    (h : raw.Positional values) (h' : raw.Positional values') : values = values' := by
  have heq := (values?_of_positional h).symm.trans (values?_of_positional h')
  cases heq
  rfl

theorem RawArgs.Positional.allGenerated {args : OrderedMap String} {values : List String}
    (h : (RawArgs.keyed args).Positional values) : AllGenerated args := by
  cases h with
  | generated hall _ _ => exact hall

inductive Operation.Fits (op : Operation) : RawArgs → Prop
  | positional {raw values} : raw.Positional values → op.parameterNames.length = values.length →
      op.Fits raw
  | keyed {args} : ¬ RawArgs.AllGenerated args → op.TakesKeys args.keys → op.Fits (.keyed args)

theorem Operation.Fits.readable {op : Operation} {raw : RawArgs} (h : op.Fits raw) :
    raw.Readable := by
  cases h with
  | positional hraw _ => exact hraw.readable
  | keyed hargs _ => exact fun hall => absurd hall hargs

theorem Operation.fits_positional_iff {op : Operation} {raw : RawArgs} {values : List String}
    (h : raw.Positional values) : op.Fits raw ↔ op.parameterNames.length = values.length := by
  constructor
  · intro hfits
    cases hfits with
    | positional h' hlength => rwa [h.unique h']
    | keyed hargs _ => exact absurd h.allGenerated hargs
  · exact .positional h

theorem Operation.fits_keyed_iff {op : Operation} {args : OrderedMap String}
    (h : ¬ RawArgs.AllGenerated args) : op.Fits (.keyed args) ↔ op.TakesKeys args.keys := by
  constructor
  · intro hfits
    cases hfits with
    | positional h' _ => exact absurd h'.allGenerated h
    | keyed _ hkeys => exact hkeys
  · exact .keyed h

namespace Catalog

theorem discovered_of_discover {family : String} {providers : List Provider} {c : Catalog}
    {i j : Journal} (hc : (discover family providers).outcomeFrom i = (.ok c, j)) :
    Discovered family (findings family providers) i (.ok c, j) := by
  rw [← hc]
  exact discovered_discover family providers i

theorem overloads_of_discover {family : String} {providers : List Provider} {c : Catalog}
    {i j : Journal} (hc : (discover family providers).outcomeFrom i = (.ok c, j)) (name : String) :
    Overloads (c.candidates name) := by
  obtain ⟨hclear, hgroups⟩ := (discovered_of_discover hc).of_ok
  refine overloads_candidates hclear hgroups (fun op hop => ?_) name
  obtain ⟨p, -, hp⟩ := List.mem_flatMap.1 (Finding.mem_offers.1 hop)
  exact Provider.nodup_parameterNames hp

theorem family_of_discover {family : String} {providers : List Provider} {c : Catalog}
    {i j : Journal} (hc : (discover family providers).outcomeFrom i = (.ok c, j)) :
    c.family = family := by
  cases discovered_of_discover hc with
  | complete _ hfamily _ => exact hfamily

theorem offered_of_discover {family : String} {providers : List Provider} {c : Catalog}
    {i j : Journal} (hc : (discover family providers).outcomeFrom i = (.ok c, j)) {name : String}
    {op : Operation} (hop : op ∈ c.candidates name) :
    ∃ p ∈ providers, .offered op ∈ p.findings family := by
  rw [(discovered_of_discover hc).of_ok.2.candidates] at hop
  have hoffered := Finding.mem_offers.1 (List.mem_of_mem_filter hop)
  exact List.mem_flatMap.1 hoffered

theorem nodup_names_of_discover {family : String} {providers : List Provider} {c : Catalog}
    {i j : Journal} (hc : (discover family providers).outcomeFrom i = (.ok c, j)) {name : String}
    {op : Operation} (hop : op ∈ c.candidates name) :
    (op.parameters.map Parameter.name).Nodup := by
  obtain ⟨p, -, hp⟩ := offered_of_discover hc hop
  exact Provider.nodup_names hp

variable {ops : List Operation} {raw : RawArgs}

/-- What lookup among the operations of a name comes to, whether or not all indices can be read. -/
inductive LookedUp (ops : List Operation) (raw : RawArgs) :
    Except IndexError (Option Resolved) → Prop
  | resolved {o} : Resolves ops raw o → LookedUp ops raw (.ok o)
  | unnamed : ops = [] → LookedUp ops raw (.ok none)
  | unreadable {e} : ops ≠ [] → raw.Unreadable e → LookedUp ops raw (.error e)

theorem firstFit_eq_iff (hops : Overloads ops) {r : Except IndexError (Option Resolved)} :
    firstFit raw 0 ops = r ↔ LookedUp ops raw r := by
  constructor
  · rintro rfl
    by_cases hraw : raw.Readable
    · obtain ⟨o, ho⟩ := exists_resolves ops hraw hops
      rw [ho.firstFit hops]
      exact .resolved ho
    · obtain ⟨e, he⟩ := RawArgs.exists_unreadable_of_not_readable hraw
      cases ops with
      | nil => exact .unnamed rfl
      | cons op ops =>
        -- an index that cannot be read stops the search at the first operation
        rw [firstFit, RawArgs.align_of_unreadable he]
        exact .unreadable (List.cons_ne_nil op ops) he
  · intro h
    cases h with
    | resolved ho => exact ho.firstFit hops
    | unnamed hnil =>
      rw [hnil]
      rfl
    | unreadable hne he =>
      obtain ⟨op, rest, rfl⟩ := List.exists_cons_of_ne_nil hne
      rw [firstFit, RawArgs.align_of_unreadable he]

/-- No operation of a name fits the arguments. With an index that cannot be read they fit none, but
that is a failure of its own unless the name has no operation at all. -/
structure Unmatched (ops : List Operation) (raw : RawArgs) : Prop where
  readable : raw.Readable ∨ ops = []
  unfit : ∀ op ∈ ops, ¬ op.Fits raw

theorem Resolves.unmatched (h : Resolves ops raw none) : Unmatched ops raw := by
  cases h with
  | unkeyed hargs hkeys =>
    refine ⟨.inl fun hall => absurd hall hargs, fun op hop => ?_⟩
    rw [Operation.fits_keyed_iff hargs]
    exact hkeys op hop
  | unplaced hraw hlength =>
    refine ⟨.inl hraw.readable, fun op hop => ?_⟩
    rw [Operation.fits_positional_iff hraw]
    exact hlength op hop

theorem Resolves.fits {found : Resolved} (h : Resolves ops raw (some found)) :
    found.operation ∈ ops ∧ found.operation.Fits raw := by
  cases h with
  | keyed hargs hposition hkeys =>
    exact ⟨List.mem_of_getElem? hposition, .keyed hargs hkeys⟩
  | @positional _ values before op after args hraw hsplit _ hlength _ =>
    rw [hsplit]
    exact ⟨List.mem_append_right before List.mem_cons_self, .positional hraw hlength⟩

theorem lookedUp_none_iff (hops : Overloads ops) :
    LookedUp ops raw (.ok none) ↔ Unmatched ops raw := by
  constructor
  · intro h
    cases h with
    | resolved h => exact h.unmatched
    | unnamed hnil =>
      rw [hnil]
      exact ⟨.inr rfl, by simp⟩
  · rintro ⟨hraw | hnil, hunfit⟩
    · obtain ⟨o, ho⟩ := exists_resolves ops hraw hops
      cases o with
      | none => exact .resolved ho
      | some found =>
        obtain ⟨hop, hfits⟩ := ho.fits
        exact absurd hfits (hunfit found.operation hop)
    · exact .unnamed hnil

theorem Resolves.supplies {found : Resolved} (h : Resolves ops raw (some found))
    (hops : Overloads ops) :
    found.operation ∈ ops ∧ found.args.keys.Perm found.operation.parameterNames ∧
      found.args.values.Perm raw.configured := by
  cases h with
  | keyed _ hposition hkeys =>
    have hop := List.mem_of_getElem? hposition
    exact ⟨hop, hkeys.perm (hops.nodup _ hop) (OrderedMap.distinct _), .refl _⟩
  | @positional _ values before op after args hraw hsplit _ hlength hentries =>
    have hop : op ∈ ops := by
      rw [hsplit]
      exact List.mem_append_right before List.mem_cons_self
    have hkeys : args.keys = op.parameterNames := by
      rw [OrderedMap.keys, hentries]
      exact List.map_fst_zip (Nat.le_of_eq hlength)
    have hvalues : args.values = values := by
      rw [OrderedMap.values, hentries]
      exact List.map_snd_zip (Nat.le_of_eq hlength.symm)
    refine ⟨hop, ?_, ?_⟩
    · rw [hkeys]
    · rw [hvalues]
      exact hraw.perm_configured

variable {family : String} {providers : List Provider} {c : Catalog} {i j : Journal} {name : String}
  {found : Resolved}

theorem find_eq_some_iff (hc : (discover family providers).outcomeFrom i = (.ok c, j)) :
    c.find name raw = .ok (some found) ↔ Resolves (c.candidates name) raw (some found) := by
  have hops := overloads_of_discover hc name
  constructor
  · intro hf
    cases (firstFit_eq_iff hops).1 hf with
    | resolved h => exact h
  · exact fun h => h.firstFit hops

theorem supplies_of_find (hc : (discover family providers).outcomeFrom i = (.ok c, j))
    (hf : c.find name raw = .ok (some found)) :
    found.operation ∈ c.candidates name ∧
      found.args.keys.Perm found.operation.parameterNames ∧
      found.args.values.Perm raw.configured :=
  ((find_eq_some_iff hc).1 hf).supplies (overloads_of_discover hc name)

end Catalog

end HttpGateway
