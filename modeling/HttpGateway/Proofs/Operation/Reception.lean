import HttpGateway.Proofs.Operation.Invocation

namespace HttpGateway

namespace Catalog

variable {ops : List Operation} {raw : RawArgs} {found : Resolved}

theorem Resolves.entries_of_positional {values : List String}
    (h : Resolves ops raw (some found)) (hraw : raw.Positional values) :
    found.args.entries = found.operation.parameterNames.zip values := by
  cases h with
  | keyed hargs _ _ => exact absurd hraw.allGenerated hargs
  | positional hraw' _ _ _ hentries =>
    rw [hraw.unique hraw']
    exact hentries

theorem Resolves.args_of_keyed {args : OrderedMap String}
    (h : Resolves ops (.keyed args) (some found)) (hargs : ¬ RawArgs.AllGenerated args) :
    found.args = args := by
  cases h with
  | keyed => rfl
  | positional hraw _ _ _ _ => exact absurd hraw.allGenerated hargs

/-- How a call ends that has a value for a parameter: it builds with the value among the arguments,
or it refuses the text of another parameter. -/
inductive Resolved.Called (found : Resolved) (p : Parameter) (v : Value) (absent : String → Value)
    (j : Journal) : Except Failure Product × Journal → Prop
  | built {arguments} :
      List.Forall₂ (Operation.Filled absent found.args) found.operation.parameters arguments →
      (p.name, v) ∈ arguments →
      Called found p v absent j ((found.operation.build arguments).outcomeFrom j)
  | refused {q t} : q ∈ found.operation.parameters → q ≠ p → found.args.get? q.name = some t →
      q.type.convert? (.text t) = none →
      Called found p v absent j (.error (.conversion q.name (.text t) found.operation.name), j)

def Resolved.Receives (found : Resolved) (p : Parameter) (v : Value) : Prop :=
  ∀ absent j, found.Called p v absent j
    ((found.operation.invoke absent (found.args.map .text)).outcomeFrom j)

variable {family : String} {providers : List Provider} {c : Catalog} {i j : Journal} {name : String}

theorem exists_find_of_fits (hc : (discover family providers).outcomeFrom i = (.ok c, j))
    {op : Operation} (hop : op ∈ c.candidates name) (hfits : op.Fits raw) :
    ∃ found, c.find name raw = .ok (some found) := by
  have hops := overloads_of_discover hc name
  obtain ⟨o, ho⟩ := exists_resolves (c.candidates name) hfits.readable hops
  cases o with
  | none => exact absurd hfits (ho.unmatched.unfit op hop)
  | some found => exact ⟨found, (find_eq_some_iff hc).2 ho⟩

theorem receives_of_convert (hc : (discover family providers).outcomeFrom i = (.ok c, j))
    (hf : c.find name raw = .ok (some found)) {p : Parameter} {t : String} {v : Value}
    (hp : p ∈ found.operation.parameters) (hget : found.args.get? p.name = some t)
    (hconvert : p.type.convert? (.text t) = some v) : found.Receives p v := by
  intro absent k
  obtain ⟨-, hnames, hkeys, -, h⟩ := invoke_found hc hf absent k
  rcases h with ⟨q, hq, -, t', hget', hnone, hrun⟩ | ⟨arguments, hfilled, hrun⟩
  · rw [hrun]
    apply Resolved.Called.refused hq _ hget' hnone
    rintro rfl
    cases hget.symm.trans hget'
    cases hconvert.symm.trans hnone
  · rw [hrun]
    apply Resolved.Called.built hfilled
    obtain ⟨⟨_, w⟩, ha, rfl, hw⟩ := exists_of_forall₂ hfilled hp
    have hsupplied : p.name ∈ found.operation.parameterNames :=
      hkeys.mem_iff.1 (OrderedMap.get?_isSome_iff.1 (Option.isSome_iff_exists.2 ⟨t, hget⟩))
    rw [(Operation.name_mem_parameterNames_iff hnames hp).1 hsupplied] at hw
    obtain ⟨t', hget', hw⟩ := hw
    cases hget.symm.trans hget'
    cases hconvert.symm.trans hw
    exact ha

end Catalog

end HttpGateway
