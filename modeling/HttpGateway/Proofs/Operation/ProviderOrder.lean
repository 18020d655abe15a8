import HttpGateway.Proofs.Operation.Lookup

/-!
Discovery over the same providers in another order. It accepts them or not as before, and keyed
arguments choose the same operation. Positional ones go by their number alone, so that where several
providers have an operation for that many values, the first of these providers is the one that counts.
-/

namespace HttpGateway

namespace Finding

def Regular : Finding → Prop
  | stranger _ => False
  | misnamed _ => False
  | skipped _ _ _ => True
  | offered _ => True

theorem clear_iff {fs : List Finding} :
    Clear fs ↔ (∀ f ∈ fs, f.Regular) ∧
      (offers fs).Pairwise fun a b => a.name = b.name → ¬ a.TakesKeys b.parameterNames := by
  constructor
  · refine fun h => ⟨fun f hf => ?_, h.pairwise_offers⟩
    obtain ⟨before, after, hsplit⟩ := List.append_of_mem hf
    cases f with
    | stranger className => exact h before _ after _ hsplit (.stranger className)
    | misnamed name => exact h before _ after _ hsplit (.misnamed name)
    | skipped => trivial
    | offered => trivial
  · rintro ⟨hregular, hpairs⟩ before f after e hsplit hobstructs
    have hf : f.Regular := hregular f (by simp [hsplit])
    cases hobstructs with
    | stranger => exact hf
    | misnamed => exact hf
    | @repeated op earlier hearlier hname hkeys =>
      rw [hsplit, offers_append, List.pairwise_append] at hpairs
      have hop : op ∈ offers (.offered op :: after) := mem_offers.2 List.mem_cons_self
      exact hpairs.2.2 earlier hearlier op hop hname hkeys

theorem Clear.of_perm {fs gs : List Finding} (h : Clear fs) (hp : fs.Perm gs) : Clear gs := by
  -- which of two operations comes first does not matter: their sets of keys are compared
  rw [clear_iff] at h ⊢
  refine ⟨fun f hf => h.1 f (hp.mem_iff.2 hf), ?_⟩
  refine ((hp.filterMap operation?).pairwise_iff fun {a b} hab hname hkeys => ?_).1 h.2
  exact hab hname.symm fun k => (hkeys k).symm

end Finding

def Provider.firstOf (family name : String) (n : Nat) (p : Provider) : Option Operation :=
  (Finding.offers (p.findings family)).find? fun op =>
    op.name = OperationName.normal name ∧ op.parameterNames.length = n

/-- Two providers have an operation of the name with that many supplied parameters, and either order
of the providers comes upon another one of them first. -/
structure Contest (family name : String) (n : Nat) (providers providers' : List Provider)
    (a b : Operation) : Prop where
  rivals : ∃ p ∈ providers, ∃ q ∈ providers, p ≠ q ∧ p.firstOf family name n = some a ∧
    q.firstOf family name n = some b
  first : providers.findSome? (Provider.firstOf family name n) = some a
  first' : providers'.findSome? (Provider.firstOf family name n) = some b

theorem firstOf_of_perm {providers providers' : List Provider} (h : providers.Perm providers')
    (family name : String) (n : Nat) :
    providers.findSome? (Provider.firstOf family name n) =
        providers'.findSome? (Provider.firstOf family name n) ∨
      ∃ a b, Contest family name n providers providers' a b := by
  cases ha : providers.findSome? (Provider.firstOf family name n) with
  | none =>
    rw [List.findSome?_eq_none_iff] at ha
    exact .inl (List.findSome?_eq_none_iff.2 fun p hp => ha p (h.mem_iff.2 hp)).symm
  | some a =>
    obtain ⟨p, hp, hpa⟩ := List.exists_of_findSome?_eq_some ha
    cases hb : providers'.findSome? (Provider.firstOf family name n) with
    | none =>
      have hnone := List.findSome?_eq_none_iff.1 hb p (h.mem_iff.1 hp)
      rw [hpa] at hnone
      cases hnone
    | some b =>
      obtain ⟨q, hq, hqb⟩ := List.exists_of_findSome?_eq_some hb
      by_cases hpq : p = q
      · rw [← hpa, hpq, hqb]
        exact .inl rfl
      · exact .inr ⟨a, b, ⟨p, hp, q, h.mem_iff.2 hq, hpq, hpa, hqb⟩, ha, hb⟩

namespace Catalog

open Finding

theorem exists_discover_iff (family : String) (providers : List Provider) (i : Journal) :
    (∃ c j, (discover family providers).outcomeFrom i = (.ok c, j)) ↔
      Clear (findings family providers) := by
  constructor
  · rintro ⟨c, j, h⟩
    exact (discovered_of_discover h).of_ok.1
  · intro h
    generalize hr : (discover family providers).outcomeFrom i = r
    have hd := discovered_discover family providers i
    rw [hr] at hd
    cases hd with
    | stopped hsplit _ hobstructs => exact absurd hobstructs (h _ _ _ _ hsplit)
    | @complete c _ _ _ => exact ⟨c, _, rfl⟩

theorem candidates_perm {family : String} {providers providers' : List Provider}
    (h : providers.Perm providers') {c c' : Catalog} {i i' j j' : Journal}
    (hc : (discover family providers).outcomeFrom i = (.ok c, j))
    (hc' : (discover family providers').outcomeFrom i' = (.ok c', j')) (name : String) :
    (c.candidates name).Perm (c'.candidates name) := by
  rw [(discovered_of_discover hc).of_ok.2.candidates,
    (discovered_of_discover hc').of_ok.2.candidates]
  exact ((h.flatMap_right _).filterMap operation?).filter _

/-- What is chosen is an operation with its arguments; where it stands among the candidates is not a
part of it. -/
def Resolved.choice (found : Resolved) : Operation × OrderedMap String :=
  (found.operation, found.args)

def chosen (c : Catalog) (name : String) (raw : RawArgs) :
    Except IndexError (Option (Operation × OrderedMap String)) :=
  (c.find name raw).map (Option.map Resolved.choice)

def placed (values : List String) (op : Operation) : Operation × OrderedMap String :=
  (op, OrderedMap.ofList (op.parameterNames.zip values))

variable {ops ops' : List Operation} {raw : RawArgs} {o : Option Resolved}

theorem Resolves.of_perm {args : OrderedMap String} (h : Resolves ops (.keyed args) o)
    (hargs : ¬ RawArgs.AllGenerated args) (hp : ops.Perm ops') :
    ∃ o', Resolves ops' (.keyed args) o' ∧ o'.map Resolved.choice = o.map Resolved.choice := by
  cases h with
  | keyed _ hposition hkeys =>
    have hop := hp.mem_iff.1 (List.mem_of_getElem? hposition)
    obtain ⟨position, hposition'⟩ := List.mem_iff_getElem?.1 hop
    exact ⟨_, .keyed hargs hposition' hkeys, rfl⟩
  | unkeyed _ hkeys => exact ⟨none, .unkeyed hargs fun op hop => hkeys op (hp.mem_iff.2 hop), rfl⟩
  | positional hraw => exact absurd hraw.allGenerated hargs
  | unplaced hraw => exact absurd hraw.allGenerated hargs

theorem Resolves.choice_eq {values : List String} (h : Resolves ops raw o) (hops : Overloads ops)
    (hraw : raw.Positional values) :
    o.map Resolved.choice =
      (ops.find? fun op => op.parameterNames.length = values.length).map (placed values) := by
  cases h with
  | keyed hargs => exact absurd hraw.allGenerated hargs
  | unkeyed hargs => exact absurd hraw.allGenerated hargs
  | @positional _ values' before op after args hraw' hsplit hbefore hlength hentries =>
    obtain rfl := hraw'.unique hraw
    have hfirst : ops.find? (fun op => op.parameterNames.length = values'.length) = some op := by
      rw [List.find?_eq_some_iff_append]
      exact ⟨by simpa using hlength, before, after, hsplit,
        fun earlier he => by simpa using hbefore earlier he⟩
    have hargs : OrderedMap.ofList (op.parameterNames.zip values') = args := by
      refine OrderedMap.ext_entries ?_
      rw [hentries]
      refine OrderedMap.entries_ofList ?_
      rw [List.map_fst_zip (Nat.le_of_eq hlength)]
      exact hops.nodup op (List.mem_of_find?_eq_some hfirst)
    rw [hfirst, Option.map_some, Option.map_some, placed, hargs]
    rfl
  | @unplaced _ values' hraw' hlength =>
    obtain rfl := hraw'.unique hraw
    have hnone : ops.find? (fun op => op.parameterNames.length = values'.length) = none := by
      rw [List.find?_eq_none]
      exact fun op hop => by simpa using hlength op hop
    rw [hnone]
    rfl

theorem chosen_of_positional {family : String} {providers : List Provider} {c : Catalog}
    {i j : Journal} (hc : (discover family providers).outcomeFrom i = (.ok c, j)) (name : String)
    {values : List String} (hraw : raw.Positional values) :
    c.chosen name raw =
      .ok ((providers.findSome? (Provider.firstOf family name values.length)).map
        (placed values)) := by
  have hops := overloads_of_discover hc name
  obtain ⟨o, ho⟩ := exists_resolves (c.candidates name) hraw.readable hops
  have hfind : c.find name raw = .ok o := ho.firstFit hops
  have hfirst : (c.candidates name).find? (fun op => op.parameterNames.length = values.length) =
      providers.findSome? (Provider.firstOf family name values.length) := by
    rw [(discovered_of_discover hc).of_ok.2.candidates, List.find?_filter, offers, findings,
      List.filterMap_flatMap, List.find?_flatMap]
    simp only [decide_eq_true_eq]
    rfl
  rw [chosen, hfind, ← hfirst, ← ho.choice_eq hops hraw]
  rfl

theorem chosen_of_keyed_perm {family : String} {providers providers' : List Provider}
    (h : providers.Perm providers') {c c' : Catalog} {i i' j j' : Journal}
    (hc : (discover family providers).outcomeFrom i = (.ok c, j))
    (hc' : (discover family providers').outcomeFrom i' = (.ok c', j')) (name : String)
    {args : OrderedMap String} (hargs : ¬ RawArgs.AllGenerated args) :
    c.chosen name (.keyed args) = c'.chosen name (.keyed args) := by
  have hops := overloads_of_discover hc name
  have hreadable : (RawArgs.keyed args).Readable := fun hall => absurd hall hargs
  obtain ⟨o, ho⟩ := exists_resolves (c.candidates name) hreadable hops
  obtain ⟨o', ho', heq⟩ := ho.of_perm hargs (candidates_perm h hc hc' name)
  have hfind : c.find name (.keyed args) = .ok o := ho.firstFit hops
  have hfind' : c'.find name (.keyed args) = .ok o' :=
    ho'.firstFit (overloads_of_discover hc' name)
  rw [chosen, chosen, hfind, hfind', Except.map, Except.map, heq]

theorem find_of_unreadable {c c' : Catalog} {name : String}
    (h : (c.candidates name).Perm (c'.candidates name)) {e : IndexError} (hraw : raw.Unreadable e) :
    c.find name raw = c'.find name raw := by
  rw [find, find]
  cases hops : c.candidates name with
  | nil =>
    rw [hops] at h
    rw [← h.nil_eq]
  | cons op ops =>
    rw [hops] at h
    have hne : c'.candidates name ≠ [] := by
      intro hnil
      rw [hnil] at h
      exact List.cons_ne_nil op ops h.eq_nil
    obtain ⟨op', ops', hops'⟩ := List.exists_cons_of_ne_nil hne
    rw [hops', firstFit, firstFit, RawArgs.align_of_unreadable hraw,
      RawArgs.align_of_unreadable hraw]

/-- Two orders of the same providers are both accepted or both not, and then arguments choose alike:
except for positional ones that two providers have an operation for, of which either order chooses
the one of its first such provider. -/
theorem discover_of_perm {providers providers' : List Provider} (h : providers.Perm providers')
    (family : String) (i i' : Journal) :
    ((∃ c j, (discover family providers).outcomeFrom i = (.ok c, j)) ↔
      ∃ c j, (discover family providers').outcomeFrom i' = (.ok c, j)) ∧
    ∀ c c' j j', (discover family providers).outcomeFrom i = (.ok c, j) →
      (discover family providers').outcomeFrom i' = (.ok c', j') → ∀ name raw,
      c.chosen name raw = c'.chosen name raw ∨
      ∃ values a b, raw.Positional values ∧
        Contest family name values.length providers providers' a b ∧
        c.chosen name raw = .ok (some (placed values a)) ∧
        c'.chosen name raw = .ok (some (placed values b)) := by
  refine ⟨?_, fun c c' j j' hc hc' name raw => ?_⟩
  · rw [exists_discover_iff, exists_discover_iff]
    have hp : (findings family providers).Perm (findings family providers') := h.flatMap_right _
    exact ⟨fun hclear => hclear.of_perm hp, fun hclear => hclear.of_perm hp.symm⟩
  by_cases hreadable : raw.Readable
  · rcases RawArgs.positional_or_keyed hreadable with ⟨values, hraw⟩ | ⟨args, rfl, hargs⟩
    · have hchosen := chosen_of_positional hc name hraw
      have hchosen' := chosen_of_positional hc' name hraw
      -- the number of values is all that counts, so the first provider of either order decides
      rcases firstOf_of_perm h family name values.length with heq | ⟨a, b, hcontest⟩
      · rw [heq] at hchosen
        exact .inl (hchosen.trans hchosen'.symm)
      · rw [hcontest.first] at hchosen
        rw [hcontest.first'] at hchosen'
        exact .inr ⟨values, a, b, hraw, hcontest, hchosen, hchosen'⟩
    · exact .inl (chosen_of_keyed_perm h hc hc' name hargs)
  · obtain ⟨e, he⟩ := RawArgs.exists_unreadable_of_not_readable hreadable
    rw [chosen, chosen, find_of_unreadable (candidates_perm h hc hc' name) he]
    exact .inl rfl

end Catalog

namespace Sample

def tagging (code parameter : String) : Provider :=
  ⟨⟨⟨2, code, some code, some "filter", OrderedMap.ofList [("tag", marked [parameter] .null)]⟩,
    ProviderClass.root.layers⟩, .empty⟩

def taggers : List Provider := [tagging "plain" "value", tagging "fancy" "label"]

theorem discover_of_perm_keyed : ∃ c c' j j',
    (Catalog.discover "filter" taggers).outcomeFrom [] = (.ok c, j) ∧
    (Catalog.discover "filter" taggers.reverse).outcomeFrom [] = (.ok c', j') ∧
    c.chosen "tag" (.keyed (OrderedMap.ofList [("label", "x")])) =
      c'.chosen "tag" (.keyed (OrderedMap.ofList [("label", "x")])) := by
  have hc : ∃ c c' j j', (Catalog.discover "filter" taggers).outcomeFrom [] = (.ok c, j) ∧
      (Catalog.discover "filter" taggers.reverse).outcomeFrom [] = (.ok c', j') :=
    ⟨_, _, _, _, rfl, rfl⟩
  obtain ⟨c, c', j, j', hc, hc'⟩ := hc
  refine ⟨c, c', j, j', hc, hc', ?_⟩
  have hp : taggers.Perm taggers.reverse := (List.reverse_perm taggers).symm
  rcases (Catalog.discover_of_perm hp "filter" [] []).2 c c' j j' hc hc' "tag"
    (.keyed (OrderedMap.ofList [("label", "x")])) with heq | ⟨values, -, -, hraw, -⟩
  · exact heq
  · have hlabel : "label" ∈ (OrderedMap.ofList [("label", "x")]).keys := List.mem_singleton.2 rfl
    exact absurd hraw.allGenerated (RawArgs.not_allGenerated_of_mem hlabel (by decide))

theorem chosen_depends_on_order : ∃ c c' j j' a b,
    (Catalog.discover "filter" taggers).outcomeFrom [] = (.ok c, j) ∧
    (Catalog.discover "filter" taggers.reverse).outcomeFrom [] = (.ok c', j') ∧
    c.chosen "tag" (.positional ["x"]) = .ok (some (a, OrderedMap.ofList [("value", "x")])) ∧
    c'.chosen "tag" (.positional ["x"]) = .ok (some (b, OrderedMap.ofList [("label", "x")])) ∧
    a.provider = "plain" ∧ b.provider = "fancy" :=
  ⟨_, _, _, _, _, _, rfl, rfl, rfl, rfl, rfl, rfl⟩

end Sample

end HttpGateway
