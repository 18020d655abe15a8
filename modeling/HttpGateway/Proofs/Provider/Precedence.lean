import HttpGateway.Proofs.Operation.ProviderOrder

/-!
Methods of classes with several layers. The catalog has the operations of the first method that a
layer has under each attribute. That is what looking up the attribute finds, unless what it finds is
no method: such a member does not stand in the way of a method in a later layer.
-/

namespace HttpGateway

def Member.method? : Member → Option Method
  | method m => some m
  | detached _ => none
  | constant => none

namespace Layer

def method? (l : Layer) (name : String) : Option Method :=
  (l.members.get? name).bind Member.method?

theorem mem_methods_iff {l : Layer} {e : String × Method} :
    e ∈ l.methods ↔ l.method? e.1 = some e.2 := by
  rw [methods, methodsIn, List.mem_filterMap, method?, Option.bind_eq_some_iff]
  constructor
  · rintro ⟨⟨found, member⟩, hmem, he⟩
    cases member with
    | method m =>
      cases he
      exact ⟨_, (OrderedMap.mem_iff_lookup l.members.distinct).1 hmem, rfl⟩
    | detached => cases he
    | constant => cases he
  · rintro ⟨member, hget, hm⟩
    cases member with
    | method m =>
      cases hm
      exact ⟨_, (OrderedMap.mem_iff_lookup l.members.distinct).2 hget, rfl⟩
    | detached => cases hm
    | constant => cases hm

theorem mem_attributes_iff {l : Layer} {name : String} :
    name ∈ l.methods.map Prod.fst ↔ (l.method? name).isSome := by
  rw [Option.isSome_iff_exists, List.mem_map]
  constructor
  · rintro ⟨e, he, rfl⟩
    exact ⟨e.2, mem_methods_iff.1 he⟩
  · rintro ⟨m, hm⟩
    exact ⟨(name, m), mem_methods_iff.2 hm, rfl⟩

end Layer

namespace ProviderClass

variable {c : ProviderClass} {name : String}

def method? (c : ProviderClass) (name : String) : Option Method :=
  (c.member? name).bind Member.method?

def firstMethod? (c : ProviderClass) (name : String) : Option Method :=
  c.layers.findSome? fun l => l.method? name

/-- Looking up a name finds something else than a method, although a layer has a method of it. -/
structure Obscured (c : ProviderClass) (name : String) : Prop where
  found : ∃ member, c.member? name = some member ∧ member.method? = none
  obscures : ∃ l ∈ c.layers, (l.method? name).isSome

theorem mem_unhidden_iff {before ls : List Layer} {e : String × Method} :
    e ∈ unhidden before ls ↔ (∀ b ∈ before, b.method? e.1 = none) ∧
      (ls.findSome? fun l => l.method? e.1) = some e.2 := by
  induction ls generalizing before with
  | nil => simp [unhidden]
  | cons l ls ih =>
    have hbefore : (∀ b ∈ before, e.1 ∉ b.methods.map Prod.fst) ↔
        ∀ b ∈ before, b.method? e.1 = none := by
      refine forall₂_congr fun b _ => ?_
      rw [Layer.mem_attributes_iff, Option.not_isSome_iff_eq_none]
    rw [unhidden, List.mem_append, List.mem_filter, decide_eq_true_iff, hbefore,
      Layer.mem_methods_iff, ih, List.findSome?_cons, List.forall_mem_append,
      List.forall_mem_singleton]
    -- a method of this layer is the first one, and hides those of the layers behind it
    cases l.method? e.1 with
    | none => simp
    | some m => simp [and_comm]

theorem findSome?_bind {α β γ : Type} (f : α → Option β) (g : β → Option γ) {xs : List α} {y : β}
    (hy : xs.findSome? f = some y) (hg : (g y).isSome) :
    (xs.findSome? fun x => (f x).bind g) = g y := by
  induction xs with
  | nil => cases hy
  | cons x xs ih =>
    rw [List.findSome?_cons] at hy ⊢
    cases hx : f x with
    | none =>
      rw [hx] at hy
      exact ih hy
    | some z =>
      rw [hx] at hy
      cases hy
      obtain ⟨w, hw⟩ := Option.isSome_iff_exists.1 hg
      rw [Option.bind_some, hw]

theorem firstMethod?_of_member? {member : Member} {m : Method} (h : c.member? name = some member)
    (hm : member.method? = some m) : c.firstMethod? name = some m := by
  rw [← hm]
  refine findSome?_bind _ _ h ?_
  rw [hm, Option.isSome_some]

theorem firstMethod?_eq_none_iff :
    c.firstMethod? name = none ↔ ¬ ∃ l ∈ c.layers, (l.method? name).isSome := by
  rw [← Option.not_isSome_iff_eq_none, firstMethod?, List.findSome?_isSome_iff]

theorem firstMethod?_of_member?_none (h : c.member? name = none) : c.firstMethod? name = none := by
  refine List.findSome?_eq_none_iff.2 fun l hl => ?_
  rw [Layer.method?, List.findSome?_eq_none_iff.1 h l hl, Option.bind_none]

theorem firstMethod?_eq_method?_iff : c.firstMethod? name = c.method? name ↔ ¬ c.Obscured name := by
  cases hmember : c.member? name with
  | none =>
    have hlookup : c.method? name = none := by rw [method?, hmember, Option.bind_none]
    have hclear : ¬ c.Obscured name := by
      rintro ⟨⟨member, hfound, -⟩, -⟩
      rw [hmember] at hfound
      cases hfound
    rw [hlookup, firstMethod?_of_member?_none hmember]
    exact iff_of_true rfl hclear
  | some member =>
    have hlookup : c.method? name = member.method? := by rw [method?, hmember, Option.bind_some]
    rw [hlookup]
    cases hm : member.method? with
    | some m =>
      have hclear : ¬ c.Obscured name := by
        rintro ⟨⟨other, hfound, hnone⟩, -⟩
        rw [hmember] at hfound
        cases hfound
        rw [hm] at hnone
        cases hnone
      exact iff_of_true (firstMethod?_of_member? hmember hm) hclear
    | none =>
      rw [firstMethod?_eq_none_iff]
      exact not_congr ⟨fun h => ⟨⟨member, hmember, hm⟩, h⟩, Obscured.obscures⟩

theorem firstMethod?_eq_some_iff {m : Method} : c.firstMethod? name = some m ↔
    c.method? name = some m ∨ c.Obscured name ∧ c.firstMethod? name = some m := by
  by_cases h : c.Obscured name
  · have hnone : c.method? name = none := by
      obtain ⟨member, hmember, hm⟩ := h.found
      rw [method?, hmember, Option.bind_some, hm]
    simp [hnone, h]
  · rw [firstMethod?_eq_method?_iff.2 h]
    simp [h]

end ProviderClass

namespace Provider

def Offers (p : Provider) (found : String) (m : Method) (op : Operation) : Prop :=
  ∃ marker ∈ m.markers, marker.finding p found m = .offered op

theorem offered_iff {p : Provider} {family : String} {op : Operation}
    (hp : p.kind.isProvider = true) : .offered op ∈ p.findings family ↔
      p.family = family ∧ ∃ found m, p.kind.firstMethod? found = some m ∧ p.Offers found m op := by
  rw [findings, hp, Bool.not_true, if_neg Bool.false_ne_true]
  by_cases hfamily : p.family = family
  · rw [if_pos hfamily, List.mem_flatMap]
    constructor
    · rintro ⟨e, he, hoffered⟩
      obtain ⟨marker, hmarker, hop⟩ := List.mem_map.1 hoffered
      exact ⟨hfamily, e.1, e.2, (ProviderClass.mem_unhidden_iff.1 he).2, marker, hmarker, hop⟩
    · rintro ⟨-, found, m, hfirst, marker, hmarker, hop⟩
      refine ⟨(found, m), ?_, List.mem_map.2 ⟨marker, hmarker, hop⟩⟩
      exact ProviderClass.mem_unhidden_iff.2 ⟨by simp, hfirst⟩
  · rw [if_neg hfamily]
    simp [hfamily]

end Provider

namespace Catalog

variable {family : String} {providers : List Provider} {c : Catalog} {i j : Journal}

theorem isProvider_of_discover (hc : (discover family providers).outcomeFrom i = (.ok c, j))
    {p : Provider} (hp : p ∈ providers) : p.kind.isProvider = true := by
  by_contra h
  have hstranger : .stranger p.kind.name ∈ findings family providers := by
    refine List.mem_flatMap.2 ⟨p, hp, ?_⟩
    rw [Provider.findings, if_pos (by simpa using h)]
    exact List.mem_singleton.2 rfl
  exact (Finding.clear_iff.1 (discovered_of_discover hc).of_ok.1).1 _ hstranger

/-- A catalog has the operations of the methods that looking up the attributes of its providers
finds, and where something that is no method obscures one, of the first method in spite of it. -/
theorem mem_candidates_iff_finds (hc : (discover family providers).outcomeFrom i = (.ok c, j))
    (name : String) (op : Operation) :
    op ∈ c.candidates name ↔ op.name = OperationName.normal name ∧
      ∃ p ∈ providers, p.family = family ∧ ∃ found m,
        (p.kind.method? found = some m ∨
          p.kind.Obscured found ∧ p.kind.firstMethod? found = some m) ∧
        p.Offers found m op := by
  rw [(discovered_of_discover hc).of_ok.2.candidates, List.mem_filter, decide_eq_true_iff,
    Finding.mem_offers, findings, List.mem_flatMap, and_comm]
  refine and_congr_right fun _ => exists_congr fun p => and_congr_right fun hp => ?_
  rw [Provider.offered_iff (isProvider_of_discover hc hp)]
  refine and_congr_right fun _ => exists₂_congr fun found m => and_congr_left fun _ => ?_
  exact ProviderClass.firstMethod?_eq_some_iff

end Catalog

namespace Sample

def retagging (member : Member) : Provider :=
  ⟨⟨⟨3, "Derived", some "derived", none, OrderedMap.ofList [("tag", member)]⟩,
    (tagging "base" "value").kind.layers⟩, .empty⟩

theorem mem_candidates_iff_finds_override : ∃ c j op,
    (Catalog.discover "filter" [retagging (marked ["label"] .null)]).outcomeFrom [] = (.ok c, j) ∧
    op ∈ c.candidates "tag" ∧ op.parameterNames = ["label"] := by
  have hc : ∃ c j, (Catalog.discover "filter" [retagging (marked ["label"] .null)]).outcomeFrom [] =
      (.ok c, j) := ⟨_, _, rfl⟩
  obtain ⟨c, j, hc⟩ := hc
  have hfound : ∃ m op, (retagging (marked ["label"] .null)).kind.method? "tag" = some m ∧
      (retagging (marked ["label"] .null)).Offers "tag" m op ∧ op.name = "tag" ∧
      op.parameterNames = ["label"] :=
    ⟨_, _, rfl, ⟨_, List.mem_singleton.2 rfl, rfl⟩, rfl, rfl⟩
  obtain ⟨m, op, hm, hop, hname, hkeys⟩ := hfound
  refine ⟨c, j, op, hc, (Catalog.mem_candidates_iff_finds hc "tag" op).2 ⟨hname, ?_⟩, hkeys⟩
  exact ⟨_, List.mem_singleton.2 rfl, rfl, "tag", m, .inl hm, hop⟩

theorem offers_obscured : ∃ c j m op,
    ProviderClass.derive (retagging (.detached .unmarked)).kind.own
      [(tagging "base" "value").kind] = .ok (retagging (.detached .unmarked)).kind ∧
    (Catalog.discover "filter" [retagging (.detached .unmarked)]).outcomeFrom [] = (.ok c, j) ∧
    (retagging (.detached .unmarked)).kind.member? "tag" = some (.detached .unmarked) ∧
    (tagging "base" "value").kind.member? "tag" = some (.method m) ∧
    (retagging (.detached .unmarked)).Offers "tag" m op ∧ c.candidates "tag" = [op] :=
  ⟨_, _, _, _, rfl, rfl, rfl, rfl, ⟨_, List.mem_singleton.2 rfl, rfl⟩, rfl⟩

end Sample

end HttpGateway
