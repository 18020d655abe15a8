import HttpGateway.Proofs.Operation.Catalog
import HttpGateway.Proofs.Outcome
import HttpGateway.Proofs.Provider.Findings
import Mathlib.Data.List.Induction

namespace HttpGateway

namespace Finding

def operation? : Finding → Option Operation
  | offered op => some op
  | _ => none

def warning? : Finding → Option Event
  | skipped name provider reason => some (.logged .warning
      ("Skipping operation " ++ name ++ " of provider " ++ provider ++ ": " ++ reason))
  | _ => none

def offers (fs : List Finding) : List Operation := fs.filterMap operation?

def warnings (fs : List Finding) : List Event := fs.filterMap warning?

inductive Obstructs (before : List Finding) : Finding → Failure → Prop
  | stranger (className : String) : Obstructs before (.stranger className) (.notAProvider className)
  | misnamed (name : Value) : Obstructs before (.misnamed name) (.notAName name)
  | repeated {op earlier : Operation} : earlier ∈ offers before → earlier.name = op.name →
      earlier.TakesKeys op.parameterNames →
      Obstructs before (.offered op) (.conflict op.name op.parameterNames)

def Clear (fs : List Finding) : Prop :=
  ∀ before f after e, fs = before ++ f :: after → ¬ Obstructs before f e

@[simp]
theorem offers_append (fs gs : List Finding) :
    offers (fs ++ gs) = offers fs ++ offers gs :=
  List.filterMap_append

theorem warnings_cons (f : Finding) (fs : List Finding) :
    warnings (f :: fs) = warnings [f] ++ warnings fs := by
  rw [← List.singleton_append]
  exact List.filterMap_append

theorem clear_nil : Clear [] := by
  intro before f after e h
  cases before <;> cases h

theorem Clear.append_left {fs gs : List Finding} (h : Clear (fs ++ gs)) : Clear fs := by
  intro before f after e hf
  refine h before f (after ++ gs) e ?_
  rw [hf, List.append_assoc, List.cons_append]

theorem Clear.concat {fs : List Finding} {f : Finding} (h : Clear fs)
    (hf : ∀ e, ¬ Obstructs fs f e) : Clear (fs ++ [f]) := by
  intro before g after e hg
  rcases List.append_eq_append_iff.1 hg with ⟨m, hb, hm⟩ | ⟨m, hfs, hm⟩
  · cases m with
    | nil =>
      cases hm
      rw [hb, List.append_nil]
      exact hf e
    | cons a m => cases m <;> cases hm
  · cases m with
    | nil =>
      cases hm
      rw [List.append_nil] at hfs
      rw [← hfs]
      exact hf e
    | cons a m =>
      cases hm
      exact h before g m e hfs

theorem mem_offers {fs : List Finding} {op : Operation} : op ∈ offers fs ↔ .offered op ∈ fs := by
  rw [offers, List.mem_filterMap]
  constructor
  · rintro ⟨f, hf, hop⟩
    cases f with
    | offered =>
      cases hop
      exact hf
    | stranger => cases hop
    | misnamed => cases hop
    | skipped => cases hop
  · intro h
    exact ⟨_, h, rfl⟩

theorem Clear.pairwise_offers {fs : List Finding} (h : Clear fs) :
    (offers fs).Pairwise fun a b => a.name = b.name → ¬ a.TakesKeys b.parameterNames := by
  induction fs using List.reverseRecOn with
  | nil => exact .nil
  | append_singleton fs f ih =>
    rw [offers_append, List.pairwise_append]
    refine ⟨ih h.append_left, ?_, fun a ha b hb hn hs => ?_⟩
    · cases f with
      | offered op => exact List.pairwise_singleton _ op
      | stranger => exact .nil
      | misnamed => exact .nil
      | skipped => exact .nil
    · have hf : .offered b = f := List.mem_singleton.1 (mem_offers.1 hb)
      refine h fs (.offered b) [] _ ?_ (.repeated ha hn hs)
      rw [hf]

end Finding

namespace Catalog

open Finding

def record (c : Catalog) : Finding → Compile Catalog
  | .stranger className => throw (.notAProvider className)
  | .misnamed name => throw (.notAName name)
  | .skipped name provider reason => do
    Compile.log .warning
      ("Skipping operation " ++ name ++ " of provider " ++ provider ++ ": " ++ reason)
    return c
  | .offered op => Compile.lift (c.add op)

theorem addMarked_eq_record (p : Provider) (c : Catalog) (found : String) (m : Method)
    (marker : Marker) : addMarked p c (found, m, marker) = c.record (marker.finding p found m) := by
  have hn := marker.operationName_eq (m.name found)
  have hp := m.parameters_eq
  rw [addMarked, Marker.finding]
  cases ht : marker.title? (m.name found) with
  | none =>
    rw [ht] at hn
    simp only [hn]
    rfl
  | some name =>
    rw [ht] at hn
    by_cases hs : m.Supported
    · rw [if_pos hs] at hp
      simp only [hn, hp, if_pos hs]
      rfl
    · rw [if_neg hs] at hp
      simp only [hn, hp, if_neg hs]
      rfl

theorem foldlM_addMarked (p : Provider) (c : Catalog) :
    p.kind.marked.foldlM (addMarked p) c =
      ((ProviderClass.unhidden [] p.kind.layers).flatMap fun e =>
        e.2.markers.map fun marker => marker.finding p e.1 e.2).foldlM record c := by
  have hm : p.kind.marked = (ProviderClass.unhidden [] p.kind.layers).flatMap fun e =>
      e.2.markers.map fun marker => (e.1, e.2, marker) := by
    rw [ProviderClass.marked, ProviderClass.members,
      ProviderClass.visibleMethods_eq_unhidden p.kind.layers [] [] (by simp)]
  have hf : ((ProviderClass.unhidden [] p.kind.layers).flatMap fun e =>
      e.2.markers.map fun marker => marker.finding p e.1 e.2) =
        p.kind.marked.map fun e => e.2.2.finding p e.1 e.2.1 := by
    rw [hm, List.map_flatMap]
    simp only [List.map_map, Function.comp_def]
  rw [hf, List.foldlM_map]
  congr 1
  funext c e
  exact addMarked_eq_record p c e.1 e.2.1 e.2.2

theorem record_of_obstructed {c : Catalog} {before : List Finding} {f : Finding} {e : Failure}
    (hc : c.Groups (offers before)) (hf : Obstructs before f e) (j : Journal) :
    (c.record f).outcomeFrom j = (.error e, j) := by
  cases hf with
  | stranger => rfl
  | misnamed => rfl
  | repeated he hn hs =>
    rw [record, hc.add_of_repeated he hn (sameParameters_iff.2 hs), Compile.outcomeFrom_lift]

theorem record_of_unobstructed {c : Catalog} {before : List Finding} {f : Finding}
    (hc : c.Groups (offers before)) (hf : ∀ e, ¬ Obstructs before f e) (j : Journal) :
    ∃ d, (c.record f).outcomeFrom j = (.ok d, j ++ warnings [f]) ∧ d.family = c.family ∧
      d.Groups (offers (before ++ [f])) := by
  rw [offers_append]
  cases f with
  | stranger className => exact absurd (.stranger className) (hf _)
  | misnamed name => exact absurd (.misnamed name) (hf _)
  | skipped name provider reason =>
    refine ⟨c, rfl, rfl, ?_⟩
    have hnone : offers [.skipped name provider reason] = [] := rfl
    rwa [hnone, List.append_nil]
  | offered op =>
    have hnew : ∀ earlier ∈ offers before, earlier.name = op.name →
        ¬ sameParameters earlier op := by
      intro earlier he hn hs
      exact hf _ (.repeated he hn (sameParameters_iff.1 hs))
    obtain ⟨d, hd, hfamily, hgroups⟩ := hc.add_of_new hnew
    have hnone : warnings [.offered op] = [] := rfl
    refine ⟨d, ?_, hfamily, hgroups⟩
    rw [record, hd, Compile.outcomeFrom_lift, hnone, List.append_nil]

theorem foldlM_record (c : Catalog) (before fs : List Finding) (j : Journal)
    (hc : c.Groups (offers before)) (hb : Clear before) :
    (∃ d, (fs.foldlM record c).outcomeFrom j = (.ok d, j ++ warnings fs) ∧ d.family = c.family ∧
      d.Groups (offers (before ++ fs)) ∧ Clear (before ++ fs)) ∨
    ∃ passed f after e, fs = passed ++ f :: after ∧ Clear (before ++ passed) ∧
      Obstructs (before ++ passed) f e ∧
      (fs.foldlM record c).outcomeFrom j = (.error e, j ++ warnings passed) := by
  induction fs generalizing c before j with
  | nil =>
    refine .inl ⟨c, ?_, rfl, ?_, ?_⟩
    · have hnone : warnings [] = [] := rfl
      rw [List.foldlM_nil, Compile.outcomeFrom_pure, hnone, List.append_nil]
    · rwa [List.append_nil]
    · rwa [List.append_nil]
  | cons f fs ih =>
    rw [List.foldlM_cons]
    by_cases hf : ∃ e, Obstructs before f e
    · obtain ⟨e, he⟩ := hf
      have hnone : warnings [] = [] := rfl
      refine .inr ⟨[], f, fs, e, rfl, ?_, ?_, ?_⟩
      · rwa [List.append_nil]
      · rwa [List.append_nil]
      · rw [Compile.outcomeFrom_bind_error (record_of_obstructed hc he j), hnone, List.append_nil]
    · have hfree : ∀ e, ¬ Obstructs before f e := fun e he => hf ⟨e, he⟩
      obtain ⟨d, hd, hfamily, hgroups⟩ := record_of_unobstructed hc hfree j
      have hsplit : ∀ gs, before ++ [f] ++ gs = before ++ f :: gs := fun gs =>
        (List.append_cons before f gs).symm
      rw [Compile.outcomeFrom_bind_ok hd]
      rcases ih d (before ++ [f]) (j ++ warnings [f]) hgroups (hb.concat hfree) with
        ⟨d', hrun, hfamily', hgroups', hclear⟩ | ⟨passed, g, after, e, hfs, hclear, he, hrun⟩
      · rw [hsplit] at hgroups' hclear
        refine .inl ⟨d', ?_, hfamily'.trans hfamily, hgroups', hclear⟩
        rw [hrun, warnings_cons f fs, List.append_assoc]
      · rw [hsplit] at hclear he
        refine .inr ⟨f :: passed, g, after, e, ?_, hclear, he, ?_⟩
        · rw [hfs, List.cons_append]
        · rw [hrun, warnings_cons f passed, List.append_assoc]

theorem addProvider_eq_record (c : Catalog) (p : Provider) (j : Journal) :
    (c.addProvider p).outcomeFrom j = ((p.findings c.family).foldlM record c).outcomeFrom j := by
  rw [addProvider, Provider.findings]
  by_cases hp : p.kind.isProvider
  · by_cases hf : p.family = c.family
    · simp only [hp, hf, Bool.not_true, Bool.false_eq_true, if_false, if_true, ne_eq,
        not_true_eq_false, foldlM_addMarked]
    · simp only [hp, hf, Bool.not_true, Bool.false_eq_true, if_false, if_true, ne_eq,
        not_false_eq_true, List.foldlM_nil]
  · simp only [hp, Bool.not_false, if_true, List.foldlM_cons]
    rfl

theorem family_record {c d : Catalog} {f : Finding} {i j : Journal}
    (h : (c.record f).outcomeFrom i = (.ok d, j)) : d.family = c.family := by
  cases f with
  | stranger => cases h
  | misnamed => cases h
  | skipped =>
    cases h
    rfl
  | offered op =>
    rw [record, Compile.outcomeFrom_lift, add] at h
    cases hany : ((c.operations.get? op.name).getD []).any fun other => sameParameters other op with
    | true =>
      simp only [hany, if_true] at h
      cases h
    | false =>
      simp only [hany, Bool.false_eq_true, if_false] at h
      cases h
      rfl

def findings (family : String) (providers : List Provider) : List Finding :=
  providers.flatMap (·.findings family)

theorem foldlM_addProvider (providers : List Provider) (c : Catalog) (j : Journal) :
    (providers.foldlM addProvider c).outcomeFrom j =
      ((findings c.family providers).foldlM record c).outcomeFrom j := by
  induction providers generalizing c j with
  | nil => rfl
  | cons p ps ih =>
    rw [List.foldlM_cons, findings, List.flatMap_cons, List.foldlM_append, Compile.outcomeFrom_bind,
      Compile.outcomeFrom_bind, addProvider_eq_record]
    rcases hr : ((p.findings c.family).foldlM record c).outcomeFrom j with ⟨e | d, i⟩
    · rfl
    · have hd : d.family = c.family :=
        Compile.foldlM_keeps (·.family = c.family) (p.findings c.family)
          (fun _ _ _ _ _ hc hs => (family_record hs).trans hc) rfl hr
      change (ps.foldlM addProvider d).outcomeFrom i = _
      rw [ih d i, hd]
      rfl

def built (family : String) (c : Catalog) : Event :=
  .logged .debug ("Built " ++ family ++ " catalog with operations " ++
    Value.textsLiteral c.sortedNames)

theorem outcomeFrom_discover (family : String) (providers : List Provider) (j : Journal) :
    (discover family providers).outcomeFrom j =
      match ((findings family providers).foldlM record (empty family)).outcomeFrom j with
      | (.ok c, i) => (.ok c, i ++ [built family c])
      | (.error e, i) => (.error e, i) := by
  have h : _ = ((findings family providers).foldlM record (empty family)).outcomeFrom j :=
    foldlM_addProvider providers (empty family) j
  rw [← h, discover, Compile.outcomeFrom_bind]
  rcases (providers.foldlM addProvider (empty family)).outcomeFrom j with ⟨e | c, i⟩
  · rfl
  · rfl

/-- How discovery ends behind a journal: with the first thing that stops it, or with a catalog of
all operations; either way it has warned of what was left out until then. -/
inductive Discovered (family : String) (fs : List Finding) (j : Journal) :
    Except Failure Catalog × Journal → Prop
  | stopped {before f after e} : fs = before ++ f :: after → Clear before → Obstructs before f e →
      Discovered family fs j (.error e, j ++ warnings before)
  | complete {c} : Clear fs → c.family = family → c.Groups (offers fs) →
      Discovered family fs j (.ok c, j ++ warnings fs ++ [built family c])

theorem Discovered.of_ok {family : String} {fs : List Finding} {c : Catalog} {i j : Journal}
    (h : Discovered family fs i (.ok c, j)) : Clear fs ∧ c.Groups (offers fs) := by
  cases h with
  | complete hclear _ hgroups => exact ⟨hclear, hgroups⟩

theorem discovered_discover (family : String) (providers : List Provider) (j : Journal) :
    Discovered family (findings family providers) j
      ((discover family providers).outcomeFrom j) := by
  rw [outcomeFrom_discover]
  rcases foldlM_record (empty family) [] (findings family providers) j
    (Groups.of_empty family) clear_nil with
    ⟨c, hrun, hfamily, hgroups, hclear⟩ | ⟨before, f, after, e, hfs, hclear, he, hrun⟩
  · rw [hrun]
    exact .complete hclear hfamily hgroups
  · rw [hrun]
    exact .stopped hfs hclear he

end Catalog

end HttpGateway
