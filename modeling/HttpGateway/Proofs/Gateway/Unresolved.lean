import HttpGateway.Proofs.Gateway.Steps
import HttpGateway.Proofs.Number.Whole
import HttpGateway.Proofs.Operation.Spellings
import Mathlib.Data.List.TakeWhile

/-!
Predicates and filters that cannot be resolved. A key counts as generated if it ends in digit signs,
but its index is read from decimal digits only, and not from too many of them. Where all indices can
be read, lookup always answers, and what fits no operation is not found; where one cannot, that is
the failure.
-/

namespace HttpGateway

namespace Text

theorem isSome_foldl_withDigit_iff {cs : List Char} {n : Nat} :
    (cs.foldl withDigit (some n)).isSome ↔ ∀ c ∈ cs, isDecimal c := by
  induction cs generalizing n with
  | nil => simp
  | cons c cs ih =>
    rw [List.foldl_cons, List.forall_mem_cons, isDecimal, withDigit]
    cases hd : digitValue? c with
    | none => simp [foldl_withDigit_none]
    | some d => simpa using ih

theorem isSome_digitsValue?_iff {cs : List Char} :
    (digitsValue? cs).isSome ↔ ∀ c ∈ cs, isDecimal c :=
  isSome_foldl_withDigit_iff

end Text

namespace RawArgs

open HttpGateway.Text

theorem exists_readIndex_iff {digits : List Char} :
    (∃ n, readIndex digits = .ok n) ↔
      digits.length ≤ Whole.digitLimit ∧ ∀ c ∈ digits, isDecimal c := by
  rw [readIndex]
  constructor
  · rintro ⟨n, hn⟩
    split at hn
    · cases hn
    · rename_i hlimit
      split at hn
      · rename_i m hm
        have hdecimal := isSome_digitsValue?_iff.1 (Option.isSome_iff_exists.2 ⟨m, hm⟩)
        rw [List.takeWhile_eq_self_iff.2 hdecimal] at hlimit
        exact ⟨Nat.le_of_not_lt hlimit, hdecimal⟩
      · cases hn
  · rintro ⟨hlimit, hdecimal⟩
    obtain ⟨n, hn⟩ := Option.isSome_iff_exists.1 (isSome_digitsValue?_iff.2 hdecimal)
    refine ⟨n, ?_⟩
    rw [List.takeWhile_eq_self_iff.2 hdecimal, if_neg (Nat.not_lt.2 hlimit), hn]

def Numbered : RawArgs → Prop
  | positional _ => True
  | keyed args => AllGenerated args → ∀ k ∈ args.keys, ∀ digits, Generated k digits →
      digits.length ≤ Whole.digitLimit ∧ ∀ c ∈ digits, isDecimal c

theorem readable_iff_numbered {raw : RawArgs} : raw.Readable ↔ raw.Numbered := by
  cases raw with
  | positional values => exact Iff.rfl
  | keyed args => simp only [Readable, Numbered, exists_readIndex_iff]

end RawArgs

namespace Catalog

variable {ops : List Operation} {raw : RawArgs}

theorem exists_answer_iff (hops : Overloads ops) :
    (∃ o, firstFit raw 0 ops = .ok o) ↔ ops = [] ∨ raw.Numbered := by
  rw [← RawArgs.readable_iff_numbered]
  constructor
  · rintro ⟨o, ho⟩
    by_cases hraw : raw.Readable
    · exact .inr hraw
    · by_contra hnot
      obtain ⟨e, he⟩ := RawArgs.exists_unreadable_of_not_readable hraw
      rw [(firstFit_eq_iff hops).2 (.unreadable (not_or.1 hnot).1 he)] at ho
      cases ho
  · rintro (rfl | hraw)
    · exact ⟨none, rfl⟩
    · obtain ⟨o, ho⟩ := exists_resolves ops hraw hops
      exact ⟨o, ho.firstFit hops⟩

theorem exists_found_iff (hops : Overloads ops) :
    (∃ found, firstFit raw 0 ops = .ok (some found)) ↔ ∃ op ∈ ops, op.Fits raw := by
  constructor
  · rintro ⟨found, hfound⟩
    cases (firstFit_eq_iff hops).1 hfound with
    | resolved h => exact ⟨found.operation, h.fits⟩
  · rintro ⟨op, hop, hfits⟩
    obtain ⟨o, ho⟩ := exists_resolves ops hfits.readable hops
    cases o with
    | none => exact absurd hfits (ho.unmatched.unfit op hop)
    | some found => exact ⟨found, ho.firstFit hops⟩

end Catalog

namespace Compiler

variable {α : Type} {c : Compiler} {catalog : Catalog} {k : Journal} {s : OperationSpec}

theorem outcomeFrom_function_of_numbered (id : String) (read : Product → Option α)
    (hops : Catalog.Overloads (catalog.candidates s.name))
    (hunfit : ∀ op ∈ catalog.candidates s.name, ¬ op.Fits s.args)
    (hanswer : catalog.candidates s.name = [] ∨ s.args.Numbered) :
    (c.function catalog id read s).outcomeFrom k =
      (.error (.operationNotFound (OperationName.normal s.name) catalog.family s.args), k) := by
  rw [← RawArgs.readable_iff_numbered, or_comm] at hanswer
  rw [outcomeFrom_function_eq_iff hops]
  exact .failed (.missing ⟨hanswer, hunfit⟩)

theorem outcomeFrom_function_of_not_numbered (id : String) (read : Product → Option α)
    (hops : Catalog.Overloads (catalog.candidates s.name)) (hne : catalog.candidates s.name ≠ [])
    (hraw : ¬ s.args.Numbered) : ∃ e, s.args.Unreadable e ∧
      (c.function catalog id read s).outcomeFrom k = (.error (.badIndex e), k) := by
  rw [← RawArgs.readable_iff_numbered] at hraw
  obtain ⟨e, he⟩ := RawArgs.exists_unreadable_of_not_readable hraw
  refine ⟨e, he, ?_⟩
  rw [outcomeFrom_function_eq_iff hops]
  exact .failed (.unreadable hne he)

end Compiler

/-- Lookup answers exactly if the name has no operation or the indices of generated keys can be
read. It finds an operation if one fits, and one that fits. A predicate or a filter that no operation
fits is not found where lookup answers; else it fails for the first index that cannot be read. -/
theorem Catalog.find_answers {family : String} {providers : List Provider} {catalog : Catalog}
    {i j : Journal} (hc : (discover family providers).outcomeFrom i = (.ok catalog, j))
    (s : OperationSpec) :
    ((∃ o, catalog.find s.name s.args = .ok o) ↔
      catalog.candidates s.name = [] ∨ s.args.Numbered) ∧
    ((∃ found, catalog.find s.name s.args = .ok (some found)) ↔
      ∃ op ∈ catalog.candidates s.name, op.Fits s.args) ∧
    (∀ found, catalog.find s.name s.args = .ok (some found) →
      found.operation ∈ catalog.candidates s.name ∧ found.operation.Fits s.args) ∧
    ((∀ op ∈ catalog.candidates s.name, ¬ op.Fits s.args) →
      ∀ {α : Type} (c : Compiler) (id : String) (read : Product → Option α) (k : Journal),
        (catalog.candidates s.name = [] ∨ s.args.Numbered →
          (c.function catalog id read s).outcomeFrom k =
            (.error (.operationNotFound (OperationName.normal s.name) family s.args), k)) ∧
        (catalog.candidates s.name ≠ [] → ¬ s.args.Numbered → ∃ e, s.args.Unreadable e ∧
          (c.function catalog id read s).outcomeFrom k = (.error (.badIndex e), k))) := by
  have hops := overloads_of_discover hc s.name
  have hfamily := family_of_discover hc
  refine ⟨exists_answer_iff hops, exists_found_iff hops, fun found hfound => ?_,
    fun hunfit _ c id read k => ⟨fun hanswer => ?_, fun hne hraw => ?_⟩⟩
  · cases (firstFit_eq_iff hops).1 hfound with
    | resolved h => exact h.fits
  · rw [← hfamily]
    exact Compiler.outcomeFrom_function_of_numbered id read hops hunfit hanswer
  · exact Compiler.outcomeFrom_function_of_not_numbered id read hops hne hraw

namespace Sample

def oneValue : RawArgs := .keyed (OrderedMap.ofList [("_genkey_0", "Ada")])

theorem positional_oneValue : oneValue.Positional ["Ada"] :=
  RawArgs.positional_of_indexed (List.pairwise_singleton (· < ·) 0)
    (List.forall_mem_singleton.2 (Nat.pow_pos (Nat.succ_pos 9))) rfl (List.cons_ne_nil _ _)
    (.refl _)

theorem find_answers_oneValue : ∃ catalog j,
    (Catalog.discover "filter" [greeter]).outcomeFrom [] = (.ok catalog, j) ∧
    oneValue.Numbered ∧ (∀ op ∈ catalog.candidates "Greet", ¬ op.Fits oneValue) ∧
    ∀ (c : Compiler) (id : String) (k : Journal),
      (c.function catalog id Product.filter? ⟨"Greet", oneValue⟩).outcomeFrom k =
        (.error (.operationNotFound "greet" "filter" oneValue), k) := by
  have hc : ∃ catalog j op, (Catalog.discover "filter" [greeter]).outcomeFrom [] =
      (.ok catalog, j) ∧ catalog.candidates "Greet" = [op] ∧
      op.parameterNames = ["name", "times"] := ⟨_, _, _, rfl, rfl, rfl⟩
  obtain ⟨catalog, j, op, hc, hcandidates, hnames⟩ := hc
  have hnumbered := RawArgs.readable_iff_numbered.1 positional_oneValue.readable
  have hunfit : ∀ op ∈ catalog.candidates "Greet", ¬ op.Fits oneValue := by
    rw [hcandidates, List.forall_mem_singleton, Operation.fits_positional_iff positional_oneValue,
      hnames]
    decide
  obtain ⟨-, -, -, hmissing⟩ := Catalog.find_answers hc ⟨"Greet", oneValue⟩
  exact ⟨catalog, j, hc, hnumbered, hunfit, fun c id k =>
    (hmissing hunfit c id Product.filter? k).1 (.inr hnumbered)⟩

def superscript : RawArgs := .keyed (OrderedMap.ofList [("_genkey_²", "Ada")])

theorem find_fails_superscript : ∃ catalog j,
    (Catalog.discover "filter" [greeter]).outcomeFrom [] = (.ok catalog, j) ∧
    catalog.find "Greet" superscript = .error (.notDecimal "²") ∧
    ∀ (c : Compiler) (id : String) (k : Journal),
      (c.function catalog id Product.filter? ⟨"Greet", superscript⟩).outcomeFrom k =
        (.error (.badIndex (.notDecimal "²")), k) :=
  ⟨_, _, rfl, rfl, fun _ _ _ => rfl⟩

end Sample

end HttpGateway
