import HttpGateway.Gateway.Compiler
import HttpGateway.Proofs.Operation.Invocation

namespace HttpGateway

namespace Product

def Callable : Product → Prop
  | value _ => False
  | handling _ => False
  | _ => True

variable {p : Product}

theorem handling?_eq_none_iff : p.handling? = none ↔ ¬ p.Callable ∧ ∀ h, p ≠ .handling h := by
  cases p <;> simp [handling?, Callable]

theorem predicate?_eq_none_iff {description : String} :
    p.predicate? description = none ↔ ¬ p.Callable := by
  cases p <;> simp [predicate?, Callable]

theorem filter?_eq_none_iff : p.filter? = none ↔ ¬ p.Callable := by
  cases p <;> simp [filter?, Callable]

theorem isNothing_iff : p.isNothing ↔ p = .value .null := by
  constructor
  · intro h
    rw [isNothing.eq_def] at h
    split at h
    · rfl
    · cases h
  · rintro rfl
    rfl

end Product

namespace Catalog

variable {ops : List Operation} {raw : RawArgs} {absent : String → Value}

inductive Builds (ops : List Operation) (raw : RawArgs) (absent : String → Value) (j : Journal)
    (op : Operation) : Except Failure Product × Journal → Prop
  | called {position args arguments} : Resolves ops raw (some ⟨op, position, args⟩) →
      List.Forall₂ (Operation.Given absent (args.map .text)) op.parameters arguments →
      Builds ops raw absent j op ((op.build arguments).outcomeFrom j)

inductive Refuses (ops : List Operation) (raw : RawArgs) : Failure → Prop
  | misfit {found f} : Resolves ops raw (some found) →
      found.operation.Misfit (found.args.map .text) f → Refuses ops raw f

inductive Obtained (ops : List Operation) (raw : RawArgs) (absent : String → Value)
    (missing : Failure) (j : Journal) : Except Failure (String × Product) × Journal → Prop
  | missing : Unmatched ops raw → Obtained ops raw absent missing j (.error missing, j)
  | unreadable {e} : ops ≠ [] → raw.Unreadable e →
      Obtained ops raw absent missing j (.error (.badIndex e), j)
  | refused {f} : Refuses ops raw f → Obtained ops raw absent missing j (.error f, j)
  | raised {op f k} : Builds ops raw absent j op (.error f, k) →
      Obtained ops raw absent missing j (.error f, k)
  | built {op product k} : Builds ops raw absent j op (.ok product, k) →
      Obtained ops raw absent missing j (.ok (op.name, product), k)

theorem Builds.mem {j : Journal} {op : Operation} {o : Except Failure Product × Journal}
    (h : Builds ops raw absent j op o) (hops : Overloads ops) : op ∈ ops := by
  obtain ⟨hfound, -⟩ := h
  exact (hfound.supplies hops).1

theorem Builds.exists_eq {j : Journal} {op : Operation} {o : Except Failure Product × Journal}
    (h : Builds ops raw absent j op o) : ∃ arguments, (op.build arguments).outcomeFrom j = o := by
  obtain ⟨-, -⟩ := h
  exact ⟨_, rfl⟩

theorem Refuses.conversion {f : Failure} (h : Refuses ops raw f) :
    ∃ parameter value operation, f = .conversion parameter value operation := by
  obtain ⟨-, h⟩ := h
  cases h with
  | first => exact ⟨_, _, _, rfl⟩

variable {missing : Failure} {j k : Journal}

theorem obtained_error_iff {f : Failure} :
    Obtained ops raw absent missing j (.error f, k) ↔
      (∃ op, Builds ops raw absent j op (.error f, k)) ∨
        k = j ∧ (f = missing ∧ Unmatched ops raw ∨
          (∃ e, f = .badIndex e ∧ ops ≠ [] ∧ raw.Unreadable e) ∨ Refuses ops raw f) := by
  constructor
  · intro h
    cases h with
    | missing h => exact .inr ⟨rfl, .inl ⟨rfl, h⟩⟩
    | unreadable hne he => exact .inr ⟨rfl, .inr (.inl ⟨_, rfl, hne, he⟩)⟩
    | refused h => exact .inr ⟨rfl, .inr (.inr h)⟩
    | raised h => exact .inl ⟨_, h⟩
  · rintro (⟨op, h⟩ | ⟨rfl, ⟨rfl, h⟩ | ⟨e, rfl, hne, he⟩ | h⟩)
    · exact .raised h
    · exact .missing h
    · exact .unreadable hne he
    · exact .refused h

theorem obtained_ok_iff {name : String} {product : Product} :
    Obtained ops raw absent missing j (.ok (name, product), k) ↔
      ∃ op, op.name = name ∧ Builds ops raw absent j op (.ok product, k) := by
  constructor
  · intro h
    cases h with
    | built h => exact ⟨_, rfl, h⟩
  · rintro ⟨op, rfl, h⟩
    exact .built h

end Catalog

namespace Compiler

open Catalog (Builds Refuses Obtained Unmatched)

variable {c : Compiler} {catalog : Catalog} {j k : Journal}

def ask (c : Compiler) (catalog : Catalog) (name : String) (raw : RawArgs) (missing : Failure) :
    Compile (String × Product) := do
  match ← resolve catalog name raw with
  | none => throw missing
  | some found => return (found.operation.name, ← c.call found)

theorem obtain_eq_ask (s : OperationSpec) :
    c.obtain catalog s = c.ask catalog s.name s.args
      (.operationNotFound (OperationName.normal s.name) catalog.family s.args) := rfl

theorem outcomeFrom_ask (name : String) (raw : RawArgs) (missing : Failure) :
    (c.ask catalog name raw missing).outcomeFrom j = match catalog.find name raw with
      | .error e => (.error (.badIndex e), j)
      | .ok none => (.error missing, j)
      | .ok (some found) => (c.call found >>= fun product =>
          return (found.operation.name, product)).outcomeFrom j := by
  rw [ask, resolve]
  rcases catalog.find name raw with e | _ | found <;> rfl

theorem exists_call_of_builds {name : String}
    (hops : Catalog.Overloads (catalog.candidates name)) {raw : RawArgs} {op : Operation}
    {o : Except Failure Product × Journal}
    (h : Builds (catalog.candidates name) raw c.absent j op o) :
    ∃ found, catalog.find name raw = .ok (some found) ∧ found.operation = op ∧
      (c.call found).outcomeFrom j = o := by
  obtain ⟨hfound, hgiven⟩ := h
  refine ⟨_, (Catalog.firstFit_eq_iff hops).2 (.resolved hfound), rfl, ?_⟩
  exact Operation.outcomeFrom_invoke_eq_iff.2 (.built hgiven)

theorem outcomeFrom_ask_eq_iff {name : String} (hops : Catalog.Overloads (catalog.candidates name))
    {raw : RawArgs} {missing : Failure} {o : Except Failure (String × Product) × Journal} :
    (c.ask catalog name raw missing).outcomeFrom j = o ↔
      Obtained (catalog.candidates name) raw c.absent missing j o := by
  rw [outcomeFrom_ask]
  constructor
  · rintro rfl
    rcases hf : catalog.find name raw with e | _ | found
    · cases (Catalog.firstFit_eq_iff hops).1 hf with
      | unreadable hne he => exact .unreadable hne he
    · exact .missing ((Catalog.lookedUp_none_iff hops).1 ((Catalog.firstFit_eq_iff hops).1 hf))
    · cases (Catalog.firstFit_eq_iff hops).1 hf with
      | resolved hfound =>
        simp only [Compile.outcomeFrom_bind]
        generalize hcall : (c.call found).outcomeFrom j = o
        cases Operation.outcomeFrom_invoke_eq_iff.1 hcall with
        | refused hmisfit => exact .refused (.misfit hfound hmisfit)
        | @built arguments hgiven =>
          have hbuilds := Builds.called (j := j) hfound hgiven
          rcases hrun : (found.operation.build arguments).outcomeFrom j with ⟨f | product, k⟩
          · rw [hrun] at hbuilds
            exact .raised hbuilds
          · rw [hrun] at hbuilds
            exact .built hbuilds
  · intro h
    cases h with
    | missing h =>
      have hf := (Catalog.firstFit_eq_iff hops).2 ((Catalog.lookedUp_none_iff hops).2 h)
      rw [Catalog.find, hf]
    | unreadable hne he =>
      rw [Catalog.find, (Catalog.firstFit_eq_iff hops).2 (.unreadable hne he)]
    | refused h =>
      obtain ⟨hfound, hmisfit⟩ := h
      rw [Catalog.find, (Catalog.firstFit_eq_iff hops).2 (.resolved hfound)]
      exact Compile.outcomeFrom_bind_error
        (Operation.outcomeFrom_invoke_eq_iff.2 (.refused hmisfit))
    | raised h =>
      obtain ⟨found, hfound, -, hcall⟩ := exists_call_of_builds hops h
      rw [hfound]
      exact Compile.outcomeFrom_bind_error hcall
    | built h =>
      obtain ⟨found, hfound, rfl, hcall⟩ := exists_call_of_builds hops h
      rw [hfound]
      exact Compile.outcomeFrom_bind_ok hcall

end Compiler

end HttpGateway
