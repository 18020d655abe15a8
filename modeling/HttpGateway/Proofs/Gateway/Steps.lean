import HttpGateway.Proofs.Gateway.Calls
import HttpGateway.Proofs.Gateway.Dispatch

namespace HttpGateway

open HttpGateway.Text

namespace Compiler

open Catalog (Builds Refuses Obtained Unmatched)

variable {α : Type} {c : Compiler} {catalog : Catalog} {j k : Journal}

def handlerKeys (c : Compiler) (scheme : String) : List String :=
  if scheme ∈ c.addressSchemes then ["uri"] else []

def handlerName (t : RouteSpec) : String := lower t.destination.scheme

def HandlerBuilds (c : Compiler) (t : RouteSpec) (j : Journal) (op : Operation)
    (o : Except Failure Product × Journal) : Prop :=
  Builds (c.handlers.candidates (handlerName t)) (c.handlerArgs (handlerName t) t.uri) c.absent j
    op o

def HandlerAsked (c : Compiler) (t : RouteSpec) (j : Journal)
    (o : Except Failure (String × Product) × Journal) : Prop :=
  Obtained (c.handlers.candidates (handlerName t)) (c.handlerArgs (handlerName t) t.uri) c.absent
    (.unresolvableScheme (handlerName t)) j o

inductive HandlerStep (c : Compiler) (t : RouteSpec) (j : Journal) :
    Except Failure Handling × Journal → Prop
  | failed {f k} : c.HandlerAsked t j (.error f, k) → HandlerStep c t j (.error f, k)
  | misshapen {name product k} : c.HandlerAsked t j (.ok (name, product), k) →
      product.handling? = none →
      HandlerStep c t j (.error (.handlerShape (handlerName t) product.shown), k)
  | handled {name product h k} : c.HandlerAsked t j (.ok (name, product), k) →
      product.handling? = some h → HandlerStep c t j (.ok h, k)

def FunctionBuilds (c : Compiler) (catalog : Catalog) (s : OperationSpec) (j : Journal)
    (op : Operation) (o : Except Failure Product × Journal) : Prop :=
  Builds (catalog.candidates s.name) s.args c.absent j op o

def FunctionAsked (c : Compiler) (catalog : Catalog) (s : OperationSpec) (j : Journal)
    (o : Except Failure (String × Product) × Journal) : Prop :=
  Obtained (catalog.candidates s.name) s.args c.absent
    (.operationNotFound (OperationName.normal s.name) catalog.family s.args) j o

def skipped (name family : String) : Event :=
  .logged .debug ("Operation " ++ name ++ " returned no " ++ family ++ ", skipped")

def added (family id : String) (s : OperationSpec) : Event :=
  .logged .debug ("Adding " ++ family ++ " to route " ++ id ++ " - " ++ s.shown)

inductive FunctionStep (c : Compiler) (catalog : Catalog) (id : String) (read : Product → Option α)
    (s : OperationSpec) (j : Journal) : Except Failure (Option α) × Journal → Prop
  | failed {f k} : c.FunctionAsked catalog s j (.error f, k) →
      FunctionStep c catalog id read s j (.error f, k)
  | skipped {name k} : c.FunctionAsked catalog s j (.ok (name, .value .null), k) →
      FunctionStep c catalog id read s j (.ok none, k ++ [Compiler.skipped name catalog.family])
  | useless {name product k} : c.FunctionAsked catalog s j (.ok (name, product), k) →
      product ≠ .value .null → read product = none →
      FunctionStep c catalog id read s j (.error (.invalidResult name product.shown), k)
  | added {name product f k} : c.FunctionAsked catalog s j (.ok (name, product), k) →
      product ≠ .value .null → read product = some f →
      FunctionStep c catalog id read s j (.ok (some f), k ++ [Compiler.added catalog.family id s])

theorem handling_eq_ask (t : RouteSpec) :
    c.handling t = c.ask c.handlers (handlerName t) (c.handlerArgs (handlerName t) t.uri)
      (.unresolvableScheme (handlerName t)) >>= fun a =>
        match a.2.handling? with
        | some h => return h
        | none => throw (.handlerShape (handlerName t) a.2.shown) := by
  simp only [handling, ask, bind_assoc, handlerName]
  refine bind_congr fun found => ?_
  cases found with
  | none => rfl
  | some found =>
    refine (bind_congr fun product => ?_).trans (bind_assoc _ _ _).symm
    cases hp : product.handling? <;> simp only [pure_bind, hp]

theorem outcomeFrom_handling_eq_iff {t : RouteSpec}
    (hops : Catalog.Overloads (c.handlers.candidates (handlerName t)))
    {o : Except Failure Handling × Journal} :
    (c.handling t).outcomeFrom j = o ↔ c.HandlerStep t j o := by
  rw [handling_eq_ask]
  constructor
  · rintro rfl
    generalize ho : (c.ask _ _ _ _).outcomeFrom j = o
    rcases o with ⟨f | ⟨name, product⟩, k⟩
    · rw [Compile.outcomeFrom_bind_error ho]
      exact .failed ((outcomeFrom_ask_eq_iff hops).1 ho)
    · rw [Compile.outcomeFrom_bind_ok ho]
      cases hp : product.handling? with
      | none => exact .misshapen ((outcomeFrom_ask_eq_iff hops).1 ho) hp
      | some h => exact .handled ((outcomeFrom_ask_eq_iff hops).1 ho) hp
  · intro h
    cases h with
    | failed h => exact Compile.outcomeFrom_bind_error ((outcomeFrom_ask_eq_iff hops).2 h)
    | misshapen h hp =>
      rw [Compile.outcomeFrom_bind_ok ((outcomeFrom_ask_eq_iff hops).2 h), hp]
      rfl
    | handled h hp =>
      rw [Compile.outcomeFrom_bind_ok ((outcomeFrom_ask_eq_iff hops).2 h), hp]
      rfl

theorem outcomeFrom_function_of_obtained {s : OperationSpec} (id : String)
    (read : Product → Option α) {name : String} {product : Product}
    (h : (c.obtain catalog s).outcomeFrom j = (.ok (name, product), k)) :
    (c.function catalog id read s).outcomeFrom j =
      if product.isNothing then (.ok none, k ++ [skipped name catalog.family])
      else match read product with
        | none => (.error (.invalidResult name product.shown), k)
        | some f => (.ok (some f), k ++ [added catalog.family id s]) := by
  rw [function, Compile.outcomeFrom_bind_ok h]
  by_cases hp : product.isNothing
  · simp only [hp, if_true]
    rfl
  · simp only [hp]
    cases read product <;> rfl

theorem outcomeFrom_function_eq_iff {s : OperationSpec} {id : String} {read : Product → Option α}
    (hops : Catalog.Overloads (catalog.candidates s.name))
    {o : Except Failure (Option α) × Journal} :
    (c.function catalog id read s).outcomeFrom j = o ↔ c.FunctionStep catalog id read s j o := by
  constructor
  · rintro rfl
    rcases ho : (c.obtain catalog s).outcomeFrom j with ⟨f | ⟨name, product⟩, k⟩
    · rw [function, Compile.outcomeFrom_bind_error ho]
      exact .failed ((outcomeFrom_ask_eq_iff hops).1 ho)
    · rw [outcomeFrom_function_of_obtained id read ho]
      rw [obtain_eq_ask, outcomeFrom_ask_eq_iff hops] at ho
      -- nothing is skipped before it is read, so it is no useless product
      by_cases hp : product.isNothing
      · rw [if_pos hp]
        rw [Product.isNothing_iff] at hp
        exact .skipped (hp ▸ ho)
      · rw [if_neg hp]
        rw [Product.isNothing_iff] at hp
        cases hread : read product with
        | none => exact .useless ho hp hread
        | some f => exact .added ho hp hread
  · intro h
    cases h with
    | failed h => exact Compile.outcomeFrom_bind_error ((outcomeFrom_ask_eq_iff hops).2 h)
    | skipped h =>
      exact outcomeFrom_function_of_obtained id read ((outcomeFrom_ask_eq_iff hops).2 h)
    | useless h hp hread =>
      rw [outcomeFrom_function_of_obtained id read ((outcomeFrom_ask_eq_iff hops).2 h),
        if_neg (mt Product.isNothing_iff.1 hp), hread]
    | added h hp hread =>
      rw [outcomeFrom_function_of_obtained id read ((outcomeFrom_ask_eq_iff hops).2 h),
        if_neg (mt Product.isNothing_iff.1 hp), hread]

theorem exists_handlerArgs_eq (scheme uri : String) :
    ∃ args, c.handlerArgs scheme uri = .keyed args ∧ ¬ RawArgs.AllGenerated args ∧
      args.keys = c.handlerKeys scheme := by
  by_cases h : scheme ∈ c.addressSchemes
  · refine ⟨OrderedMap.ofList [("uri", uri)], ?_, ?_, ?_⟩
    · rw [handlerArgs, if_pos (List.contains_iff_mem.2 h)]
    · -- `uri` is no generated key, so the arguments do not go by their position
      exact RawArgs.not_allGenerated_of_mem (k := "uri") List.mem_cons_self (by decide)
    · rw [handlerKeys, if_pos h]
      rfl
  · refine ⟨{}, ?_, ?_, ?_⟩
    · rw [handlerArgs, if_neg (mt List.contains_iff_mem.1 h)]
    · rintro ⟨hne, -⟩
      exact hne rfl
    · rw [handlerKeys, if_neg h]
      rfl

theorem unmatched_handlerArgs_iff {ops : List Operation} {scheme uri : String} :
    Unmatched ops (c.handlerArgs scheme uri) ↔
      ∀ op ∈ ops, ¬ op.TakesKeys (c.handlerKeys scheme) := by
  obtain ⟨args, hargs, hkeyed, hkeys⟩ := exists_handlerArgs_eq (c := c) scheme uri
  rw [hargs, ← hkeys]
  constructor
  · rintro ⟨-, hunfit⟩ op hop hkeys
    exact hunfit op hop (.keyed hkeyed hkeys)
  · intro h
    refine ⟨.inl fun hall => absurd hall hkeyed, fun op hop => ?_⟩
    rw [Operation.fits_keyed_iff hkeyed]
    exact h op hop

theorem not_unreadable_handlerArgs {scheme uri : String} {e : IndexError} :
    ¬ (c.handlerArgs scheme uri).Unreadable e := by
  obtain ⟨args, hargs, hkeyed, -⟩ := exists_handlerArgs_eq (c := c) scheme uri
  rw [hargs]
  rintro ⟨hall, -⟩
  exact hkeyed hall

structure HandlerFailures (c : Compiler) (t : RouteSpec) : Prop where
  unresolvable : ∀ j k scheme,
    (c.handling t).outcomeFrom j = (.error (.unresolvableScheme scheme), k) ↔
      (∃ op, c.HandlerBuilds t j op (.error (.unresolvableScheme scheme), k)) ∨
        scheme = handlerName t ∧ k = j ∧
          ∀ op ∈ c.handlers.candidates scheme, ¬ op.TakesKeys (c.handlerKeys scheme)
  shape : ∀ j k scheme shown,
    (c.handling t).outcomeFrom j = (.error (.handlerShape scheme shown), k) ↔
      (∃ op, c.HandlerBuilds t j op (.error (.handlerShape scheme shown), k)) ∨
        ∃ op product, c.HandlerBuilds t j op (.ok product, k) ∧ ¬ product.Callable ∧
          (∀ h, product ≠ .handling h) ∧ scheme = handlerName t ∧ shown = product.shown
  conversion : ∀ j k parameter value operation,
    (c.handling t).outcomeFrom j = (.error (.conversion parameter value operation), k) ↔
      (∃ op, c.HandlerBuilds t j op (.error (.conversion parameter value operation), k)) ∨
        k = j ∧ Refuses (c.handlers.candidates (handlerName t))
          (c.handlerArgs (handlerName t) t.uri) (.conversion parameter value operation)

theorem outcomeFrom_handling_eq_error_iff {t : RouteSpec} {f : Failure}
    (hops : Catalog.Overloads (c.handlers.candidates (handlerName t))) :
    (c.handling t).outcomeFrom j = (.error f, k) ↔
      (∃ op, c.HandlerBuilds t j op (.error f, k)) ∨
      (f = .unresolvableScheme (handlerName t) ∧ k = j ∧
        ∀ op ∈ c.handlers.candidates (handlerName t),
          ¬ op.TakesKeys (c.handlerKeys (handlerName t))) ∨
      (k = j ∧ Refuses (c.handlers.candidates (handlerName t))
        (c.handlerArgs (handlerName t) t.uri) f) ∨
      ∃ op product, c.HandlerBuilds t j op (.ok product, k) ∧ ¬ product.Callable ∧
        (∀ h, product ≠ .handling h) ∧ f = .handlerShape (handlerName t) product.shown := by
  rw [outcomeFrom_handling_eq_iff hops]
  constructor
  · intro h
    cases h with
    | failed hasked =>
      rcases Catalog.obtained_error_iff.1 hasked with
        hraised | ⟨hk, ⟨hf, hnone⟩ | ⟨e, -, -, he⟩ | hrefused⟩
      · exact .inl hraised
      · exact .inr (.inl ⟨hf, hk, unmatched_handlerArgs_iff.1 hnone⟩)
      · exact absurd he not_unreadable_handlerArgs
      · exact .inr (.inr (.inl ⟨hk, hrefused⟩))
    | misshapen hasked hp =>
      obtain ⟨op, -, hbuilt⟩ := Catalog.obtained_ok_iff.1 hasked
      obtain ⟨hcall, hhandling⟩ := Product.handling?_eq_none_iff.1 hp
      exact .inr (.inr (.inr ⟨op, _, hbuilt, hcall, hhandling, rfl⟩))
  · rintro (h | ⟨rfl, hk, h⟩ | ⟨hk, h⟩ | ⟨op, product, h, hcall, hhandling, rfl⟩)
    · exact .failed (Catalog.obtained_error_iff.2 (.inl h))
    · refine .failed (Catalog.obtained_error_iff.2 (.inr ⟨hk, .inl ⟨rfl, ?_⟩⟩))
      exact unmatched_handlerArgs_iff.2 h
    · exact .failed (Catalog.obtained_error_iff.2 (.inr ⟨hk, .inr (.inr h)⟩))
    · have hp := Product.handling?_eq_none_iff.2 ⟨hcall, hhandling⟩
      exact .misshapen (Catalog.obtained_ok_iff.2 ⟨op, rfl, h⟩) hp

theorem handlerFailures {t : RouteSpec}
    (hops : Catalog.Overloads (c.handlers.candidates (handlerName t))) : c.HandlerFailures t := by
  constructor
  · intro j k scheme
    rw [outcomeFrom_handling_eq_error_iff hops]
    constructor
    · rintro (h | ⟨hf, h⟩ | ⟨-, h⟩ | ⟨_, _, _, _, _, hf⟩)
      · exact .inl h
      · cases hf
        exact .inr ⟨rfl, h⟩
      · obtain ⟨_, _, _, hf⟩ := h.conversion
        cases hf
      · cases hf
    · rintro (h | ⟨rfl, h⟩)
      · exact .inl h
      · exact .inr (.inl ⟨rfl, h⟩)
  · intro j k scheme shown
    rw [outcomeFrom_handling_eq_error_iff hops]
    constructor
    · rintro (h | ⟨hf, -⟩ | ⟨-, h⟩ | ⟨op, product, h, hcall, hhandling, hf⟩)
      · exact .inl h
      · cases hf
      · obtain ⟨_, _, _, hf⟩ := h.conversion
        cases hf
      · cases hf
        exact .inr ⟨op, product, h, hcall, hhandling, rfl, rfl⟩
    · rintro (h | ⟨op, product, h, hcall, hhandling, rfl, rfl⟩)
      · exact .inl h
      · exact .inr (.inr (.inr ⟨op, product, h, hcall, hhandling, rfl⟩))
  · intro j k parameter value operation
    rw [outcomeFrom_handling_eq_error_iff hops]
    constructor
    · rintro (h | ⟨hf, -⟩ | h | ⟨_, _, _, _, _, hf⟩)
      · exact .inl h
      · cases hf
      · exact .inr h
      · cases hf
    · rintro (h | h)
      · exact .inl h
      · exact .inr (.inr (.inl h))

structure FunctionFailures (c : Compiler) (catalog : Catalog) (id : String)
    (read : Product → Option α) (s : OperationSpec) : Prop where
  notFound : ∀ j k name family arguments,
    (c.function catalog id read s).outcomeFrom j =
        (.error (.operationNotFound name family arguments), k) ↔
      (∃ op, c.FunctionBuilds catalog s j op
        (.error (.operationNotFound name family arguments), k)) ∨
        name = OperationName.normal s.name ∧ family = catalog.family ∧ arguments = s.args ∧
          k = j ∧ Unmatched (catalog.candidates s.name) s.args
  invalid : ∀ j k name shown,
    (c.function catalog id read s).outcomeFrom j = (.error (.invalidResult name shown), k) ↔
      (∃ op, c.FunctionBuilds catalog s j op (.error (.invalidResult name shown), k)) ∨
        ∃ op product, c.FunctionBuilds catalog s j op (.ok product, k) ∧
          product ≠ .value .null ∧ ¬ product.Callable ∧ name = op.name ∧ shown = product.shown
  conversion : ∀ j k parameter value operation,
    (c.function catalog id read s).outcomeFrom j =
        (.error (.conversion parameter value operation), k) ↔
      (∃ op, c.FunctionBuilds catalog s j op
        (.error (.conversion parameter value operation), k)) ∨
        k = j ∧ Refuses (catalog.candidates s.name) s.args
          (.conversion parameter value operation)
  index : ∀ j k e,
    (c.function catalog id read s).outcomeFrom j = (.error (.badIndex e), k) ↔
      (∃ op, c.FunctionBuilds catalog s j op (.error (.badIndex e), k)) ∨
        k = j ∧ catalog.candidates s.name ≠ [] ∧ s.args.Unreadable e

theorem outcomeFrom_function_eq_error_iff {s : OperationSpec} {id : String}
    {read : Product → Option α} {f : Failure}
    (hops : Catalog.Overloads (catalog.candidates s.name))
    (hread : ∀ p, read p = none ↔ ¬ p.Callable) :
    (c.function catalog id read s).outcomeFrom j = (.error f, k) ↔
      (∃ op, c.FunctionBuilds catalog s j op (.error f, k)) ∨
      (f = .operationNotFound (OperationName.normal s.name) catalog.family s.args ∧ k = j ∧
        Unmatched (catalog.candidates s.name) s.args) ∨
      (∃ e, f = .badIndex e ∧ k = j ∧ catalog.candidates s.name ≠ [] ∧ s.args.Unreadable e) ∨
      (k = j ∧ Refuses (catalog.candidates s.name) s.args f) ∨
      ∃ op product, c.FunctionBuilds catalog s j op (.ok product, k) ∧ product ≠ .value .null ∧
        ¬ product.Callable ∧ f = .invalidResult op.name product.shown := by
  rw [outcomeFrom_function_eq_iff hops]
  constructor
  · intro h
    cases h with
    | failed hasked =>
      rcases Catalog.obtained_error_iff.1 hasked with
        hraised | ⟨hk, ⟨hf, hnone⟩ | ⟨e, hf, hne, he⟩ | hrefused⟩
      · exact .inl hraised
      · exact .inr (.inl ⟨hf, hk, hnone⟩)
      · exact .inr (.inr (.inl ⟨e, hf, hk, hne, he⟩))
      · exact .inr (.inr (.inr (.inl ⟨hk, hrefused⟩)))
    | useless hasked hp hnone =>
      obtain ⟨op, rfl, hbuilt⟩ := Catalog.obtained_ok_iff.1 hasked
      exact .inr (.inr (.inr (.inr ⟨op, _, hbuilt, hp, (hread _).1 hnone, rfl⟩)))
  · rintro (h | ⟨rfl, hk, h⟩ | ⟨e, rfl, hk, hne, he⟩ | ⟨hk, h⟩ | ⟨op, product, h, hp, hcall, rfl⟩)
    · exact .failed (Catalog.obtained_error_iff.2 (.inl h))
    · exact .failed (Catalog.obtained_error_iff.2 (.inr ⟨hk, .inl ⟨rfl, h⟩⟩))
    · exact .failed (Catalog.obtained_error_iff.2 (.inr ⟨hk, .inr (.inl ⟨e, rfl, hne, he⟩)⟩))
    · exact .failed (Catalog.obtained_error_iff.2 (.inr ⟨hk, .inr (.inr h)⟩))
    · exact .useless (Catalog.obtained_ok_iff.2 ⟨op, rfl, h⟩) hp ((hread product).2 hcall)

theorem functionFailures {s : OperationSpec} {id : String} {read : Product → Option α}
    (hops : Catalog.Overloads (catalog.candidates s.name))
    (hread : ∀ p, read p = none ↔ ¬ p.Callable) : c.FunctionFailures catalog id read s := by
  constructor
  · intro j k name family arguments
    rw [outcomeFrom_function_eq_error_iff hops hread]
    constructor
    · rintro (h | ⟨hf, h⟩ | ⟨_, hf, _⟩ | ⟨-, h⟩ | ⟨_, _, _, _, _, hf⟩)
      · exact .inl h
      · cases hf
        exact .inr ⟨rfl, rfl, rfl, h⟩
      · cases hf
      · obtain ⟨_, _, _, hf⟩ := h.conversion
        cases hf
      · cases hf
    · rintro (h | ⟨rfl, rfl, rfl, h⟩)
      · exact .inl h
      · exact .inr (.inl ⟨rfl, h⟩)
  · intro j k name shown
    rw [outcomeFrom_function_eq_error_iff hops hread]
    constructor
    · rintro (h | ⟨hf, -⟩ | ⟨_, hf, _⟩ | ⟨-, h⟩ | ⟨op, product, h, hp, hcall, hf⟩)
      · exact .inl h
      · cases hf
      · cases hf
      · obtain ⟨_, _, _, hf⟩ := h.conversion
        cases hf
      · cases hf
        exact .inr ⟨op, product, h, hp, hcall, rfl, rfl⟩
    · rintro (h | ⟨op, product, h, hp, hcall, rfl, rfl⟩)
      · exact .inl h
      · exact .inr (.inr (.inr (.inr ⟨op, product, h, hp, hcall, rfl⟩)))
  · intro j k parameter value operation
    rw [outcomeFrom_function_eq_error_iff hops hread]
    constructor
    · rintro (h | ⟨hf, -⟩ | ⟨_, hf, _⟩ | h | ⟨_, _, _, _, _, hf⟩)
      · exact .inl h
      · cases hf
      · cases hf
      · exact .inr h
      · cases hf
    · rintro (h | h)
      · exact .inl h
      · exact .inr (.inr (.inr (.inl h)))
  · intro j k e
    rw [outcomeFrom_function_eq_error_iff hops hread]
    constructor
    · rintro (h | ⟨hf, -⟩ | ⟨_, hf, h⟩ | ⟨-, h⟩ | ⟨_, _, _, _, _, hf⟩)
      · exact .inl h
      · cases hf
      · cases hf
        exact .inr h
      · obtain ⟨_, _, _, hf⟩ := h.conversion
        cases hf
      · cases hf
    · rintro (h | h)
      · exact .inl h
      · exact .inr (.inr (.inl ⟨e, rfl, h⟩))

def predicateStep (c : Compiler) (id : String) (s : OperationSpec) : Compile (Option Predicate) :=
  c.function c.predicates id (Product.predicate? s.shown) s

def filterStep (c : Compiler) (id : String) (s : OperationSpec) : Compile (Option Filter) :=
  c.function c.filters id Product.filter? s

def combined (id : String) (given : List (Option Predicate)) : Event :=
  .logged .debug ("Combined predicate for route " ++ id ++ " - " ++
    (Predicate.allOf given.reduceOption).description)

/-- The steps of a route in their order, each of them behind the journal of those before it: the
handler, the predicates, the filters. The first one that fails is the last one. -/
inductive Assembled (c : Compiler) (id : String) (t : RouteSpec) (i : Journal) :
    Except Failure Route × Journal → Prop
  | unhandled {f j} : (c.handling t).outcomeFrom i = (.error f, j) →
      Assembled c id t i (.error f, j)
  | unpredicated {h before s after given f j k l} : (c.handling t).outcomeFrom i = (.ok h, j) →
      t.predicates = before ++ s :: after →
      Compile.InTurn (c.predicateStep id) before j given k →
      (c.predicateStep id s).outcomeFrom k = (.error f, l) → Assembled c id t i (.error f, l)
  | unfiltered {h given before s after made f j k l m} :
      (c.handling t).outcomeFrom i = (.ok h, j) →
      Compile.InTurn (c.predicateStep id) t.predicates j given k →
      t.filters = before ++ s :: after →
      Compile.InTurn (c.filterStep id) before (k ++ [combined id given]) made l →
      (c.filterStep id s).outcomeFrom l = (.error f, m) → Assembled c id t i (.error f, m)
  | complete {h given made j k l} : (c.handling t).outcomeFrom i = (.ok h, j) →
      Compile.InTurn (c.predicateStep id) t.predicates j given k →
      Compile.InTurn (c.filterStep id) t.filters (k ++ [combined id given]) made l →
      Assembled c id t i
        (.ok (CompiledRoute.route ⟨id, t, h, given.reduceOption, made.reduceOption⟩), l)

theorem outcomeFrom_assemble_eq_iff {id : String} {t : RouteSpec}
    {o : Except Failure Route × Journal} :
    (c.assemble id t).outcomeFrom j = o ↔ c.Assembled id t j o := by
  rcases o with ⟨f | route, k⟩
  · simp only [assemble, Compile.outcomeFrom_bind_eq_error_iff, outcomeFrom_functions_eq_ok_iff,
      outcomeFrom_functions_eq_error_iff, Compile.outcomeFrom_log, Compile.outcomeFrom_pure]
    constructor
    · rintro (h | ⟨h, j, hh, ⟨before, s, after, given, l, hss, hbefore, hs⟩ |
        ⟨ps, l, ⟨given, hgiven, rfl⟩, h | ⟨_, _, hlog,
          ⟨before, s, after, made, m, hss, hbefore, hs⟩ | ⟨fs, m, -, h⟩⟩⟩⟩)
      · exact .unhandled h
      · exact .unpredicated hh hss hbefore hs
      · cases h
      · cases hlog
        exact .unfiltered hh hgiven hss hbefore hs
      · cases h
    · intro h
      cases h with
      | unhandled h => exact .inl h
      | unpredicated hh hss hbefore hs =>
        exact .inr ⟨_, _, hh, .inl ⟨_, _, _, _, _, hss, hbefore, hs⟩⟩
      | unfiltered hh hgiven hss hbefore hs =>
        exact .inr ⟨_, _, hh, .inr ⟨_, _, ⟨_, hgiven, rfl⟩, .inr ⟨_, _, rfl,
          .inl ⟨_, _, _, _, _, hss, hbefore, hs⟩⟩⟩⟩
  · simp only [assemble, Compile.outcomeFrom_bind_eq_ok_iff, outcomeFrom_functions_eq_ok_iff,
      Compile.outcomeFrom_log, Compile.outcomeFrom_pure]
    constructor
    · rintro ⟨h, j, hh, ps, l, ⟨given, hgiven, rfl⟩, _, _, hlog, fs, m, ⟨made, hmade, rfl⟩, hr⟩
      cases hlog
      cases hr
      exact .complete hh hgiven hmade
    · intro h
      cases h with
      | complete hh hgiven hmade =>
        exact ⟨_, _, hh, _, _, ⟨_, hgiven, rfl⟩, _, _, rfl, _, _, ⟨_, hmade, rfl⟩, rfl⟩

def creating (id : String) (t : RouteSpec) : Event :=
  .logged .debug ("Creating route for " ++ id ++ ": " ++ t.shown)

def reported (id : String) (f : Failure) : Journal :=
  if f.isGateway then
    [.logged .error ("Route " ++ quoted id ++ " failed to compile: " ++ f.message)]
  else []

inductive Compiled (c : Compiler) (id : String) (t : RouteSpec) (i : Journal) :
    Except Failure Route × Journal → Prop
  | complete {route k} : Assembled c id t (i ++ [creating id t]) (.ok route, k) →
      Compiled c id t i (.ok route, k)
  | failed {f k} : Assembled c id t (i ++ [creating id t]) (.error f, k) →
      Compiled c id t i (.error f, k ++ reported id f)

theorem append_reported (id : String) (f : Failure) (k : Journal) :
    k ++ reported id f = if f.isGateway then k ++ [.logged .error
      ("Route " ++ quoted id ++ " failed to compile: " ++ f.message)] else k := by
  by_cases hf : f.isGateway <;> simp [reported, hf]

theorem outcomeFrom_compile_eq_iff {t : RouteSpec} {key : String}
    {o : Except Failure Route × Journal} :
    (c.compile t key).outcomeFrom j = o ↔ c.Compiled (routeId t key) t j o := by
  rw [outcomeFrom_compile]
  constructor
  · rintro rfl
    rcases h : (c.assemble (routeId t key) t).outcomeFrom _ with ⟨f | route, k⟩
    · have hfailed := Compiled.failed (outcomeFrom_assemble_eq_iff.1 h)
      rwa [append_reported] at hfailed
    · exact .complete (outcomeFrom_assemble_eq_iff.1 h)
  · intro h
    cases h with
    | complete h =>
      rw [creating] at h
      rw [outcomeFrom_assemble_eq_iff.2 h]
    | failed h =>
      rw [creating] at h
      rw [outcomeFrom_assemble_eq_iff.2 h, append_reported]

theorem outcomeFrom_make_eq_ok {providers : List Provider} {schemes : List String}
    {absent : String → Value} {i : Journal}
    (h : (make providers schemes absent).outcomeFrom i = (.ok c, j)) :
    (∃ k l, (Catalog.discover "handler" providers).outcomeFrom k = (.ok c.handlers, l)) ∧
    (∃ k l, (Catalog.discover "predicate" providers).outcomeFrom k = (.ok c.predicates, l)) ∧
    (∃ k l, (Catalog.discover "filter" providers).outcomeFrom k = (.ok c.filters, l)) ∧
    c.addressSchemes = schemes.map lower ∧ c.absent = absent := by
  simp only [make, Compile.outcomeFrom_bind_eq_ok_iff, Compile.outcomeFrom_pure] at h
  obtain ⟨handlers, k, hhandlers, predicates, l, hpredicates, filters, m, hfilters, h⟩ := h
  cases h
  exact ⟨⟨i, k, hhandlers⟩, ⟨k, l, hpredicates⟩, ⟨l, _, hfilters⟩, rfl, rfl⟩

/-- A route is compiled step by step: the handler, the predicates as they are configured, and the
filters as they are configured. Each step looks for one operation and calls it at most once, and the
failure of the first step that fails is the one of the route. -/
theorem compile_in_steps {providers : List Provider} {schemes : List String}
    {absent : String → Value} {i : Journal}
    (hc : (make providers schemes absent).outcomeFrom i = (.ok c, j)) (t : RouteSpec)
    (key : String) :
    c.addressSchemes = schemes.map lower ∧ c.absent = absent ∧
    c.predicates.family = "predicate" ∧ c.filters.family = "filter" ∧
    (∀ k o, (c.compile t key).outcomeFrom k = o ↔ c.Compiled (routeId t key) t k o) ∧
    (∀ k o, (c.handling t).outcomeFrom k = o ↔ c.HandlerStep t k o) ∧ c.HandlerFailures t ∧
    (∀ id s k o, (c.predicateStep id s).outcomeFrom k = o ↔
      c.FunctionStep c.predicates id (Product.predicate? s.shown) s k o) ∧
    (∀ id s, c.FunctionFailures c.predicates id (Product.predicate? s.shown) s) ∧
    (∀ id s k o, (c.filterStep id s).outcomeFrom k = o ↔
      c.FunctionStep c.filters id Product.filter? s k o) ∧
    (∀ id s, c.FunctionFailures c.filters id Product.filter? s) := by
  obtain ⟨⟨_, _, hhandlers⟩, ⟨_, _, hpredicates⟩, ⟨_, _, hfilters⟩, hschemes, habsent⟩ :=
    outcomeFrom_make_eq_ok hc
  have hhandler := Catalog.overloads_of_discover hhandlers (handlerName t)
  have hpredicate := Catalog.overloads_of_discover hpredicates
  have hfilter := Catalog.overloads_of_discover hfilters
  refine ⟨hschemes, habsent, Catalog.family_of_discover hpredicates,
    Catalog.family_of_discover hfilters, fun k o => outcomeFrom_compile_eq_iff,
    fun k o => outcomeFrom_handling_eq_iff hhandler, handlerFailures hhandler,
    fun id s k o => ?_, fun id s => ?_, fun id s k o => ?_, fun id s => ?_⟩
  · exact outcomeFrom_function_eq_iff (hpredicate s.name)
  · exact functionFailures (hpredicate s.name) fun p => Product.predicate?_eq_none_iff
  · exact outcomeFrom_function_eq_iff (hfilter s.name)
  · exact functionFailures (hfilter s.name) fun p => Product.filter?_eq_none_iff

end Compiler

namespace Sample

def answering : Provider :=
  ⟨⟨⟨2, "Answering", some "answering", some "handler", OrderedMap.ofList [("no", .method
      ⟨[], [⟨.null, {}⟩], false,
        fun _ args => do
          Compile.note (.called "no" args)
          return .handler fun _ => return .bare 200, none⟩)]⟩,
    ProviderClass.root.layers⟩, .empty⟩

def often : RawArgs := .keyed (OrderedMap.ofList [("times", "often"), ("name", "Ada")])

def misfitting : RouteSpec :=
  { first with id := "r", predicates := [], filters := [⟨"Greet", often⟩, ⟨"Greet", twice⟩] }

theorem compile_in_steps_misfitting : ∃ c j k,
    (Compiler.make [answering, greeter] [] Compiler.usualAbsent).outcomeFrom [] = (.ok c, j) ∧
    c.Compiled "r" misfitting [] (.error (.conversion "times" (.text "often") "greet"), k) ∧
    k.filter (fun e => e matches .called ..) = [.called "no" []] := by
  have h : ∃ c j k,
      (Compiler.make [answering, greeter] [] Compiler.usualAbsent).outcomeFrom [] = (.ok c, j) ∧
      (c.compile misfitting "").outcomeFrom [] =
        (.error (.conversion "times" (.text "often") "greet"), k) ∧
      k.filter (fun e => e matches .called ..) = [.called "no" []] := ⟨_, _, _, rfl, rfl, rfl⟩
  obtain ⟨c, j, k, hc, hrun, hk⟩ := h
  obtain ⟨-, -, -, -, hcompile, -⟩ := Compiler.compile_in_steps hc misfitting ""
  exact ⟨c, j, k, hc, (hcompile _ _).1 hrun, hk⟩

end Sample

end HttpGateway
