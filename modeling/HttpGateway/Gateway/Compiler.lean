import HttpGateway.Configuration.Spec
import HttpGateway.Gateway.Route
import HttpGateway.Provider.Discovery

namespace HttpGateway

namespace Product

def shown : Product → Value
  | value v => v
  | _ => .text "function"

def misused : Failure := .misused "a function of another kind was called"

def predicateMisused : Failure :=
  .misused "RequestPredicate.__call__() takes 2 positional arguments but 3 were given"

def handling? : Product → Option Handling
  | value _ => none
  | handling h => some h
  | handler h => some ⟨h, []⟩
  | _ => some ⟨fun _ => throw misused, []⟩

/-- The product as a predicate, if it can be called. A function without a description takes the
given one. -/
def predicate? (description : String) : Product → Option Predicate
  | value _ => none
  | handling _ => none
  | predicate p => some p
  | test t => some (.test description t)
  | handler h => some (.test description fun r => do discard (h r); return .bool true)
  | filter _ => some (.test description fun _ => throw misused)

def filter? : Product → Option Filter
  | value _ => none
  | handling _ => none
  | filter f => some f
  | predicate _ => some fun _ _ => throw predicateMisused
  | _ => some fun _ _ => throw misused

def isNothing : Product → Bool
  | value .null => true
  | _ => false

end Product

structure Compiler where
  providers : List Provider
  handlers : Catalog
  predicates : Catalog
  filters : Catalog
  addressSchemes : List String
  absent : String → Value

namespace Compiler

open HttpGateway.Text

def usualAddressSchemes : List String := ["lb"]

def usualAbsent : String → Value := fun _ => .null

def make (providers : List Provider) (addressSchemes : List String) (absent : String → Value) :
    Compile Compiler := do
  let handlers ← Catalog.discover "handler" providers
  let predicates ← Catalog.discover "predicate" providers
  let filters ← Catalog.discover "filter" providers
  return ⟨providers, handlers, predicates, filters, addressSchemes.map lower, absent⟩

def catalogs (c : Compiler) : List Catalog := [c.handlers, c.predicates, c.filters]

def call (c : Compiler) (found : Catalog.Resolved) : Compile Product :=
  found.operation.invoke c.absent (found.args.map .text)

def resolve (catalog : Catalog) (name : String) (raw : RawArgs) :
    Compile (Option Catalog.Resolved) :=
  match catalog.find name raw with
  | .ok found => pure found
  | .error e => throw (.badIndex e)

def handlerArgs (c : Compiler) (scheme uri : String) : RawArgs :=
  .keyed (if c.addressSchemes.contains scheme then OrderedMap.ofList [("uri", uri)] else {})

def handling (c : Compiler) (t : RouteSpec) : Compile Handling := do
  let scheme := lower t.destination.scheme
  match ← resolve c.handlers scheme (c.handlerArgs scheme t.uri) with
  | none => throw (.unresolvableScheme scheme)
  | some found =>
    let product ← c.call found
    match product.handling? with
    | some h => return h
    | none => throw (.handlerShape scheme product.shown)

def obtain (c : Compiler) (catalog : Catalog) (s : OperationSpec) : Compile (String × Product) := do
  match ← resolve catalog s.name s.args with
  | none => throw (.operationNotFound (OperationName.normal s.name) catalog.family s.args)
  | some found => return (found.operation.name, ← c.call found)

def function {α : Type} (c : Compiler) (catalog : Catalog) (id : String) (read : Product → Option α)
    (s : OperationSpec) : Compile (Option α) := do
  let (name, product) ← c.obtain catalog s
  if product.isNothing then
    Compile.log .debug ("Operation " ++ name ++ " returned no " ++ catalog.family ++ ", skipped")
    return none
  match read product with
  | none => throw (.invalidResult name product.shown)
  | some f =>
    Compile.log .debug ("Adding " ++ catalog.family ++ " to route " ++ id ++ " - " ++ s.shown)
    return some f

def functions {α : Type} (c : Compiler) (catalog : Catalog) (id : String)
    (read : OperationSpec → Product → Option α) : List OperationSpec → Compile (List α)
  | [] => return []
  | s :: ss => do
    let f ← c.function catalog id (read s) s
    return f.toList ++ (← functions c catalog id read ss)

def stamp (id : String) (destination : Uri) : Stage :=
  .onRequest fun r => do
    Serve.setAttribute destinationAttribute (.uri destination)
    Serve.setAttribute routeAttribute (.text id)
    return r

def assemble (c : Compiler) (id : String) (t : RouteSpec) : Compile Route := do
  let handling ← c.handling t
  let predicates ← c.functions c.predicates id (fun s => Product.predicate? s.shown) t.predicates
  let predicate := Predicate.allOf predicates
  Compile.log .debug ("Combined predicate for route " ++ id ++ " - " ++ predicate.description)
  let filters ← c.functions c.filters id (fun _ => Product.filter?) t.filters
  return ⟨id, predicate, (stamp id t.destination).filter :: handling.filters ++ filters,
    handling.handler, t.metadata⟩

/-- Compiles a route under an id, or under its own one if that is empty. Failures of compilation are
logged. -/
def compile (c : Compiler) (t : RouteSpec) (id : String) : Compile Route := do
  let id := if id = "" then t.id else id
  Compile.log .debug ("Creating route for " ++ id ++ ": " ++ t.shown)
  tryCatch (c.assemble id t) fun f => do
    if f.isGateway then
      Compile.log .error ("Route " ++ quoted id ++ " failed to compile: " ++ f.message)
    throw f

def compileAll (c : Compiler) (g : GatewaySpec) : Compile (OrderedMap Route) := do
  return OrderedMap.ofList (← g.ordered.mapM fun e => do return (e.1, ← c.compile e.2 e.1))

def close (c : Compiler) : Compile Compiler :=
  return { c with providers := ← c.providers.mapM Provider.close }

end Compiler

end HttpGateway
