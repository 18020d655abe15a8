import HttpGateway.Configuration.Spec
import HttpGateway.Text.Pieces

/-!
Binding: from data to descriptions of routes. All problems of the data are found, in the order of
the fields.
-/

namespace HttpGateway

open HttpGateway.Text

abbrev Binding (α : Type) := Except (List Problem) α

namespace Binding

def atStep {α : Type} (s : Step) (b : Binding α) : Binding α :=
  b.mapError fun ps => ps.map (Problem.under s)

def refuse {α : Type} (c : Problem.Cause) : Binding α := .error [⟨[], c⟩]

def app {α β : Type} (f : Binding (α → β)) (b : Binding α) : Binding β :=
  match f, b with
  | .ok f, .ok a => .ok (f a)
  | .ok _, .error ps => .error ps
  | .error ps, .ok _ => .error ps
  | .error ps, .error qs => .error (ps ++ qs)

def elements {α : Type} (bind : Value → Binding α) : (index : Nat) → List Value → Binding (List α)
  | _, [] => .ok []
  | i, v :: vs => app ((atStep (.element i) (bind v)).map List.cons) (elements bind (i + 1) vs)

def entries {α : Type} (bind : Value → Binding α) :
    List (String × Value) → Binding (List (String × α))
  | [] => .ok []
  | (k, v) :: es =>
    app ((atStep (.field k) (bind v)).map fun a => List.cons (k, a)) (entries bind es)

end Binding

namespace Value

open Binding

def required {α : Type} (es : List (String × Value)) (name : String) (bind : Value → Binding α) :
    Binding α :=
  atStep (.field name) (match es.lookup name with
    | none => refuse .missing
    | some v => bind v)

def optional {α : Type} (es : List (String × Value)) (name : String) (missing : α)
    (bind : Value → Binding α) : Binding α :=
  atStep (.field name) (match es.lookup name with
    | none => .ok missing
    | some v => bind v)

def bindText : Value → Binding String
  | text s => .ok s
  | _ => refuse .notText

def bindList {α : Type} (bind : Value → Binding α) (v : Value) : Binding (List α) :=
  match v with
  | list xs => elements bind 0 xs
  | tuple xs => elements bind 0 xs
  | _ => refuse .notTuple

def bindMap {α : Type} (bind : Value → Binding α) (v : Value) : Binding (OrderedMap α) :=
  match v with
  | map es => (entries bind es).map OrderedMap.ofList
  | _ => refuse .notMap

def bindWhole (v : Value) : Binding Int :=
  match v with
  | text s =>
    match Whole.read s.toList with
    | .ok n => .ok n
    | .error .malformed => refuse .unreadableWhole
    | .error .tooLong => refuse .tooLongWhole
  | float (.finite s m e) =>
    match (Binary64.finite s m e).toInt? with
    | none => refuse .fraction
    | some n => if n.natAbs < Binary64.wholeLimit then .ok n else refuse .tooLongWhole
  | float _ => refuse .notFinite
  | bool b => .ok (if b then 1 else 0)
  | int n => .ok n
  | _ => refuse .notWhole

def argumentText : Value → String
  | bool b => if b then "true" else "false"
  | v => v.plainText

end Value

namespace RawArgs

def ofValue : Value → RawArgs
  | .null => keyed {}
  | .map es => keyed (OrderedMap.ofList (es.map fun e => (e.1, e.2.argumentText)))
  | .list xs => positional (xs.map Value.argumentText)
  | .tuple xs => positional (xs.map Value.argumentText)
  | v => bare v.argumentText

end RawArgs

namespace OperationSpec

open Binding

def readArgs (cs : List Char) : List String :=
  if strip (String.ofList cs) = "" then []
  else (commaPieces cs).map fun p => String.ofList (plainCommas p)

def bindName (name : String) : Binding String :=
  if strip name = "" then refuse (.refused "operation name must not be empty") else .ok (strip name)

def ofText (s : String) : Binding OperationSpec :=
  let (name, args) := cut '=' s.toList
  (atStep (.field "name") (bindName (String.ofList name))).map fun name =>
    ⟨name, .positional ((args.map readArgs).getD [])⟩

def bind (model : String) (v : Value) : Binding OperationSpec :=
  match v with
  | .text s => ofText s
  | .map es =>
    let name := Value.required es "name" fun v => v.bindText >>= bindName
    app (name.map OperationSpec.mk) (Value.optional es "args" (.keyed {}) fun v => .ok (.ofValue v))
  | _ => refuse (.notModel model)

end OperationSpec

namespace RouteSpec

open Binding

structure Destination where
  uri : String
  destination : Uri
  parsed : Uri.parse uri = .ok destination
  has_scheme : destination.scheme ≠ ""

def bindDestination (s : String) : Binding Destination :=
  match h : Uri.parse s with
  | .error e => refuse (.refused ("invalid route uri " ++ quoted s ++ ": " ++ e.message))
  | .ok u =>
    if hs : u.scheme ≠ "" then .ok ⟨s, u, h, hs⟩
    else refuse (.refused ("route uri " ++ quoted s ++ " has no scheme"))

def make (id : String) (d : Destination) (predicates filters : List OperationSpec)
    (metadata : OrderedMap Value) (order : Int) : RouteSpec :=
  ⟨id, d.uri, d.destination, predicates, filters, metadata, order, d.parsed, d.has_scheme⟩

def bind (v : Value) : Binding RouteSpec :=
  match v with
  | .map es =>
    let id := Value.optional es "id" "" Value.bindText
    let uri := Value.required es "uri" fun v => v.bindText >>= bindDestination
    let predicates :=
      Value.optional es "predicates" [] (Value.bindList (OperationSpec.bind predicateModel))
    let filters := Value.optional es "filters" [] (Value.bindList (OperationSpec.bind filterModel))
    let metadata := Value.optional es "metadata" {} (Value.bindMap Except.ok)
    let order := Value.optional es "order" 0 Value.bindWhole
    app (app (app (app (app (id.map make) uri) predicates) filters) metadata) order
  | _ => refuse (.notModel "RouteProperties")

end RouteSpec

namespace GatewaySpec

open Binding

def check (g : GatewaySpec) : Binding GatewaySpec :=
  match g.idProblem? with
  | some reason => refuse (.refused reason)
  | none => .ok g

def bind (v : Value) : Binding GatewaySpec :=
  match v with
  | .map es =>
    let routes := Value.optional es "routes" [] (Value.bindList RouteSpec.bind)
    let routesMap := Value.optional es "routes_map" {} (Value.bindMap RouteSpec.bind)
    app (routes.map GatewaySpec.mk) routesMap >>= check
  | _ => refuse (.notModel "GatewayProperties")

end GatewaySpec

end HttpGateway
