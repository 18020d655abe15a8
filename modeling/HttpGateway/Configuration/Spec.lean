import HttpGateway.Configuration.Problem
import HttpGateway.Operation.Arguments
import HttpGateway.Uri.Parts

namespace HttpGateway

open HttpGateway.Text

structure OperationSpec where
  name : String
  args : RawArgs
deriving Inhabited

namespace OperationSpec

def shown (s : OperationSpec) : String := s.name ++ "=" ++ s.args.literal

def literal (model : String) (s : OperationSpec) : String :=
  model ++ "(name=" ++ quoted s.name ++ ", args=" ++ s.args.literal ++ ")"

end OperationSpec

structure RouteSpec where
  id : String
  uri : String
  destination : Uri
  predicates : List OperationSpec
  filters : List OperationSpec
  metadata : OrderedMap Value
  order : Int
  parsed : Uri.parse uri = .ok destination
  has_scheme : destination.scheme ≠ ""

namespace RouteSpec

def predicateModel : String := "PredicateProperties"

def filterModel : String := "FilterProperties"

def tupleText : List String → String
  | [item] => "(" ++ item ++ ",)"
  | items => "(" ++ Value.listed items ++ ")"

def shown (t : RouteSpec) : String :=
  "id=" ++ quoted t.id ++ " uri=" ++ quoted t.uri ++
    " predicates=" ++ tupleText (t.predicates.map (OperationSpec.literal predicateModel)) ++
    " filters=" ++ tupleText (t.filters.map (OperationSpec.literal filterModel)) ++
    " metadata=" ++ (Value.map t.metadata.entries).literal ++ " order=" ++ Whole.text t.order

end RouteSpec

structure GatewaySpec where
  routes : List RouteSpec
  routesMap : OrderedMap RouteSpec

namespace GatewaySpec

/-- The routes with their ids as they are configured: a mapped route without an id takes its key. -/
def identified (g : GatewaySpec) : List (String × RouteSpec) :=
  g.routes.map (fun t => (t.id, t)) ++
    g.routesMap.entries.map fun e => (if e.2.id = "" then e.1 else e.2.id, e.2)

def ordered (g : GatewaySpec) : List (String × RouteSpec) :=
  g.identified.mergeSort fun a b => a.2.order ≤ b.2.order

def firstRepeated? : (seen : List String) → List String → Option String
  | _, [] => none
  | seen, x :: xs => if seen.contains x then some x else firstRepeated? (x :: seen) xs

def idProblem? (g : GatewaySpec) : Option String :=
  match g.routes.findIdx? (·.id = "") with
  | some i => some ("route at index " ++ Whole.text i ++ " has no id")
  | none =>
    (firstRepeated? [] (g.ordered.map Prod.fst)).map fun id => "duplicate route id " ++ quoted id

end GatewaySpec

end HttpGateway
