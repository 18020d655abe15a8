import HttpGateway.Configuration.Binding

namespace HttpGateway

namespace RawArgs

def toValue : RawArgs → Value
  | keyed args => .map (args.map Value.text).entries
  | positional values => .list (values.map .text)

end RawArgs

namespace OperationSpec

def toValue (s : OperationSpec) : Value := .map [("name", .text s.name), ("args", s.args.toValue)]

end OperationSpec

namespace RouteSpec

def toValue (row : List Value → Value) (t : RouteSpec) : Value :=
  .map [("id", .text t.id), ("uri", .text t.uri),
    ("predicates", row (t.predicates.map OperationSpec.toValue)),
    ("filters", row (t.filters.map OperationSpec.toValue)),
    ("metadata", .map t.metadata.entries), ("order", .int t.order)]

end RouteSpec

namespace GatewaySpec

def toValue (row : List Value → Value) (g : GatewaySpec) : Value :=
  .map [("routes", row (g.routes.map (RouteSpec.toValue row))),
    ("routes_map", .map (g.routesMap.map (RouteSpec.toValue row)).entries)]

end GatewaySpec

end HttpGateway
