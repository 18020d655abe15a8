import HttpGateway.Builtin.Filters
import HttpGateway.Builtin.Handlers
import HttpGateway.Builtin.Predicates
import HttpGateway.Provider.Registry

namespace HttpGateway.Builtin

def classes : List ProviderClass := [handlers, predicates, filters]

def registry : Registry := OrderedMap.ofList (classes.map fun c => (c.code, c))

def providers (outlet : Outlet) : List Provider :=
  Registry.providers registry (OrderedMap.ofList [(handlers.code, ⟨handlers, outlet⟩)])

end HttpGateway.Builtin
