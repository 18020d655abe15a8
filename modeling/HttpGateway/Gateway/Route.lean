import HttpGateway.Gateway.Filter
import HttpGateway.Gateway.Predicate

namespace HttpGateway

structure Route where
  id : String
  predicate : Predicate
  filters : List Filter
  handler : Handler
  metadata : OrderedMap Value

namespace Route

def chain (t : Route) : Handler := Filter.chain t.filters t.handler

def serve (t : Route) (r : Request) : Serve (Option Response) := do
  if ← t.predicate.accepts r then return some (← t.chain r) else return none

def dispatch : List Route → Request → Serve (Option Response)
  | [], _ => return none
  | t :: ts, r => do
    if ← t.predicate.accepts r then return some (← t.chain r) else dispatch ts r

def shown (t : Route) : String :=
  "<RouteFunction " ++ Text.quoted t.id ++ " predicate=" ++ t.predicate.description ++
    " filters=" ++ Whole.text t.filters.length ++ ">"

end Route

end HttpGateway
