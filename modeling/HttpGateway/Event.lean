import HttpGateway.Message.Outbound
import HttpGateway.Message.Request
import HttpGateway.Value

namespace HttpGateway

inductive Level where
  | debug
  | warning
  | error
deriving DecidableEq

/-- A label is a value that a declared operation gave to what it built. -/
inductive Event where
  | logged (level : Level) (message : String)
  | called (operation : String) (arguments : List (String × Value))
  | tested (label : Value)
  | entered (label : Value)
  | left (label : Value)
  | cutShort (label : Value)
  | handled (label destination : Value)
  | sent (request : Outbound)
  | received (request : Request) (attributes : List (String × Value))

abbrev Journal := List Event

end HttpGateway
