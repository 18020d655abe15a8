import HttpGateway.Client.CookieJar
import HttpGateway.Event
import HttpGateway.Failure
import HttpGateway.Message.Request

/-!
Computations that compile routes and computations that serve requests. Both leave a journal of
events behind, whether they succeed or fail; serving also reads its surroundings and changes what
the stages of an exchange share.
-/

namespace HttpGateway

abbrev Compile := ExceptT Failure (StateM Journal)

/-- The header fields that the client sends with each request that has none of their names. -/
class UsualFields where
  headers : Headers

instance UsualFields.none : UsualFields := ⟨.empty⟩

/-- What serving depends on: the present instant in microseconds from the start of 1970, the clock
of the client in seconds from then, the number of the instance that a balancer picks, the answers of
destinations, and the client's own header fields. -/
structure Surroundings where
  now : Int
  clock : Int
  pick : Int
  backend : Outbound → Except Failure Response
  [usual : UsualFields]

namespace Surroundings

def year (s : Surroundings) : Nat := (Moment.ofEpoch s.clock 0).year

end Surroundings

/-- What the stages of an exchange share, and the cookies that the client keeps beyond it. -/
structure Exchange where
  attributes : OrderedMap Value
  jar : CookieJar
  journal : Journal
deriving Inhabited

abbrev Serve := ReaderT Surroundings (ExceptT Failure (StateM Exchange))

namespace Compile

def note (e : Event) : Compile Unit := modify (· ++ [e])

def log (level : Level) (message : String) : Compile Unit := note (.logged level message)

def lift {α : Type} (r : Except Failure α) : Compile α :=
  match r with
  | .ok a => pure a
  | .error f => throw f

def outcome {α : Type} (c : Compile α) : Except Failure α × Journal := Id.run (c.run.run [])

end Compile

namespace Serve

def note (e : Event) : Serve Unit := modify fun x => { x with journal := x.journal ++ [e] }

def attribute? (name : String) : Serve (Option Value) := return (← get).attributes.get? name

def setAttribute (name : String) (v : Value) : Serve Unit :=
  modify fun x => { x with attributes := x.attributes.insert name v }

def lift {ε α : Type} (means : ε → Failure) (r : Except ε α) : Serve α :=
  match r with
  | .ok a => pure a
  | .error e => throw (means e)

def require {α : Type} (failure : Failure) (a : Option α) : Serve α :=
  match a with
  | some a => pure a
  | none => throw failure

def outcome {α : Type} (c : Serve α) (s : Surroundings) (x : Exchange) :
    Except Failure α × Exchange :=
  Id.run ((c.run s).run.run x)

end Serve

def destinationAttribute : String := "gateway_request_url"

def routeAttribute : String := "gateway_route_id"

def keepHostAttribute : String := "gateway_preserve_host_header"

end HttpGateway
