import HttpGateway.Gateway.Compiler

namespace HttpGateway

inductive Ask where
  | dispatch
  | call (route : String)
  | matching

inductive Reply where
  | response (r : Option Response)
  | routes (keys : List String)

namespace Ask

def accepting (r : Request) : List (String × Route) → Serve (List String)
  | [] => return []
  | (key, t) :: ts => do
    let accepted ← t.predicate.accepts r
    let others ← accepting r ts
    return if accepted then key :: others else others

def run (routes : OrderedMap Route) (r : Request) : Ask → Serve Reply
  | dispatch => return .response (← Route.dispatch routes.values r)
  | call key => do
    let t ← Serve.require (.unknownKey key) (routes.get? key)
    return .response (← t.serve r)
  | matching => return .routes (← accepting r routes.entries)

end Ask

namespace Exchange

def fresh (jar : CookieJar) : Exchange := ⟨{}, jar, []⟩

/-- Exchanges one after another. Only the kept cookies pass from one to the next. -/
def inTurn {α : Type} (s : Surroundings) :
    CookieJar → List (Serve α) → List (Except Failure α × Exchange)
  | _, [] => []
  | jar, c :: cs =>
    let o := c.outcome s (fresh jar)
    o :: inTurn s o.2.jar cs

end Exchange

end HttpGateway
