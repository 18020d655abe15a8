import HttpGateway.Exchange

namespace HttpGateway

abbrev Test := Request → Serve Value

inductive Predicate where
  | always
  | test (description : String) (run : Test)
  | both (p q : Predicate)

namespace Predicate

def unnamed : String := "test"

def description : Predicate → String
  | always => "*"
  | test d _ => d
  | both p q => "(" ++ p.description ++ " && " ++ q.description ++ ")"

/-- Whether a request is accepted; the right side of a conjunction is tested only if the left one
accepts. -/
def accepts : Predicate → Request → Serve Bool
  | always, _ => pure true
  | test _ run, r => return (← run r).holds
  | both p q, r => do
    if ← p.accepts r then q.accepts r else return false

def allOf : List Predicate → Predicate
  | [] => always
  | p :: ps => ps.foldl both p

def isAlways : Predicate → Bool
  | always => true
  | _ => false

def ofTest (description : String) (run : Test) : Predicate :=
  test (if description = "" then unnamed else description) run

def shown (p : Predicate) : String := "<RequestPredicate " ++ p.description ++ ">"

end Predicate

end HttpGateway
