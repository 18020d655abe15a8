import HttpGateway.Pattern.Regex.Matcher
import HttpGateway.Pattern.Regex.Reader
import HttpGateway.Pattern.Segments
import HttpGateway.Provider.Offered

namespace HttpGateway

open HttpGateway.Text HttpGateway.Pattern

structure Expression where
  text : String
  compiled : Compiled

namespace Expression

def read (s : String) : Except Failure Expression :=
  match compile s with
  | .ok c => .ok ⟨s, c⟩
  | .error cause => .error (.badPattern cause)

def accepts (e : Expression) (s : String) : Except Failure Bool :=
  (e.compiled.matchesAll s).mapError .badPattern

end Expression

inductive Condition where
  | path (pattern : String)
  | host (pattern : String)
  | method (methods : List String)
  | header (name : String)
  | headerMatching (name : String) (e : Expression)
  | query (name : String)
  | queryMatching (name : String) (e : Expression)
  | cookie (name : String) (e : Expression)
  | after (m : Moment)
  | before (m : Moment)
  | between (first last : Moment)

namespace Condition

def methodKey (s : String) : String := upper (strip s)

def sortedTexts (xs : List String) : List String :=
  (xs.eraseDups).mergeSort fun a b => !(b < a)

def description : Condition → String
  | path pattern => "Path: " ++ pattern
  | host pattern => "Host: " ++ pattern
  | method methods => "Methods: " ++ Value.textsLiteral (sortedTexts (methods.map methodKey))
  | header name => "Header: " ++ name
  | headerMatching name e => "Header: " ++ name ++ " regexp=" ++ e.text
  | query name => "Query: " ++ name
  | queryMatching name e => "Query: " ++ name ++ " regexp=" ++ e.text
  | cookie name e => "Cookie: " ++ name ++ " regexp=" ++ e.text
  | after m => "After: " ++ m.anchored.text
  | before m => "Before: " ++ m.anchored.text
  | between first last => "Between: " ++ first.anchored.text ++ " and " ++ last.anchored.text

/-- The host without a port; the colons in brackets belong to it. -/
def withoutPort (host : String) : String :=
  if host.toList.getLast? = some ']' then host
  else
    match cutLast ':' host.toList with
    | (some name, _) => String.ofList name
    | (none, _) => host

def requestHost (r : Request) : Except Failure String :=
  let named := (r.headers.get? "host").getD ""
  (if named = "" then r.uri.shownHost.mapError .badHostName else .ok named).map withoutPort

def headerValues (r : Request) (name : String) : Except Failure (List String) :=
  match r.headers.values? name with
  | some values => .ok values
  | none => .error .notAscii

def holds (now : Int) (r : Request) : Condition → Except Failure Bool
  | path pattern => .ok (segmentsMatch (segments '/' pattern) (segments '/' r.path))
  | host pattern =>
    (requestHost r).map fun host =>
      segmentsMatch (segments '.' (lower pattern)) (segments '.' (lower host))
  | method methods => .ok ((methods.map methodKey).contains (upper r.method))
  | header name => (headerValues r name).map fun values => !values.isEmpty
  | headerMatching name e => do (← headerValues r name).anyM e.accepts
  | query name => .ok (r.params.contains name)
  | queryMatching name e => (r.params.valuesOf name).anyM e.accepts
  | cookie name e => (r.cookies.get? name).elim (.ok false) e.accepts
  | after m => .ok (m.instant < now)
  | before m => .ok (now < m.instant)
  | between first last => .ok (first.instant < now ∧ now < last.instant)

def predicate (c : Condition) : Predicate :=
  .test c.description fun r => do
    let holds ← Serve.lift id (c.holds (← read).now r)
    return .bool holds

def interval (first last : Moment) : Except Failure Condition :=
  if first.instant < last.instant then .ok (between first last)
  else .error (.emptyInterval first.anchored last.anchored)

end Condition

namespace Builtin

open Method

def condition (name : Option String) (formals : List (String × ParamType))
    (build : List Value → Option (Except Failure Condition)) : Member :=
  offered [name] formals fun _ values =>
    (build values).map fun c => c.map fun c => .predicate c.predicate

def expression (name : Option String) (first : String) (make : String → Expression → Condition) :
    Member :=
  condition name [(first, .text), ("regexp", .text)] fun
    | [.text s, .text e] => some ((Expression.read e).map (make s))
    | _ => none

def ofText (parameter : String) (make : String → Condition) : Member :=
  condition none [(parameter, .text)] fun
    | [.text s] => some (.ok (make s))
    | _ => none

def ofMoment (make : Moment → Condition) : Member :=
  condition none [("datetime", .moment)] fun
    | [.moment m] => some (.ok (make m))
    | _ => none

def predicateMembers : List (String × Member) := [
  ("path", ofText "pattern" .path),
  ("host", ofText "pattern" .host),
  ("method", condition none [("methods", .listOf .text)] fun
    | [.list xs] => (texts? xs).map fun methods => .ok (.method methods)
    | _ => none),
  ("header", ofText "header" .header),
  ("header_matching", expression (some "header") "header" .headerMatching),
  ("query", ofText "param" .query),
  ("query_matching", expression (some "query") "param" .queryMatching),
  ("cookie", expression none "name" .cookie),
  ("after", ofMoment .after),
  ("before", ofMoment .before),
  ("between", condition none [("datetime1", .moment), ("datetime2", .moment)] fun
    | [.moment first, .moment last] => some (Condition.interval first last)
    | _ => none)]

def predicates : ProviderClass :=
  ⟨⟨2, "RequestPredicates", some "predicates", some "predicate",
      OrderedMap.ofList predicateMembers⟩,
    ProviderClass.root.layers⟩

end Builtin

end HttpGateway
