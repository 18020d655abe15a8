import HttpGateway.Gateway.Filter
import HttpGateway.Pattern.Regex.Template
import HttpGateway.Text.Word

namespace HttpGateway

open HttpGateway.Text HttpGateway.Pattern

inductive RequestEdit where
  | stripPath (parts : Nat)
  | extendPath (start : String)
  | setPath (path : String)
  | substituteInPath (pattern : Compiled) (template : String)
  | addHeader (name : String) (values : List String)
  | setHeader (name : String) (values : List String)
  | removeHeader (name : String)
  | setHost (host : String)
  | keepHost
  | addParameter (name : String) (values : List String)
  | removeParameter (name : String)

namespace RequestEdit

def endsInSlash (path : String) : Bool := path.toList.getLast? == some '/'

/-- The escaped path without its first segments. A slash at its end stays if a segment is left. -/
def strippedPath (parts : Nat) (path : String) : String :=
  let all := segments '/' path
  "/" ++ "/".intercalate (all.drop parts) ++
    (if endsInSlash path && parts < all.length then "/" else "")

def pathStart (text : String) : String :=
  let inner := trimBy (· = '/') text.toList
  if inner = [] then "" else String.ofList ('/' :: inner)

def plainDollars : List Char → List Char
  | '$' :: '\\' :: cs => '$' :: plainDollars cs
  | c :: cs => c :: plainDollars cs
  | [] => []

def bracedName? : List Char → Option (List Char × List Char)
  | '{' :: cs =>
    let name := cs.takeWhile isWord
    match cs.dropWhile isWord with
    | '}' :: rest => if name = [] then none else some (name, rest)
    | _ => none
  | _ => none

def groupReferences : (fuel : Nat) → List Char → List Char
  | 0, cs => cs
  | _, [] => []
  | fuel + 1, c :: cs =>
    match if c = '$' then bracedName? cs else none with
    | some (name, rest) => ['\\', 'g', '<'] ++ name ++ '>' :: groupReferences fuel rest
    | none => c :: groupReferences fuel cs

def template (replacement : String) : String :=
  let cs := plainDollars replacement.toList
  String.ofList (groupReferences cs.length cs)

def templateFailure : TemplateError → Failure
  | .malformed => .badPattern .malformed
  | .tangledGroup => .badPattern .tangledGroup
  | .unknownName name => .unknownGroup name

def withPath (r : Request) (path : String) : Serve Request :=
  Serve.lift .badUri (r.withRawPath path)

def withParams (r : Request) (ps : Uri.Params) : Serve Request :=
  return r.withUri (← Serve.lift .badUri (r.uri.withParams ps))

def addedTo (h : Headers) (name : String) (values : List String) : Option Headers := do
  h.put? name (Headers.joined ((← h.values? name) ++ values))

def apply (e : RequestEdit) (r : Request) : Serve Request := do
  match e with
  | stripPath parts => withPath r (strippedPath parts r.rawPath)
  | extendPath start => withPath r (start ++ r.rawPath)
  | setPath path => withPath r path
  | substituteInPath pattern template =>
    withPath r (← Serve.lift templateFailure (pattern.substitute template r.rawPath))
  | addHeader name values =>
    return r.withHeaders (← Serve.require .notAscii (addedTo r.headers name values))
  | setHeader name values => return r.withHeaders (r.headers.put name (Headers.joined values))
  | removeHeader name => return r.withHeaders (← Serve.require .notAscii (r.headers.erase? name))
  | setHost host =>
    Serve.setAttribute keepHostAttribute (.bool true)
    return r.withHeaders (r.headers.put "host" host)
  | keepHost =>
    Serve.setAttribute keepHostAttribute (.bool true)
    return r
  | addParameter name values => withParams r (r.params.addAll name values)
  | removeParameter name => withParams r (r.params.erase name)

def stage (e : RequestEdit) : Stage := .onRequest e.apply

end RequestEdit

inductive ResponseEdit where
  | addHeader (name : String) (values : List String)
  | setHeader (name : String) (values : List String)
  | removeHeader (name : String)
  | setStatus (status : Int)

namespace ResponseEdit

def headers? (h : Headers) : ResponseEdit → Option Headers
  | addHeader name values => RequestEdit.addedTo h name values
  | setHeader name values => h.put? name (Headers.joined values)
  | removeHeader name => h.erase? name
  | setStatus _ => some h

def apply (e : ResponseEdit) (r : Response) : Serve Response := do
  let headers ← Serve.require .notAscii (e.headers? r.headers)
  match e with
  | setStatus status => return { r with status, headers }
  | _ => return { r with headers }

def stage (e : ResponseEdit) : Stage := .onResponse e.apply

end ResponseEdit

structure Redirection where
  status : Int
  uri : String

namespace Redirection

def make (status : Int) (uri : String) : Except Failure Redirection :=
  if 300 ≤ status ∧ status < 400 then .ok ⟨status, uri⟩ else .error (.notARedirect status)

def respond (d : Redirection) : Serve Response := do
  let headers ← Serve.require .notAscii (Headers.ofFields? [("location", d.uri)])
  return ⟨d.status, headers, ""⟩

def stage (d : Redirection) : Stage := .answer fun _ => d.respond

end Redirection

end HttpGateway
