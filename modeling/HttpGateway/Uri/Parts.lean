import HttpGateway.Uri.Basic
import HttpGateway.Uri.Address
import HttpGateway.Text.CaseMap
import HttpGateway.Text.Quoted

namespace HttpGateway.Uri

open HttpGateway.Text

inductive Error where
  | tooLong
  | partTooLong (part : String)
  | controlCharacter (c : Char) (position : Nat)
  | controlCharacterIn (part : String) (c : Char) (position : Nat)
  | badIPv4 (host : String)
  | badIPv6 (host : String)
  | badName (host : String)
  | badPort (port : String)
  | pathNotRooted
  | pathWithTwoSlashes
  | pathWithColon
deriving DecidableEq, Repr

def Error.message : Error → String
  | tooLong => "URL too long"
  | partTooLong part => "URL component '" ++ part ++ "' too long"
  | controlCharacter c i =>
    "Invalid non-printable ASCII character in URL, " ++ quoted (String.singleton c) ++
      " at position " ++ Whole.text i ++ "."
  | controlCharacterIn part c i =>
    "Invalid non-printable ASCII character in URL " ++ part ++ " component, " ++
      quoted (String.singleton c) ++ " at position " ++ Whole.text i ++ "."
  | badIPv4 host => "Invalid IPv4 address: " ++ quoted host
  | badIPv6 host => "Invalid IPv6 address: " ++ quoted host
  | badName host => "Invalid IDNA hostname: " ++ quoted host
  | badPort port => "Invalid port: " ++ quoted port
  | pathNotRooted => "For absolute URLs, path must be empty or begin with '/'"
  | pathWithTwoSlashes => "Relative URLs cannot have a path starting with '//'"
  | pathWithColon => "Relative URLs cannot have a path starting with ':'"

def lengthLimit : Nat := 65536

structure Parts where
  scheme : String
  userinfo : String
  host : String
  port : Option String
  path : String
  query : Option String
  fragment : Option String
deriving DecidableEq

def pathSafe (c : Char) : Bool := '!' ≤ c && c ≤ '~' && !"\"#<>?`{}".toList.contains c

def querySafe (c : Char) : Bool := '!' ≤ c && c ≤ '~' && !"\"#<>".toList.contains c

def fragmentSafe (c : Char) : Bool := '!' ≤ c && c ≤ '~' && !"\"<>`".toList.contains c

def userinfoSafe (c : Char) : Bool := pathSafe c && !"/;=@[\\]^|".toList.contains c

def hostSafe (c : Char) : Bool := isUnreserved c || "!$&'()*+,;=\"`{}%|\\".toList.contains c

/-- Escapes what is not safe. A percent sign is safe in every part, so escapes stay as they are. -/
def escaped (safe : Char → Bool) (s : String) : String := String.ofList (escape safe s.toList)

def isSchemeChar (c : Char) : Bool := c.isAlphanum || c == '+' || c == '.' || c == '-'

def cutScheme (cs : List Char) : List Char × List Char :=
  let scheme := if cs.head?.any Char.isAlpha then cs.takeWhile isSchemeChar else []
  match cs.drop scheme.length with
  | ':' :: rest => (scheme, rest)
  | _ => ([], cs)

def cutAuthority : List Char → List Char × List Char
  | '/' :: '/' :: cs =>
    let stop := fun c : Char => c != '/' && c != '?' && c != '#'
    (cs.takeWhile stop, cs.dropWhile stop)
  | cs => ([], cs)

def cutHost (cs : List Char) : List Char × Option (List Char) :=
  let (host, rest) : List Char × List Char :=
    match cs, cutLast ']' cs with
    | '[' :: _, (some host, rest) => (host ++ [']'], rest)
    | _, _ => (cs.takeWhile (· ≠ ':'), cs.dropWhile (· ≠ ':'))
  (host, some (if rest.head? = some ':' then rest.drop 1 else rest))

def cutHostAndUser (authority : List Char) : List Char × List Char × Option (List Char) :=
  let (user, rest) := cutLast '@' authority
  (user.getD [], cutHost rest)

def Parts.ofText (s : String) : Parts :=
  let (scheme, rest) := cutScheme s.toList
  let (authority, rest) := cutAuthority rest
  let (rest, fragment) := cut '#' rest
  let (path, query) := cut '?' rest
  let (user, host, port) := cutHostAndUser authority
  ⟨String.ofList scheme, String.ofList user, String.ofList host, port.map String.ofList,
    String.ofList path, query.map String.ofList, fragment.map String.ofList⟩

def parts (u : Uri) : Parts :=
  let (user, host, port) := cutHostAndUser u.authority.toList
  ⟨u.scheme, String.ofList user, String.ofList host, port.map String.ofList, u.path, u.query,
    u.fragment⟩

def normalHost (host : String) : Except Error String :=
  let cs := host.toList
  if cs = [] then .ok ""
  else if looksLikeIPv4 cs then if isIPv4 cs then .ok host else .error (.badIPv4 host)
  else if cs.head? = some '[' ∧ cs.getLast? = some ']' then
    let inner := (cs.drop 1).dropLast
    if isIPv6 inner then .ok (String.ofList inner) else .error (.badIPv6 host)
  else if cs.all (·.toNat < 128) then .ok (escaped hostSafe (lower host))
  else .error (.badName host)

def defaultPort (scheme : String) : Option Int :=
  [("ftp", 21), ("http", 80), ("https", 443), ("ws", 80), ("wss", 443)].lookup scheme

def normalPort (scheme : String) (port : Option String) : Except Error (Option Int) :=
  match port with
  | none => .ok none
  | some p =>
    if p = "" then .ok none
    else
      match Whole.readLoose? p.toList with
      | none => .error (.badPort p)
      | some n => .ok (if defaultPort scheme = some n then none else some n)

/-- Drops `.` among the segments; `..` drops the segment before it, but never a leading
empty one. -/
def dropDots (segments : List (List Char)) : List (List Char) :=
  segments.foldl (fun kept s =>
    if s = ['.'] then kept
    else if s = ['.', '.'] then if kept = [[]] then kept else kept.dropLast
    else kept ++ [s]) []

def flatten (path : String) : String :=
  let segments := splitAt '/' path.toList
  if ['.'] ∈ segments ∨ ['.', '.'] ∈ segments then String.ofList (joinBy '/' (dropDots segments))
  else path

def checkPath (path : String) (hasScheme hasAuthority : Bool) : Except Error Unit :=
  let cs := path.toList
  if hasAuthority then
    if cs = [] ∨ cs.head? = some '/' then .ok () else .error .pathNotRooted
  else if hasScheme then .ok ()
  else if cs.take 2 = ['/', '/'] then .error .pathWithTwoSlashes
  else if cs.head? = some ':' then .error .pathWithColon
  else .ok ()

/-- The address in normal form that the parts write. A default port is recognised by the scheme as
it is written, in lower case only. -/
def Parts.normal (p : Parts) : Except Error Uri := do
  let scheme := lower p.scheme
  let userinfo := escaped userinfoSafe p.userinfo
  let host ← normalHost p.host
  let port ← normalPort p.scheme p.port
  let hasAuthority := userinfo != "" || host != "" || port.isSome
  checkPath p.path (scheme != "") hasAuthority
  let path := if scheme != "" || hasAuthority then flatten p.path else p.path
  return ⟨scheme, userinfo, host, port, escaped pathSafe path,
    p.query.map (escaped querySafe), p.fragment.map (escaped fragmentSafe)⟩

def controlCharacter? (cs : List Char) : Option (Char × Nat) :=
  (cs.zipIdx.find? fun c => c.1.toNat < 32 || c.1.toNat == 127)

def parse (s : String) : Except Error Uri :=
  let cs := s.toList
  if lengthLimit < cs.length then .error .tooLong
  else
    match controlCharacter? cs with
    | some (c, i) => .error (.controlCharacter c i)
    | none => (Parts.ofText s).normal

def checkLengths (parts : List (String × String)) : Except Error Unit :=
  match parts.find? fun p => lengthLimit < p.2.length with
  | some p => .error (.partTooLong p.1)
  | none => .ok ()

def rebuild (u : Uri) (p : Parts) (more : List (String × String)) : Except Error Uri := do
  checkLengths ([("scheme", p.scheme), ("authority", u.authority), ("path", p.path),
    ("query", p.query.getD ""), ("fragment", p.fragment.getD "")] ++ more)
  p.normal

def withPath (u : Uri) (path : String) (query : Option String) : Except Error Uri :=
  u.rebuild { u.parts with path, query } []

def withQuery (u : Uri) (query : Option String) : Except Error Uri :=
  u.rebuild { u.parts with query } []

def withOrigin (u origin : Uri) : Except Error Uri :=
  let host := if ':' ∈ origin.host.toList then "[" ++ origin.host ++ "]" else origin.host
  let port := origin.port.map Whole.text
  u.rebuild { u.parts with scheme := origin.scheme, host, port }
    [("host", host), ("port", port.getD "")]

def withFragment (u : Uri) (fragment : String) : Except Error Uri :=
  match controlCharacter? fragment.toList with
  | some (c, i) => .error (.controlCharacterIn "fragment" c i)
  | none => u.rebuild { u.parts with fragment := some fragment } []

end HttpGateway.Uri
