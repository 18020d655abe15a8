import HttpGateway.Client.SetCookie
import HttpGateway.Message.Outbound
import HttpGateway.Message.Response
import HttpGateway.OrderedMap
import HttpGateway.Text.Percent

namespace HttpGateway

open HttpGateway.Text

/-- A kept cookie. One with a port goes to that port only. `ends` counts seconds from the start of
1970. -/
structure Cookie where
  name : String
  value : Option String
  version : Int
  domain : String
  path : String
  port : Option String
  secure : Bool
  ends : Option Int

abbrev CookieJar := OrderedMap (OrderedMap (OrderedMap Cookie))

namespace CookieJar

def endsWith (s t : String) : Bool := t.toList.isSuffixOf s.toList

def startsWith (s t : String) : Bool := t.toList.isPrefixOf s.toList

def hasDot (s : String) : Bool := '.' ∈ s.toList

def dotted (s : String) : String := if startsWith s "." then s else "." ++ s

def hostOf (o : Outbound) : String :=
  let cs := o.uri.authority.toList
  let digits := (cs.reverse.takeWhile Char.isDigit).length
  let whole := cs.take (cs.length - digits)
  lower (String.ofList (if digits ≠ 0 ∧ whole.getLast? = some ':' then whole.dropLast else cs))

def domainOf (o : Outbound) : String :=
  let host := hostOf o
  if hasDot host then host else host ++ ".local"

def portOf? (o : Outbound) : Option String :=
  match cut ':' (unescape o.uri.authority).toList with
  | (_, none) => some "80"
  | (_, some port) => (Whole.readLoose? port).map fun _ => String.ofList port

def keptInCookiePath (c : Char) : Bool := isUnreserved c || "%/;:@&=+$,!*'()".toList.contains c

def upperEscapes : List Char → List Char
  | '%' :: a :: b :: cs =>
    match hexValue? a, hexValue? b with
    | some _, some _ => '%' :: a.toUpper :: b.toUpper :: upperEscapes cs
    | _, _ => '%' :: upperEscapes (a :: b :: cs)
  | c :: cs => c :: upperEscapes cs
  | [] => []

def cookiePath (path : String) : String :=
  String.ofList (upperEscapes (escape keptInCookiePath path.toList))

def pathOf (o : Outbound) : String :=
  let path := cookiePath o.uri.path
  if startsWith path "/" then path else "/" ++ path

/-- The path up to its last slash, which cookies without a path are for. The slash itself belongs to
it for any version but 0. -/
def defaultPath (version : Int) (o : Outbound) : String :=
  match cutLast '/' (pathOf o).toList with
  | (some cs, _) =>
    let cs := if version = 0 then cs else cs ++ ['/']
    if cs = [] then "/" else String.ofList cs
  | (none, _) => "/"

def maySetDomain (o : Outbound) (version : Int) (domain : String) : Bool :=
  let own := domainOf o
  let bare := if startsWith domain "." then String.ofList (domain.toList.drop 1) else domain
  (hasDot bare || endsWith own ".local") &&
    (version != 0 || endsWith own domain || endsWith own (bare ++ ".local") ||
      startsWith own "." || endsWith ("." ++ own) domain)

def hasPort (own : String) : List String → Bool
  | [] => false
  | p :: ps => (Whole.readLoose? p.toList).isSome && (p == own || hasPort own ps)

def maySet (o : Outbound) (s : SetCookie) (c : Cookie) : Bool :=
  let version := if c.version = 1 then 0 else c.version
  c.version ≤ 1 && (s.domain.isNone || maySetDomain o version c.domain)
    && match s.port with
      | some (some _) => hasPort ((portOf? o).getD "80") (pieces ',' (c.port.getD ""))
      | _ => true

def cookieOf (o : Outbound) (c : SetCookie) : Cookie :=
  let domain := match c.domain with
    | none => domainOf o
    | some d => dotted d
  let path := match c.path with
    | none => defaultPath c.version o
    | some p => if p = "" then defaultPath c.version o else cookiePath p
  let port := match c.port with
    | none => none
    | some none => portOf? o
    | some (some p) => some (String.ofList (p.toList.filter fun c => !isBlank c))
  ⟨c.name, c.value, c.version, domain, path, port, c.secure, c.ends⟩

def put (jar : CookieJar) (c : Cookie) : CookieJar :=
  jar.alter c.domain fun paths => (paths.getD {}).alter c.path fun names =>
    (names.getD {}).insert c.name c

def drop (jar : CookieJar) (c : Cookie) : CookieJar :=
  match jar.get? c.domain with
  | none => jar
  | some paths =>
    match paths.get? c.path with
    | none => jar
    | some names => jar.insert c.domain (paths.insert c.path (names.erase c.name))

def cookies (jar : CookieJar) : List Cookie :=
  jar.values.flatMap fun paths => paths.values.flatMap OrderedMap.values

def isOver (now : Int) (c : Cookie) : Bool := c.ends.any (· ≤ now)

def isEndless (c : Cookie) : Bool :=
  c.ends.any fun t => match Binary64.ofInt t with
    | .infinite _ => true
    | _ => false

/-- The jar after a response: cookies that are over go first, then the new ones come. One that is
endless keeps all new ones out, and those behind it from going. -/
def collect (jar : CookieJar) (now : Int) (present : Nat) (o : Outbound) (r : Response) :
    CookieJar :=
  let fields := SetCookie.readAll now present (r.headers.values "set-cookie")
  let cookies := fields.map fun f => (f, cookieOf o f)
  let sane := cookies.takeWhile fun c => !isEndless c.2
  let jar := (sane.filter fun c => isOver now c.2).foldl (fun jar c => jar.drop c.2) jar
  if sane.length < cookies.length then jar
  else
    let fresh := cookies.filter fun c => !isOver now c.2 && maySet o c.1 c.2
    fresh.foldl (fun jar c => jar.put c.2) jar

def covers (cookiePath path : String) : Bool :=
  path == cookiePath ||
    (startsWith path cookiePath &&
      (endsWith cookiePath "/" || path.toList[cookiePath.length]? == some '/'))

def goesToDomain (o : Outbound) (c : Cookie) : Bool :=
  let domain := if c.domain = "" then "" else dotted c.domain
  (endsWith (dotted (hostOf o)) domain || endsWith (dotted (domainOf o)) domain) &&
    ((c.version != 0 && c.version != 1) || endsWith ("." ++ domainOf o) domain)

def goesWith (now : Int) (o : Outbound) (c : Cookie) : Bool :=
  goesToDomain o c && covers c.path (pathOf o) &&
    (!c.secure || o.uri.scheme == "https" || o.uri.scheme == "wss") && !isOver now c &&
    match c.port with
    | none => true
    | some port => port = "" || (pieces ',' port).contains ((portOf? o).getD "80")

def cookiesFor (jar : CookieJar) (now : Int) (o : Outbound) : List Cookie :=
  (jar.cookies.filter (goesWith now o)).mergeSort fun a b => b.path.length ≤ a.path.length

def field? (jar : CookieJar) (now : Int) (o : Outbound) : Option String :=
  match jar.cookiesFor now o with
  | [] => none
  | cookies => some ("; ".intercalate (cookies.map fun c =>
      match c.value with
      | none => c.name
      | some v => c.name ++ "=" ++ v))

end CookieJar

end HttpGateway
