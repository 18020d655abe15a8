import HttpGateway.Exchange
import HttpGateway.Text.Base64

/-!
Sending requests to destinations: how a request is completed before it is sent, and what is kept of
the response. The one client of a gateway keeps cookies from one exchange to the next.
-/

namespace HttpGateway.Outbound

open HttpGateway.Text

def target (u : Uri) : Except Uri.Error Uri :=
  if u.isAbsolute then .ok u
  else
    let path := '/' :: u.rawPath.toList.dropWhile (· = '/')
    Uri.withPath ⟨"", "", "", none, "", none, none⟩ (String.ofList path) u.query

def withUsual (o : Outbound) (usual : Headers) : Outbound :=
  let missing := fun f : String × String => (o.headers.valuesAt f.1).isEmpty
  { o with headers := ⟨usual.lowered.filter missing ++ o.headers.fields⟩ }

/-- The fields that come first: the host of the destination, and the length of an empty content with
the methods that send one. -/
def leadingFields (method : String) (u : Uri) (h : Headers) : List (String × String) :=
  (if h.contains "host" || u.host == "" then [] else [("host", u.hostAndPort)]) ++
    (if h.contains "content-length" || h.contains "transfer-encoding" then []
      else if ["POST", "PUT", "PATCH"].contains method then [("content-length", "0")] else [])

def basicAuthorization (name password : String) : String :=
  "Basic " ++ String.ofList (base64 (utf8 (name ++ ":" ++ password).toList))

def cookieAddress (u : Uri) : Except Failure Unit :=
  if u.scheme ≠ "" then .ok ()
  else
    let cs := u.text.toList
    let shown := if cs.getLast? = some '#' then cs.dropLast else cs
    .error (.unknownAddressType (String.ofList shown))

def withCookies (o : Outbound) (jar : CookieJar) (now : Int) : Except Failure Outbound :=
  if jar.cookies.isEmpty then .ok o
  else (cookieAddress o.uri).map fun _ =>
    match jar.field? now o with
    | none => o
    | some cookies => { o with headers := o.headers.putNew "cookie" cookies }

def withLength (o : Outbound) : Outbound :=
  if o.content = "" then o
  else
    let length := Whole.text (utf8 o.content.toList).length
    { o with headers := o.headers.putNew "content-length" length }

def withLeading (o : Outbound) : Outbound :=
  { o with headers := ⟨leadingFields o.method o.uri o.headers ++ o.headers.fields⟩ }

def withAuthorization (o : Outbound) : Outbound :=
  let (name, password) := o.uri.credentials
  if name = "" ∧ password = "" then o
  else { o with headers := o.headers.put "authorization" (basicAuthorization name password) }

def complete (o : Outbound) (jar : CookieJar) (now : Int) : Except Failure Outbound :=
  (o.withCookies jar now).map fun o => ((o.withLength).withLeading).withAuthorization

def joiningSchemes : List String :=
  ["ftp", "http", "gopher", "nntp", "imap", "wais", "file", "https", "shttp", "mms", "prospero",
    "rtsp", "rtspu", "sftp", "svn", "svn+ssh", "ws", "wss"]

/-- The address that a response names. One with a scheme and without a host belongs to the host of
the request. -/
def location (o : Outbound) (text : String) : Except Failure Uri := do
  let u ← (Uri.parse text).mapError Failure.badLocation
  if u.scheme ≠ "" ∧ u.host = "" then
    let host ← o.uri.shownHost.mapError Failure.badHostName
    (u.withShownOrigin { o.uri with scheme := u.scheme, port := u.port } host).mapError
      Failure.badUri
  else return u

/-- Checks that a request could go to the address that a response names: its host can be shown, the
fragment of the request goes along unless there is another one, and cookies are looked up if any are
kept. -/
def checkLocation (o : Outbound) (jar : CookieJar) (text : String) : Except Failure Unit := do
  let u ← o.location text
  discard (u.shownHost.mapError Failure.badHostName)
  let fragment := Text.unescape (o.uri.fragment.getD "")
  let named := if u.text = "" then o.uri.fragment else u.fragment
  let u ← if fragment ≠ "" ∧ named.getD "" = "" then
      (u.withFragment fragment).mapError Failure.badUri
    else pure u
  if jar.cookies.isEmpty ∨ text = "" ∨ joiningSchemes.contains o.uri.scheme then return ()
  else cookieAddress u

def send (o : Outbound) : Serve Response := do
  let s ← read
  let o ← Serve.lift id ((o.withUsual s.usual.headers).complete (← get).jar s.clock)
  Serve.note (.sent o)
  let response ← Serve.lift id (s.backend o)
  Serve.lift id (cookieAddress o.uri)
  modify fun x => { x with jar := x.jar.collect s.clock s.year o response }
  match response.location? with
  | none => return response
  | some location =>
    Serve.lift id (o.checkLocation (← get).jar location)
    return response

end HttpGateway.Outbound
