import HttpGateway.Text.Percent
import HttpGateway.Text.Pieces
import HttpGateway.Number.Whole

/-!
Addresses of resources in their normal form: lower-case scheme and host, and everything that is not
allowed in a part written with percent signs.
-/

namespace HttpGateway

structure Uri where
  scheme : String
  userinfo : String
  host : String
  port : Option Int
  path : String
  query : Option String
  fragment : Option String
deriving DecidableEq, Inhabited

namespace Uri

open HttpGateway.Text

def hostAndPort (u : Uri) : String :=
  (if ':' ∈ u.host.toList then "[" ++ u.host ++ "]" else u.host) ++
    ((u.port.map fun p => ":" ++ Whole.text p).getD "")

def authority (u : Uri) : String :=
  (if u.userinfo = "" then "" else u.userinfo ++ "@") ++ u.hostAndPort

def queryText (u : Uri) : String := u.query.getD ""

def text (u : Uri) : String :=
  (if u.scheme = "" then "" else u.scheme ++ ":") ++
    (if u.authority = "" then "" else "//" ++ u.authority) ++ u.path ++
    ((u.query.map ("?" ++ ·)).getD "") ++ ((u.fragment.map ("#" ++ ·)).getD "")

def rawPath (u : Uri) : String := if u.path = "" then "/" else u.path

def decodedPath (u : Uri) : String := unescape u.rawPath

def credentials (u : Uri) : String × String :=
  let (name, password) := cut ':' u.userinfo.toList
  (unescape (String.ofList name), unescape (String.ofList (password.getD [])))

def isAbsolute (u : Uri) : Bool := u.scheme != "" && u.host != ""

end Uri

end HttpGateway
