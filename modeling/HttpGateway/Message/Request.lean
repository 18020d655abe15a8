import HttpGateway.Message.Cookies
import HttpGateway.Uri.Query

namespace HttpGateway

structure Request where
  method : String
  uri : Uri
  headers : Headers
  content : String
deriving DecidableEq, Inhabited

namespace Request

open HttpGateway.Text

def path (r : Request) : String := r.uri.decodedPath

def rawPath (r : Request) : String := r.uri.rawPath

def params (r : Request) : Uri.Params := r.uri.params

def cookies (r : Request) : OrderedMap String := Cookies.ofHeaders r.headers

def withUri (r : Request) (uri : Uri) : Request := { r with uri }

def withHeaders (r : Request) (headers : Headers) : Request := { r with headers }

def keptInPath (c : Char) : Bool := isUnreserved c || "/%:@!$&'()*+,;=".toList.contains c

def withRawPath (r : Request) (rawPath : String) : Except Uri.Error Request := do
  let path := escape keptInPath (if rawPath = "" then "/" else rawPath).toList
  let query := if r.uri.queryText = "" then none else some r.uri.queryText
  return r.withUri (← r.uri.withPath (String.ofList path) query)

end Request

end HttpGateway
