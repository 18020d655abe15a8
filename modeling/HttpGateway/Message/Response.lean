import HttpGateway.Message.Headers
import HttpGateway.Number.Whole
import HttpGateway.Text.Utf8

namespace HttpGateway

structure Response where
  status : Int
  headers : Headers
  text : String
deriving DecidableEq, Inhabited

namespace Response

open HttpGateway.Text

def bare (status : Int) : Response := ⟨status, .empty, ""⟩

def withText (status : Int) (headers : Headers) (text : String) : Response :=
  let length := Whole.text (utf8 text.toList).length
  let headers := headers.putNew "content-length" length
  ⟨status, headers.putNew "content-type" "text/plain; charset=utf-8", text⟩

def ofText (status : Int) (text : String) : Response := withText status .empty text

def redirects : List Int := [301, 302, 303, 307, 308]

def location? (r : Response) : Option String :=
  if redirects.contains r.status then r.headers.get? "location" else none

end Response

end HttpGateway
