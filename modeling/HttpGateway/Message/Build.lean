import HttpGateway.Failure
import HttpGateway.Message.Request
import HttpGateway.Message.Response

namespace HttpGateway

def Headers.build (fields : List (String × String)) : Except Failure Headers :=
  match Headers.ofFields? fields with
  | some h => .ok h
  | none => .error .notAscii

def Request.build (method uri : String) (fields : List (String × String)) (content : String) :
    Except Failure Request := do
  let uri ← (Uri.parse uri).mapError Failure.badUri
  return ⟨Text.upper method, uri, ← Headers.build fields, content⟩

/-- A response with a content and with the header fields that go with it. The codings that the
fields name are undone; the length is that of the content as it is given. -/
def Response.build (status : Int) (fields : List (String × String)) (content : String) :
    Except Failure Response := do
  let r := Response.withText status (← Headers.build fields) content
  match Coding.ofValues (r.headers.values "content-encoding") with
  | [] => return r
  | codings =>
    let bytes ← (Coding.decodeAll (Text.utf8 content.toList) codings).mapError Failure.undecodable
    return { r with text := String.ofList (Text.readUtf8 bytes) }

end HttpGateway
