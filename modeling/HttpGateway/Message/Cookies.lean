import HttpGateway.Message.Headers
import HttpGateway.OrderedMap
import HttpGateway.Text.Pieces

namespace HttpGateway.Cookies

open HttpGateway.Text

def readPiece (cs : List Char) : Option (String × String) :=
  match cut '=' (trimBy isBlank cs) with
  | ([], _) => none
  | (_, none) => none
  | (name, some value) => some (String.ofList name, String.ofList value)

def ofField (field : String) : List (String × String) :=
  (splitAt ';' field.toList).filterMap readPiece

def ofHeaders (h : Headers) : OrderedMap String :=
  OrderedMap.ofList ((h.values "cookie").flatMap ofField)

end HttpGateway.Cookies
