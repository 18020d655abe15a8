import HttpGateway.Text.CaseMap
import HttpGateway.Text.Pieces

namespace HttpGateway.OperationName

open HttpGateway.Text

def normal (name : String) : String :=
  match name.toList with
  | [] => ""
  | c :: cs => String.ofList (lowerChar c ++ cs)

def capital : List Char → List Char
  | [] => []
  | c :: cs => upperChar c ++ cs

def camel (name : String) : String :=
  match splitAt '_' (trimBy (· = '_') name.toList) with
  | [] => ""
  | head :: rest => String.ofList (head ++ rest.flatMap capital)

end HttpGateway.OperationName
