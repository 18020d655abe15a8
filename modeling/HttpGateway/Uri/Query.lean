import HttpGateway.Uri.Parts
import HttpGateway.OrderedMap

namespace HttpGateway.Uri

open HttpGateway.Text

abbrev Params := OrderedMap (List String)

namespace Params

def decodeText (cs : List Char) : String :=
  unescape (String.ofList (cs.map fun c => if c = '+' then ' ' else c))

def readPair (cs : List Char) : String × String :=
  let (name, value) := cut '=' cs
  (decodeText name, decodeText (value.getD []))

def add (ps : Params) (name value : String) : Params :=
  ps.alter name fun values => values.getD [] ++ [value]

def addAll (ps : Params) (name : String) (values : List String) : Params :=
  values.foldl (fun ps v => ps.add name v) ps

def ofPairs (pairs : List (String × String)) : Params :=
  pairs.foldl (fun ps p => ps.add p.1 p.2) {}

def ofQuery (query : String) : Params :=
  ofPairs (((splitAt '&' query.toList).filter (· ≠ [])).map readPair)

def pairs (ps : Params) : List (String × String) :=
  ps.entries.flatMap fun e => e.2.map fun v => (e.1, v)

def valuesOf (ps : Params) (name : String) : List String := (ps.get? name).getD []

def encodeText (s : String) : List Char :=
  s.toList.flatMap fun c => if c = ' ' then ['+'] else if isUnreserved c then [c] else escapeChar c

def encodePair (p : String × String) : List Char := encodeText p.1 ++ '=' :: encodeText p.2

def text (ps : Params) : String := String.ofList (joinBy '&' (ps.pairs.map encodePair))

end Params

def params (u : Uri) : Params := Params.ofQuery u.queryText

def withParams (u : Uri) (ps : Params) : Except Error Uri :=
  u.withQuery (if ps.size = 0 then none else some ps.text)

end HttpGateway.Uri
