import HttpGateway.Moment.Basic
import HttpGateway.Number.Binary64
import HttpGateway.Number.Whole
import HttpGateway.Text.Quoted
import HttpGateway.Uri.Basic

namespace HttpGateway

inductive Value where
  | null
  | bool (b : Bool)
  | int (n : Int)
  | float (x : Binary64)
  | text (s : String)
  | list (xs : List Value)
  | map (entries : List (String × Value))
  | tuple (xs : List Value)
  | set (xs : List Value)
  | frozenSet (xs : List Value)
  | moment (m : Moment)
  | uri (u : Uri)
deriving Inhabited

namespace Value

open HttpGateway.Text

def listed (items : List String) : String := ", ".intercalate items

def zoneText (o : Int) : String := "TzInfo(" ++ Whole.text (o.fdiv 1000000) ++ ")"

def momentText (m : Moment) : String :=
  let last : List Nat :=
    if m.micro ≠ 0 then [m.second, m.micro] else if m.second ≠ 0 then [m.second] else []
  let fields := [m.year, m.month, m.day, m.hour, m.minute] ++ last
  let zone := (m.offset.map fun o => ", tzinfo=" ++ zoneText o).getD ""
  "datetime.datetime(" ++ listed (fields.map fun n : Nat => Whole.text n) ++ zone ++ ")"

mutual

def literal : Value → String
  | null => "None"
  | bool b => if b then "True" else "False"
  | int n => Whole.text n
  | float x => x.text
  | text s => quoted s
  | list xs => "[" ++ listed (literals xs) ++ "]"
  | map es => "\x7b" ++ listed (entryLiterals es) ++ "\x7d"
  | tuple [x] => "(" ++ literal x ++ ",)"
  | tuple xs => "(" ++ listed (literals xs) ++ ")"
  | set [] => "set()"
  | set (x :: xs) => "\x7b" ++ listed (literal x :: literals xs) ++ "\x7d"
  | frozenSet [] => "frozenset()"
  | frozenSet (x :: xs) => "frozenset(\x7b" ++ listed (literal x :: literals xs) ++ "\x7d)"
  | moment m => momentText m
  | uri u => "URL(" ++ quoted u.text ++ ")"

def literals : List Value → List String
  | [] => []
  | x :: xs => literal x :: literals xs

def entryLiterals : List (String × Value) → List String
  | [] => []
  | (k, v) :: es => (quoted k ++ ": " ++ literal v) :: entryLiterals es

end

def plainText : Value → String
  | text s => s
  | moment m => m.text.map fun c => if c = 'T' then ' ' else c
  | uri u => u.text
  | v => v.literal

def holds : Value → Bool
  | null => false
  | bool b => b
  | int n => n != 0
  | float (.finite _ m _) => m != 0
  | float _ => true
  | text s => s != ""
  | list xs => !xs.isEmpty
  | map es => !es.isEmpty
  | tuple xs => !xs.isEmpty
  | set xs => !xs.isEmpty
  | frozenSet xs => !xs.isEmpty
  | moment _ => true
  | uri _ => true

def typeName : Value → String
  | null => "NoneType"
  | bool _ => "bool"
  | int _ => "int"
  | float _ => "float"
  | text _ => "str"
  | list _ => "list"
  | map _ => "dict"
  | tuple _ => "tuple"
  | set _ => "set"
  | frozenSet _ => "frozenset"
  | moment _ => "datetime.datetime"
  | uri _ => "URL"

def textsLiteral (xs : List String) : String := "[" ++ listed (xs.map quoted) ++ "]"

def keyedLiteral (es : List (String × String)) : String :=
  "\x7b" ++ listed (es.map fun e => quoted e.1 ++ ": " ++ quoted e.2) ++ "\x7d"

end Value

end HttpGateway
