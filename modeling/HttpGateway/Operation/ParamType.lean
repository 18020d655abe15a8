import HttpGateway.Value
import HttpGateway.Moment.Reader
import HttpGateway.Message.Headers
import HttpGateway.Text.Pieces

/-!
Types of parameters, and the conversion of configured values to them. A text goes to a sequence
through its pieces between commas; a type for which there is no conversion takes no value at all.
-/

namespace HttpGateway

open HttpGateway.Text

inductive ParamType where
  | text
  | any
  | int
  | float
  | bool
  | moment
  | anyList
  | anyMap
  | listOf (element : ParamType)
  | tupleOf (elements : List ParamType)
  | tupleAll (element : ParamType)
  | setOf (element : ParamType)
  | frozenSetOf (element : ParamType)
  | mapOf (value : ParamType)
  | optional (type : ParamType)
  | intOrText
  | oneOf (texts : List String)
  | noted (type : ParamType)
  | unconvertible
deriving Inhabited

namespace Value

def elements? : Value → Option (List Value)
  | list xs => some xs
  | tuple xs => some xs
  | set xs => some xs
  | frozenSet xs => some xs
  | _ => none

def toWhole? : Value → Option Int
  | bool b => some (if b then 1 else 0)
  | int n => some n
  | float x => x.toInt?.filter fun n => n.natAbs < Binary64.wholeLimit
  | text s => Whole.read? s.toList
  | _ => none

def readBinary? (s : String) : Option Binary64 :=
  (Binary64.read? (trimBy isWhite s.toList)).orElse fun _ =>
    (Whole.dropLowLines? s.toList).bind Binary64.read?

def toBinary? : Value → Option Binary64
  | bool b => some (Binary64.ofInt (if b then 1 else 0))
  | int n =>
    match Binary64.ofInt n with
    | .infinite _ => none
    | x => some x
  | float x => some x
  | text s => readBinary? s
  | _ => none

def readCondition? (s : String) : Option Bool :=
  let word := Headers.lowerAscii s
  if ["1", "on", "t", "true", "y", "yes"].contains word then some true
  else if ["0", "off", "f", "false", "n", "no"].contains word then some false
  else none

def toCondition? : Value → Option Bool
  | bool b => some b
  | int n => if n = 0 then some false else if n = 1 then some true else none
  | float x =>
    match x.toInt? with
    | some 0 => some false
    | some 1 => some true
    | _ => none
  | text s => readCondition? s
  | _ => none

def toMoment? : Value → Option Moment
  | int n => Moment.ofCount? n
  | float x => Moment.ofBinary? x
  | text s => Moment.read? s.toList
  | moment m => some m
  | _ => none

def before : Value → Value → Bool
  | int a, int b => a < b
  | int _, _ => true
  | _, int _ => false
  | a, b => a.plainText < b.plainText

def insertSorted (x : Value) : List Value → List Value
  | [] => [x]
  | y :: ys =>
    if before x y then x :: y :: ys
    else if before y x then y :: insertSorted x ys
    else y :: ys

def sortedOnce (xs : List Value) : List Value := xs.foldl (fun ys x => insertSorted x ys) []

end Value

namespace ParamType

mutual

def read? : ParamType → Value → Option Value
  | text, v =>
    match v with
    | .text s => some (.text s)
    | _ => none
  | any, v => some v
  | int, v => v.toWhole?.map .int
  | float, v => v.toBinary?.map .float
  | bool, v => v.toCondition?.map .bool
  | moment, v => v.toMoment?.map .moment
  | anyList, v => v.elements?.map .list
  | anyMap, v =>
    match v with
    | .map es => some (.map es)
    | _ => none
  | listOf t, v => do return .list (← (← v.elements?).mapM (read? t))
  | tupleOf ts, v => do return .tuple (← readEach? ts (← v.elements?))
  | tupleAll t, v => do return .tuple (← (← v.elements?).mapM (read? t))
  | setOf t, v => do return .set (Value.sortedOnce (← (← v.elements?).mapM (read? t)))
  | frozenSetOf t, v => do return .frozenSet (Value.sortedOnce (← (← v.elements?).mapM (read? t)))
  | mapOf t, v =>
    match v with
    | .map es => do return .map (← es.mapM fun e => do return (e.1, ← read? t e.2))
    | _ => none
  | optional t, v =>
    match v with
    | .null => some .null
    | v => read? t v
  | intOrText, v =>
    match v with
    | .text s => some (.text s)
    | v => v.toWhole?.map .int
  | oneOf texts, v =>
    match v with
    | .text s => if texts.contains s then some (.text s) else none
    | _ => none
  | noted t, v => read? t v
  | unconvertible, _ => none

def readEach? : List ParamType → List Value → Option (List Value)
  | [], [] => some []
  | t :: ts, v :: vs => do return (← read? t v) :: (← readEach? ts vs)
  | _, _ => none

end

def isSequence : ParamType → Bool
  | listOf _ => true
  | tupleOf _ => true
  | tupleAll _ => true
  | setOf _ => true
  | frozenSetOf _ => true
  | _ => false

/-- The pieces of a text that are not blank. An escaped comma keeps its backslash. -/
def textPieces (s : String) : Value :=
  .list (((commaPieces s.toList).filter (· ≠ [])).map fun p => .text (String.ofList p))

def convert? (t : ParamType) (v : Value) : Option Value :=
  match t, v with
  | text, v => some v
  | any, v => some v
  | t, .text s => read? t (if t.isSequence then textPieces s else .text s)
  | t, v => read? t v

end ParamType

end HttpGateway
