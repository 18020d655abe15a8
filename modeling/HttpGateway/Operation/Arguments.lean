import HttpGateway.OrderedMap
import HttpGateway.Value

/-!
Arguments as they are configured: keyed by parameter names or in their order. Keyed arguments whose
keys are all generated ones are positional too, in the order of the indices of their keys.
-/

namespace HttpGateway

open HttpGateway.Text

inductive RawArgs where
  | keyed (args : OrderedMap String)
  | positional (values : List String)
deriving Inhabited

inductive IndexError where
  | notDecimal (digits : String)
  | tooLong (count : Nat)
deriving DecidableEq

def IndexError.shownLimit : Nat := 200

def IndexError.message : IndexError → String
  | notDecimal digits =>
    "invalid literal for int() with base 10: " ++
      String.ofList ((quoteChars digits.toList).take shownLimit)
  | tooLong count => Whole.tooLongText count

namespace RawArgs

def bare (value : String) : RawArgs := positional [value]

def generatedStart : String := "_genkey_"

def generatedKey (index : Int) : String := generatedStart ++ Whole.text index

def indexDigits? (key : String) : Option (List Char) :=
  let start := generatedStart.toList
  let digits := key.toList.drop start.length
  if start.isPrefixOf key.toList && !digits.isEmpty && digits.all isDigitSign then some digits
  else none

def isGenerated (key : String) : Bool := (indexDigits? key).isSome

/-- The index that digit signs write. Signs other than decimal digits write none, and no more
decimal digits are read than the limit allows. -/
def readIndex (digits : List Char) : Except IndexError Nat :=
  let decimals := (digits.takeWhile isDecimal).length
  if Whole.digitLimit < decimals then .error (.tooLong decimals)
  else
    match digitsValue? digits with
    | some n => .ok n
    | none => .error (.notDecimal (String.ofList digits))

def byIndex (es : List (Nat × String)) : List String :=
  (es.mergeSort fun a b => a.1 ≤ b.1).map Prod.snd

def values? : RawArgs → Except IndexError (Option (List String))
  | positional values => .ok (some values)
  | keyed args =>
    if args.entries = [] then .ok none
    else
      match args.entries.mapM fun e => (indexDigits? e.1).map fun ds => (ds, e.2) with
      | none => .ok none
      | some es =>
        (es.mapM fun e => (readIndex e.1).map fun n => (n, e.2)).map fun es => some (byIndex es)

/-- Arguments keyed by parameter names. Positional ones go to the names in their order, if there are
as many names; keyed ones stay as they are. -/
def align (raw : RawArgs) (names : List String) :
    Except IndexError (Option (OrderedMap String)) := do
  match ← raw.values?, raw with
  | some values, _ =>
    if values.length = names.length then return some (OrderedMap.ofList (names.zip values))
    else return none
  | none, keyed args => return some args
  | none, positional _ => return none

def literal : RawArgs → String
  | keyed args => Value.keyedLiteral args.entries
  | positional values => Value.textsLiteral values

end RawArgs

end HttpGateway
