import HttpGateway.Text.Blank
import HttpGateway.Text.Digit

/-!
Whole numbers as text: how they are written, and the two grammars that read them. The strict one
takes ASCII digits and a fraction of zeros, the loose one decimal digits of any script.
-/

namespace HttpGateway.Whole

open HttpGateway.Text

/-- No whole number is read from more digits than this. -/
def digitLimit : Nat := 4300

def text (n : Int) : String :=
  let ds := Nat.toDigits 10 n.natAbs
  String.ofList (if n < 0 then '-' :: ds else ds)

def tooLongText (digits : Nat) : String :=
  "Exceeds the limit (" ++ text digitLimit ++
    " digits) for integer string conversion: value has " ++ text digits ++
    " digits; use sys.set_int_max_str_digits() to increase the limit"

def lowLinesBetween : List Char → Bool
  | [] => false
  | '_' :: _ => false
  | cs => go cs
where
  go : List Char → Bool
    | ['_'] => false
    | '_' :: '_' :: _ => false
    | _ :: cs => go cs
    | [] => true

def dropLowLines? (cs : List Char) : Option (List Char) :=
  if lowLinesBetween cs then some (cs.filter (· ≠ '_')) else none

/-- Drops the zeros and low lines that follow a leading zero, but keeps a zero before a point and
the last character. A minus sign in front stays, one behind the zeros counts as in front. -/
def dropLeadingZeros : List Char → Option (List Char)
  | '0' :: cs => go '0' cs
  | '-' :: cs => (dropLeadingZeros cs).map ('-' :: ·)
  | c :: cs => if isAsciiDigit c then some (c :: cs) else none
  | [] => none
where
  go (last : Char) : List Char → Option (List Char)
    | [] => some [last]
    | c :: cs =>
      if c = '0' ∨ c = '_' then go c cs
      else if isAsciiDigit c ∨ c = '-' then some (c :: cs)
      else if c = '.' then some (last :: c :: cs)
      else none

def dropZeroFraction (cs : List Char) : List Char :=
  let whole := cs.takeWhile (· ≠ '.')
  match cs.dropWhile (· ≠ '.') with
  | '.' :: z :: zs => if (z :: zs).all (· == '0') then whole else cs
  | _ => cs

inductive Unreadable where
  | malformed
  | tooLong
deriving DecidableEq

def splitMinus : List Char → Bool × List Char
  | '-' :: ds => (true, ds)
  | ds => (false, ds)

def beginsTooLong (cs : List Char) : Bool :=
  let (negative, ds) := splitMinus cs
  let run := ds.takeWhile isAsciiDigit
  run.head? != some '0' && digitLimit < run.length + (if negative then 1 else 0)

def readPlain? (cs : List Char) : Option Int :=
  let (negative, ds) := splitMinus cs
  if ds = [] ∨ (ds.length ≠ 1 ∧ ds.head? = some '0') ∨ !ds.all isAsciiDigit ∨ beginsTooLong cs then
    none
  else (digitsValue? ds).map fun n => if negative then -(n : Int) else n

def bare? (cs : List Char) : Option (List Char) :=
  let cs := trimBy isWhite cs
  let unsigned := match cs with
    | '+' :: '-' :: _ => none
    | '+' :: cs => some cs
    | cs => some cs
  (unsigned.bind dropLeadingZeros).map fun cs =>
    let cs := dropZeroFraction cs
    (dropLowLines? cs).getD cs

/-- The strict grammar: white space around, a sign, digits with single low lines between them, and a
fraction of zeros. Only a number written barely is refused for its length. -/
def read (cs : List Char) : Except Unreadable Int :=
  if beginsTooLong cs then .error .tooLong
  else
    match (readPlain? cs).orElse fun _ => (bare? cs).bind readPlain? with
    | some n => .ok n
    | none => .error .malformed

def read? (cs : List Char) : Option Int := (read cs).toOption

def readLoose? (cs : List Char) : Option Int :=
  let cs := trimBy isBlank cs
  let (negative, body) := match cs with
    | '-' :: ds => (true, ds)
    | '+' :: ds => (false, ds)
    | ds => (false, ds)
  do
    let ds ← dropLowLines? body
    if digitLimit < ds.length then none
    else
      let n ← digitsValue? ds
      return if negative then -(n : Int) else n

end HttpGateway.Whole
