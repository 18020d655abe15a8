import HttpGateway.Number.Power
import HttpGateway.Text.Blank

namespace HttpGateway

/-- A number `mantissa · 2 ^ exponent` with its sign, an infinity, or no number. -/
inductive Binary64 where
  | finite (negative : Bool) (mantissa : Nat) (exponent : Int)
  | infinite (negative : Bool)
  | nan
deriving DecidableEq, Inhabited

namespace Binary64

def roundQuotient (num den : Nat) : Nat :=
  let q := num / den
  let r := num % den
  if 2 * r < den then q else if den < 2 * r then q + 1 else q + q % 2

def scaled (num den : Nat) (e : Int) : Nat × Nat :=
  if 0 ≤ e then (num, den * twoTo e.toNat) else (num * twoTo (-e).toNat, den)

def exponentFor (num den : Nat) : Int :=
  let e : Int := (num.log2 : Int) - den.log2 - 52
  let s := scaled num den e
  let e := if s.1 < twoTo 52 * s.2 then e - 1 else e
  max e (-1074)

def ofRatio (negative : Bool) (num den : Nat) : Binary64 :=
  if num = 0 then finite negative 0 (-1074)
  else
    let e := exponentFor num den
    let s := scaled num den e
    let m := roundQuotient s.1 s.2
    let (m, e) := if m = twoTo 53 then (twoTo 52, e + 1) else (m, e)
    if 971 < e then infinite negative else finite negative m e

def digitCount (n : Nat) : Nat := (Nat.toDigits 10 n).length

def ofDecimal (negative : Bool) (digits : Nat) (power : Int) : Binary64 :=
  if digits = 0 then finite negative 0 (-1074)
  else if 400 < power + digitCount digits then infinite negative
  else if power + digitCount digits < -400 then finite negative 0 (-1074)
  else if 0 ≤ power then ofRatio negative (digits * tenTo power.toNat) 1
  else ofRatio negative digits (tenTo (-power).toNat)

def ofInt (n : Int) : Binary64 := ofRatio (n < 0) n.natAbs 1

def ratio (m : Nat) (e : Int) : Nat × Nat :=
  if 0 ≤ e then (m * twoTo e.toNat, 1) else (m, twoTo (-e).toNat)

def toInt? : Binary64 → Option Int
  | finite negative m e =>
    let r := ratio m e
    if r.1 % r.2 = 0 then
      let n : Int := (r.1 / r.2 : Nat)
      some (if negative then -n else n)
    else none
  | _ => none

def wholeLimit : Nat := twoTo 63

def leadingPower (num den : Nat) : Int := (digitCount (num * tenTo 400 / den) : Int) - 401

def tenfold (num den : Nat) (p : Int) : Nat × Nat :=
  if 0 ≤ p then (num, den * tenTo p.toNat) else (num * tenTo (-p).toNat, den)

/-- The decimal `d · 10 ^ p` that reads back as the positive number `x` and is nearest to it, among
the two next to it on the grid of multiples of `10 ^ p`. -/
def onGrid (x : Binary64) (num den : Nat) (p : Int) : Option Nat :=
  let s := tenfold num den p
  let below := s.1 / s.2
  let r := s.1 % s.2
  let hit := fun d => decide (ofDecimal false d p = x)
  let nearBelow := decide (2 * r < s.2 ∨ (2 * r = s.2 ∧ below % 2 = 0))
  match hit below, hit (below + 1) with
  | true, true => some (if nearBelow then below else below + 1)
  | true, false => some below
  | false, true => some (below + 1)
  | false, false => none

def shortest (x : Binary64) (num den : Nat) : Nat × Int :=
  let top := leadingPower num den
  let grids : List Int := (List.range 18).map fun n : Nat => top - (n : Int)
  match grids.findSome? fun p => (onGrid x num den p).map fun d => (d, p) with
  | some r => r
  | none => (0, 0)

def dropZeros : Nat → Nat → Int → Nat × Int
  | fuel + 1, d, p => if d % 10 = 0 ∧ d ≠ 0 then dropZeros fuel (d / 10) (p + 1) else (d, p)
  | 0, d, p => (d, p)

/-- The text of `d · 10 ^ p`: positional from `1e-4` to below `1e16`, with an exponent of at least
two digits beyond. -/
def decimalText (d : Nat) (p : Int) : String :=
  let ds := Nat.toDigits 10 d
  let n := ds.length
  let point : Int := n + p
  if -4 < point ∧ point ≤ 16 then
    if point ≤ 0 then "0." ++ String.ofList (List.replicate (-point).toNat '0' ++ ds)
    else if 0 ≤ p then String.ofList (ds ++ List.replicate p.toNat '0') ++ ".0"
    else
      let k := point.toNat
      String.ofList (ds.take k ++ '.' :: ds.drop k)
  else
    let e := point - 1
    let mark := if e < 0 then "e-" else "e+"
    let width := Nat.toDigits 10 e.natAbs
    let digits := if width.length < 2 then '0' :: width else width
    let tail := if n = 1 then [] else '.' :: ds.drop 1
    String.ofList (ds.take 1 ++ tail) ++ mark ++ String.ofList digits

def text : Binary64 → String
  | nan => "nan"
  | infinite negative => if negative then "-inf" else "inf"
  | finite negative m e =>
    let sign := if negative then "-" else ""
    if m = 0 then sign ++ "0.0"
    else
      let r := ratio m e
      let (d, p) := shortest (finite false m e) r.1 r.2
      let (d, p) := dropZeros 20 d p
      sign ++ decimalText d p

def readDigits (cs : List Char) : Nat × Nat × List Char :=
  let ds := cs.takeWhile Char.isDigit
  (ds.foldl (fun n c => 10 * n + (c.toNat - 48)) 0, ds.length, cs.dropWhile Char.isDigit)

def readSign : List Char → Bool × List Char
  | '-' :: cs => (true, cs)
  | '+' :: cs => (false, cs)
  | cs => (false, cs)

def readExponent : List Char → Option Int
  | [] => some 0
  | c :: cs =>
    if c = 'e' ∨ c = 'E' then
      let (negative, cs) := readSign cs
      let (n, count, rest) := readDigits cs
      if count = 0 ∨ rest ≠ [] then none else some (if negative then -(n : Int) else n)
    else none

def readDecimal (negative : Bool) (cs : List Char) : Option Binary64 :=
  let (whole, count, rest) := readDigits cs
  let (n, fraction, seen, rest) :=
    match rest with
    | '.' :: more =>
      let (f, k, rest) := readDigits more
      (whole * tenTo k + f, k, count + k, rest)
    | _ => (whole, 0, count, rest)
  if seen = 0 then none
  else (readExponent rest).map fun e => ofDecimal negative n (e - fraction)

def read? (cs : List Char) : Option Binary64 :=
  let (negative, body) := readSign cs
  let word := String.ofList (body.map Char.toLower)
  if word = "inf" ∨ word = "infinity" then some (infinite negative)
  else if word = "nan" then some nan
  else readDecimal negative body

end Binary64

end HttpGateway
