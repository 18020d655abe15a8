import HttpGateway.Moment.Basic
import HttpGateway.Number.Binary64

namespace HttpGateway.Moment

def takeDigits : (n : Nat) → (acc : Nat) → List Char → Option (Nat × List Char)
  | 0, acc, cs => some (acc, cs)
  | n + 1, acc, c :: cs => if c.isDigit then takeDigits n (10 * acc + (c.toNat - 48)) cs else none
  | _ + 1, _, [] => none

def takeChar (c : Char) : List Char → Option (List Char)
  | d :: cs => if d = c then some cs else none
  | [] => none

def takeDate (cs : List Char) : Option (Nat × Nat × Nat × List Char) := do
  let (year, cs) ← takeDigits 4 0 cs
  let (month, cs) ← takeDigits 2 0 (← takeChar '-' cs)
  let (day, cs) ← takeDigits 2 0 (← takeChar '-' cs)
  guard (1 ≤ year ∧ 1 ≤ month ∧ month ≤ 12 ∧ 1 ≤ day ∧ day ≤ monthDays year month)
  return (year, month, day, cs)

def takeFraction : List Char → Option (Nat × List Char)
  | c :: cs =>
    if c = '.' ∨ c = ',' then
      let ds := cs.takeWhile Char.isDigit
      let six := (ds ++ List.replicate 6 '0').take 6
      if ds = [] then none
      else some (six.foldl (fun n d => 10 * n + (d.toNat - 48)) 0, cs.dropWhile Char.isDigit)
    else some (0, c :: cs)
  | [] => some (0, [])

def takeSeconds : List Char → Option (Nat × Nat × List Char)
  | ':' :: cs => do
    let (second, cs) ← takeDigits 2 0 cs
    guard (second ≤ 59)
    let (micro, cs) ← takeFraction cs
    return (second, micro, cs)
  | cs => some (0, 0, cs)

def readOffset : List Char → Option (Option Int)
  | [] => some none
  | c :: cs =>
    if c = 'Z' ∨ c = 'z' then if cs = [] then some (some 0) else none
    else do
      let sign : Int ←
        if c = '+' then some 1 else if c = '-' ∨ c.toNat = 0x2212 then some (-1) else none
      let (hours, cs) ← takeDigits 2 0 cs
      let (minutes, cs) ← takeDigits 2 0 ((takeChar ':' cs).getD cs)
      guard (minutes ≤ 59 ∧ hours ≤ 23 ∧ cs = [])
      return some (sign * (hours * 3600 + minutes * 60) * 1000000)

def readCalendar? (cs : List Char) : Option Moment := do
  let (year, month, day, cs) ← takeDate cs
  match cs with
  | [] => return ⟨year, month, day, 0, 0, 0, 0, none⟩
  | sep :: cs =>
    guard (sep = 'T' ∨ sep = 't' ∨ sep = ' ' ∨ sep = '_')
    let (hour, cs) ← takeDigits 2 0 cs
    let (minute, cs) ← takeDigits 2 0 (← takeChar ':' cs)
    guard (hour ≤ 23 ∧ minute ≤ 59)
    let (second, micro, cs) ← takeSeconds cs
    let offset ← readOffset cs
    return ⟨year, month, day, hour, minute, second, micro, offset⟩

/-- Counts beyond this many are milliseconds. -/
def secondsLimit : Nat := 20000000000

def ofSeconds? (seconds : Int) (micros : Nat) : Option Moment :=
  let seconds := seconds + (micros / 1000000 : Nat)
  if -62135596800 ≤ seconds ∧ seconds ≤ 253402300799 then
    some (ofEpoch seconds (micros % 1000000))
  else none

def ofCount? (count : Int) : Option Moment :=
  if count.natAbs ≤ secondsLimit then ofSeconds? count 0
  else ofSeconds? (count.fdiv 1000) ((count.fmod 1000).toNat * 1000)

/-- A count of seconds that need not be whole, to the nearest microsecond; a half goes up. The part
below a second and its microseconds are binary numbers themselves. -/
def ofBinarySeconds? : Binary64 → Option Moment
  | .finite negative m e =>
    let (num, den) := Binary64.ratio m e
    let down := negative && num % den != 0
    let whole : Int := (num / den : Nat)
    let seconds := if negative then -whole - (if down then 1 else 0) else whole
    let part := if down then den - num % den else num % den
    let times := fun (k : Nat) (x : Binary64) => match x with
      | .finite _ m e => let (num, den) := Binary64.ratio m e; Binary64.ofRatio false (k * num) den
      | x => x
    match times 1000000 (Binary64.ofRatio false part den) with
    | .finite _ m e =>
      let (num, den) := Binary64.ratio m e
      ofSeconds? seconds ((2 * num + den) / (2 * den))
    | _ => none
  | _ => none

def ofBinary? : Binary64 → Option Moment
  | .finite negative m e =>
    let (num, den) := Binary64.ratio m e
    if num ≤ secondsLimit * den then ofBinarySeconds? (.finite negative m e)
    else ofBinarySeconds? (Binary64.ofRatio negative num (1000 * den))
  | _ => none

def readCount? (cs : List Char) : Option Moment :=
  let (negative, ds) := Binary64.readSign cs
  let (n, count, rest) := Binary64.readDigits ds
  match rest with
  | [] =>
    if count = 0 then none else ofCount? (if negative then -(n : Int) else n)
  | '.' :: _ => (Binary64.readDecimal negative ds).bind ofBinary?
  | _ => none

def read? (cs : List Char) : Option Moment := (readCalendar? cs).orElse fun _ => readCount? cs

end HttpGateway.Moment
