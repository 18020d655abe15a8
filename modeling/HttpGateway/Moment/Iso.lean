import HttpGateway.Moment.Reader

/-!
Moments in the forms of ISO 8601: a date of the calendar or of a week, with hyphens or without, and
behind any one character a time of day, with or without colons, whose zone may be told to the
microsecond.
-/

namespace HttpGateway.Moment

inductive Misfit where
  | malformed
  | year (n : Nat)
  | month
  | day
  | hour
  | minute
  | second
  | offset (micros : Int)
deriving DecidableEq

namespace Misfit

def stretchText (micros : Int) : String :=
  let part := fun (name : String) (n : Int) => if n = 0 then [] else [name ++ "=" ++ toString n]
  "datetime.timedelta(" ++ ", ".intercalate (part "days" (micros.fdiv 86400000000) ++
    part "seconds" ((micros.fmod 86400000000).fdiv 1000000) ++
    part "microseconds" (micros.fmod 1000000)) ++ ")"

def message (text : String) : Misfit → String
  | malformed => "Invalid isoformat string: " ++ text
  | year n => "year " ++ toString n ++ " is out of range"
  | month => "month must be in 1..12"
  | day => "day is out of range for month"
  | hour => "hour must be in 0..23"
  | minute => "minute must be in 0..59"
  | second => "second must be in 0..59"
  | offset micros =>
    "offset must be a timedelta strictly between -timedelta(hours=24) and timedelta(hours=24), not "
      ++ stretchText micros ++ "."

end Misfit

namespace Iso

/-- How many characters the date takes, told by its first ones. Behind a week without a hyphen, an
odd number of digits begins with the day. -/
def dateLength (cs : List Char) : Nat :=
  if cs.length = 7 then 7
  else
    match cs.drop 4 with
    | '-' :: 'W' :: _ =>
      if cs[8]? = some '-' ∧ !(cs[10]?.any Char.isDigit) then 10 else 8
    | 'W' :: _ =>
      let run := 7 + ((cs.drop 7).takeWhile Char.isDigit).length
      if run < 9 then run else if run % 2 = 0 then 7 else 8
    | '-' :: _ => 10
    | _ => 8

def firstMonday (year : Nat) : Nat :=
  let start := daysBeforeYear year
  let weekday := start % 7
  if weekday ≤ 3 then start - weekday else start + (7 - weekday)

def isLong (year : Nat) : Bool :=
  let weekday := daysBeforeYear year % 7
  weekday == 3 || (weekday == 2 && isLeap year)

def ofWeek (year week day : Nat) : Except Misfit (Nat × Nat × Nat) :=
  if week = 0 ∨ 53 < week ∨ (week = 53 ∧ !isLong year) ∨ day = 0 ∨ 7 < day then
    .error .malformed
  else if year = 0 then .ok (1, 0, 0)
  else .ok (dateOfDay (firstMonday year + 7 * (week - 1) + (day - 1)))

def takeHyphen (hyphens : Bool) (cs : List Char) : Option (List Char) :=
  if hyphens then takeChar '-' cs else some cs

def digits (n : Nat) (cs : List Char) : Except Misfit (Nat × List Char) :=
  match takeDigits n 0 cs with
  | some r => .ok r
  | none => .error .malformed

def readDate (cs : List Char) : Except Misfit (Nat × Nat × Nat) := do
  let (year, cs) ← digits 4 cs
  let hyphens := cs.head? == some '-'
  let hyphen := fun cs => match takeHyphen hyphens cs with
    | some cs => Except.ok cs
    | none => .error Misfit.malformed
  let cs ← hyphen cs
  match cs with
  | 'W' :: cs =>
    let (week, cs) ← digits 2 cs
    if cs = [] then ofWeek year week 1
    else
      let (day, _) ← digits 1 (← hyphen cs)
      ofWeek year week day
  | cs =>
    let (month, cs) ← digits 2 cs
    let (day, cs) ← digits 2 (← hyphen cs)
    if cs = [] then return (year, month, day) else throw .malformed

structure Clock where
  hour : Nat
  minute : Nat
  second : Nat
  micro : Nat

/-- The fields of a clock as they are read, later ones in front, and whether they end the text. -/
abbrev Reading := List Nat × Nat × Bool

def readPlaces (fields : List Nat) (cs : List Char) : Except Misfit Reading := do
  let count := min 6 cs.length
  let (n, rest) ← digits count cs
  return (fields, n * tenTo (6 - count), (rest.dropWhile Char.isDigit).isEmpty)

/-- So many fields of two digits each, with a colon between them if `colons`, and places
of the second. The first field decides about the colons; a single ASCII character behind a
field ends it. -/
def readFields : (n : Nat) → (colons : Option Bool) → List Nat → List Char → Except Misfit Reading
  | 0, _, fields, cs => readPlaces fields cs
  | n + 1, colons, fields, cs => do
    let (field, cs) ← digits 2 cs
    let fields := field :: fields
    match cs with
    | [] => return (fields, 0, true)
    | c :: cs =>
      let colons := colons.getD (c == ':')
      if cs = [] ∧ c.toNat < 128 then return (fields, 0, false)
      else if colons && c == ':' then readFields n (some colons) fields cs
      else if c = '.' ∨ c = ',' then readPlaces fields cs
      else if colons then throw .malformed
      else readFields n (some colons) fields (c :: cs)

def readClock (cs : List Char) : Except Misfit (Clock × Bool) := do
  let (fields, micro, ends) ← readFields 3 none [] cs
  let field := fun i => (fields.reverse[i]?).getD 0
  return (⟨field 0, field 1, field 2, micro⟩, ends)

/-- The offset of a zone in microseconds: `Z`, or a clock behind a sign. One of no whole second is
none at all. -/
def readZone : List Char → Except Misfit Int
  | ['Z'] => .ok 0
  | 'Z' :: _ => .error .malformed
  | sign :: cs => do
    let (clock, ends) ← readClock cs
    if !ends then throw .malformed
    else
      let seconds := clock.hour * 3600 + clock.minute * 60 + clock.second
      let micros : Int := seconds * 1000000 + clock.micro
      let micros := if seconds = 0 then 0 else if sign = '-' then -micros else micros
      if 86400000000 ≤ micros.natAbs then throw (.offset micros) else return micros
  | [] => .error .malformed

def readTime (cs : List Char) : Except Misfit (Clock × Option Int) := do
  let isZone := fun c => c == '+' || c == '-' || c == 'Z'
  let (clock, ends) ← readClock (cs.takeWhile fun c => !isZone c)
  match cs.dropWhile fun c => !isZone c with
  | [] => if ends then return (clock, none) else throw .malformed
  | zone => return (clock, some (← readZone zone))

def checked (date : Nat × Nat × Nat) (clock : Clock) (offset : Option Int) :
    Except Misfit Moment :=
  let (year, month, day) := date
  if year = 0 ∨ 9999 < year then .error (.year year)
  else if month = 0 ∨ 12 < month then .error .month
  else if day = 0 ∨ monthDays year month < day then .error .day
  else if 23 < clock.hour then .error .hour
  else if 59 < clock.minute then .error .minute
  else if 59 < clock.second then .error .second
  else .ok ⟨year, month, day, clock.hour, clock.minute, clock.second, clock.micro, offset⟩

end Iso

open Iso in
def ofIso (s : String) : Except Misfit Moment := do
  let cs := s.toList
  let n := dateLength cs
  let date ← readDate (cs.take n)
  match cs.drop n with
  | [] => checked date ⟨0, 0, 0, 0⟩ none
  | _ :: cs =>
    let (clock, offset) ← readTime cs
    checked date clock offset

end HttpGateway.Moment
