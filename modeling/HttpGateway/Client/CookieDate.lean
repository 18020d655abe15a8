import HttpGateway.Moment.Reader
import HttpGateway.Number.Whole
import HttpGateway.Text.CaseMap

/-!
Dates of cookies: the exact form of HTTP dates, and behind it a loose one in which the day of the
week, the time and the zone may be missing.
-/

namespace HttpGateway

open HttpGateway.Text

/-- What a date of a cookie says: an instant in seconds from the start of 1970, or nothing. A
ruinous date takes all cookies of its response with it. -/
inductive CookieDate where
  | instant (seconds : Int)
  | unreadable
  | ruinous
deriving DecidableEq

namespace CookieDate

def months : List String :=
  ["jan", "feb", "mar", "apr", "may", "jun", "jul", "aug", "sep", "oct", "nov", "dec"]

def monthNumber? (name : List Char) : Option Nat :=
  (months.idxOf? (lower (String.ofList name))).map (· + 1)

/-- A date and a time, offset by so many seconds from universal time. Days, hours and seconds may be
one beyond the last one. -/
def of (year month day hour minute second : Nat) (offset : Int) : CookieDate :=
  if 1970 ≤ year ∧ 1 ≤ day ∧ day ≤ 31 ∧ hour ≤ 24 ∧ minute ≤ 59 ∧ second ≤ 61 then
    let days : Int := Moment.dayNumber year month 1 + (day - 1) - Moment.epochDay
    instant (days * 86400 + hour * 3600 + minute * 60 + second - offset)
  else unreadable

def takeWord (capitals : String) : List Char → Option (List Char × List Char)
  | a :: b :: c :: cs =>
    if capitals.toList.contains a && b.isLower && c.isLower then some ([a, b, c], cs) else none
  | _ => none

def takeChars : List Char → List Char → Option (List Char)
  | [], cs => some cs
  | c :: text, cs => (Moment.takeChar c cs).bind (takeChars text)

/-- A date in the exact form `Mon, 01 Jan 1990 00:00:00 GMT`, which may end in a line feed; one
whose month has no name is ruinous. -/
def readExact? (cs : List Char) : Option CookieDate := do
  let (_, cs) ← takeWord "SMTWF" cs
  let (day, cs) ← Moment.takeDigits 2 0 (← takeChars [',', ' '] cs)
  let (month, cs) ← takeWord "JFMASOND" (← Moment.takeChar ' ' cs)
  let (year, cs) ← Moment.takeDigits 4 0 (← Moment.takeChar ' ' cs)
  let (hour, cs) ← Moment.takeDigits 2 0 (← Moment.takeChar ' ' cs)
  let (minute, cs) ← Moment.takeDigits 2 0 (← Moment.takeChar ':' cs)
  let (second, cs) ← Moment.takeDigits 2 0 (← Moment.takeChar ':' cs)
  let cs ← takeChars [' ', 'G', 'M', 'T'] cs
  guard (cs = [] ∨ cs = ['\n'])
  return match monthNumber? month with
    | some month => of year month day hour minute second 0
    | none => ruinous

def isSpace (c : Char) : Bool := c == ' ' || (9 ≤ c.toNat && c.toNat ≤ 13)

def isLetter (c : Char) : Bool := c.isAlpha

def isWordChar (c : Char) : Bool := c.isAlphanum || c == '_'

def dropWeekday (cs : List Char) : List Char :=
  let name := lower (String.ofList (cs.take 3))
  if ["sun", "mon", "tue", "wed", "thu", "fri", "sat"].contains name then
    let cs := (cs.drop 3).dropWhile isLetter
    ((Moment.takeChar ',' cs).getD cs).dropWhile isSpace
  else cs

def takeGap : List Char → Option (List Char)
  | c :: cs =>
    if isSpace c then some (cs.dropWhile isSpace)
    else if c = '-' ∨ c = '/' then some cs
    else none
  | [] => none

def takeShort (cs : List Char) : Option (Nat × List Char) :=
  (Moment.takeDigits 2 0 cs).orElse fun _ => Moment.takeDigits 1 0 cs

def takeClock? (cs : List Char) : Option (Nat × Nat × Nat × List Char) := do
  let spaces := cs.takeWhile isSpace
  let cs ← if spaces = [] then Moment.takeChar ':' cs else some (cs.drop spaces.length)
  let (hour, cs) ← takeShort cs
  let (minute, cs) ← Moment.takeDigits 2 0 (← Moment.takeChar ':' cs)
  match (Moment.takeChar ':' cs).bind (Moment.takeDigits 2 0) with
  | some (second, cs) => return (hour, minute, second, cs)
  | none => return (hour, minute, 0, cs)

/-- A zone: a sign perhaps and two to four digits, or letters other than those for the half of a
day; and what follows it. -/
def takeZone (cs : List Char) : List Char × List Char :=
  let sign := if cs.head?.any (fun c => c == '+' || c == '-') then cs.take 1 else []
  let digits := ((cs.drop sign.length).take 4).takeWhile Char.isDigit
  let letters := cs.takeWhile isLetter
  let halfDay := ["am", "pm"].contains (lower (String.ofList (cs.takeWhile isWordChar)))
  if 2 ≤ digits.length then (sign ++ digits, (cs.drop sign.length).drop digits.length)
  else if letters ≠ [] ∧ !halfDay then (letters, cs.drop letters.length)
  else ([], cs)

def zoneOffset? (zone : List Char) : Option Int :=
  if zone = [] ∨ ["GMT", "UTC", "UT", "Z"].contains (upper (String.ofList zone)) then some 0
  else
    let (negative, digits) := Binary64.readSign zone
    let (n, count, rest) := Binary64.readDigits digits
    if count = 0 ∨ rest ≠ [] then none
    else
      let seconds : Int := if count ≤ 2 then n * 3600 else n / 100 * 3600 + n % 100 * 60
      some (if negative then -seconds else seconds)

def isRemark (cs : List Char) : Bool :=
  match cs with
  | [] => true
  | '(' :: cs =>
    let word := cs.takeWhile isWordChar
    match cs.drop word.length with
    | ')' :: cs => word != [] && cs.all isSpace
    | _ => false
  | _ => false

/-- A year of less than four digits is the one nearest to the present one that ends in them. -/
def fullYear (present year : Nat) : Nat :=
  if 1000 ≤ year then year
  else
    let y := year + present - present % 100
    if year + 50 < present % 100 then y + 100
    else if present % 100 + 50 < year then y - 100
    else y

def readMonth? (word : List Char) : Option Nat :=
  (monthNumber? word).orElse fun _ =>
    ((Whole.readLoose? word).filter fun n => 1 ≤ n ∧ n ≤ 12).map Int.toNat

def looseParts? (cs : List Char) :
    Option (Nat × List Char × List Char × (Nat × Nat × Nat) × List Char) := do
  let cs := dropWeekday (cs.dropWhile isBlank)
  let (day, cs) ← takeShort cs
  let cs ← takeGap cs
  let month := cs.takeWhile isWordChar
  guard (month ≠ [])
  let cs ← takeGap (cs.drop month.length)
  let year := cs.takeWhile Char.isDigit
  guard (year ≠ [])
  let cs := cs.drop year.length
  let (clock, cs) := match takeClock? cs with
    | some (hour, minute, second, cs) => ((hour, minute, second), cs)
    | none => ((0, 0, 0), cs)
  let (zone, cs) := takeZone (cs.dropWhile isSpace)
  guard (isRemark (cs.dropWhile isSpace))
  return (day, month, year, clock, zone)

def readLoose (present : Nat) (cs : List Char) : CookieDate :=
  match looseParts? cs with
  | none => unreadable
  | some (day, month, year, (hour, minute, second), zone) =>
    if Whole.digitLimit < year.length then ruinous
    else
      let year := (digitsValue? year).getD 0
      match readMonth? month, zoneOffset? zone with
      | some month, some offset =>
        if 9999 < year then unreadable
        else of (fullYear present year) month day hour minute second offset
      | _, _ => unreadable

def read (present : Nat) (s : String) : CookieDate :=
  (readExact? s.toList).getD (readLoose present s.toList)

end CookieDate

end HttpGateway
