namespace HttpGateway

/-- A date and a time of day; `offset` counts the microseconds that the place is ahead of universal
time. -/
structure Moment where
  year : Nat
  month : Nat
  day : Nat
  hour : Nat
  minute : Nat
  second : Nat
  micro : Nat
  offset : Option Int
deriving DecidableEq, Repr, Inhabited

namespace Moment

def isLeap (year : Nat) : Bool := year % 4 == 0 && (year % 100 != 0 || year % 400 == 0)

def monthDays (year month : Nat) : Nat :=
  if month = 2 then if isLeap year then 29 else 28
  else if month = 4 ∨ month = 6 ∨ month = 9 ∨ month = 11 then 30
  else 31

def daysBeforeYear (year : Nat) : Nat :=
  let y := year - 1
  365 * y + y / 4 - y / 100 + y / 400

def daysBeforeMonth (year month : Nat) : Nat :=
  (List.range (month - 1)).foldl (fun days i => days + monthDays year (i + 1)) 0

def dayNumber (year month day : Nat) : Nat :=
  daysBeforeYear year + daysBeforeMonth year month + (day - 1)

def epochDay : Nat := 719162

def instant (m : Moment) : Int :=
  let days : Int := dayNumber m.year m.month m.day - epochDay
  let seconds := days * 86400 + m.hour * 3600 + m.minute * 60 + m.second
  seconds * 1000000 + m.micro - m.offset.getD 0

def anchored (m : Moment) : Moment := { m with offset := some (m.offset.getD 0) }

theorem instant_anchored (m : Moment) : m.anchored.instant = m.instant := rfl

def dateOfDay (n : Nat) : Nat × Nat × Nat :=
  let era := n / 146097
  let n := n % 146097
  let century := min (n / 36524) 3
  let n := n - 36524 * century
  let four := n / 1461
  let n := n % 1461
  let one := min (n / 365) 3
  let n := n - 365 * one
  let year := 400 * era + 100 * century + 4 * four + one + 1
  let (month, day) := (List.range 11).foldl
    (fun (acc : Nat × Nat) _ =>
      let length := monthDays year acc.1
      if length ≤ acc.2 then (acc.1 + 1, acc.2 - length) else acc) (1, n)
  (year, month, day + 1)

def ofEpoch (seconds : Int) (micro : Nat) : Moment :=
  let days := seconds.fdiv 86400
  let rest := (seconds.fmod 86400).toNat
  let (year, month, day) := dateOfDay (days + epochDay).toNat
  ⟨year, month, day, rest / 3600, rest / 60 % 60, rest % 60, micro, some 0⟩

def padded (width n : Nat) : String :=
  let ds := Nat.toDigits 10 n
  String.ofList (List.replicate (width - ds.length) '0' ++ ds)

def offsetText (o : Int) : String :=
  let n := o.natAbs / 1000000
  let micro := o.natAbs % 1000000
  let seconds := if n % 60 = 0 ∧ micro = 0 then "" else ":" ++ padded 2 (n % 60)
  let places := if micro = 0 then "" else "." ++ padded 6 micro
  (if o < 0 then "-" else "+") ++ padded 2 (n / 3600) ++ ":" ++ padded 2 (n / 60 % 60) ++
    seconds ++ places

def text (m : Moment) : String :=
  padded 4 m.year ++ "-" ++ padded 2 m.month ++ "-" ++ padded 2 m.day ++ "T" ++
    padded 2 m.hour ++ ":" ++ padded 2 m.minute ++ ":" ++ padded 2 m.second ++
    (if m.micro = 0 then "" else "." ++ padded 6 m.micro) ++
    ((m.offset.map offsetText).getD "")

end Moment

end HttpGateway
