import HttpGateway.Text.Pieces
import HttpGateway.Text.Percent

/-!
Numeric hosts: four decimal bytes with points between them, or eight groups of four hexadecimal
digits with colons between them, one run of which may be left out.
-/

namespace HttpGateway.Uri

open HttpGateway.Text

def isDecimalByte (ds : List Char) : Bool :=
  ds != [] && ds.all Char.isDigit && ds.length ≤ 3 && (ds.length == 1 || ds.head? != some '0') &&
    (ds.foldl (fun n c => 10 * n + (c.toNat - 48)) 0) ≤ 255

def isIPv4 (cs : List Char) : Bool :=
  let bytes := splitAt '.' cs
  bytes.length == 4 && bytes.all isDecimalByte

/-- Four runs of digits with points between them: what is read as an IPv4 address, and refused if it
is none. -/
def looksLikeIPv4 (cs : List Char) : Bool :=
  let runs := splitAt '.' cs
  runs.length == 4 && runs.all fun ds => ds != [] && ds.all Char.isDigit

def isHexGroup (ds : List Char) : Bool :=
  ds != [] && ds.length ≤ 4 && ds.all fun c => (hexValue? c).isSome

def groupsOf (cs : List Char) : Option (List (List Char)) :=
  let groups := splitAt ':' cs
  match groups.getLast? with
  | some last =>
    if '.' ∈ last then
      if isIPv4 last then some (groups.dropLast ++ [['0'], ['0']]) else none
    else some groups
  | none => none

/-- Where a run of groups is left out: an empty group that is neither the first nor the last. -/
def omissions (groups : List (List Char)) : List Nat :=
  (List.range groups.length).filter fun i =>
    0 < i && i + 1 < groups.length && groups[i]? == some []

/-- The groups on one side of the omission; the side may be empty, which leaves one empty group at
the very end of the address. -/
def isSide (groups : List (List Char)) : Bool := groups == [[]] || groups.all isHexGroup

def isIPv6Groups (groups : List (List Char)) : Bool :=
  match omissions groups with
  | [] => groups.length == 8 && groups.all isHexGroup
  | [i] =>
    let before := groups.take i
    let behind := groups.drop (i + 1)
    isSide before && isSide behind && ((before ++ behind).filter (· != [])).length < 8
  | _ => false

def isIPv6 (cs : List Char) : Bool :=
  let (address, zone) := cut '%' cs
  let zoneOk := match zone with
    | none => true
    | some z => z != [] && !z.contains '%'
  zoneOk && !cs.contains '/' && (splitAt ':' address).length ≥ 3 &&
    (groupsOf address).any isIPv6Groups

end HttpGateway.Uri
