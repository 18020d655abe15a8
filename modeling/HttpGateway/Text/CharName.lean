import HttpGateway.Text.CharName.Alphabets
import HttpGateway.Text.CharName.Ancient
import HttpGateway.Text.CharName.EastAsia
import HttpGateway.Text.CharName.Further
import HttpGateway.Text.CharName.Pictures
import HttpGateway.Text.CharName.Symbols
import HttpGateway.Text.Pieces

/-!
The names of characters. A table holds the names of characters in a row, each written by what
tells it from the name before it. A small letter gives the number of words kept from the start of
that name, `a` for none; new words follow; a colon and a digit give the number of words kept from
its end. A plus sign stands for the same name with its last number one larger, a point for a
character without a name. Syllables and ideographs are named by rule.
-/

namespace HttpGateway.Text.CharName

abbrev Words := List (List Char)

def opensStep (c : Char) : Bool := c == '.' || c == '+' || ('a' ≤ c && c ≤ 'z')

def steps (cs : List Char) : List (Char × List Char) :=
  (cs.foldr (fun c (s : List Char × List (Char × List Char)) =>
    if opensStep c then ([], (c, s.1) :: s.2) else (c :: s.1, s.2)) ([], [])).2

def countedWord (w : List Char) : List Char :=
  let digits := (w.reverse.takeWhile Char.isDigit).reverse
  let next := Nat.toDigits 10 (digits.foldl (fun n d => 10 * n + (d.toNat - 48)) 0 + 1)
  w.take (w.length - digits.length) ++ List.replicate (digits.length - next.length) '0' ++ next

def counted (name : Words) : Words := name.dropLast ++ (name.getLast?.map countedWord).toList

def follow (before : Words) (sign : Char) (text : List Char) : Words :=
  if sign = '+' then counted before
  else
    let (new, kept) := cut ':' text
    let tail := (kept.bind List.head?).elim 0 fun d => d.toNat - 48
    before.take (sign.toNat - 97) ++ (if new = [] then [] else splitAt ' ' new) ++
      before.drop (before.length - tail)

def findStep (name : Words) (n : Nat) (before : Words) : List (Char × List Char) → Option Nat
  | [] => none
  | (sign, text) :: rest =>
    if sign = '.' then findStep name (n + 1) before rest
    else
      let this := follow before sign text
      if this = name then some n else findStep name (n + 1) this rest

def findIn (table : List (Nat × List String)) (name : Words) : Option Nat :=
  table.findSome? fun (first, lines) => findStep name first [] (steps (lines.flatMap String.toList))

def behind? (start : String) (name : List Char) : Option (List Char) :=
  if start.toList.isPrefixOf name then some (name.drop start.length) else none

def leadingSounds : List String :=
  ["G", "GG", "N", "D", "DD", "R", "M", "B", "BB", "S", "SS", "", "J", "JJ", "C", "K", "T", "P",
    "H"]

def vowelSounds : List String :=
  ["A", "AE", "YA", "YAE", "EO", "E", "YEO", "YE", "O", "WA", "WAE", "OE", "YO", "U", "WEO", "WE",
    "WI", "YU", "EU", "YI", "I"]

def closingSounds : List String :=
  ["", "G", "GG", "GS", "N", "NJ", "NH", "D", "L", "LG", "LM", "LB", "LS", "LT", "LP", "LH", "M",
    "B", "BS", "S", "SS", "NG", "J", "C", "K", "T", "P", "H"]

def longestSound (sounds : List String) (cs : List Char) : Option (Nat × List Char) :=
  sounds.zipIdx.foldl (fun best (sound, i) =>
    match behind? sound cs with
    | some rest => if best.all (rest.length < ·.2.length) then some (i, rest) else best
    | none => best) none

def syllable? (cs : List Char) : Option Nat := do
  let (l, cs) ← longestSound leadingSounds cs
  let (v, cs) ← longestSound vowelSounds cs
  let (t, cs) ← longestSound closingSounds cs
  if cs = [] then some (44032 + (l * vowelSounds.length + v) * closingSounds.length + t) else none

structure Family where
  start : String
  ranges : List (Nat × Nat)

def unified : Family where
  start := "CJK UNIFIED IDEOGRAPH-"
  ranges := [
    (13312, 19903), (19968, 40959), (131072, 173791), (173824, 177976), (177984, 178205),
    (178208, 183969), (183984, 191456), (196608, 201546)]

def families : List Family := [
  ⟨"CJK COMPATIBILITY IDEOGRAPH-", [(63744, 64109), (64112, 64217), (194560, 195101)]⟩,
  ⟨"NUSHU CHARACTER-", [(110960, 111355)]⟩,
  ⟨"KHITAN SMALL SCRIPT CHARACTER-", [(101120, 101589)]⟩]

def hexDigit? (c : Char) : Option Nat :=
  if c.isDigit then some (c.toNat - 48)
  else if 'A' ≤ c ∧ c ≤ 'F' then some (c.toNat - 55)
  else none

def hexNumber? (cs : List Char) : Option Nat := do
  if cs.length ≠ 4 ∧ cs.length ≠ 5 then none
  let ds ← cs.mapM hexDigit?
  return ds.foldl (fun n d => 16 * n + d) 0

def Family.member? (f : Family) (name : List Char) : Option Nat := do
  let digits ← behind? f.start name
  let n ← hexNumber? digits
  if f.ranges.any fun r => r.1 ≤ n ∧ n ≤ r.2 then some n else none

def Family.plainMember? (f : Family) (name : List Char) : Option Nat :=
  if behind? (f.start ++ "0") name = none then f.member? name else none

def nameTables : List (List (Nat × List String)) :=
  [variationNames, alphabetNames, symbolNames, eastAsianNames, pictureNames, ancientNames]

/-- The code point with a name. Small letters count as large ones but in the names of syllables and
unified ideographs. -/
def find? (name : String) : Option Nat :=
  let cs := name.toList
  match behind? "HANGUL SYLLABLE " cs, behind? unified.start cs with
  | some sounds, _ => syllable? sounds
  | none, some _ => unified.member? cs
  | none, none =>
    let large := cs.map Char.toUpper
    let words := splitAt ' ' large
    (families.findSome? (·.plainMember? large)).orElse fun _ =>
    (furtherNames.find? (·.2 == String.ofList large)).map (·.1) |>.orElse fun _ =>
    nameTables.findSome? (findIn · words)

end HttpGateway.Text.CharName
