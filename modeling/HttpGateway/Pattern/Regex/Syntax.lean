import HttpGateway.Text.Blank
import HttpGateway.Text.CaseMap
import HttpGateway.Text.Digit
import HttpGateway.Text.Word

namespace HttpGateway.Pattern

open HttpGateway.Text

inductive Folding where
  | exact
  | ascii
  | full
deriving DecidableEq

def Folding.fold : Folding → Char → Char
  | exact, c => c
  | ascii, c => c.toLower
  | full, c => lowerOne c

def Folding.same : Folding → Char → Char → Bool
  | exact, a, b => a == b
  | ascii, a, b => a.toLower == b.toLower
  | full, a, b => sameLetter a b

def Folding.variants : Folding → Char → List Nat
  | exact, c => [c.toNat]
  | ascii, c => [c.toNat, c.toLower.toNat, c.toUpper.toNat]
  | full, c =>
    let x := (lowerOne c).toNat
    let lows := x :: (caseKin.lookup x).getD []
    c.toNat :: lows ++ lows.flatMap fun y =>
      (if y = 105 then [304] else []) ++ lowerRuns.filterMap fun r =>
        let n := r.first + (y - r.image)
        if r.image ≤ y ∧ r.covers n then some n else none

inductive Category where
  | digit
  | space
  | word
deriving DecidableEq

def Category.holds (k : Category) (asciiOnly : Bool) (c : Char) : Bool :=
  if asciiOnly && 128 ≤ c.toNat then false
  else
    match k with
    | digit => isDecimal c
    | space => if asciiOnly then c == ' ' || (9 ≤ c.toNat && c.toNat ≤ 13) else isBlank c
    | word => isWord c

inductive ClassItem where
  | literal (code : Nat)
  | range (first last : Nat)
  | category (k : Category) (asciiOnly negated : Bool)
deriving DecidableEq

def planeEnd : Nat := 65535

/-- Whether an item of a class, the only one or beside others, holds a character. Beyond the first
plane case is ignored in another way: a literal beside others is compared with the lower case as it
is written, a range also holds a character whose upper case it holds. -/
def ClassItem.holds (folding : Folding) (alone : Bool) (c : Char) : ClassItem → Bool
  | literal code =>
    if folding ≠ .exact ∧ !alone ∧ planeEnd < code then (folding.fold c).toNat == code
    else (folding.variants c).contains code
  | range first last =>
    (folding.variants c).any (fun n => first ≤ n && n ≤ last) ||
      (folding ≠ .exact && planeEnd < last &&
        let large := counterpart upperRuns (folding.fold c).toNat
        first ≤ large && large ≤ last)
  | category k asciiOnly negated => k.holds asciiOnly c != negated

structure CharClass where
  negated : Bool
  folding : Folding
  items : List ClassItem
deriving DecidableEq

def CharClass.holds (s : CharClass) (c : Char) : Bool :=
  s.items.any (·.holds s.folding (s.items.length == 1) c) != s.negated

def CharClass.all : CharClass := ⟨true, .exact, []⟩

def CharClass.inLine : CharClass := ⟨true, .exact, [.range 10 10]⟩

inductive Anchor where
  | textStart
  | lineStart
  | textEnd
  | finalLineEnd
  | lineEnd
  | wordEdge (asciiOnly negated : Bool)
deriving DecidableEq

inductive Greed where
  | greedy
  | lazy
  | possessive
deriving DecidableEq

/-- The least and the greatest length of what is matched; without the second there is no bound. -/
structure Width where
  least : Nat
  most : Option Nat
deriving DecidableEq

inductive Regex where
  | empty
  | one (s : CharClass)
  | seq (a b : Regex)
  | alt (a b : Regex)
  | repetition (greed : Greed) (least : Nat) (most : Option Nat) (r : Regex)
  | group (index : Nat) (r : Regex)
  | reference (index : Nat) (folding : Folding) (width : Width)
  | ahead (negated : Bool) (r : Regex)
  | behind (negated : Bool) (r : Regex)
  | atomic (r : Regex)
  | condition (index : Nat) (yes no : Regex) (both : Bool)
  | anchor (a : Anchor)

namespace Width

def add (a b : Width) : Width :=
  ⟨a.least + b.least, do return (← a.most) + (← b.most)⟩

def join (a b : Width) : Width :=
  ⟨min a.least b.least, do return max (← a.most) (← b.most)⟩

def times (w : Width) (least : Nat) (most : Option Nat) : Width :=
  ⟨w.least * least,
    match most, w.most with
    | some n, some m => some (m * n)
    | none, some 0 => some 0
    | some 0, none => some 0
    | _, none => none
    | none, some _ => none⟩

end Width

def Regex.width : Regex → Width
  | empty => ⟨0, some 0⟩
  | one _ => ⟨1, some 1⟩
  | seq a b => a.width.add b.width
  | alt a b => a.width.join b.width
  | repetition _ least most r => r.width.times least most
  | group _ r => r.width
  | reference _ _ w => w
  | ahead _ _ => ⟨0, some 0⟩
  | behind _ _ => ⟨0, some 0⟩
  | atomic r => r.width
  | condition _ yes no both => if both then yes.width.join no.width else ⟨0, yes.width.most⟩
  | anchor _ => ⟨0, some 0⟩

def Regex.anyPart (p : Regex → Bool) (r : Regex) : Bool :=
  p r || match r with
    | seq a b | alt a b | condition _ a b _ => a.anyPart p || b.anyPart p
    | repetition _ _ _ r | group _ r | ahead _ r | behind _ r | atomic r => r.anyPart p
    | empty | one _ | reference _ _ _ | anchor _ => false

structure Compiled where
  regex : Regex
  groups : Nat
  names : List (String × Nat)

end HttpGateway.Pattern
