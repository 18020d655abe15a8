import HttpGateway.Pattern.Regex.Error
import HttpGateway.Pattern.Regex.Syntax

/-!
Matching with backtracking. Of all the ways in which an expression can match at a place, the first
one in the order of its alternatives and of its greed is taken that lets the rest of the expression
match. Groups leave marks where they open and close. A way that fails may leave marks behind, which
conditions and references see later on: inside a repetition all marks are taken back, elsewhere only
those of groups that had not been reached before.
-/

namespace HttpGateway.Pattern

/-- The places where groups were opened and closed, two for each group, up to the last
that counts. -/
abbrev Marks := List (Option Nat)

abbrev Outcome := Option Nat × Marks

namespace Marks

def put (m : Marks) (i pos : Nat) : Marks :=
  if i < m.length then m.set i (some pos)
  else m ++ List.replicate (i - m.length) none ++ [some pos]

def pair? (m : Marks) (index : Nat) : Option (Nat × Nat) := do
  return (← (← m[2 * (index - 1)]?), ← (← m[2 * (index - 1) + 1]?))

def group? (m : Marks) (index : Nat) : Option (Nat × Nat) :=
  (pair? m index).filter fun (first, last) => first ≤ last

def tangled (m : Marks) (groups : Nat) : Bool :=
  (List.range groups).any fun i => (pair? m (i + 1)).any fun (first, last) => last < first

/-- The marks after a failure, where `saved` are those before it. -/
def back (m : Marks) (looping : Bool) (saved : Marks) : Marks :=
  if looping then saved else m.take saved.length

end Marks

namespace Regex

def atWordEdge (asciiOnly : Bool) (t : Array Char) (pos : Nat) : Bool :=
  let word := fun i => (t[i]?).any (Category.word.holds asciiOnly)
  (0 < pos && word (pos - 1)) != word pos

def anchored (t : Array Char) (pos : Nat) : Anchor → Bool
  | .textStart => pos == 0
  | .lineStart => pos == 0 || t[pos - 1]? == some '\n'
  | .textEnd => pos == t.size
  | .finalLineEnd => pos == t.size || (pos + 1 == t.size && t[pos]? == some '\n')
  | .lineEnd => pos == t.size || t[pos]? == some '\n'
  | .wordEdge asciiOnly negated => t.size != 0 && atWordEdge asciiOnly t pos != negated

def repeats (t : Array Char) (folding : Folding) (first last pos : Nat) : Bool :=
  pos + (last - first) ≤ t.size &&
    (List.range (last - first)).all fun i =>
      match t[first + i]?, t[pos + i]? with
      | some a, some b => folding.fold a == folding.fold b
      | _, _ => false

def countOf (t : Array Char) (s : CharClass) (most : Option Nat) (pos : Nat) : Nat :=
  if most = some 0 then 0
  else if h : pos < t.size then
    if s.holds t[pos] then countOf t s (most.map (· - 1)) (pos + 1) + 1 else 0
  else 0
termination_by t.size - pos

def fewer (looping : Bool) (saved : Marks) (pos least : Nat) (k : Nat → Marks → Outcome) :
    (n : Nat) → Marks → Outcome
  | n, m =>
    match k (pos + n) m with
    | (some p, m) => (some p, m)
    | (none, m) =>
      let m := m.back looping saved
      match n with
      | 0 => (none, m)
      | n + 1 => if least ≤ n then fewer looping saved pos least k n m else (none, m)

def further (t : Array Char) (s : CharClass) (looping : Bool) (saved : Marks)
    (k : Nat → Marks → Outcome) (most : Option Nat) (pos : Nat) (m : Marks) : Outcome :=
  match k pos m with
  | (some p, m) => (some p, m)
  | (none, m) =>
    let m := m.back looping saved
    if h : most ≠ some 0 ∧ pos < t.size then
      if s.holds t[pos] then further t s looping saved k (most.map (· - 1)) (pos + 1) m
      else (none, m)
    else (none, m)
termination_by t.size - pos

def characters (t : Array Char) (s : CharClass) (greed : Greed) (least : Nat) (most : Option Nat)
    (looping : Bool) (pos : Nat) (m : Marks) (k : Nat → Marks → Outcome) : Outcome :=
  let n := countOf t s (if greed = .lazy then some least else most) pos
  if n < least then (none, m)
  else
    match greed with
    | .greedy => fewer looping m pos least k n m
    | .lazy => further t s looping m k (most.map (· - least)) (pos + least) m
    | .possessive => k (pos + n) m

mutual

def run (t : Array Char) (r : Regex) (looping : Bool) (pos : Nat) (m : Marks)
    (k : Nat → Marks → Outcome) : Outcome :=
  match r with
  | empty => k pos m
  | one s => if (t[pos]?).any s.holds then k (pos + 1) m else (none, m)
  | seq a b => run t a looping pos m fun p m => run t b looping p m k
  | alt a b =>
    match run t a looping pos m k with
    | (some p, m) => (some p, m)
    | (none, left) =>
      match run t b looping pos (left.back looping m) k with
      | (some p, m) => (some p, m)
      | (none, left) => (none, left.back looping m)
  | repetition greed least most (one s) => characters t s greed least most looping pos m k
  | repetition .greedy least most r => greedyLoop t r least most pos m k
  | repetition .lazy least most r => lazyLoop t r looping least most pos m k
  | repetition .possessive least most r => possessiveLoop t r looping least most pos m k
  | group i r =>
    run t r looping pos (m.put (2 * (i - 1)) pos) fun p m => k p (m.put (2 * (i - 1) + 1) p)
  | reference i folding _ =>
    match m.group? i with
    | some (first, last) =>
      if repeats t folding first last pos then k (pos + (last - first)) m else (none, m)
    | none => (none, m)
  | ahead negated r =>
    match run t r looping pos m fun p m => (some p, m) with
    | (some _, m) => if negated then (none, m) else k pos m
    | (none, left) => if negated then k pos (left.back looping m) else (none, left)
  | behind negated r =>
    if pos < r.width.least then if negated then k pos m else (none, m)
    else
      match run t r looping (pos - r.width.least) m fun p m => (some p, m) with
      | (some _, m) => if negated then (none, m) else k pos m
      | (none, left) => if negated then k pos (left.back looping m) else (none, left)
  | atomic r =>
    match run t r looping pos m fun p m => (some p, m) with
    | (some p, m) => k p m
    | (none, m) => (none, m)
  | condition i yes no _ =>
    if (m.group? i).isSome then run t yes looping pos m k else run t no looping pos m k
  | anchor a => if anchored t pos a then k pos m else (none, m)
termination_by (sizeOf r, 0, 0, 0)

def greedyLoop (t : Array Char) (r : Regex) (least : Nat) (most : Option Nat) (pos : Nat)
    (m : Marks) (k : Nat → Marks → Outcome) : Outcome :=
  match least with
  | n + 1 => run t r true pos m fun p m => greedyLoop t r n (most.map (· - 1)) p m k
  | 0 =>
    if most = some 0 then k pos m
    else
      let round := run t r true pos m fun p m =>
        if pos < p ∧ p ≤ t.size then greedyLoop t r 0 (most.map (· - 1)) p m k else k p m
      match round with
      | (some p, m) => (some p, m)
      | (none, _) => k pos m
termination_by (sizeOf r, 1, least, t.size - pos)

def lazyLoop (t : Array Char) (r : Regex) (looping : Bool) (least : Nat) (most : Option Nat)
    (pos : Nat) (m : Marks) (k : Nat → Marks → Outcome) : Outcome :=
  match least with
  | n + 1 => run t r true pos m fun p m => lazyLoop t r looping n (most.map (· - 1)) p m k
  | 0 =>
    match k pos m with
    | (some p, m) => (some p, m)
    | (none, left) =>
      let m := left.back looping m
      if most = some 0 then (none, m)
      else
        run t r true pos m fun p m =>
          if pos < p ∧ p ≤ t.size then lazyLoop t r looping 0 (most.map (· - 1)) p m k
          else
            match k p m with
            | (some p, m) => (some p, m)
            | (none, left) => (none, left.back looping m)
termination_by (sizeOf r, 1, least, t.size - pos)

def possessiveLoop (t : Array Char) (r : Regex) (looping : Bool) (least : Nat) (most : Option Nat)
    (pos : Nat) (m : Marks) (k : Nat → Marks → Outcome) : Outcome :=
  match least with
  | n + 1 =>
    match run t r looping pos m fun p m => (some p, m) with
    | (some p, m) => possessiveLoop t r looping n (most.map (· - 1)) p m k
    | (none, m) => (none, m)
  | 0 =>
    if most = some 0 then k pos m
    else
      match run t r looping pos m fun p m => (some p, m) with
      | (some p, m) =>
        if pos < p ∧ p ≤ t.size then possessiveLoop t r looping 0 (most.map (· - 1)) p m k
        else k p m
      | (none, _) => k pos m
termination_by (sizeOf r, 1, least, t.size - pos)

end

end Regex

namespace Compiled

def matchesAll (c : Compiled) (s : String) : Except RegexError Bool :=
  let t := s.toList.toArray
  let found := Regex.run t c.regex false 0 [] fun p m =>
    if p = t.size then (some p, m) else (none, m)
  if found.1.isSome && found.2.tangled c.groups then .error .tangledGroup else .ok found.1.isSome

def matchAt (c : Compiled) (t : Array Char) (advance : Bool) (pos : Nat) : Option (Nat × Marks) :=
  let found := Regex.run t c.regex false pos [] fun p m =>
    if advance && p == pos then (none, m) else (some p, m)
  found.1.map fun p => (p, found.2)

def search (c : Compiled) (t : Array Char) (advance : Bool) (pos : Nat) :
    Option (Nat × Nat × Marks) :=
  match c.matchAt t advance pos with
  | some r => some (pos, r)
  | none => if pos < t.size then search c t false (pos + 1) else none
termination_by t.size - pos

/-- All matches from the left, none overlapping another. An empty one may follow a match that was
not empty. -/
def findAll (c : Compiled) (t : Array Char) (fuel : Nat) (advance : Bool) (pos : Nat) :
    List (Nat × Nat × Marks) :=
  match fuel with
  | 0 => []
  | fuel + 1 =>
    match c.search t advance pos with
    | none => []
    | some (first, last, m) => (first, last, m) :: findAll c t fuel (first == last) last

def replaceAll (t : Array Char) (found : List (Nat × Nat × Marks))
    (fill : Nat × Nat × Marks → List Char) : String :=
  let piece := fun (first last : Nat) => (t.extract first last).toList
  let (out, stop) := found.foldl (fun (acc : List Char × Nat) m =>
    (acc.1 ++ piece acc.2 m.1 ++ fill m, m.2.1)) ([], 0)
  String.ofList (out ++ piece stop t.size)

end Compiled

end HttpGateway.Pattern
