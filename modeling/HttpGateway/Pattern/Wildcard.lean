import HttpGateway.Text.Pieces

namespace HttpGateway.Pattern

open HttpGateway.Text

inductive Wildcard where
  | star
  | one
  | oneOf (negated : Bool) (ranges : List (Char × Char))
  | char (c : Char)
deriving DecidableEq

namespace Wildcard

def fits (c : Char) : Wildcard → Bool
  | star => false
  | one => true
  | oneOf negated ranges => ranges.any (fun r => r.1 ≤ c && c ≤ r.2) != negated
  | char d => c == d

/-- Where a class ends, that is, the characters between its brackets and what follows it. A closing
bracket right at its start, behind an exclamation mark perhaps, belongs to it. -/
def cutClass (cs : List Char) : Option (List Char × List Char) :=
  let lead := match cs with
    | '!' :: ']' :: _ => 2
    | '!' :: _ => 1
    | ']' :: _ => 1
    | _ => 0
  let body := (cs.drop lead).takeWhile (· ≠ ']')
  match (cs.drop lead).drop body.length with
  | _ :: rest => some (cs.take lead ++ body, rest)
  | [] => none

/-- Cuts a class at the hyphens between two ends of a range: one can stand no earlier than behind
the first member, and no two of them closer than three characters. -/
def chunks (cs : List Char) : List (List Char) :=
  let first := if cs.head? = some '!' then 2 else 1
  match go cs.length first cs with
  | [] => []
  | parts =>
    match parts.getLast?, parts.dropLast with
    | some [], p :: ps => ((p :: ps).dropLast) ++ [((p :: ps).getLastD []) ++ ['-']]
    | _, _ => parts
where
  go : (fuel skip : Nat) → List Char → List (List Char)
    | 0, _, cs => [cs]
    | fuel + 1, skip, cs =>
      let head := cs.take skip ++ (cs.drop skip).takeWhile (· ≠ '-')
      match cs.drop head.length with
      | _ :: rest => if skip ≤ cs.length then head :: go fuel 2 rest else [cs]
      | [] => [cs]

/-- Joins chunks between which a range runs backwards, without its two ends; from the last
one on. -/
def dropBackwards : List (List Char) → List (List Char)
  | [] => []
  | p :: ps =>
    match dropBackwards ps with
    | [] => [p]
    | q :: qs =>
      match p.getLast?, q.head? with
      | some a, some b => if b < a then (p.dropLast ++ q.drop 1) :: qs else p :: q :: qs
      | _, _ => p :: q :: qs

def members : List (List Char) → List (Char × Char)
  | [] => []
  | [p] => p.map fun c => (c, c)
  | p :: q :: ps =>
    p.map (fun c => (c, c)) ++
      (match p.getLast?, q.head? with
        | some a, some b => [(a, b)]
        | _, some b => [('-', '-'), (b, b)]
        | _, none => []) ++ members (q :: ps)

def ofClass (cs : List Char) : Wildcard :=
  match dropBackwards (chunks cs) with
  | ('!' :: p) :: ps => oneOf true (members (p :: ps))
  | ps => oneOf false (members ps)

def parse (fuel : Nat) (cs : List Char) : List Wildcard :=
  match fuel, cs with
  | 0, _ => []
  | _, [] => []
  | fuel + 1, '*' :: cs => star :: parse fuel cs
  | fuel + 1, '?' :: cs => one :: parse fuel cs
  | fuel + 1, '[' :: cs =>
    match cutClass cs with
    | some (members, rest) => ofClass members :: parse fuel rest
    | none => char '[' :: parse fuel cs
  | fuel + 1, c :: cs => char c :: parse fuel cs

def ofText (s : String) : List Wildcard := parse s.toList.length s.toList

def accepts : List Wildcard → List Char → Bool
  | [], cs => cs.isEmpty
  | star :: ps, [] => accepts ps []
  | star :: ps, c :: cs => accepts ps (c :: cs) || accepts (star :: ps) cs
  | _ :: _, [] => false
  | p :: ps, c :: cs => p.fits c && accepts ps cs
termination_by ps cs => ps.length + cs.length

end Wildcard

def wildcardMatches (pattern s : String) : Bool :=
  Wildcard.accepts (Wildcard.ofText pattern) s.toList

end HttpGateway.Pattern
