import HttpGateway.Pattern.Regex.Reader
import HttpGateway.Pattern.Regex.Matcher

namespace HttpGateway.Pattern

open HttpGateway.Text

inductive TemplatePart where
  | char (c : Char)
  | group (index : Nat)

namespace TemplatePart

def groupOf (c : Compiled) (index : Nat) : Except TemplateError TemplatePart :=
  if c.groups < index then .error .malformed else .ok (.group index)

def named (c : Compiled) (name : String) : Except TemplateError TemplatePart :=
  if isIdentifier name then
    match c.names.lookup name with
    | some index => .ok (.group index)
    | none => .error (.unknownName name)
  else
    match Whole.readLoose? name.toList with
    | some (.ofNat index) => groupOf c index
    | _ => .error .malformed

def leading (n : Nat) (p : Char → Bool) (ts : List Token) : List Char :=
  ((ts.take n).takeWhile fun
    | .plain c => p c
    | .escaped _ => false).flatMap Token.chars

def numbered (c : Compiled) (d : Char) (ts : List Token) :
    Except TemplateError (TemplatePart × Nat) :=
  let digits := leading 2 Char.isDigit ts
  let octal := leading 2 Reader.isOctal ts
  if d = '0' then .ok (.char (Char.ofNat (Reader.octalValue octal % 256)), octal.length)
  else if Reader.isOctal d && octal.length == 2 then
    let n := Reader.octalValue (d :: octal)
    if n ≤ 255 then .ok (.char (Char.ofNat n), 2) else .error .malformed
  else
    let ds := d :: digits.take 1
    (groupOf c (ds.foldl (fun n d => 10 * n + (d.toNat - 48)) 0)).map fun p => (p, ds.length - 1)

def ofTokens (c : Compiled) : (fuel : Nat) → List Token → Except TemplateError (List TemplatePart)
  | _, [] => .ok []
  | 0, _ => .error .malformed
  | fuel + 1, .plain d :: ts => (ofTokens c fuel ts).map (.char d :: ·)
  | fuel + 1, .escaped d :: ts => do
    if d = 'g' then
      match ts with
      | .plain '<' :: ts =>
        let name := ts.takeWhile (· ≠ .plain '>')
        if name = [] ∨ name.length = ts.length then throw .malformed
        let part ← named c (String.ofList (name.flatMap Token.chars))
        return part :: (← ofTokens c fuel (ts.drop (name.length + 1)))
      | _ => throw .malformed
    else if d.isDigit then
      let (part, more) ← numbered c d ts
      return part :: (← ofTokens c fuel (ts.drop more))
    else
      match Reader.controlOf d with
      | some n => return .char (Char.ofNat n) :: (← ofTokens c fuel ts)
      | none =>
        if d.isAlpha then throw .malformed
        else return .char '\\' :: .char d :: (← ofTokens c fuel ts)

end TemplatePart

def fillTemplate (parts : List TemplatePart) (t : Array Char) (m : Nat × Nat × Marks) : List Char :=
  parts.flatMap fun
    | .char c => [c]
    | .group 0 => (t.extract m.1 m.2.1).toList
    | .group i =>
      match m.2.2.group? i with
      | some (first, last) => (t.extract first last).toList
      | none => []

/-- The parts of a template, which is read only if it holds a backslash. A lone backslash at the end
is noticed when the token in front of it is taken. -/
def readTemplate (c : Compiled) (template : String) : Except TemplateError (List TemplatePart) :=
  let cs := template.toList
  if '\\' ∈ cs then
    match tokens cs with
    | (ts, false) => TemplatePart.ofTokens c ts.length ts
    | (ts, true) => do
      discard (TemplatePart.ofTokens c ts.length ts.dropLast)
      throw .malformed
  else .ok (cs.map .char)

def TemplatePart.isGroup : TemplatePart → Bool
  | char _ => false
  | group _ => true

def Compiled.substitute (c : Compiled) (template s : String) : Except TemplateError String := do
  let parts ← readTemplate c template
  let t := s.toList.toArray
  let found := c.findAll t (2 * t.size + 2) false 0
  if parts.any (·.isGroup) && found.any fun m => m.2.2.tangled c.groups then throw .tangledGroup
  return replaceAll t found (fillTemplate parts t)

end HttpGateway.Pattern
