import HttpGateway.Text.CaseMap
import HttpGateway.Text.Mark
import HttpGateway.Text.Quoted
import HttpGateway.Uri.Joining
import HttpGateway.Uri.Parts
import HttpGateway.Uri.Punycode

/-!
Names of hosts in any script. A name whose first label begins with `xn--` is shown in the script
that it stands for, and written in ASCII again where an address takes it. It has to be a proper name
then.
-/

namespace HttpGateway.Uri

open HttpGateway.Text

inductive NameFault where
  | nameTooLong
  | labelTooLong
  | noContent
  | endsInHyphen
  | undecodable
  | emptyLabel
  | notComposed
  | hyphensInside
  | hyphenAtEnd
  | beginsWithMark
  | badCode (code position : Nat) (label : List Nat)
  | badPlace (code position : Nat) (label : List Nat)
  | badJoiner (code position : Nat) (label : List Nat)
  | badDirection (cause : DirectionFault) (label : List Nat)
deriving DecidableEq

namespace NameFault

def codeText (n : Nat) : String :=
  let ds := (Nat.toDigits 16 n).map Char.toUpper
  "U+" ++ String.ofList (List.replicate (4 - ds.length) '0' ++ ds)

/-- A label as it is quoted. Half a pair of code units is no character and stands as an escape. -/
def quotedLabel (label : List Nat) : String :=
  let q := quoteFor (label.map Char.ofNat)
  let shown := fun n =>
    if 0xD800 ≤ n ∧ n ≤ 0xDFFF then '\\' :: 'u' :: hexText 4 n else quoteChar q (Char.ofNat n)
  String.ofList (q :: label.flatMap shown ++ [q])

def directionMessage (label : List Nat) : DirectionFault → String
  | .unknown position =>
    "Unknown directionality in label " ++ quotedLabel label ++ " at position " ++
      Whole.text position
  | .badStart =>
    "First codepoint in label " ++ quotedLabel label ++ " must be directionality L, R or AL"
  | .misplaced name position =>
    "Invalid direction for codepoint at position " ++ Whole.text position ++ " in a " ++
      (if name = .fromRight then "right-to-left" else "left-to-right") ++ " label"
  | .mixedNumbers => "Can not mix numeral types in a right-to-left label"
  | .badEnd => "Label ends with illegal codepoint directionality"

def message : NameFault → String
  | nameTooLong => "Domain too long"
  | labelTooLong => "Label too long"
  | noContent => "Malformed A-label, no Punycode eligible content found"
  | endsInHyphen => "A-label must not end with a hyphen"
  | undecodable => "Invalid A-label"
  | emptyLabel => "Empty Label"
  | notComposed => "Label must be in Normalization Form C"
  | hyphensInside => "Label has disallowed hyphens in 3rd and 4th position"
  | hyphenAtEnd => "Label must not start or end with a hyphen"
  | beginsWithMark => "Label begins with an illegal combining character"
  | badCode code position label =>
    "Codepoint " ++ codeText code ++ " at position " ++ Whole.text position ++ " of " ++
      quotedLabel label ++ " not allowed"
  | badPlace code position label =>
    "Codepoint " ++ codeText code ++ " not allowed at position " ++ Whole.text position ++ " in " ++
      quotedLabel label
  | badJoiner code position label =>
    "Unknown codepoint adjacent to joiner " ++ codeText code ++ " at position " ++
      Whole.text position ++ " in " ++ quotedLabel label
  | badDirection cause label => directionMessage label cause

end NameFault

def scriptMark : List Char := ['x', 'n', '-', '-']

def codeFault? (label : List Nat) : (before : List Nat) → List Nat → Option NameFault
  | _, [] => none
  | before, n :: codes =>
    let position := before.length + 1
    if n = 8204 ∨ n = 8205 then
      if fitsJoiner n before codes then codeFault? label (n :: before) codes
      else some (.badJoiner n position label)
    else if !isNameCode n then some (.badCode n position label)
    else if !fitsPlace n before codes then some (.badPlace n position label)
    else codeFault? label (n :: before) codes

def labelFault? (codes : List Nat) : Option NameFault :=
  if codes = [] then some .emptyLabel
  else if !isComposed codes then some .notComposed
  else if (codes.drop 2).take 2 = [45, 45] then some .hyphensInside
  else if codes.head? = some 45 ∨ codes.getLast? = some 45 then some .hyphenAtEnd
  else if codes.head?.any fun n => isMark (Char.ofNat n) then some .beginsWithMark
  else
    (codeFault? codes [] codes).or
      ((Direction.fault? (codes.map direction)).map fun f => .badDirection f codes)

def checkedLabel (codes : List Nat) : Except NameFault (List Char) :=
  match labelFault? codes with
  | some fault => .error fault
  | none => .ok (codes.map Char.ofNat)

def decodedLabel (content : List Char) : Except NameFault (List Char) :=
  if content = [] then .error .noContent
  else if content.getLast? = some '-' then .error .endsInHyphen
  else
    match Punycode.decode? content with
    | none => .error .undecodable
    | some codes => checkedLabel codes

def shownLabel (label : List Char) : Except NameFault (List Char) :=
  let label := label.map Char.toLower
  if scriptMark.isPrefixOf label then decodedLabel (label.drop scriptMark.length)
  else checkedLabel (label.map Char.toNat)

def labelsOf (name : List Char) : List (List Char) × List (List Char) :=
  let labels := splitAt '.' name
  if labels.getLast? = some [] then (labels.dropLast, [[]]) else (labels, [])

def shownName (name : List Char) : Except NameFault (List Char) :=
  if 254 < name.length then .error .nameTooLong
  else
    let (labels, last) := labelsOf name
    (labels.mapM shownLabel).map fun shown => joinBy '.' (shown ++ last)

def shownHost (u : Uri) : Except NameFault String :=
  if scriptMark.isPrefixOf u.host.toList then (shownName u.host.toList).map String.ofList
  else .ok u.host

def asciiLabel (label : List Char) : Except NameFault (List Char) :=
  if label.all (·.toNat < 128) then (shownLabel label).map fun _ => label
  else (checkedLabel (label.map Char.toNat)).map fun _ =>
    scriptMark ++ Punycode.encode (label.map Char.toNat)

def writtenLabel (label : List Char) : Except NameFault (List Char) := do
  let written ← asciiLabel label
  if 63 < written.length then throw .labelTooLong else return written

def pointed (name : List Char) : List Char :=
  name.map fun c => if c.toNat ∈ [12290, 65294, 65377] then '.' else c

def writtenName (name : List Char) : Except NameFault (List Char) :=
  if 254 < name.length then .error .nameTooLong
  else do
    let (labels, last) := labelsOf (pointed name)
    let written := joinBy '.' ((← labels.mapM writtenLabel) ++ last)
    if 254 < written.length ∨ 253 < written.length ∧ last = [] then throw .nameTooLong
    else return written

def writtenHost (shown : String) : Except Error String :=
  let cs := shown.toList
  if ':' ∈ cs ∨ cs.all (·.toNat < 128) then .ok shown
  else
    match writtenName (lower shown).toList with
    | .ok name => .ok (String.ofList name)
    | .error _ => .error (.badName shown)

def withShownOrigin (u origin : Uri) (shown : String) : Except Error Uri := do
  let host := if ':' ∈ shown.toList then "[" ++ shown ++ "]" else shown
  checkLengths [("scheme", origin.scheme), ("authority", u.authority), ("path", u.path),
    ("query", u.queryText), ("fragment", u.fragment.getD ""), ("host", host),
    ("port", (origin.port.map Whole.text).getD "")]
  let written ← writtenHost shown
  u.withOrigin { origin with host := written }

end HttpGateway.Uri
