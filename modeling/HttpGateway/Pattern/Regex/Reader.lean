import HttpGateway.Number.Whole
import HttpGateway.Pattern.Regex.Error
import HttpGateway.Pattern.Regex.Syntax
import HttpGateway.Text.CharName
import HttpGateway.Text.Identifier

namespace HttpGateway.Pattern

open HttpGateway.Text

inductive Token where
  | plain (c : Char)
  | escaped (c : Char)
deriving DecidableEq

def Token.chars : Token → List Char
  | plain c => [c]
  | escaped c => ['\\', c]

def tokens : List Char → List Token × Bool
  | ['\\'] => ([], true)
  | '\\' :: c :: cs => (.escaped c :: (tokens cs).1, (tokens cs).2)
  | c :: cs => (.plain c :: (tokens cs).1, (tokens cs).2)
  | [] => ([], false)

structure Flags where
  ignoreCase : Bool := false
  multiline : Bool := false
  dotAll : Bool := false
  verbose : Bool := false
  ascii : Bool := false
  unicode : Bool := false
  once : Bool := false

namespace Flags

def folding (f : Flags) : Folding :=
  if f.ignoreCase then if f.ascii then .ascii else .full else .exact

def join (f g : Flags) : Flags :=
  ⟨f.ignoreCase || g.ignoreCase, f.multiline || g.multiline, f.dotAll || g.dotAll,
    f.verbose || g.verbose, f.ascii || g.ascii, f.unicode || g.unicode, f.once || g.once⟩

def change (f on off : Flags) : Flags :=
  let typed := on.ascii || on.unicode
  { ignoreCase := (f.ignoreCase || on.ignoreCase) && !off.ignoreCase
    multiline := (f.multiline || on.multiline) && !off.multiline
    dotAll := (f.dotAll || on.dotAll) && !off.dotAll
    verbose := (f.verbose || on.verbose) && !off.verbose
    ascii := if typed then on.ascii else f.ascii
    unicode := if typed then on.unicode else f.unicode
    once := f.once }

def overlap (f g : Flags) : Bool :=
  (f.ignoreCase && g.ignoreCase) || (f.multiline && g.multiline) || (f.dotAll && g.dotAll) ||
    (f.verbose && g.verbose)

end Flags

/-- What has been read of an expression: the rest, whether a lone backslash is behind it, the
widths of the groups (none while a group is open), their names, the flags of the whole expression,
the number of groups before the outermost look-behind that is open, and the groups that conditions
ask for. -/
structure Reading where
  rest : List Token
  cut : Bool
  widths : List (Option Width) := []
  names : List (String × Nat) := []
  flags : Flags := {}
  before : Option Nat := none
  asked : List Nat := []

abbrev Reader := StateT Reading (Except RegexError)

namespace Reader

def fail {α : Type} : Reader α := throw .malformed

def peek : Reader (Option Token) := return (← get).rest.head?

def advance (n : Nat) : Reader Unit := do
  let s ← get
  let rest := s.rest.drop n
  if s.cut ∧ 0 < n ∧ rest = [] then fail else set { s with rest }

def next : Reader (Option Token) := do
  let this ← peek
  advance 1
  return this

def take (c : Char) : Reader Bool := do
  if (← peek) = some (.plain c) then advance 1 *> return true else return false

def takeWhile (n : Nat) (p : Char → Bool) : Reader (List Char) := do
  let found := ((← get).rest.take n).takeWhile fun
    | .plain c => p c
    | .escaped _ => false
  advance found.length
  return found.flatMap Token.chars

def takeUntil (stop : Char) : Reader String := do
  let s ← get
  let found := s.rest.takeWhile (· ≠ .plain stop)
  if found = [] ∨ s.rest.length = found.length then fail
  else
    advance (found.length + 1)
    return String.ofList (found.flatMap Token.chars)

def isOctal (c : Char) : Bool := '0' ≤ c && c ≤ '7'

def octalValue (cs : List Char) : Nat := cs.foldl (fun n c => 8 * n + (c.toNat - 48)) 0

def isHex (c : Char) : Bool := (hexDigit? c).isSome
where
  hexDigit? (c : Char) : Option Nat :=
    if c.isDigit then some (c.toNat - 48)
    else if 'a' ≤ c ∧ c ≤ 'f' then some (c.toNat - 87)
    else if 'A' ≤ c ∧ c ≤ 'F' then some (c.toNat - 55)
    else none

def hexValue (cs : List Char) : Nat :=
  cs.foldl (fun n c => 16 * n + ((isHex.hexDigit? c).getD 0)) 0

def controlOf (c : Char) : Option Nat :=
  [('a', 7), ('b', 8), ('f', 12), ('n', 10), ('r', 13), ('t', 9), ('v', 11), ('\\', 92)].lookup c

def categoryOf (c : Char) : Option (Category × Bool) :=
  [('d', (.digit, false)), ('D', (.digit, true)), ('s', (.space, false)), ('S', (.space, true)),
    ('w', (.word, false)), ('W', (.word, true))].lookup c

def readHex (n : Nat) : Reader Nat := do
  let ds ← takeWhile n isHex
  if ds.length = n then return hexValue ds else fail

def readNamed : Reader Nat := do
  if ← take '{' then
    match CharName.find? (← takeUntil '}') with
    | some n => return n
    | none => fail
  else fail

def readCode (c : Char) : Reader Nat := do
  if c = 'x' then readHex 2
  else if c = 'u' then readHex 4
  else if c = 'U' then
    let n ← readHex 8
    if n < 0x110000 then return n else fail
  else if c = 'N' then readNamed
  else if c.isAlphanum then fail
  else return c.toNat

def readClassEscape (flags : Flags) (c : Char) : Reader ClassItem := do
  match controlOf c, categoryOf c with
  | some n, _ => return .literal n
  | none, some (k, negated) => return .category k flags.ascii negated
  | none, none =>
    if isOctal c then
      let n := octalValue (c :: (← takeWhile 2 isOctal))
      if n ≤ 255 then return .literal n else fail
    else return .literal (← readCode c)

def single (flags : Flags) (n : Nat) : Regex := .one ⟨false, flags.folding, [.literal n]⟩

def checkReference (index : Nat) : Reader Width := do
  let s ← get
  match s.widths[index - 1]?.join with
  | none => fail
  | some w =>
    match s.before with
    | none => return w
    | some n => if n < index then fail else return w

def readReference (flags : Flags) (index : Nat) : Reader Regex := do
  let w ← checkReference index
  return .reference index flags.folding w

structure Part where
  regex : Regex
  flagged : Bool := false

def Part.same (a b : Part) : Bool :=
  !a.flagged && !b.flagged &&
    match a.regex, b.regex with
    | .one s, .one t => s == t
    | .anchor a, .anchor b => a == b
    | .reference i _ _, .reference j _ _ => i == j
    | _, _ => false

inductive Kind where
  | normal
  | anchor
  | repetition
deriving DecidableEq

/-- What can be repeated as a whole: one part, or the parts of a group that remembers nothing. -/
structure Item where
  kind : Kind
  parts : List Part

def normal (r : Regex) : Item := ⟨.normal, [⟨r, false⟩]⟩

def anchor (a : Anchor) : Item := ⟨.anchor, [⟨.anchor a, false⟩]⟩

def sequence (parts : List Part) : Regex :=
  match parts.map (·.regex) with
  | [] => .empty
  | r :: rs => rs.foldl .seq r

def readEscape (flags : Flags) (c : Char) : Reader Item := do
  match categoryOf c with
  | some (k, negated) =>
    return normal (.one ⟨false, flags.folding, [.category k flags.ascii negated]⟩)
  | none =>
  if c = 'A' then return anchor .textStart
  else if c = 'Z' then return anchor .textEnd
  else if c = 'b' then return anchor (.wordEdge flags.ascii false)
  else if c = 'B' then return anchor (.wordEdge flags.ascii true)
  else
  match controlOf c with
  | some n => return normal (single flags n)
  | none =>
  if c = '0' then
    return normal (single flags (octalValue (← takeWhile 2 isOctal)))
  else if c.isDigit then
    let more ← takeWhile 1 Char.isDigit
    let third ←
      if isOctal c && more.any isOctal then takeWhile 1 isOctal else pure []
    if third ≠ [] then
      let n := octalValue (c :: more ++ third)
      if n ≤ 255 then return normal (single flags n) else fail
    else
      let index := (c :: more).foldl (fun n d => 10 * n + (d.toNat - 48)) 0
      return normal (← readReference flags index)
  else return normal (single flags (← readCode c))

def readClassPart (flags : Flags) : Token → Reader ClassItem
  | .plain c => return .literal c.toNat
  | .escaped c => readClassEscape flags c

def readClassItems (flags : Flags) : (fuel : Nat) → List ClassItem → Reader (List ClassItem)
  | 0, _ => fail
  | fuel + 1, items => do
    match ← next with
    | none => fail
    | some this =>
      if this = .plain ']' ∧ items ≠ [] then return items.reverse
      else
        let first ← readClassPart flags this
        if ← take '-' then
          match ← next with
          | none => fail
          | some that =>
            if that = .plain ']' then return (.literal 45 :: first :: items).reverse
            else
              match first, ← readClassPart flags that with
              | .literal lo, .literal hi =>
                if hi < lo then fail else readClassItems flags fuel (.range lo hi :: items)
              | _, _ => fail
        else readClassItems flags fuel (first :: items)

def readClass (flags : Flags) : Reader Regex := do
  let negated ← take '^'
  let items ← readClassItems flags ((← get).rest.length + 1) []
  return .one ⟨negated, flags.folding, items.eraseDups⟩

def countLimit : Nat := 4294967295

def readCount (digits : List Char) : Reader Nat := do
  if Whole.digitLimit < digits.length then throw (.countTooLong digits.length)
  let n := digits.foldl (fun n d => 10 * n + (d.toNat - 48)) 0
  if countLimit ≤ n then throw .countTooLarge
  return n

def readBounds : Reader (Option (Nat × Option Nat)) := do
  let start ← get
  if (← peek) = some (.plain '}') then return none
  let lo ← takeWhile start.rest.length Char.isDigit
  let two ← take ','
  let hi ← if two then takeWhile start.rest.length Char.isDigit else pure lo
  if !(← take '}') then
    set start
    return none
  let least ← readCount lo
  let most ← readCount hi
  if hi ≠ [] ∧ most < least then fail
  return some (least, if hi = [] then none else some most)

def readQuantifier (c : Char) : Reader (Option (Nat × Option Nat)) :=
  if c = '?' then return some (0, some 1)
  else if c = '*' then return some (0, none)
  else if c = '+' then return some (1, none)
  else readBounds

def readGreed : Reader Greed := do
  if ← take '?' then return .lazy
  if ← take '+' then return .possessive
  return .greedy

def quantify (items : List Item) (least : Nat) (most : Option Nat) : Reader (List Item) := do
  match items with
  | [] => fail
  | item :: items =>
    if item.kind ≠ .normal then fail
    else
      let greed ← readGreed
      let r := .repetition greed least most (sequence item.parts)
      return ⟨.repetition, [⟨r, false⟩]⟩ :: items

def splitShared : List Part → List (List Part) → List Part × List (List Part)
  | [], others => ([], [] :: others)
  | p :: first, others =>
    if others.all fun q => q.head?.any p.same then
      let (shared, rest) := splitShared first (others.map (·.drop 1))
      (p :: shared, rest)
    else ([], (p :: first) :: others)

def plainClass? : List Part → Option CharClass
  | [⟨.one s, false⟩] => if s.negated then none else some s
  | _ => none

def choice (flags : Flags) (alternatives : List (List Part)) : Part :=
  match alternatives.mapM plainClass? with
  | some classes => ⟨.one ⟨false, flags.folding, (classes.flatMap (·.items)).eraseDups⟩, false⟩
  | none =>
    match alternatives.reverse.map sequence with
    | [] => ⟨.empty, false⟩
    | r :: rs => ⟨rs.foldl (fun more r => .alt r more) r, false⟩

def alternation (flags : Flags) : List (List Part) → List Part
  | [] => []
  | [parts] => parts
  | first :: others =>
    let (shared, rest) := splitShared first others
    shared ++ [choice flags rest]

def flagOf (c : Char) : Option Flags :=
  if c = 'i' then some { ignoreCase := true }
  else if c = 'm' then some { multiline := true }
  else if c = 's' then some { dotAll := true }
  else if c = 'x' then some { verbose := true }
  else if c = 'a' then some { ascii := true }
  else if c = 'u' then some { unicode := true }
  else if c = 't' then some { once := true }
  else none

def readFlags : (fuel : Nat) → Flags → Reader (Flags × Char)
  | 0, _ => fail
  | fuel + 1, flags => do
    match ← next with
    | some (.plain c) =>
      match flagOf c with
      | some f =>
        let flags := flags.join f
        if flags.ascii && flags.unicode then fail else readFlags fuel flags
      | none => return (flags, c)
    | _ => fail

def readGroupFlags (c : Char) : Reader (Flags × Option Flags) := do
  let fuel := (← get).rest.length + 1
  let (on, stop) ←
    if c = '-' then pure (({} : Flags), '-')
    else
      match flagOf c with
      | some f => readFlags fuel f
      | none => fail
  if stop = ')' then return (on, none)
  else if on.once then fail
  else if stop = ':' then return (on, some {})
  else if stop = '-' then
    let (off, stop) ← readFlags fuel {}
    let none' := !(off.ignoreCase || off.multiline || off.dotAll || off.verbose)
    if stop ≠ ':' || none' || off.ascii || off.unicode || off.once || on.overlap off then fail
    else return (on, some off)
  else fail

def close : Reader Unit := do
  if ← take ')' then return () else fail

def openGroup (name : Option String) : Reader Nat := do
  let s ← get
  let index := s.widths.length + 1
  match name with
  | none => set { s with widths := s.widths ++ [none] }
  | some n =>
    if (s.names.lookup n).isSome then fail
    else set { s with widths := s.widths ++ [none], names := s.names ++ [(n, index)] }
  return index

def closeGroup (index : Nat) (r : Regex) : Reader Unit :=
  modify fun s => { s with widths := s.widths.set (index - 1) (some r.width) }

def readName (stop : Char) : Reader String := do
  let name ← takeUntil stop
  if isIdentifier name then return name else fail

def groupLimit : Nat := 1073741823

def readConditionGroup : Reader Nat := do
  let name ← takeUntil ')'
  let index ←
    if isIdentifier name then
      match (← get).names.lookup name with
      | some i => pure i
      | none => fail
    else
      match Whole.readLoose? name.toList with
      | some (.ofNat (n + 1)) =>
        if groupLimit ≤ n + 1 then fail
        modify fun s => { s with asked := (n + 1) :: s.asked }
        pure (n + 1)
      | _ => fail
  if (← get).before.isSome then discard (checkReference index)
  return index

def skipComment : (fuel : Nat) → Reader Unit
  | 0 => fail
  | fuel + 1 => do
    match ← next with
    | none => fail
    | some t => if t = .plain ')' then return () else skipComment fuel

def readLookKind : Reader Bool := do
  if ← take '=' then return false
  if ← take '!' then return true
  fail

mutual

def readAlternatives (fuel : Nat) (flags : Flags) (outermost : Bool) : Reader (List Part) :=
  match fuel with
  | 0 => fail
  | fuel + 1 => do
    let first ← readSequence fuel flags outermost []
    let seen := (← get).flags
    let flags := if outermost then flags.join seen else flags
    return alternation flags (first :: (← readMore fuel flags))

def readMore (fuel : Nat) (flags : Flags) : Reader (List (List Part)) :=
  match fuel with
  | 0 => fail
  | fuel + 1 => do
    if ← take '|' then
      let parts ← readSequence fuel flags false []
      return parts :: (← readMore fuel flags)
    else return []

/-- Items up to a bar, a closing parenthesis or the end. Flags for the whole expression may stand
only at its very start. -/
def readSequence (fuel : Nat) (flags : Flags) (start : Bool) (items : List Item) :
    Reader (List Part) :=
  match fuel with
  | 0 => fail
  | fuel + 1 => do
    let whole := items.reverse.flatMap (·.parts)
    match ← peek with
    | none => return whole
    | some (.escaped c) =>
      discard next
      readSequence fuel flags start ((← readEscape flags c) :: items)
    | some (.plain c) =>
      if c = '|' ∨ c = ')' then return whole
      else
        discard next
        if flags.verbose ∧ (c = ' ' ∨ (9 ≤ c.toNat ∧ c.toNat ≤ 13)) then
          readSequence fuel flags start items
        else if flags.verbose ∧ c = '#' then
          let rest := (← get).rest
          advance (min rest.length ((rest.takeWhile (· ≠ .plain '\n')).length + 1))
          readSequence fuel flags start items
        else if c = '[' then
          readSequence fuel flags start (normal (← readClass flags) :: items)
        else if c = '?' ∨ c = '*' ∨ c = '+' ∨ c = '{' then
          match ← readQuantifier c with
          | none => readSequence fuel flags start (normal (single flags c.toNat) :: items)
          | some (least, most) =>
            readSequence fuel flags start (← quantify items least most)
        else if c = '.' then
          let s := if flags.dotAll then CharClass.all else CharClass.inLine
          readSequence fuel flags start (normal (.one s) :: items)
        else if c = '^' then
          let a : Anchor := if flags.multiline then .lineStart else .textStart
          readSequence fuel flags start (anchor a :: items)
        else if c = '$' then
          let a : Anchor := if flags.multiline then .lineEnd else .finalLineEnd
          readSequence fuel flags start (anchor a :: items)
        else if c = '(' then
          if ← take '?' then readExtension fuel flags start items
          else
            let r ← readGroup fuel flags none
            readSequence fuel flags start (normal r :: items)
        else readSequence fuel flags start (normal (single flags c.toNat) :: items)

def readInner (fuel : Nat) (flags : Flags) : Reader (List Part) :=
  match fuel with
  | 0 => fail
  | fuel + 1 => do
    let parts ← readAlternatives fuel flags false
    close
    return parts

def readGroup (fuel : Nat) (flags : Flags) (name : Option String) : Reader Regex :=
  match fuel with
  | 0 => fail
  | fuel + 1 => do
    let index ← openGroup name
    let r := sequence (← readInner fuel flags)
    closeGroup index r
    return .group index r

def readExtension (fuel : Nat) (flags : Flags) (start : Bool) (items : List Item) :
    Reader (List Part) :=
  match fuel with
  | 0 => fail
  | fuel + 1 => do
    match ← next with
    | some (.plain c) =>
      if c = 'P' then
        if ← take '<' then
          let name ← readName '>'
          let r ← readGroup fuel flags (some name)
          readSequence fuel flags start (normal r :: items)
        else if ← take '=' then
          let name ← readName ')'
          match (← get).names.lookup name with
          | some index =>
            readSequence fuel flags start (normal (← readReference flags index) :: items)
          | none => fail
        else fail
      else if c = ':' then
        let parts ← readInner fuel flags
        readSequence fuel flags start (⟨.normal, parts⟩ :: items)
      else if c = '>' then
        let parts ← readInner fuel flags
        readSequence fuel flags start (normal (.atomic (sequence parts)) :: items)
      else if c = '#' then
        skipComment ((← get).rest.length + 1)
        readSequence fuel flags start items
      else if c = '=' ∨ c = '!' then
        let parts ← readInner fuel flags
        readSequence fuel flags start (normal (.ahead (c = '!') (sequence parts)) :: items)
      else if c = '<' then
        let negated ← readLookKind
        let before := (← get).before
        modify fun s => { s with before := some (before.getD s.widths.length) }
        let parts ← readAlternatives fuel flags false
        modify fun s => { s with before := before }
        close
        readSequence fuel flags start (normal (.behind negated (sequence parts)) :: items)
      else if c = '(' then
        let index ← readConditionGroup
        let yes ← readSequence fuel flags false []
        let both ← take '|'
        let no ← if both then readSequence fuel flags false [] else pure []
        close
        let r := .condition index (sequence yes) (sequence no) both
        readSequence fuel flags start (normal r :: items)
      else
        match ← readGroupFlags c with
        | (on, none) =>
          if start ∧ items.isEmpty then
            modify fun s => { s with flags := s.flags.join on }
            readSequence fuel (flags.join on) start items
          else fail
        | (on, some off) =>
          let parts ← readInner fuel (flags.change on off)
          readSequence fuel flags start (⟨.normal, [⟨sequence parts, true⟩]⟩ :: items)
    | _ => fail

end

end Reader

/-- No look-behind asks for as many characters. -/
def lookLimit : Nat := 4294967295

def lookReach : Nat := 2147483648

/-- What is wrong with an expression that was read as a whole. A look-behind has one width. -/
def fault? (flags : Flags) (r : Regex) : Option RegexError :=
  let looks := fun (p : Width → Bool) => r.anyPart fun
    | .behind _ r => p r.width
    | _ => false
  let repeats := r.anyPart fun
    | .repetition .. => true
    | _ => false
  if (flags.once && repeats) || looks fun w => lookLimit ≤ w.least || w.most ≠ some w.least then
    some .malformed
  else if looks fun w => lookReach ≤ w.least then some .looksTooFar
  else none

def compile (s : String) : Except RegexError Compiled := do
  let (ts, cut) := tokens s.toList
  if ts = [] ∧ cut then throw .malformed
  let (parts, s) ← (Reader.readAlternatives (5 * ts.length + 5) {} true).run { rest := ts, cut }
  if s.flags.ascii && s.flags.unicode then throw .mixedLetters
  if s.rest ≠ [] ∨ s.asked.any (s.widths.length < ·) then throw .malformed
  let r := Reader.sequence parts
  match fault? s.flags r with
  | some e => throw e
  | none => return ⟨r, s.widths.length, s.names⟩

end HttpGateway.Pattern
