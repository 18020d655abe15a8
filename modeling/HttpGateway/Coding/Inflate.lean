import HttpGateway.Number.Power

namespace HttpGateway.Inflate

inductive Fault where
  | blockType
  | storedLengths
  | tooManySymbols
  | codeLengths
  | lengthRepeat
  | missingEnd
  | literalLengths
  | distances
  | literalCode
  | distanceCode
  | distanceTooFar
deriving DecidableEq, Repr

def Fault.message : Fault → String
  | blockType => "invalid block type"
  | storedLengths => "invalid stored block lengths"
  | tooManySymbols => "too many length or distance symbols"
  | codeLengths => "invalid code lengths set"
  | lengthRepeat => "invalid bit length repeat"
  | missingEnd => "invalid code -- missing end-of-block"
  | literalLengths => "invalid literal/lengths set"
  | distances => "invalid distances set"
  | literalCode => "invalid literal/length code"
  | distanceCode => "invalid distance code"
  | distanceTooFar => "invalid distance too far back"

abbrev Bits := List Bool

def bitsOfByte (b : UInt8) : Bits := (List.range 8).map b.toNat.testBit

def bitsOf (bytes : List UInt8) : Bits := bytes.flatMap bitsOfByte

abbrev Taken (α : Type) := Option (α × Bits)

def take : (n : Nat) → Bits → Option (Nat × Bits)
  | 0, bits => some (0, bits)
  | _ + 1, [] => none
  | n + 1, b :: bits => (take n bits).map fun r => (2 * r.1 + b.toNat, r.2)

/-- A prefix code: how many words it has of each length, from one bit on, and the symbols in the
order of their words. -/
structure Code where
  counts : List Nat
  symbols : List Nat

namespace Code

def ofLengths (lengths : List Nat) : Code :=
  let longest := lengths.foldl max 1
  let ofLength := fun n : Nat =>
    (lengths.zipIdx.filter fun p => p.1 == n).map fun p : Nat × Nat => p.2
  let groups := (List.range longest).map fun i => ofLength (i + 1)
  ⟨groups.map List.length, groups.flatten⟩

/-- The words that could still be added behind those of each length; nothing if there are more words
than the lengths allow. -/
def room? (counts : List Nat) : Option Nat :=
  counts.foldl (fun room n => room.bind fun r => if n ≤ 2 * r then some (2 * r - n) else none)
    (some 1)

def isComplete (c : Code) : Bool := room? c.counts == some 0

def isEmpty (c : Code) : Bool := c.symbols.isEmpty

/-- A code in which words are missing is allowed if it has no word or one of a single bit. -/
def isSound (c : Code) : Bool := c.isComplete || c.isEmpty || c.counts == [1]

/-- The symbol of the next word: nothing in the outer option where the data break off, nothing in
the inner one if there is no such word. -/
def next? (c : Code) (bits : Bits) : Option (Option Nat × Bits) := go c.counts 0 0 0 bits
where
  go : List Nat → (word first index : Nat) → Bits → Option (Option Nat × Bits)
    | [], _, _, _, bits => some (none, bits)
    | _ :: _, _, _, _, [] => none
    | n :: counts, word, first, index, b :: bits =>
      let word := 2 * word + b.toNat
      if word < first + n then some (c.symbols[index + (word - first)]?, bits)
      else go counts word (2 * (first + n)) (index + n) bits

end Code

def copyLengths : List (Nat × Nat) :=
  [(3, 0), (4, 0), (5, 0), (6, 0), (7, 0), (8, 0), (9, 0), (10, 0), (11, 1), (13, 1), (15, 1),
    (17, 1), (19, 2), (23, 2), (27, 2), (31, 2), (35, 3), (43, 3), (51, 3), (59, 3), (67, 4),
    (83, 4), (99, 4), (115, 4), (131, 5), (163, 5), (195, 5), (227, 5), (258, 0)]

def copyDistances : List (Nat × Nat) :=
  [(1, 0), (2, 0), (3, 0), (4, 0), (5, 1), (7, 1), (9, 2), (13, 2), (17, 3), (25, 3), (33, 4),
    (49, 4), (65, 5), (97, 5), (129, 6), (193, 6), (257, 7), (385, 7), (513, 8), (769, 8),
    (1025, 9), (1537, 9), (2049, 10), (3073, 10), (4097, 11), (6145, 11), (8193, 12), (12289, 12),
    (16385, 13), (24577, 13)]

structure Codes where
  literals : Code
  distances : Code

def fixedCodes : Codes :=
  ⟨Code.ofLengths (List.replicate 144 8 ++ List.replicate 112 9 ++ List.replicate 24 7 ++
    List.replicate 8 8), Code.ofLengths (List.replicate 32 5)⟩

def copy (out : Array UInt8) (distance : Nat) : (n : Nat) → Array UInt8
  | 0 => out
  | n + 1 => copy (out.push ((out[out.size - distance]?).getD 0)) distance n

structure Progress where
  out : Array UInt8
  rest : Option Bits

def takeExtended (table : List (Nat × Nat)) (fault : Fault) (symbol : Nat) (bits : Bits) :
    Except Fault (Taken Nat) :=
  match table[symbol]? with
  | none => .error fault
  | some (base, more) => .ok ((take more bits).map fun r => (base + r.1, r.2))

def takeDistance (c : Codes) (bits : Bits) : Except Fault (Taken Nat) :=
  match c.distances.next? bits with
  | none => .ok none
  | some (none, _) => .error .distanceCode
  | some (some symbol, bits) => takeExtended copyDistances .distanceCode symbol bits

def symbols (c : Codes) : (fuel : Nat) → Array UInt8 → Bits → Except Fault Progress
  | 0, out, _ => .ok ⟨out, none⟩
  | fuel + 1, out, bits =>
    match c.literals.next? bits with
    | none => .ok ⟨out, none⟩
    | some (none, _) => .error .literalCode
    | some (some symbol, bits) =>
      if symbol < 256 then symbols c fuel (out.push (UInt8.ofNat symbol)) bits
      else if symbol = 256 then .ok ⟨out, some bits⟩
      else do
        match ← takeExtended copyLengths .literalCode (symbol - 257) bits with
        | none => return ⟨out, none⟩
        | some (length, bits) =>
          match ← takeDistance c bits with
          | none => return ⟨out, none⟩
          | some (distance, bits) =>
            if out.size < distance then throw .distanceTooFar
            else symbols c fuel (copy out distance length) bits

def stored : (n : Nat) → Array UInt8 → Bits → Progress
  | 0, out, bits => ⟨out, some bits⟩
  | n + 1, out, bits =>
    match take 8 bits with
    | none => ⟨out, none⟩
    | some (b, bits) => stored n (out.push (UInt8.ofNat b)) bits

/-- A stored block: its length twice, the second time with all bits turned, and its bytes. It begins
with a whole byte. -/
def storedBlock (out : Array UInt8) (bits : Bits) : Except Fault Progress :=
  match take 16 (bits.drop (bits.length % 8)) with
  | none => .ok ⟨out, none⟩
  | some (length, bits) =>
    match take 16 bits with
    | none => .ok ⟨out, none⟩
    | some (turned, bits) =>
      if length + turned = 65535 then .ok (stored length out bits) else .error .storedLengths

def lengthOrder : List Nat := [16, 17, 18, 0, 8, 7, 9, 6, 10, 5, 11, 4, 12, 3, 13, 2, 14, 1, 15]

def takeTriples : (n : Nat) → Bits → Option (List Nat × Bits)
  | 0, bits => some ([], bits)
  | n + 1, bits => do
    let (m, bits) ← take 3 bits
    let (ms, bits) ← takeTriples n bits
    return (m :: ms, bits)

def addLengths (lengths : List Nat) (symbol : Nat) (bits : Bits) :
    Except Fault (Taken (List Nat)) :=
  let more := fun (width least : Nat) (length : Nat) =>
    (take width bits).map fun r => (lengths ++ List.replicate (least + r.1) length, r.2)
  if symbol < 16 then .ok (some (lengths ++ [symbol], bits))
  else if symbol = 16 then
    match lengths.getLast?, take 2 bits with
    | _, none => .ok none
    | none, some _ => .error .lengthRepeat
    | some last, some _ => .ok (more 2 3 last)
  else if symbol = 17 then .ok (more 3 3 0)
  else .ok (more 7 11 0)

def takeLengths (c : Code) (count : Nat) :
    (fuel : Nat) → List Nat → Bits → Except Fault (Taken (List Nat))
  | 0, _, _ => .ok none
  | fuel + 1, lengths, bits =>
    if count ≤ lengths.length then .ok (some (lengths, bits))
    else
      match c.next? bits with
      | none => .ok none
      | some (symbol, bits) => do
        match ← addLengths lengths (symbol.getD 0) bits with
        | none => return none
        | some (lengths, bits) =>
          if count < lengths.length then throw .lengthRepeat
          else takeLengths c count fuel lengths bits

def takeCodes (bits : Bits) : Except Fault (Taken Codes) := do
  match take 14 bits with
  | none => return none
  | some (sizes, bits) =>
    let literals := sizes % 32 + 257
    let distances := sizes / 32 % 32 + 1
    if 286 < literals ∨ 30 < distances then throw .tooManySymbols
    match takeTriples (sizes / 1024 + 4) bits with
    | none => return none
    | some (triples, bits) =>
      let lengths := (List.range 19).map fun i => ((lengthOrder.zip triples).lookup i).getD 0
      let code := Code.ofLengths lengths
      if !(code.isComplete || code.isEmpty) then throw .codeLengths
      match ← takeLengths code (literals + distances) (literals + distances + 1) [] bits with
      | none => return none
      | some (lengths, bits) =>
        if lengths[256]? = some 0 then throw .missingEnd
        let c : Codes :=
          ⟨Code.ofLengths (lengths.take literals), Code.ofLengths (lengths.drop literals)⟩
        if !c.literals.isSound then throw .literalLengths
        if !c.distances.isSound then throw .distances
        return some (c, bits)

def block (type : Nat) (out : Array UInt8) (bits : Bits) : Except Fault Progress := do
  if type = 0 then storedBlock out bits
  else if type = 1 then symbols fixedCodes bits.length out bits
  else if type = 2 then
    match ← takeCodes bits with
    | none => return ⟨out, none⟩
    | some (c, bits) => symbols c bits.length out bits
  else throw .blockType

def blocks : (fuel : Nat) → Array UInt8 → Bits → Except Fault Progress
  | 0, out, _ => .ok ⟨out, none⟩
  | fuel + 1, out, bits => do
    match take 3 bits with
    | none => return ⟨out, none⟩
    | some (head, bits) =>
      let p ← block (head / 2) out bits
      match p.rest with
      | none => return p
      | some bits => if head % 2 = 1 then return p else blocks fuel p.out bits

def read (data : List UInt8) : Except Fault Progress :=
  let bits := bitsOf data
  blocks (bits.length + 1) #[] bits

end HttpGateway.Inflate
