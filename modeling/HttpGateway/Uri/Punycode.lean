/-!
Punycode: names in any script written in letters, digits and hyphens. The characters of ASCII come
first; behind the last hyphen stand numbers that tell which other ones are put in, and where.
-/

namespace HttpGateway.Punycode

def digit? (c : Char) : Option Nat :=
  if 'a' ≤ c ∧ c ≤ 'z' then some (c.toNat - 97)
  else if 'A' ≤ c ∧ c ≤ 'Z' then some (c.toNat - 65)
  else if '0' ≤ c ∧ c ≤ '9' then some (c.toNat - 22)
  else none

def threshold (bias j : Nat) : Nat := min 26 (max 1 (36 * (j + 1) - bias))

def number? (bias : Nat) : (j weight sum : Nat) → List Char → Option (Nat × List Char)
  | _, _, _, [] => none
  | j, weight, sum, c :: cs => do
    let d ← digit? c
    let t := threshold bias j
    let sum := sum + d * weight
    if d < t then return (sum, cs) else number? bias (j + 1) (weight * (36 - t)) sum cs

def shrink : (fuel : Nat) → (delta divisions : Nat) → Nat × Nat
  | fuel + 1, delta, divisions =>
    if 455 < delta then shrink fuel (delta / 35) (divisions + 36) else (delta, divisions)
  | 0, delta, divisions => (delta, divisions)

def adapt (delta : Nat) (first : Bool) (count : Nat) : Nat :=
  let delta := if first then delta / 700 else delta / 2
  let (delta, divisions) := shrink (delta + 1) (delta + delta / count) 0
  divisions + 36 * delta / (delta + 38)

/-- Puts in one character for each number. `next` is the place behind the last one, `code` the code
point of the last one; `fuel` bounds the numbers. -/
def insertAll : (fuel : Nat) → (first : Bool) → (code next bias : Nat) → List Nat → List Char →
    Option (List Nat)
  | _, _, _, _, _, name, [] => some name
  | 0, _, _, _, _, _, _ => none
  | fuel + 1, first, code, next, bias, name, cs => do
    let (delta, cs) ← number? bias 0 1 0 cs
    let place := next + delta
    let count := name.length + 1
    let code := code + place / count
    guard (code ≤ 0x10FFFF)
    let place := place % count
    let name := name.take place ++ code :: name.drop place
    insertAll fuel false code (place + 1) (adapt delta first count) name cs

def decode? (cs : List Char) : Option (List Nat) :=
  let tail := (cs.reverse.takeWhile (· ≠ '-')).reverse
  let head := cs.take (cs.length - tail.length)
  insertAll cs.length true 128 0 72 (head.dropLast.map Char.toNat) tail

def digit (d : Nat) : Char := Char.ofNat (if d < 26 then 97 + d else 22 + d)

theorem threshold_bounds (bias j : Nat) : 1 ≤ threshold bias j ∧ threshold bias j ≤ 26 := by
  rw [threshold]
  omega

def digits (bias : Nat) (j n : Nat) : List Char :=
  let t := threshold bias j
  if n < t then [digit n]
  else digit (t + (n - t) % (36 - t)) :: digits bias (j + 1) ((n - t) / (36 - t))
termination_by n
decreasing_by
  have ht := threshold_bounds bias j
  exact Nat.lt_of_le_of_lt (Nat.div_le_self _ _) (by omega)

/-- The code points beyond ASCII with their places, in the order in which they are put in. -/
def insertions (codes : List Nat) : List (Nat × Nat) :=
  (codes.zipIdx.filter fun e => 128 ≤ e.1).mergeSort fun a b => a.1 < b.1 ∨ a.1 = b.1 ∧ a.2 ≤ b.2

def placeOf (codes : List Nat) (e : Nat × Nat) : Nat :=
  ((codes.take e.2).filter (· ≤ e.1)).length

/-- The numbers that tell which characters are put in, and where. `next` is the place behind the last
one, `code` its code point, `count` how many characters there are with the one that comes now. -/
def numbers (codes : List Nat) :
    (first : Bool) → (code next bias count : Nat) → List (Nat × Nat) → List Char
  | _, _, _, _, _, [] => []
  | first, code, next, bias, count, e :: rest =>
    let delta := (e.1 - code) * count + placeOf codes e - next
    digits bias 0 delta ++
      numbers codes false e.1 (placeOf codes e + 1) (adapt delta first count) (count + 1) rest

def plainPart (codes : List Nat) : List Char :=
  let plain := codes.filter (· < 128)
  if plain = [] then [] else plain.map Char.ofNat ++ ['-']

def numberPart (codes : List Nat) : List Char :=
  numbers codes true 128 0 72 ((codes.filter (· < 128)).length + 1) (insertions codes)

def encode (codes : List Nat) : List Char := plainPart codes ++ numberPart codes

end HttpGateway.Punycode
