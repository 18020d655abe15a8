import HttpGateway.Text.Utf8

namespace HttpGateway.Text

def hexUpper (n : Nat) : Char := if n < 10 then Char.ofNat (48 + n) else Char.ofNat (55 + n)

def hexValue? (c : Char) : Option Nat :=
  if '0' ≤ c ∧ c ≤ '9' then some (c.toNat - 48)
  else if 'a' ≤ c ∧ c ≤ 'f' then some (c.toNat - 87)
  else if 'A' ≤ c ∧ c ≤ 'F' then some (c.toNat - 55)
  else none

def escapeByte (b : UInt8) : List Char :=
  ['%', hexUpper (b.toNat / 16), hexUpper (b.toNat % 16)]

def escapeChar (c : Char) : List Char := (utf8 [c]).flatMap escapeByte

def escape (safe : Char → Bool) (cs : List Char) : List Char :=
  cs.flatMap fun c => if safe c then [c] else escapeChar c

/-- The bytes of a text; a percent sign that two digits do not follow stands for itself. -/
def unescapeBytes : List Char → List UInt8
  | '%' :: a :: b :: cs =>
    match hexValue? a, hexValue? b with
    | some x, some y => UInt8.ofNat (16 * x + y) :: unescapeBytes cs
    | _, _ => 37 :: unescapeBytes (a :: b :: cs)
  | c :: cs => String.utf8EncodeChar c ++ unescapeBytes cs
  | [] => []

def unescape (s : String) : String := String.ofList (readUtf8 (unescapeBytes s.toList))

def isUnreserved (c : Char) : Bool :=
  c.isAlphanum || c == '-' || c == '.' || c == '_' || c == '~'

end HttpGateway.Text
