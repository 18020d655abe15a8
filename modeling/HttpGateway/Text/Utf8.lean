namespace HttpGateway.Text

def utf8 (cs : List Char) : List UInt8 := cs.flatMap String.utf8EncodeChar

/-- What a lead byte announces: the number of further bytes, the bits it gives itself, and the
bounds of the second byte. -/
def announce (b : Nat) : Option (Nat × Nat × Nat × Nat) :=
  if 0xC2 ≤ b ∧ b ≤ 0xDF then some (1, b % 32, 0x80, 0xBF)
  else if b = 0xE0 then some (2, 0, 0xA0, 0xBF)
  else if b = 0xED then some (2, 13, 0x80, 0x9F)
  else if 0xE1 ≤ b ∧ b ≤ 0xEF then some (2, b % 16, 0x80, 0xBF)
  else if b = 0xF0 then some (3, 0, 0x90, 0xBF)
  else if 0xF1 ≤ b ∧ b ≤ 0xF3 then some (3, b % 8, 0x80, 0xBF)
  else if b = 0xF4 then some (3, 4, 0x80, 0x8F)
  else none

def further (acc : Nat) : (n lo hi : Nat) → List UInt8 → Option Nat × List UInt8
  | 0, _, _, bs => (some acc, bs)
  | _ + 1, _, _, [] => (none, [])
  | n + 1, lo, hi, b :: bs =>
    if lo ≤ b.toNat ∧ b.toNat ≤ hi then further (64 * acc + b.toNat % 64) n 0x80 0xBF bs
    else (none, b :: bs)

theorem length_further_le (acc n lo hi : Nat) (bs : List UInt8) :
    (further acc n lo hi bs).2.length ≤ bs.length := by
  induction n generalizing acc lo hi bs with
  | zero => simp [further]
  | succ n ih =>
    cases bs with
    | nil => simp [further]
    | cons b bs =>
      rw [further]
      split
      · exact Nat.le_succ_of_le (ih ..)
      · simp

def replacement : Char := Char.ofNat 0xFFFD

/-- The characters of the bytes; a mark stands for each longest start of a character that breaks
off, and for each byte that starts none. -/
def readUtf8 : List UInt8 → List Char
  | [] => []
  | b :: bs =>
    if b.toNat < 0x80 then Char.ofNat b.toNat :: readUtf8 bs
    else
      match announce b.toNat with
      | none => replacement :: readUtf8 bs
      | some (n, acc, lo, hi) =>
        let r := further acc n lo hi bs
        (r.1.map Char.ofNat).getD replacement :: readUtf8 r.2
termination_by bs => bs.length
decreasing_by
  · exact Nat.lt_succ_self _
  · exact Nat.lt_succ_self _
  · exact Nat.lt_succ_of_le (length_further_le ..)

end HttpGateway.Text
