import HttpGateway.Text.Blank

/-!
Cutting texts at a separator and putting them together again. A comma behind a backslash is no
separator: `commaPieces` cuts at the other ones and leaves it as it is written.
-/

namespace HttpGateway.Text

def splitAt (sep : Char) : List Char → List (List Char)
  | [] => [[]]
  | c :: cs =>
    if c = sep then [] :: splitAt sep cs
    else
      match splitAt sep cs with
      | [] => [[c]]
      | p :: ps => (c :: p) :: ps

def joinBy (sep : Char) : List (List Char) → List Char
  | [] => []
  | [p] => p
  | p :: q :: ps => p ++ sep :: joinBy sep (q :: ps)

@[simp]
theorem splitAt_ne_nil (sep : Char) (cs : List Char) : splitAt sep cs ≠ [] := by
  cases cs with
  | nil => simp [splitAt]
  | cons c cs =>
    rw [splitAt]
    split
    · simp
    · split <;> simp

theorem joinBy_cons_cons (sep c : Char) (p : List Char) (ps : List (List Char)) :
    joinBy sep ((c :: p) :: ps) = c :: joinBy sep (p :: ps) := by
  cases ps <;> rfl

@[simp]
theorem joinBy_splitAt (sep : Char) (cs : List Char) : joinBy sep (splitAt sep cs) = cs := by
  induction cs with
  | nil => rfl
  | cons c cs ih =>
    rw [splitAt]
    obtain ⟨p, ps, h⟩ := List.exists_cons_of_ne_nil (splitAt_ne_nil sep cs)
    rw [h] at ih ⊢
    split
    · next hc => simp [joinBy, ih, hc]
    · simp [joinBy_cons_cons, ih]

def cut (sep : Char) : List Char → List Char × Option (List Char)
  | [] => ([], none)
  | c :: cs => if c = sep then ([], some cs) else ((c :: (cut sep cs).1), (cut sep cs).2)

def cutLast (sep : Char) (cs : List Char) : Option (List Char) × List Char :=
  match cut sep cs.reverse with
  | (tail, head) => (head.map List.reverse, tail.reverse)

def pieces (sep : Char) (s : String) : List String := (splitAt sep s.toList).map String.ofList

def segments (sep : Char) (s : String) : List String := (pieces sep s).filter (· ≠ "")

/-- The character that stands for an escaped comma while a text is cut. -/
def commaMark : Char := Char.ofNat 1

def markCommas : List Char → List Char
  | '\\' :: ',' :: cs => commaMark :: markCommas cs
  | c :: cs => c :: markCommas cs
  | [] => []

def unmarkCommas (cs : List Char) : List Char :=
  cs.flatMap fun c => if c = commaMark then ['\\', ','] else [c]

def hasEscapedComma : List Char → Bool
  | '\\' :: ',' :: _ => true
  | _ :: cs => hasEscapedComma cs
  | [] => false

def commaPieces (cs : List Char) : List (List Char) :=
  if hasEscapedComma cs then
    (splitAt ',' (markCommas cs)).map fun p => unmarkCommas (trimBy isBlank p)
  else (splitAt ',' cs).map (trimBy isBlank)

def plainCommas : List Char → List Char
  | '\\' :: ',' :: cs => ',' :: plainCommas cs
  | c :: cs => c :: plainCommas cs
  | [] => []

end HttpGateway.Text
