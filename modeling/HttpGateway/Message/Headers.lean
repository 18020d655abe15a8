import HttpGateway.Text.CaseMap
import HttpGateway.Text.Blank

/-!
Header fields: names with values, repeats and order kept. Names are looked up without regard to
case. Fields are ASCII text unless a field was written over without a look at the others; on plain
ASCII fields a look-up of a name that is not ASCII is refused.
-/

namespace HttpGateway

structure Headers where
  fields : List (String × String)
deriving DecidableEq, Inhabited

namespace Headers

open HttpGateway.Text

def empty : Headers := ⟨[]⟩

def isAscii (s : String) : Bool := s.toList.all (·.toNat < 128)

def lowerAscii (s : String) : String := String.ofList (s.toList.map Char.toLower)

def plain (h : Headers) : Bool := h.fields.all fun f => isAscii f.1 && isAscii f.2

def ofFields? (fields : List (String × String)) : Option Headers :=
  if (Headers.mk fields).plain then some ⟨fields⟩ else none

def lowered (h : Headers) : List (String × String) := h.fields.map fun f => (lowerAscii f.1, f.2)

def key? (h : Headers) (name : String) : Option String :=
  let key := lower name
  if h.plain && !isAscii key then none else some key

def valuesAt (h : Headers) (key : String) : List String :=
  (h.fields.filter fun f => lowerAscii f.1 == key).map Prod.snd

def values? (h : Headers) (name : String) : Option (List String) := (h.key? name).map h.valuesAt

def values (h : Headers) (name : String) : List String := h.valuesAt (lower name)

def contains (h : Headers) (name : String) : Bool := !(h.values name).isEmpty

def joined (values : List String) : String := ", ".intercalate values

def get? (h : Headers) (name : String) : Option String :=
  match h.values name with
  | [] => none
  | vs => some (joined vs)

/-- Writes a field in the place of the first one with that name and drops the others, or behind all
fields if there is none. -/
def putField (name value : String) : List (String × String) → List (String × String)
  | [] => [(name, value)]
  | f :: fs =>
    if lowerAscii f.1 = lowerAscii name then
      (name, value) :: fs.filter fun g => lowerAscii g.1 != lowerAscii name
    else f :: putField name value fs

def put (h : Headers) (name value : String) : Headers := ⟨putField name value h.fields⟩

def put? (h : Headers) (name value : String) : Option Headers :=
  if h.plain && !(isAscii name && isAscii value) then none else some (h.put name value)

def eraseKey (h : Headers) (key : String) : Headers :=
  ⟨h.fields.filter fun f => lowerAscii f.1 != key⟩

def erase? (h : Headers) (name : String) : Option Headers := (h.key? name).map h.eraseKey

def erase (h : Headers) (name : String) : Headers := h.eraseKey (lower name)

def putNew (h : Headers) (name value : String) : Headers :=
  if h.contains name then h else ⟨h.fields ++ [(name, value)]⟩

end Headers

end HttpGateway
