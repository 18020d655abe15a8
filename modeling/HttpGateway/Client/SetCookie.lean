import HttpGateway.Client.CookieDate
import HttpGateway.Number.Binary64
import HttpGateway.Text.Pieces

namespace HttpGateway

open HttpGateway.Text

/-- What a `Set-Cookie` field writes. A port that is there without a value stands for the port of
the request. `ends` counts seconds from the start of 1970. -/
structure SetCookie where
  name : String
  value : Option String
  version : Int
  domain : Option String
  path : Option String
  port : Option (Option String)
  secure : Bool
  ends : Option Int

namespace SetCookie

inductive Fault where
  | ofField
  | ofResponse
deriving DecidableEq

/-- The attributes of a field as far as they are read; the first one of a name counts. An age counts
before a date. -/
structure Attributes where
  version : Option String
  domain : Option String
  path : Option String
  port : Option (Option String)
  secure : Option Bool
  ends : Option Int
  aged : Bool

namespace Attributes

def none : Attributes := ⟨.none, .none, .none, .none, .none, .none, false⟩

end Attributes

def readPair (cs : List Char) : String × Option String :=
  let (name, value) := cut '=' (trimBy isBlank cs)
  (strip (String.ofList name), value.map fun v => strip (String.ofList v))

def unquoted (s : String) : String :=
  let cs := s.toList
  let cs := if cs.head? = some '"' then cs.drop 1 else cs
  String.ofList (if cs.getLast? = some '"' then cs.dropLast else cs)

def endOfAge (now : Int) : Option String → Except Fault Int
  | none => .error .ofResponse
  | some v =>
    match Whole.readLoose? v.toList with
    | some n => .ok (now + n)
    | none => .error .ofField

def readAttribute (now : Int) (present : Nat) (a : Attributes) (p : String × Option String) :
    Except Fault Attributes :=
  match lower p.1, p.2 with
  | "secure", v => .ok { a with secure := some (a.secure.getD (v != some "")) }
  | "domain", v =>
    match a.domain, v with
    | none, none => .error .ofField
    | none, some d => .ok { a with domain := some (lower d) }
    | some _, _ => .ok a
  | "path", v =>
    match a.path, v with
    | none, none => .error .ofField
    | none, some d => .ok { a with path := some d }
    | some _, _ => .ok a
  | "version", v =>
    match a.version, v with
    | none, none => .error .ofField
    | none, some d => .ok { a with version := some (unquoted d) }
    | some _, _ => .ok a
  | "port", v => .ok { a with port := some (a.port.getD v) }
  | "max-age", v => (endOfAge now v).map fun t => { a with ends := some t, aged := true }
  | "expires", v =>
    match v.map fun v => CookieDate.read present (unquoted v) with
    | some (.instant t) => .ok (if a.aged then a else { a with ends := some (a.ends.getD t) })
    | _ => .ok a
  | _, _ => .ok a

def readVersion (a : Attributes) : Except Fault Int :=
  match a.version with
  | none => .ok 0
  | some v =>
    match Whole.readLoose? v.toList with
    | some n => .ok n
    | none => .error .ofField

def isRuinous (present : Nat) (p : String × Option String) : Bool :=
  lower p.1 == "expires" && p.2.any fun v => CookieDate.read present (unquoted v) == .ruinous

def read? (now : Int) (present : Nat) (field : String) : Except Fault (Option SetCookie) :=
  match (splitAt ';' field.toList).map readPair with
  | [] => .ok none
  | (name, value) :: attributes => do
    if name = "" then return none
    else if attributes.any (isRuinous present) then throw .ofResponse
    else
      let a ← (attributes.filter (·.1 ≠ "")).foldlM (readAttribute now present) .none
      let version ← readVersion a
      return some ⟨name, value, version, a.domain, a.path, a.port, a.secure.getD false, a.ends⟩

def readAll (now : Int) (present : Nat) (fields : List String) : List SetCookie :=
  let one := fun field => match read? now present field with
    | .ok c => some c.toList
    | .error .ofField => some []
    | .error .ofResponse => none
  ((fields.mapM one).getD []).flatten

end SetCookie

end HttpGateway
