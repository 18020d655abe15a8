import HttpGateway.Operation.Basic

/-!
Classes of providers. A class has layers: its own one first, then those of its bases in an order
that keeps the order of every base. What the first layer with an attribute says about it, counts.
-/

namespace HttpGateway

inductive Hint where
  | unwritten
  | undefined
  | written (type : ParamType)

inductive Passing where
  | ordinary
  | keywordOnly
  | positionalOnly
  | variadic
  | variadicKeyed
deriving DecidableEq

structure Formal where
  name : String
  hint : Hint
  injected : Bool
  passing : Passing

/-- A mark that makes an operation of a method: the operation's own name, if it counts as a
condition that holds, and options. -/
structure Marker where
  name : Value
  metadata : OrderedMap Value

/-- The client through which requests go out; clients are told apart by their numbers. -/
structure Client where
  serial : Nat
  closed : Bool
deriving DecidableEq

structure Outlet where
  client : Option Client
  instances : OrderedMap (List String)

namespace Outlet

def empty : Outlet := ⟨none, {}⟩

def ownClient : Nat := 1

def opened (o : Outlet) : Outlet := { o with client := some (o.client.getD ⟨ownClient, false⟩) }

def close (o : Outlet) : Outlet :=
  { o with client := o.client.map fun c => { c with closed := true } }

end Outlet

/-- A method with its marks, if it is an operation. A call of it may close the client. The name that
it was written under, if there is one, may differ from that of its attribute. -/
structure Method where
  formals : List Formal
  markers : List Marker
  closes : Bool
  build : Outlet → Arguments → Compile Product
  written : Option String := none

def Method.unmarked : Method := ⟨[], [], false, fun _ _ => return .value .null, none⟩

def Method.call (m : Method) (outlet : Outlet) (args : OrderedMap Value) : Compile Product :=
  m.build outlet (m.formals.map fun f => (f.name, (args.get? f.name).getD .null))

/-- What a class has under a name: a method, a function that belongs to no instance, or a value that
cannot be called. -/
inductive Member where
  | method (m : Method)
  | detached (m : Method)
  | constant

namespace Member

def call (outlet : Outlet) (args : OrderedMap Value) : Member → Compile Product
  | method m => m.call outlet args
  | detached m => m.call outlet args
  | constant => throw (.misused "'int' object is not callable")

def closes : Member → Bool
  | method m => m.closes
  | _ => false

end Member

/-- The part of a class that the class itself declares. Layers are told apart by their numbers. -/
structure Layer where
  serial : Nat
  name : String
  code : Option String
  family : Option String
  members : OrderedMap Member

structure ProviderClass where
  own : Layer
  above : List Layer

namespace ProviderClass

def layers (c : ProviderClass) : List Layer := c.own :: c.above

def name (c : ProviderClass) : String := c.own.name

def serial (c : ProviderClass) : Nat := c.own.serial

def root : ProviderClass :=
  ⟨⟨0, "OperationProvider", some "", some "",
    OrderedMap.ofList (["close", "__repr__"].map fun name => (name, .method .unmarked))⟩, []⟩

def isProvider (c : ProviderClass) : Bool := c.layers.any (·.serial == root.serial)

def code (c : ProviderClass) : String := (c.layers.findSome? Layer.code).getD ""

def family (c : ProviderClass) : String := (c.layers.findSome? Layer.family).getD ""

def member? (c : ProviderClass) (name : String) : Option Member :=
  c.layers.findSome? fun l => l.members.get? name

def call (c : ProviderClass) (name : String) (outlet : Outlet) (args : OrderedMap Value) :
    Compile Product :=
  match c.member? name with
  | some m => m.call outlet args
  | none => throw (.misused ("no method " ++ name))

/-- The layer that may come next: the head of a line that stands in no tail. -/
def nextLayer? (lines : List (List Layer)) : Option Layer :=
  (lines.filterMap List.head?).find? fun l =>
    lines.all fun line => !(line.drop 1).any (·.serial == l.serial)

def advance (l : Layer) (lines : List (List Layer)) : List (List Layer) :=
  (lines.map fun line => if line.head?.any (·.serial == l.serial) then line.drop 1 else line).filter
    (!·.isEmpty)

def once (ls : List Layer) : List Layer :=
  ls.foldl (fun kept l => if kept.any (·.serial == l.serial) then kept else kept ++ [l]) []

/-- Merges lines of layers and keeps the order of each; `fuel` bounds the number of layers. If no
layer may come next, the heads that block each other are left. -/
def merge : (fuel : Nat) → List (List Layer) → Except (List Layer) (List Layer)
  | 0, _ => .ok []
  | fuel + 1, lines =>
    if lines.isEmpty then .ok []
    else
      match nextLayer? lines with
      | some l => (merge fuel (advance l lines)).map (l :: ·)
      | none => .error (once (lines.filterMap List.head?))

def repeated? : List ProviderClass → Option ProviderClass
  | [] => none
  | c :: cs => if cs.any (·.serial == c.serial) then some c else repeated? cs

def derive (own : Layer) (bases : List ProviderClass) : Except Failure ProviderClass :=
  match repeated? bases with
  | some c => .error (.repeatedBase c.name)
  | none =>
    let lines := (bases.map layers ++ [bases.map ProviderClass.own]).filter (!·.isEmpty)
    match merge (lines.flatten.length + 1) lines with
    | .ok above => .ok ⟨own, above⟩
    | .error blocked => .error (.inconsistentBases (blocked.map Layer.name))

end ProviderClass

structure Provider where
  kind : ProviderClass
  outlet : Outlet

namespace Provider

def code (p : Provider) : String := p.kind.code

def family (p : Provider) : String := p.kind.family

def close (p : Provider) : Compile Provider := do
  match p.kind.member? "close" with
  | none => return p
  | some m =>
    discard (m.call p.outlet {})
    return if m.closes then { p with outlet := p.outlet.close } else p

def shown (p : Provider) : String := "<" ++ p.kind.name ++ " " ++ p.family ++ ":" ++ p.code ++ ">"

end Provider

end HttpGateway
