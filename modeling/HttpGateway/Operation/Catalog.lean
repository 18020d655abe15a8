import HttpGateway.Operation.Basic
import HttpGateway.Operation.Name

namespace HttpGateway

structure Catalog where
  family : String
  operations : OrderedMap (List Operation)

namespace Catalog

def empty (family : String) : Catalog := ⟨family, {}⟩

def names (c : Catalog) : List String := c.operations.keys

def size (c : Catalog) : Nat := c.operations.size

def sortedNames (c : Catalog) : List String := c.names.mergeSort fun a b => !(b < a)

def get? (c : Catalog) (name : String) : Option (List Operation) :=
  c.operations.get? (OperationName.normal name)

def contains (c : Catalog) (name : String) : Bool :=
  c.operations.contains (OperationName.normal name)

def candidates (c : Catalog) (name : String) : List Operation := (c.get? name).getD []

def sameParameters (a b : Operation) : Bool :=
  a.parameterNames.all (b.parameterNames.contains ·) &&
    b.parameterNames.all (a.parameterNames.contains ·)

def add (c : Catalog) (op : Operation) : Except Failure Catalog :=
  let others := (c.operations.get? op.name).getD []
  if others.any fun other => sameParameters other op then
    .error (.conflict op.name op.parameterNames)
  else .ok { c with operations := c.operations.insert op.name (others ++ [op]) }

structure Resolved where
  operation : Operation
  position : Nat
  args : OrderedMap String

def firstFit (raw : RawArgs) :
    (position : Nat) → List Operation → Except IndexError (Option Resolved)
  | _, [] => .ok none
  | i, op :: ops =>
    match raw.align op.parameterNames with
    | .error e => .error e
    | .ok none => firstFit raw (i + 1) ops
    | .ok (some args) =>
      if op.matchesKeys args.keys then .ok (some ⟨op, i, args⟩) else firstFit raw (i + 1) ops

def find (c : Catalog) (name : String) (raw : RawArgs) : Except IndexError (Option Resolved) :=
  firstFit raw 0 (c.candidates name)

def shown (c : Catalog) : String :=
  "<OperationCatalog " ++ c.family ++ " " ++ Value.textsLiteral c.sortedNames ++ ">"

end Catalog

end HttpGateway
