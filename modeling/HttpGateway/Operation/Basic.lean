import HttpGateway.Gateway.Filter
import HttpGateway.Gateway.Predicate
import HttpGateway.Operation.ParamType

namespace HttpGateway

structure Parameter where
  name : String
  type : ParamType
  injected : Bool
deriving Inhabited

abbrev Arguments := List (String × Value)

inductive Product where
  | value (v : Value)
  | predicate (p : Predicate)
  | test (t : Test)
  | filter (f : Filter)
  | handler (h : Handler)
  | handling (h : Handling)

structure Operation where
  name : String
  provider : String
  parameters : List Parameter
  metadata : OrderedMap Value
  build : Arguments → Compile Product

namespace Operation

def parameterNames (op : Operation) : List String :=
  (op.parameters.filter fun p => !p.injected).map Parameter.name

def matchesKeys (op : Operation) (keys : List String) : Bool :=
  op.parameterNames.length == keys.length && keys.all (op.parameterNames.contains ·)

def argument (op : Operation) (absent : String → Value) (args : OrderedMap Value) (p : Parameter) :
    Except Failure (String × Value) :=
  match args.get? p.name with
  | none => .ok (p.name, absent p.name)
  | some v =>
    match p.type.convert? v with
    | some w => .ok (p.name, w)
    | none => .error (.conversion p.name v op.name)

def resolve (op : Operation) (absent : String → Value) (args : OrderedMap Value) :
    Except Failure Arguments :=
  op.parameters.mapM (op.argument absent args)

def invoke (op : Operation) (absent : String → Value) (args : OrderedMap Value) : Compile Product :=
  Compile.lift (op.resolve absent args) >>= op.build

end Operation

end HttpGateway
