import HttpGateway.Operation.Catalog
import HttpGateway.Provider.ProviderClass

namespace HttpGateway

namespace Hint

def bareType : ParamType → ParamType
  | .noted t => bareType t
  | t => t

def type (injected : Bool) : Hint → ParamType
  | written t => if injected then bareType t else t
  | _ => .text

end Hint

namespace Passing

def unsupported? : Passing → Option String
  | ordinary => none
  | keywordOnly => none
  | positionalOnly => some "POSITIONAL_ONLY"
  | variadic => some "VAR_POSITIONAL"
  | variadicKeyed => some "VAR_KEYWORD"

end Passing

namespace Formal

def isUndefined (f : Formal) : Bool :=
  match f.hint with
  | .undefined => true
  | _ => false

def parameter (f : Formal) : Parameter := ⟨f.name, f.hint.type f.injected, f.injected⟩

def refusal? (f : Formal) : Option String :=
  f.passing.unsupported?.map fun kind =>
    "unsupported parameter kind for '" ++ f.name ++ "': " ++ kind

end Formal

namespace Method

def name (m : Method) (found : String) : String := m.written.getD found

def receiver : Formal := ⟨"self", .unwritten, false, .ordinary⟩

/-- The receiver, and behind it the parameters. A later one of a name takes the place of the earlier
one, and one that is named as the receiver is takes its place. -/
def signature (m : Method) : List Formal :=
  (OrderedMap.ofList ((receiver :: m.formals).map fun f => (f.name, f))).values

/-- The parameters of a method behind its receiver, or why it is left out. Types are looked at
before ways of passing. -/
def parameters (m : Method) : Except String (List Parameter) :=
  let formals := m.signature.drop 1
  if m.signature.any Formal.isUndefined then .error "name 'Undefined' is not defined"
  else
    match formals.findSome? Formal.refusal? with
    | some reason => .error reason
    | none => .ok (formals.map Formal.parameter)

end Method

namespace ProviderClass

def visibleMethods : (seen : List String) → List (String × Member) → List (String × Method)
  | _, [] => []
  | seen, (name, .method m) :: ms =>
    if seen.contains name then visibleMethods seen ms
    else (name, m) :: visibleMethods (name :: seen) ms
  | seen, _ :: ms => visibleMethods seen ms

def members (c : ProviderClass) : List (String × Member) := c.layers.flatMap (·.members.entries)

def marked (c : ProviderClass) : List (String × Method × Marker) :=
  (visibleMethods [] c.members).flatMap fun m => m.2.markers.map fun marker => (m.1, m.2, marker)

end ProviderClass

namespace Marker

def operationName (marker : Marker) (method : String) : Except Failure String :=
  if !marker.name.holds then .ok (OperationName.normal (OperationName.camel method))
  else
    match marker.name with
    | .text name => .ok (OperationName.normal name)
    | v => .error (.notAName v)

end Marker

namespace Provider

def operation (p : Provider) (name : String) (m : Method) (marker : Marker)
    (parameters : List Parameter) : Operation :=
  ⟨name, p.code, parameters, marker.metadata, m.build p.outlet⟩

end Provider

namespace Catalog

def addMarked (p : Provider) (c : Catalog) (entry : String × Method × Marker) :
    Compile Catalog := do
  let (found, m, marker) := entry
  let name ← Compile.lift (marker.operationName (m.name found))
  match m.parameters with
  | .error reason =>
    Compile.log .warning
      ("Skipping operation " ++ name ++ " of provider " ++ p.code ++ ": " ++ reason)
    return c
  | .ok parameters => Compile.lift (c.add (p.operation name m marker parameters))

def addProvider (c : Catalog) (p : Provider) : Compile Catalog := do
  if !p.kind.isProvider then throw (.notAProvider p.kind.name)
  if p.family ≠ c.family then return c
  p.kind.marked.foldlM (addMarked p) c

def discover (family : String) (providers : List Provider) : Compile Catalog := do
  let c ← providers.foldlM addProvider (empty family)
  Compile.log .debug
    ("Built " ++ family ++ " catalog with operations " ++ Value.textsLiteral c.sortedNames)
  return c

end Catalog

end HttpGateway
