import HttpGateway.Provider.ProviderClass

namespace HttpGateway

inductive Term where
  | given (v : Value)
  | argument (name : String)

namespace Term

def eval (args : Arguments) : Term → Value
  | given v => v
  | argument name => (args.lookup name).getD .null

end Term

inductive HandlerShape where
  | bare
  | only
  | withFilters (labels : List Term)

inductive Recipe where
  | value (t : Term)
  | fail (kind : Raised) (message : Term)
  | test (label result : Term)
  | predicate (label result description : Term)
  | filter (label : Term) (status : Option Int)
  | handler (shape : HandlerShape) (label : Term) (status : Int)

namespace Recipe

def labelledTest (label result : Value) : Test := fun _ => do
  Serve.note (.tested label)
  return result

def labelledStage (label : Value) : Option Int → Stage
  | none => .around (fun r => do Serve.note (.entered label); return r)
      (fun r => do Serve.note (.left label); return r)
  | some status => .answer fun _ => do Serve.note (.cutShort label); return .bare status

def labelledHandler (label : Value) (status : Int) : Handler := fun r => do
  Serve.note (.handled label ((← Serve.attribute? destinationAttribute).getD .null))
  return .ofText status r.path

def shape (h : Handler) (args : Arguments) : HandlerShape → Product
  | .bare => .handler h
  | .only => .handling ⟨h, []⟩
  | .withFilters labels =>
    .handling ⟨h, labels.map fun label => (labelledStage (label.eval args) none).filter⟩

def product (args : Arguments) : Recipe → Except Failure Product
  | value t => .ok (.value (t.eval args))
  | fail kind message => .error (.raised kind (message.eval args).plainText)
  | test label result => .ok (.test (labelledTest (label.eval args) (result.eval args)))
  | predicate label result description =>
    let shown := description.eval args
    .ok (.predicate (Predicate.ofTest (if shown.holds then shown.plainText else "")
      (labelledTest (label.eval args) (result.eval args))))
  | filter label status => .ok (.filter (labelledStage (label.eval args) status).filter)
  | handler s label status => .ok (shape (labelledHandler (label.eval args) status) args s)

def build (r : Recipe) (method : String) (args : Arguments) : Compile Product := do
  Compile.note (.called method args)
  Compile.lift (r.product args)

def method (r : Recipe) (name : String) (formals : List Formal) (markers : List Marker) : Method :=
  ⟨formals, markers, false, fun _ => r.build name, some name⟩

end Recipe

namespace Marker

def metadataStart : String := "meta_"

def nameOption : String := "operation_name"

def metadataKey? (option : String) : Option String :=
  let start := metadataStart.toList
  if start.isPrefixOf option.toList then
    let key := String.ofList (option.toList.drop start.length)
    some (if key = "class" then "_class" else key)
  else none

def ofOptions (name : Value) (options : OrderedMap Value) : Marker :=
  let metadata := options.entries.filterMap fun e => (metadataKey? e.1).map fun k => (k, e.2)
  ⟨(options.get? nameOption).getD name, OrderedMap.ofList metadata⟩

end Marker

end HttpGateway
