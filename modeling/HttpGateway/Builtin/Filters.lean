import HttpGateway.Builtin.Edits
import HttpGateway.Builtin.Predicates

namespace HttpGateway.Builtin

open HttpGateway.Text HttpGateway.Pattern Method

def stage (name : Option String) (formals : List (String × ParamType))
    (build : List Value → Option (Except Failure Stage)) : Member :=
  offered [name] formals fun _ values => (build values).map fun s => s.map fun s => .filter s.filter

def ofName (parameter : String) (make : String → Stage) : Member :=
  stage none [(parameter, .text)] fun
    | [.text s] => some (.ok (make s))
    | _ => none

def ofValues (make : String → List String → Stage) : Member :=
  stage none [("name", .text), ("values", .listOf .text)] fun
    | [.text name, .list xs] => (texts? xs).map fun values => .ok (make name values)
    | _ => none

def strip (parts : Int) : Except Failure Stage :=
  if parts < 0 then .error (.negativeParts parts) else .ok (RequestEdit.stripPath parts.toNat).stage

def substitution (regexp replacement : String) : Except Failure Stage :=
  (Expression.read regexp).map fun e =>
    (RequestEdit.substituteInPath e.compiled (RequestEdit.template replacement)).stage

def filterMembers : List (String × Member) := [
  ("strip_first_prefix", stage (some "stripPrefix") [] fun _ => some (strip 1)),
  ("strip_prefix", stage none [("parts", .int)] fun
    | [.int parts] => some (strip parts)
    | _ => none),
  ("prefix_path",
    ofName "prefix" fun s => (RequestEdit.extendPath (RequestEdit.pathStart s)).stage),
  ("set_path", ofName "path" fun s => (RequestEdit.setPath s).stage),
  ("rewrite_path", stage none [("regexp", .text), ("replacement", .text)] fun
    | [.text regexp, .text replacement] => some (substitution regexp replacement)
    | _ => none),
  ("add_request_header", ofValues fun name values => (RequestEdit.addHeader name values).stage),
  ("set_request_header", ofValues fun name values => (RequestEdit.setHeader name values).stage),
  ("remove_request_header", ofName "name" fun name => (RequestEdit.removeHeader name).stage),
  ("set_request_host_header", ofName "host" fun host => (RequestEdit.setHost host).stage),
  ("preserve_host_header", stage none [] fun _ => some (.ok RequestEdit.keepHost.stage)),
  ("add_request_parameter",
    ofValues fun name values => (RequestEdit.addParameter name values).stage),
  ("remove_request_parameter", ofName "name" fun name => (RequestEdit.removeParameter name).stage),
  ("add_response_header", ofValues fun name values => (ResponseEdit.addHeader name values).stage),
  ("set_response_header", ofValues fun name values => (ResponseEdit.setHeader name values).stage),
  ("remove_response_header", ofName "name" fun name => (ResponseEdit.removeHeader name).stage),
  ("set_status", stage none [("status", .int)] fun
    | [.int status] => some (.ok (ResponseEdit.setStatus status).stage)
    | _ => none),
  ("redirect_to", stage none [("status", .int), ("uri", .text)] fun
    | [.int status, .text uri] => some ((Redirection.make status uri).map Redirection.stage)
    | _ => none)]

def filters : ProviderClass :=
  ⟨⟨3, "FilterFunctions", some "filters", some "filter", OrderedMap.ofList filterMembers⟩,
    ProviderClass.root.layers⟩

end HttpGateway.Builtin
