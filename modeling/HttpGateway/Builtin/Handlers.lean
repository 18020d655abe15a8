import HttpGateway.Client.Sending
import HttpGateway.Provider.Offered

namespace HttpGateway

def hopFields : List String :=
  ["connection", "keep-alive", "proxy-authenticate", "proxy-authorization", "te", "trailer",
    "transfer-encoding", "upgrade"]

namespace Request

/-- The header fields that are forwarded, with names in lower case. The host is left out unless it
is to be kept. -/
def forwardedHeaders? (r : Request) (keepHost : Bool) : Option Headers :=
  (Headers.ofFields? (r.headers.lowered.filter fun f => !hopFields.contains f.1)).map fun h =>
    if keepHost then h else h.erase "host"

def forward (r : Request) : Serve Response := do
  match ← Serve.attribute? destinationAttribute with
  | some (.uri destination) =>
    let host ← Serve.lift .badHostName destination.shownHost
    let uri ← Serve.lift .badUri (r.uri.withShownOrigin destination host)
    let keepHost := ((← Serve.attribute? keepHostAttribute).map Value.holds).getD false
    let headers ← Serve.require .notAscii (r.forwardedHeaders? keepHost)
    Serve.note (.logged .debug ("Forwarding " ++ r.method ++ " " ++ uri.text))
    let target ← Serve.lift .badUri (Outbound.target uri)
    Outbound.send ⟨r.method, target, headers, r.content⟩
  | _ => throw (.unknownKey destinationAttribute)

end Request

namespace Balancer

def choose (pick : Int) (instances : List String) : Option String :=
  instances[(pick % instances.length).toNat]?

def stage (service : String) (instances : List String) : Stage :=
  if instances = [] then
    .answer fun _ => return .ofText 503 ("No instance available for " ++ service)
  else .onRequest fun r => do
    let chosen ← Serve.require (.unknownKey service) (choose (← read).pick instances)
    let uri ← Serve.lift .badUri (Uri.parse chosen)
    Serve.setAttribute destinationAttribute (.uri uri)
    return r

end Balancer

namespace Builtin

open Method

def balanced (outlet : Outlet) (uri : String) : Except Failure Product :=
  (Uri.parse uri).mapError Failure.badUri >>= fun u =>
    (u.shownHost.mapError Failure.badHostName).map fun service =>
      let instances := (outlet.instances.get? service).getD []
      .handling ⟨Request.forward, [(Balancer.stage service instances).filter]⟩

def answerEmpty : Handler := fun _ => return .bare 200

def handlerMembers : List (String × Member) := [
  ("__init__", .method unmarked),
  ("close", .method { unmarked with closes := true }),
  ("http", offered [none, some "https"] [] fun _ _ => some (.ok (.handling ⟨Request.forward, []⟩))),
  ("lb", offered [none] [("uri", .text)] fun
    | outlet, [.text uri] => some (balanced outlet uri)
    | _, _ => none),
  ("no", offered [none] [] fun _ _ => some (.ok (.handler answerEmpty))),
  ("forward", .method unmarked),
  ("_load_balancer", .method unmarked)]

def handlers : ProviderClass :=
  ⟨⟨1, "HandlerFunctions", some "handlers", some "handler", OrderedMap.ofList handlerMembers⟩,
    ProviderClass.root.layers⟩

end Builtin

end HttpGateway
