import HttpGateway.Exchange

namespace HttpGateway

abbrev Handler := Request → Serve Response

abbrev Filter := Handler → Handler

namespace Filter

def chain (filters : List Filter) (h : Handler) : Handler := filters.foldr (fun f next => f next) h

end Filter

/-- The usual forms of a filter: it passes a request on and takes the response back, or it answers
by itself. -/
inductive Stage where
  | around (incoming : Request → Serve Request) (outgoing : Response → Serve Response)
  | answer (respond : Request → Serve Response)

namespace Stage

def filter : Stage → Filter
  | around incoming outgoing => fun next r => do outgoing (← next (← incoming r))
  | answer respond => fun _ => respond

def onRequest (edit : Request → Serve Request) : Stage := around edit pure

def onResponse (edit : Response → Serve Response) : Stage := around pure edit

end Stage

def Handler.recording (answer : Except Failure Response) : Handler := fun r => do
  Serve.note (.received r (← get).attributes.entries)
  Serve.lift id answer

structure Handling where
  handler : Handler
  filters : List Filter

end HttpGateway
