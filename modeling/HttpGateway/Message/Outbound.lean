import HttpGateway.Message.Headers
import HttpGateway.Uri.Basic

namespace HttpGateway

structure Outbound where
  method : String
  uri : Uri
  headers : Headers
  content : String
deriving DecidableEq, Inhabited

end HttpGateway
