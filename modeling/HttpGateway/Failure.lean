import HttpGateway.Coding.Content
import HttpGateway.Configuration.Problem
import HttpGateway.Moment.Iso
import HttpGateway.Operation.Arguments
import HttpGateway.Pattern.Regex.Error
import HttpGateway.Uri.HostName
import HttpGateway.Uri.Parts

namespace HttpGateway

open HttpGateway.Text

inductive Raised where
  | gateway
  | badValue
  | badType
  | runtime
deriving DecidableEq

inductive Failure where
  | conflict (name : String) (parameters : List String)
  | operationNotFound (name family : String) (arguments : RawArgs)
  | unresolvableScheme (scheme : String)
  | conversion (parameter : String) (value : Value) (operation : String)
  | invalidResult (operation : String) (result : Value)
  | handlerShape (scheme : String) (result : Value)
  | raised (kind : Raised) (message : String)
  | misused (what : String)
  | notAProvider (className : String)
  | notAProviderClass
  | notAName (v : Value)
  | noCode (className : String)
  | unknownFamily (className family : String)
  | codeTaken (code : String)
  | repeatedBase (className : String)
  | inconsistentBases (classNames : List String)
  | negativeParts (parts : Int)
  | notARedirect (status : Int)
  | emptyInterval (first last : Moment)
  | badMoment (text : String) (cause : Moment.Misfit)
  | badIndex (cause : IndexError)
  | badPattern (cause : Pattern.RegexError)
  | unknownGroup (name : String)
  | notAscii
  | badUri (cause : Uri.Error)
  | badLocation (cause : Uri.Error)
  | badHostName (cause : Uri.NameFault)
  | unknownAddressType (uri : String)
  | undecodable (cause : Coding.Fault)
  | invalid (problems : List Problem)
  | unknownKey (key : String)
  | frozenField (name : String)

namespace Failure

def families : List String := ["handler", "predicate", "filter"]

/-- Failures of compilation, which are logged with their route. -/
def isGateway : Failure → Bool
  | conflict .. => true
  | operationNotFound .. => true
  | unresolvableScheme .. => true
  | conversion .. => true
  | invalidResult .. => true
  | handlerShape .. => true
  | raised .gateway _ => true
  | _ => false

def message : Failure → String
  | conflict name parameters =>
    "Operation '" ++ name ++ "' registered twice with parameters " ++ Value.textsLiteral parameters
  | operationNotFound name family arguments =>
    "Unable to find operation " ++ family ++ " for " ++ name ++ " with args " ++ arguments.literal
  | unresolvableScheme scheme => "Unable to find handler function for scheme: " ++ scheme
  | conversion parameter value operation =>
    "Cannot convert value " ++ value.literal ++ " for parameter '" ++ parameter ++
      "' of operation '" ++ operation ++ "'"
  | invalidResult operation result =>
    "Operation '" ++ operation ++ "' returned unsupported result " ++ result.literal
  | handlerShape scheme result =>
    "Unable to find handler function for scheme: " ++ scheme ++ " and response " ++ result.literal
  | raised _ text => text
  | misused what => what
  | notAProvider className =>
    "Operation provider must be an OperationProvider instance, got " ++ className
  | notAProviderClass => "provider_class must be an OperationProvider subclass"
  | notAName (.list _) => "'list' object has no attribute 'lower'"
  | notAName (.map _) => "unhashable type: 'slice'"
  | notAName v => "'" ++ v.typeName ++ "' object is not subscriptable"
  | noCode className =>
    "Provider " ++ className ++ " not following standards: missing provider_code"
  | unknownFamily className family =>
    "Provider " ++ className ++ " has unknown family " ++ quoted family ++ "; expected one of " ++
      Value.listed families
  | codeTaken code => "Provider '" ++ code ++ "' already registered"
  | repeatedBase className => "duplicate base class " ++ className
  | inconsistentBases classNames =>
    "Cannot create a consistent method resolution\norder (MRO) for bases " ++
      Value.listed classNames
  | negativeParts parts => "StripPrefix parts must not be negative, got " ++ Whole.text parts
  | notARedirect status => "RedirectTo status must be a 3xx code, got " ++ Whole.text status
  | emptyInterval first last => "Between: " ++ first.text ++ " must be before " ++ last.text
  | badMoment text cause => cause.message (quoted text)
  | badIndex cause => cause.message
  | badPattern cause => cause.message
  | unknownGroup name => "unknown group name " ++ quoted name
  | notAscii => ""
  | badUri cause => cause.message
  | badLocation cause => "Invalid URL in location header: " ++ cause.message ++ "."
  | badHostName cause => cause.message
  | undecodable cause => cause.message
  | unknownAddressType uri => "unknown url type: " ++ quoted uri
  | invalid _ => ""
  | unknownKey key => quoted key
  | frozenField name => "cannot assign to field " ++ quoted name

end Failure

end HttpGateway
