import HttpGateway.Number.Whole

namespace HttpGateway

inductive Step where
  | field (name : String)
  | element (index : Nat)
deriving DecidableEq

namespace Problem

inductive Cause where
  | missing
  | notText
  | notTuple
  | notMap
  | notModel (name : String)
  | notWhole
  | unreadableWhole
  | tooLongWhole
  | fraction
  | notFinite
  | frozen
  | refused (reason : String)
deriving DecidableEq

def Cause.kind : Cause → String
  | missing => "missing"
  | notText => "string_type"
  | notTuple => "tuple_type"
  | notMap => "dict_type"
  | notModel _ => "model_type"
  | notWhole => "int_type"
  | unreadableWhole => "int_parsing"
  | tooLongWhole => "int_parsing_size"
  | fraction => "int_from_float"
  | notFinite => "finite_number"
  | frozen => "frozen_instance"
  | refused _ => "value_error"

def Cause.message : Cause → String
  | missing => "Field required"
  | notText => "Input should be a valid string"
  | notTuple => "Input should be a valid tuple"
  | notMap => "Input should be a valid dictionary"
  | notModel name => "Input should be a valid dictionary or instance of " ++ name
  | notWhole => "Input should be a valid integer"
  | unreadableWhole => "Input should be a valid integer, unable to parse string as an integer"
  | tooLongWhole => "Unable to parse input string as an integer, exceeded maximum size"
  | fraction => "Input should be a valid integer, got a number with a fractional part"
  | notFinite => "Input should be a finite number"
  | frozen => "Instance is frozen"
  | refused reason => "Value error, " ++ reason

end Problem

structure Problem where
  place : List Step
  cause : Problem.Cause
deriving DecidableEq

def Problem.under (s : Step) (p : Problem) : Problem := { p with place := s :: p.place }

end HttpGateway
