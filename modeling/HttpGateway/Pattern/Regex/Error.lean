import HttpGateway.Number.Whole

namespace HttpGateway.Pattern

inductive RegexError where
  | malformed
  | countTooLarge
  | countTooLong (digits : Nat)
  | mixedLetters
  | looksTooFar
  /-- A match was found in which a group closes before it opens. -/
  | tangledGroup
deriving DecidableEq

def RegexError.message : RegexError → String
  | malformed => ""
  | countTooLarge => "the repetition number is too large"
  | countTooLong digits => Whole.tooLongText digits
  | mixedLetters => "ASCII and UNICODE flags are incompatible"
  | looksTooFar => "invalid SRE code"
  | tangledGroup =>
    "The span of capturing group is wrong, please report a bug for the re module."

inductive TemplateError where
  | malformed
  | unknownName (name : String)
  | tangledGroup
deriving DecidableEq

end HttpGateway.Pattern
