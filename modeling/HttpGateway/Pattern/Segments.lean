import HttpGateway.Pattern.Wildcard
import HttpGateway.Text.Word

/-!
Patterns of segments: two stars stand for any number of segments, a name in braces for any one
segment, and every other pattern is a wildcard pattern for one segment.
-/

namespace HttpGateway.Pattern

open HttpGateway.Text

def isVariable (pattern : String) : Bool :=
  match pattern.toList with
  | '{' :: cs =>
    cs.getLast? == some '}' && cs.dropLast != [] && cs.dropLast.all isWord
  | _ => false

def segmentAccepts (pattern segment : String) : Bool :=
  isVariable pattern || wildcardMatches pattern segment

def segmentsMatch : List String → List String → Bool
  | [], segments => segments.isEmpty
  | p :: ps, [] => p == "**" && segmentsMatch ps []
  | p :: ps, s :: ss =>
    if p = "**" then segmentsMatch ps (s :: ss) || segmentsMatch (p :: ps) ss
    else segmentAccepts p s && segmentsMatch ps ss
termination_by ps ss => ps.length + ss.length

end HttpGateway.Pattern
