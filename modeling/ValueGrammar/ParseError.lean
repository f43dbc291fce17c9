import ValueGrammar.Combinator
import ValueGrammar.Span

/-! What can be wrong with a value definition, and where. -/
namespace ValueGrammar

namespace ParseError

inductive Cause where
  /-- A stretch that is no token, or a bracket that closes nothing. -/
  | unexpectedToken (text : String)
  | unclosedGroup
  | unclosedFunction (name : String)
  /-- A combinator with no term on one of its sides. -/
  | danglingCombinator (combinator : Combinator)
  | misplacedMultiplier (text : String)
  /-- A curly range with a bound that is too large, or with bounds out of order. -/
  | invalidRange (text : String)
deriving DecidableEq, Repr

/-- The sentence that tells the cause. -/
def Cause.message : Cause → String
  | unexpectedToken text => "unexpected `" ++ text ++ "`"
  | unclosedGroup => "unclosed group"
  | unclosedFunction name => "unclosed function `" ++ name ++ "(`"
  | danglingCombinator combinator =>
    "combinator `" ++ combinator.text ++ "` is missing an operand"
  | misplacedMultiplier text => "multiplier `" ++ text ++ "` does not follow a component"
  | invalidRange text => "invalid repetition range `" ++ text ++ "`"

end ParseError

structure ParseError where
  cause : ParseError.Cause
  /-- The stretch of the source that is at fault. -/
  span : Span
deriving DecidableEq, Repr

/-- The sentence that tells the cause of the error. -/
def ParseError.message (error : ParseError) : String := error.cause.message

end ValueGrammar
