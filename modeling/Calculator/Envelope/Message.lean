import Calculator.Expression.Evaluation
import Calculator.Json.Writer

/-!
# Requests and responses

A request carries the text to evaluate, or none. A response says whether there is a value; it has
either the value or the message of the refusal, never both. A response that was read from JSON may
have any combination of the two, because nothing forbids one.

The status decides everything that a caller sees besides the text: the code of a response, and the
exit code of the command line.
-/

namespace Calculator

/-- The outcome that a response announces. -/
inductive Status
  | valid
  | invalid
  deriving DecidableEq, Repr

/-- A text to evaluate. -/
structure Request where
  expression : Option Text
  deriving DecidableEq, Repr

/-- The answer to a request. -/
structure Response where
  status : Status
  result : Option Float
  error : Option Text
  deriving DecidableEq

/-- The name of a status. -/
def Status.name : Status → Text
  | valid => "Valid".toList
  | invalid => "Invalid".toList

namespace Response

/-- The response that announces an outcome. -/
def ofOutcome : Except Refusal Float → Response
  | .ok v => ⟨.valid, some v, none⟩
  | .error r => ⟨.invalid, none, some r.message⟩

/-- The code of a response: success, or a fault of the request. -/
def code (r : Response) : Nat :=
  match r.status with
  | .valid => 200
  | .invalid => 400

/-- The members of a response, in order. -/
def members (r : Response) : List (Text × Json.Scalar) :=
  [("status".toList, .string r.status.name), ("result".toList, .ofOption .number r.result),
    ("error".toList, .ofOption .string r.error)]

/-- The response on one line. -/
def compact (r : Response) : Text := Json.compact r.members

/-- The response with one member a line. -/
def pretty (r : Response) : Text := Json.pretty r.members

end Response

namespace Request

/-- The answer to a request. -/
def respond (r : Request) : Response := Response.ofOutcome (valueOf? r.expression)

/-- The request on one line. -/
def compact (r : Request) : Text :=
  Json.compact [("expression".toList, .ofOption .string r.expression)]

end Request

end Calculator
