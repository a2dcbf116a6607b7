import Calculator.Expression.Reduction
import Calculator.Expression.Validation

/-!
# Evaluation

From a text to its value: blanks are removed, the rest is validated, cut into tokens and reduced.
`Run` is the course that this takes, with everything that was found out on the way. The answer
(`Run.outcome`) and the log (`Run.events`, in `Calculator.Log.Event`) are two views of one run.
-/

namespace Calculator

/-- A value and the way to it. -/
structure Evaluation where
  value : Float
  /-- The text without blanks. -/
  text : Text
  tokens : List Token
  steps : List Step
  deriving DecidableEq

/-- The course of an evaluation. The text is the one without blanks; the steps of a failure are
those completed before it. -/
inductive Run
  | rejected (text : Text) (reason : Rejection)
  | failed (text : Text) (reason : Failure) (steps : List Step)
  | finished (evaluation : Evaluation)
  deriving DecidableEq

namespace Run

/-- Calculates a text that passed validation. -/
def ofAccepted (text : Text) : Run :=
  match Token.ofText text with
  | .error reason => failed text reason []
  | .ok tokens =>
    match Reduction.reduce tokens with
    | .error halt => failed text halt.reason halt.steps.reverse
    | .ok (value, steps) => finished ⟨value, text, tokens, steps⟩

/-- Evaluates a text. -/
def ofText (s : Text) : Run :=
  let text := s.unspaced
  match Validation.fault? text with
  | some reason => rejected text reason
  | none => ofAccepted text

/-- What a run comes to. -/
def outcome : Run → Except Refusal Evaluation
  | rejected _ reason => .error (.rejected reason)
  | failed _ reason _ => .error (.failed reason)
  | finished e => .ok e

end Run

/-- The value of a text and the way to it. -/
def evaluate (s : Text) : Except Refusal Evaluation := (Run.ofText s).outcome

/-- The value of a text. -/
def valueOf (s : Text) : Except Refusal Float := (evaluate s).map Evaluation.value

/-- The value of a text that may be missing; a missing text is an empty one. -/
def valueOf? (s : Option Text) : Except Refusal Float :=
  match s with
  | some s => valueOf s
  | none => .error (.rejected .empty)

end Calculator
