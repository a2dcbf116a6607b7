import Calculator.Text.Blank

/-!
# Why a text has no value

A text is refused in one of two stages. Validation looks at its characters only and gives a
`Rejection`; calculation reads and reduces it and gives a `Failure`. Each reason has one message,
and a failure is announced as an invalid expression first.
-/

namespace Calculator

/-- Why a text is rejected before any arithmetic, in the order in which the reasons are tried. -/
inductive Rejection
  | empty
  | foreignCharacter
  | unmatchedClosing
  | unmatchedOpening
  | operatorAtEdge
  | emptyParentheses
  | zeroDivisor
  deriving DecidableEq, Repr

/-- Why an accepted text cannot be calculated. -/
inductive Failure
  | divisionByZero
  | badFormat
  | unknownOperator (symbol : Char)
  deriving DecidableEq, Repr

/-- Why a text has no value. -/
inductive Refusal
  | rejected (reason : Rejection)
  | failed (reason : Failure)
  deriving DecidableEq, Repr

/-- The message of a rejection. -/
def Rejection.message : Rejection → Text
  | empty => "Expression cannot be null or empty!".toList
  | foreignCharacter => "Expression contains invalid characters!".toList
  | unmatchedClosing => "Unmatched closing parenthesis".toList
  | unmatchedOpening => "Unmatched opening parenthesis".toList
  | operatorAtEdge => "Expression cannot start or end with an operator".toList
  | emptyParentheses => "Empty parentheses found".toList
  | zeroDivisor => "Division by zero detected".toList

/-- The message of a failure. -/
def Failure.message : Failure → Text
  | divisionByZero => "Division by zero".toList
  | badFormat => "Invalid expression format".toList
  | unknownOperator c => "Unknown operator: ".toList ++ [c]

/-- The message of a refusal. -/
def Refusal.message : Refusal → Text
  | rejected reason => reason.message
  | failed reason => "Invalid expression: ".toList ++ reason.message

end Calculator
