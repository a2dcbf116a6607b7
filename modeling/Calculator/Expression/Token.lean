import Calculator.Expression.Operator
import Calculator.Expression.Reason
import Calculator.Number.Shortest

/-!
# Tokens

The pieces that an expression is made of. Digits and points gather in a pending literal; any other
character ends the literal and is a token of its own. A minus at the start of the text or right
after an opening parenthesis is a sign and begins a literal; everywhere else it is the operator. A
sign with no digit or point after it is the operator again, so `-(1)` has an operator without a
left operand.

Reading goes from left to right and stops at the first piece that is none: a literal without a
digit or with two points, or a character that is neither operator nor parenthesis.
-/

namespace Calculator

/-- A piece of an expression. -/
inductive Token
  | number (value : Float)
  | operator (op : Operator)
  | opening
  | closing
  deriving DecidableEq

namespace Token

/-! ## Reading -/

/-- A minus that stands for a sign, given the character before it. -/
def isSign (previous : Option Char) (c : Char) : Bool :=
  c = '-' && (previous = none || previous = some '(')

/-- The character goes on with the pending literal or begins one. -/
def isLiteralChar (previous : Option Char) (c : Char) : Bool :=
  c.isDigit || c = '.' || isSign previous c

/-- The token of a character outside literals. -/
def ofChar (c : Char) : Except Failure Token :=
  if c = '(' then .ok opening
  else if c = ')' then .ok closing
  else
    match Operator.ofChar? c with
    | some op => .ok (operator op)
    | none => .error (.unknownOperator c)

/-- The token of a gathered literal; none for an empty one. -/
def ofLiteral (pending : Text) : Except Failure (List Token) :=
  if pending = [] then .ok []
  else
    match Literal.read? pending with
    | some v => .ok [number v]
    | none => if pending = ['-'] then .ok [operator .minus] else .error .badFormat

/-- The tokens of a text that follows the character `previous` and the literal gathered so far. -/
def scan (previous : Option Char) (pending : Text) : Text → Except Failure (List Token)
  | [] => ofLiteral pending
  | c :: s =>
    if isLiteralChar previous c then scan (some c) (pending ++ [c]) s
    else do
      let before ← ofLiteral pending
      let token ← ofChar c
      let after ← scan (some c) [] s
      return before ++ token :: after

/-- The tokens of a text without blanks. -/
def ofText (s : Text) : Except Failure (List Token) := scan none [] s

/-! ## Printing -/

/-- The text of a token. -/
def render : Token → Text
  | number v => Number.display v
  | operator op => [op.symbol]
  | opening => ['(']
  | closing => [')']

/-- The texts of the tokens with one space between two of them. -/
def line (tokens : List Token) : Text := [' '].intercalate (tokens.map render)

theorem line_singleton (t : Token) : line [t] = t.render := by
  rw [line, List.map_singleton, List.intercalate_singleton]

theorem line_cons {ts : List Token} (h : ts ≠ []) (t : Token) :
    line (t :: ts) = t.render ++ ' ' :: line ts := by
  rw [line, List.map_cons, List.intercalate_cons_of_ne_nil (by simpa using h), List.append_assoc]
  rfl

theorem line_concat {ts : List Token} (h : ts ≠ []) (t : Token) :
    line (ts ++ [t]) = line ts ++ ' ' :: t.render := by
  induction ts with
  | nil => exact absurd rfl h
  | cons u ts ih =>
    rw [List.cons_append, line_cons (by simp)]
    by_cases hts : ts = []
    · rw [hts, List.nil_append, line_singleton, line_singleton]
    · rw [ih hts, line_cons hts, List.append_assoc]
      rfl

end Token

end Calculator
