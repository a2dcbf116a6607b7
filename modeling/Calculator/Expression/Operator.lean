import Calculator.Text.Blank

/-!
# The four operators

Two levels of precedence; operators of one level associate to the left. Arithmetic is that of
doubles and has one exception: a divisor that compares equal to zero, of either sign, has no
quotient. Everything else has a value, if need be an infinity or a NaN.
-/

namespace Calculator

/-- A binary operator. -/
inductive Operator
  | plus
  | minus
  | times
  | divide
  deriving DecidableEq, Repr

namespace Operator

/-- The operator written as `c`. -/
def ofChar? (c : Char) : Option Operator :=
  if c = '+' then some plus
  else if c = '-' then some minus
  else if c = '*' then some times
  else if c = '/' then some divide
  else none

/-- The character that an operator is written as. -/
def symbol : Operator → Char
  | plus => '+'
  | minus => '-'
  | times => '*'
  | divide => '/'

/-- How tightly an operator binds. -/
def precedence : Operator → Nat
  | plus | minus => 1
  | times | divide => 2

/-- The value of `a op b`, if there is one. -/
def compute? (op : Operator) (a b : Float) : Option Float :=
  match op with
  | plus => some (a + b)
  | minus => some (a - b)
  | times => some (a * b)
  | divide => if b == 0.0 then none else some (a / b)

@[simp] theorem ofChar?_symbol (op : Operator) : ofChar? op.symbol = some op := by
  cases op <;> rfl

theorem ofChar?_eq_some_iff {c : Char} {op : Operator} : ofChar? c = some op ↔ c = op.symbol := by
  constructor
  · intro h
    unfold ofChar? at h
    grind [Operator.symbol]
  · rintro rfl
    exact ofChar?_symbol op

end Operator

end Calculator
