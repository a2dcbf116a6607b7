import Calculator.Expression.Token

/-!
# Reduction on two stacks

Tokens are reduced in one pass. Numbers go onto the stack of operands; operators and opening
parentheses wait on the stack of markers until what follows decides them. An incoming operator
first applies the waiting ones that bind at least as tightly, so operators of one level associate
to the left; a closing parenthesis applies the waiting operators down to the last opening
parenthesis; the end of the tokens applies all that is left. Exactly one operand must remain.

Every application is recorded as a `Step`. A reduction that fails keeps the steps completed before
it (`Halt`). The parentheses do not fence the operands: an operator between them takes whatever
two operands lie on top of the stack, so `2(3)(*)` is six.
-/

namespace Calculator

/-- An applied operator with its operands and its value. -/
structure Step where
  left : Float
  op : Operator
  right : Float
  value : Float
  deriving DecidableEq

/-- The line `a op b = r` of a step. -/
def Step.render (s : Step) : Text :=
  Number.display s.left ++ ' ' :: s.op.symbol :: ' ' :: Number.display s.right ++
    " = ".toList ++ Number.display s.value

namespace Reduction

/-- What waits on the stack of markers. -/
inductive Marker
  | operator (op : Operator)
  | opening
  deriving DecidableEq, Repr

/-- The operands, the top one first, and the completed steps, the latest first. -/
structure Bench where
  operands : List Float
  steps : List Step

/-- A failure and the steps completed before it, the latest first. -/
structure Halt where
  reason : Failure
  steps : List Step

/-- Both stacks. -/
structure Stacks where
  markers : List Marker
  bench : Bench

/-- The stacks before the first token. -/
def Stacks.empty : Stacks := ⟨[], ⟨[], []⟩⟩

/-- Puts an operand on top. -/
def Bench.push (w : Bench) (v : Float) : Bench := ⟨v :: w.operands, w.steps⟩

/-- Applies a marker taken from its stack to the two operands on top, the right one above the
left one. That there are two is checked before the marker is looked at. -/
def Bench.apply (w : Bench) (m : Marker) : Except Halt Bench :=
  match w.operands with
  | b :: a :: rest =>
    match m with
    | .opening => .error ⟨.unknownOperator '(', w.steps⟩
    | .operator op =>
      match op.compute? a b with
      | none => .error ⟨.divisionByZero, w.steps⟩
      | some r => .ok ⟨r :: rest, ⟨a, op, b, r⟩ :: w.steps⟩
  | _ => .error ⟨.badFormat, w.steps⟩

/-- Applies markers from the top for as long as they satisfy `p`. -/
def unwind (p : Marker → Bool) : List Marker → Bench → Except Halt Stacks
  | [], w => .ok ⟨[], w⟩
  | m :: ms, w => if p m then do unwind p ms (← w.apply m) else .ok ⟨m :: ms, w⟩

/-- The marker is an operator. -/
def Marker.isOperator : Marker → Bool
  | .operator _ => true
  | .opening => false

/-- The marker is an operator that is applied before the incoming one. -/
def Marker.yieldsTo (incoming : Operator) : Marker → Bool
  | .operator op => incoming.precedence ≤ op.precedence
  | .opening => false

/-- The markers without an opening parenthesis on top. -/
def dropOpening : List Marker → List Marker
  | .opening :: ms => ms
  | ms => ms

/-- Takes one token. -/
def Stacks.step (s : Stacks) : Token → Except Halt Stacks
  | .number v => .ok ⟨s.markers, s.bench.push v⟩
  | .opening => .ok ⟨.opening :: s.markers, s.bench⟩
  | .closing => do
    let t ← unwind Marker.isOperator s.markers s.bench
    return ⟨dropOpening t.markers, t.bench⟩
  | .operator op => do
    let t ← unwind (Marker.yieldsTo op) s.markers s.bench
    return ⟨.operator op :: t.markers, t.bench⟩

/-- Takes the tokens in order. -/
def Stacks.run (s : Stacks) : List Token → Except Halt Stacks
  | [] => .ok s
  | t :: ts => do (← s.step t).run ts

/-- Applies all that waits and takes the one operand that is left, with the steps in order. -/
def Stacks.finish (s : Stacks) : Except Halt (Float × List Step) := do
  let t ← unwind (fun _ => true) s.markers s.bench
  match t.bench.operands with
  | [v] => return (v, t.bench.steps.reverse)
  | _ => throw ⟨.badFormat, t.bench.steps⟩

/-- The value of a list of tokens and the steps to it. -/
def reduce (tokens : List Token) : Except Halt (Float × List Step) := do
  (← Stacks.empty.run tokens).finish

end Reduction

end Calculator
