import Calculator.Expression.Evaluation
import Calculator.Proofs.Literal

/-!
# The grammar of expressions

An expression is what one expects of infix arithmetic:

    expression ::= term   { ( + | - ) term }
    term       ::= factor { ( * | / ) factor }
    factor     ::= literal | ( expression )

A literal may carry a minus if it begins the whole text or stands right behind an opening
parenthesis, and nowhere else. `Derives` is this grammar as a relation between a text and its tree.
The repetitions are written as left recursion, which gives the same texts, and of each text the
tree that associates to the left.

The meaning of a tree is its traversal in post-order (`Tree.evaluate`): the left operand, the right
operand, the operator, up to the first division by a zero of either sign.
-/

namespace Calculator

/-! ## Trees -/

/-- The double that an operator gives. -/
def Operator.value : Operator → Float → Float → Float
  | plus, a, b => a + b
  | minus, a, b => a - b
  | times, a, b => a * b
  | divide, a, b => a / b

/-- The operator divides by a zero, of either sign. -/
def Operator.DividesByZero (op : Operator) (b : Float) : Prop := op = .divide ∧ (b == 0.0) = true

instance (op : Operator) (b : Float) : Decidable (op.DividesByZero b) :=
  inferInstanceAs (Decidable (op = .divide ∧ (b == 0.0) = true))

theorem Operator.compute?_eq (op : Operator) (a b : Float) :
    op.compute? a b = if op.DividesByZero b then none else some (op.value a b) := by
  cases op <;> simp [compute?, DividesByZero, value]

theorem Operator.symbol_ne_parenthesis (op : Operator) : op.symbol ≠ '(' ∧ op.symbol ≠ ')' := by
  cases op <;> decide

/-- The tree of an expression; its shape says what the parentheses said. -/
inductive Tree
  | literal (l : Literal)
  | binary (left : Tree) (op : Operator) (right : Tree)

/-- The value of a tree and the steps to it: those of the left operand, those of the right one, and
the operator's own. None if the traversal meets a division by zero. -/
def Tree.evaluate : Tree → Option (Float × List Step)
  | literal l => some (l.value, [])
  | binary left op right => do
    let (a, before) ← left.evaluate
    let (b, after) ← right.evaluate
    if op.DividesByZero b then none
    else return (op.value a b, before ++ after ++ [⟨a, op, b, op.value a b⟩])

/-! ## Derivations -/

/-- The three levels of the grammar. -/
inductive Level
  | expression
  | term
  | factor

/-- The operators that join the parts of a level. -/
def Level.operators : Level → List Operator
  | expression => [.plus, .minus]
  | term => [.times, .divide]
  | factor => []

/-- The level of these parts. -/
def Level.part : Level → Level
  | expression => term
  | term | factor => factor

/-- `Derives signed level s e`: the text `s` is of the given level and has the tree `e`. Its first
literal may carry a minus if `signed` says so. -/
inductive Derives : Bool → Level → Text → Tree → Prop
  | literal {signed : Bool} (l : Literal) (hl : l.negative = true → signed = true) :
      Derives signed .factor l.text (.literal l)
  | parentheses {signed : Bool} {s : Text} {e : Tree} (h : Derives true .expression s e) :
      Derives signed .factor ('(' :: (s ++ [')'])) e
  | part {signed : Bool} {level : Level} {s : Text} {e : Tree} (h : Derives signed level.part s e) :
      Derives signed level s e
  | binary {signed : Bool} {level : Level} {s t : Text} {a b : Tree} {op : Operator}
      (hop : op ∈ level.operators) (ha : Derives signed level s a)
      (hb : Derives false level.part t b) :
      Derives signed level (s ++ op.symbol :: t) (.binary a op b)

/-- The text is an expression. -/
def IsExpression (t : Text) : Prop := ∃ e, Derives true .expression t e

/-- `Text.Spaced t s`: the text `s` is `t` with blanks put in anywhere. -/
inductive Text.Spaced : Text → Text → Prop
  | nil : Spaced [] []
  | char {t s : Text} (c : Char) (h : Spaced t s) : Spaced (c :: t) (c :: s)
  | blank {t s : Text} {c : Char} (hc : isBlank c = true) (h : Spaced t s) : Spaced t (c :: s)

theorem Text.Spaced.unspaced_eq {t s : Text} (h : Spaced t s) : s.unspaced = t.unspaced := by
  induction h with
  | nil => rfl
  | char c _ ih =>
    unfold unspaced at ih ⊢
    rw [List.filter_cons, List.filter_cons, ih]
  | blank hc _ ih =>
    unfold unspaced at ih ⊢
    rw [List.filter_cons_of_neg (by simp [hc]), ih]

end Calculator
