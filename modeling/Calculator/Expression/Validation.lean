import Calculator.Expression.Reason

/-!
# Validation

What a text without blanks must look like before it is read. The checks know characters only and
are tried in a fixed order, so a text with several faults is rejected for the first of them: no
character at all, a character outside the alphabet, parentheses that do not match, an operator at
an edge, a pair of parentheses with nothing inside, a division whose divisor starts with the digit
zero. The last one is a precaution about the text: it also refuses `1/0.5`, and does not see that
`1/(2-2)` divides by zero.
-/

namespace Calculator.Validation

/-- The characters that an expression is written with. -/
def isAllowed (c : Char) : Bool := c.isDigit || ".+-*/()".toList.contains c

/-- The parentheses opened and not yet closed after the character `c`, before which there were
`depth` of them. -/
def depthAfter (depth : Int) (c : Char) : Int :=
  if c = '(' then depth + 1 else if c = ')' then depth - 1 else depth

/-- The fault of the parentheses of a text that is read at the given depth. -/
def parenthesesFault? (depth : Int) : Text → Option Rejection
  | [] => if depth = 0 then none else some .unmatchedOpening
  | c :: s =>
    if depthAfter depth c < 0 then some .unmatchedClosing
    else parenthesesFault? (depthAfter depth c) s

/-- An operator stands at the start of the text, a minus excepted, or at its end. -/
def hasOperatorAtEdge (s : Text) : Bool :=
  s.head?.any ("+*/".toList.contains ·) || s.getLast?.any ("+-*/".toList.contains ·)

/-- The characters `a` and `b` stand next to each other, in this order. -/
def hasAdjacent (a b : Char) : Text → Bool
  | c :: d :: s => (c = a && d = b) || hasAdjacent a b (d :: s)
  | _ => false

/-- The first fault of a text. -/
def fault? (s : Text) : Option Rejection :=
  if s = [] then some .empty
  else if !s.all isAllowed then some .foreignCharacter
  else
    (parenthesesFault? 0 s).or <|
      if hasOperatorAtEdge s then some .operatorAtEdge
      else if hasAdjacent '(' ')' s then some .emptyParentheses
      else if hasAdjacent '/' '0' s then some .zeroDivisor
      else none

end Calculator.Validation
