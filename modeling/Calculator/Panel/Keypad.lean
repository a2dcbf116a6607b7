import Calculator.Panel.State

/-!
# The keypad

Keys write into the entry and space it as they go: an operator has a space on either side, a minus
that is a sign has none, and an opening parenthesis has one in front of it where a number or a
closing parenthesis ends. The spaces are for the eye only. Erasing takes the last symbol with the
spaces around it.

Every button gives the focus back to the entry field.
-/

namespace Calculator

/-! ## Editing the entry -/

namespace Entry

/-- The entry without the spaces at its end. -/
def stripEnd (s : Text) : Text := (s.reverse.dropWhile (· = ' ')).reverse

/-- Writes a digit or a point. -/
def append (s : Text) (c : Char) : Text := s ++ [c]

/-- Writes an operator. A minus at the start or right after an opening parenthesis is a sign. -/
def appendOperator (s : Text) (op : Operator) : Text :=
  let s := stripEnd s
  if op = .minus ∧ (s = [] ∨ s.getLast? = some '(') then s ++ [op.symbol]
  else if s = [] then [op.symbol, ' ']
  else s ++ [' ', op.symbol, ' ']

/-- A digit or a closing parenthesis, blanks behind it aside, ends the entry. -/
def endsOperand (s : Text) : Bool :=
  (s.reverse.find? fun c => !Text.isBlank c).any fun c => c.isDigit || c = ')'

/-- Writes an opening parenthesis. -/
def appendOpening (s : Text) : Text := if endsOperand s then s ++ [' ', '('] else s ++ ['(']

/-- Writes a closing parenthesis. -/
def appendClosing (s : Text) : Text := stripEnd s ++ [')']

/-- Erases the last symbol. -/
def erase (s : Text) : Text := stripEnd (stripEnd s).dropLast

end Entry

/-! ## Buttons -/

/-- A button of the panel. -/
inductive Button
  | clearEntry
  | clearOutputs
  | reset
  | erase
  | equals
  | digit (d : Fin 10)
  | point
  | operator (op : Operator)
  | opening
  | closing
  deriving DecidableEq, Repr

namespace Button

/-- What is written on a button. -/
def label : Button → Text
  | clearEntry => "C".toList
  | clearOutputs => "CLR".toList
  | reset => "AC".toList
  | erase => "DEL".toList
  | equals => "=".toList
  | digit d => [Number.digitChar d]
  | point => ['.']
  | operator op => [op.symbol]
  | opening => ['(']
  | closing => [')']

/-- The buttons above the keypad, from left to right. -/
def actions : List Button := [clearEntry, clearOutputs, reset, equals]

/-- The rows of the keypad from top to bottom, with the places that hold no button. -/
def keypad : List (List (Option Button)) :=
  [[digit 7, digit 8, digit 9, operator .divide, erase],
    [digit 4, digit 5, digit 6, operator .times, opening],
    [digit 1, digit 2, digit 3, operator .minus, closing],
    [digit 0, point, none, operator .plus, none]]

/-- All buttons. -/
def all : List Button := actions ++ keypad.flatten.reduceOption

/-- The button with a label. -/
def ofLabel? (label : Text) : Option Button := all.find? (·.label = label)

end Button

namespace Panel

/-- Replaces the entry, and gives the focus back to its field. -/
def edit (p : Panel) (entry : Text) : Panel := { p with entry := entry, wantsFocus := true }

/-- Presses a button. -/
def press (p : Panel) : Button → Panel
  | .clearEntry => p.clearEntry
  | .clearOutputs => p.clearOutputs
  | .reset => p.reset
  | .erase => p.edit (Entry.erase p.entry)
  | .equals => p.evaluate
  | .digit d => p.edit (Entry.append p.entry (Number.digitChar d))
  | .point => p.edit (Entry.append p.entry '.')
  | .operator op => p.edit (Entry.appendOperator p.entry op)
  | .opening => p.edit (Entry.appendOpening p.entry)
  | .closing => p.edit (Entry.appendClosing p.entry)

end Panel

end Calculator
