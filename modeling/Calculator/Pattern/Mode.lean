import Calculator.Text.Blank

/-!
# Modes of a pattern

Letters inside a pattern switch how the rest of it is read. Three of the switches decide what is
allowed:

* `i` takes the two cases of a letter for one;
* `u` makes the pattern one over characters, which it is at the start; without it, over bytes;
* `x` makes the pattern a spaced one, in which blanks and comments mean nothing.

The others say what a pattern matches: `m`, `s` and `R` where lines begin and end, and `U` which of
two repetitions is the longer one.
-/

namespace Calculator.Pattern

/-- How a part of a pattern is read. -/
structure Mode where
  ignoreCase : Bool
  unicode : Bool
  spaced : Bool
  deriving DecidableEq, Repr

namespace Mode

/-- The mode at the start of a pattern. -/
def initial : Mode := ⟨false, true, false⟩

/-! ## Blanks and comments -/

/-- The text behind blanks and comments. A comment goes from a number sign to the end of its line;
`inComment` says that the text begins inside one. -/
def behindGap (inComment : Bool) : Text → Text
  | [] => []
  | c :: s =>
    if inComment then behindGap (c ≠ '\n') s
    else if c = '#' then behindGap true s
    else if Text.isBlank c then behindGap false s
    else c :: s

/-- The text from the first character that means something in this mode. -/
def skip (m : Mode) (s : Text) : Text := if m.spaced then behindGap false s else s

/-- The character behind the first one. In a spaced mode that is the first one behind blanks and
one number sign; with nothing behind them it is the next one after all. -/
def lookahead (m : Mode) : Text → Option Char
  | [] => none
  | _ :: s =>
    let beyond :=
      match s.dropWhile Text.isBlank with
      | '#' :: s => s.dropWhile Text.isBlank
      | s => s
    if m.spaced && beyond ≠ [] then beyond.head? else s.head?

/-! ## Switches -/

/-- The letters that switch a mode. -/
def letters : Text := "imsUuRx".toList

/-- The text is a list of switches: no letter twice, and at most one minus, which turns off the
letters behind it. There must be one. -/
def isSwitches (s : Text) : Bool :=
  s.all (fun c => c = '-' || letters.contains c) && decide s.Nodup && s.getLast? ≠ some '-'

/-- What switches say about a letter. -/
def setting? (switches : Text) (letter : Char) : Option Bool :=
  if letter ∈ switches.takeWhile (· ≠ '-') then some true
  else if letter ∈ switches then some false
  else none

/-- The mode behind switches. -/
def switched (m : Mode) (switches : Text) : Mode where
  ignoreCase := (setting? switches 'i').getD m.ignoreCase
  unicode := (setting? switches 'u').getD m.unicode
  spaced := (setting? switches 'x').getD m.spaced

end Mode

end Calculator.Pattern
