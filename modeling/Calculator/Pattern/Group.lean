import Calculator.Pattern.Mode
import Calculator.Text.Alphanumeric

/-!
# Groups of a pattern

What an opening parenthesis begins. With no question mark behind it that is a group, and a group may
get a name in angle brackets or switches of its own, up to a colon. Switches up to a closing
parenthesis are no group: they hold from there to the end of the group around them. There are no
groups that look ahead or behind, and no comments in parentheses.
-/

namespace Calculator.Pattern

/-- What an opening parenthesis begins. -/
inductive Opening
  | group (mode : Mode) (name : Option Text)
  | switch (mode : Mode)
  deriving DecidableEq, Repr

namespace Opening

/-- The character may begin a name. -/
def isNameStart (c : Char) : Bool := c = '_' || Text.isAlphabetic c

/-- The character may stand further on in a name. -/
def isNameRest (c : Char) : Bool := "_.[]".toList.contains c || Text.isAlphanumeric c

/-- The text is a name of a group. -/
def isName : Text → Bool
  | [] => false
  | c :: s => isNameStart c && s.all isNameRest

/-- Reads a name and the bracket behind it. -/
def readName (s : Text) : Option (Text × Text) :=
  let name := s.takeWhile (· ≠ '>')
  match s.dropWhile (· ≠ '>') with
  | _ :: rest => if isName name then some (name, rest) else none
  | [] => none

/-- Reads switches and the closing parenthesis behind them, or the colon that begins a group. -/
def readSwitches (m : Mode) (s : Text) : Option (Opening × Text) :=
  let isEnd (c : Char) : Bool := c = ':' || c = ')'
  let switches := s.takeWhile fun c => !isEnd c
  match s.dropWhile fun c => !isEnd c with
  | [] => none
  | c :: rest =>
    if !Mode.isSwitches switches then none
    else if c = ':' then some (.group (m.switched switches) none, rest)
    else if switches = [] then none
    else some (.switch (m.switched switches), rest)

/-- Reads what an opening parenthesis begins, from behind it. -/
def read (m : Mode) (s : Text) : Option (Opening × Text) :=
  match m.skip s with
  | '?' :: 'P' :: '<' :: s | '?' :: '<' :: s =>
    (readName s).map fun (name, rest) => (.group m (some name), rest)
  | '?' :: s => readSwitches m s
  | s => some (.group m none, s)

end Opening

end Calculator.Pattern
