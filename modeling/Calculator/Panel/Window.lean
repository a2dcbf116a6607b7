import Calculator.Panel.Keypad

/-!
# The window

The panel with what belongs to its display: which part has the focus, and whether the list of the
history is open. An action changes the panel first; a panel that wants the focus for its entry
field then gets it, so between two actions no wish is left over.

The header of the history shows the number of its lines, and it is open or closed under this text:
the window remembers the lengths at which it was opened. An evaluation that changes the length
therefore shows another header, closed unless it was opened before.
-/

namespace Calculator

/-- A key of the keyboard. -/
inductive Key
  | enter
  | escape
  | other
  deriving DecidableEq, Repr

/-- What a user does. -/
inductive Action
  | type (text : Text)
  | press (button : Button)
  | key (control : Bool) (key : Key)
  | toggleHistory
  /-- Takes the entry of a history line back; the first time, the history is opened for it. -/
  | recall (index : Nat)

/-- The panel in its window. -/
structure Window where
  panel : Panel
  /-- The entry field has the focus. -/
  focused : Bool
  /-- The lengths at which the history is open. -/
  openLengths : List Nat
  /-- The header of the history has been clicked. -/
  headerUsed : Bool

namespace Window

/-- Gives the focus to the entry field if the panel wants it. -/
def settle (w : Window) : Window :=
  { w with
    panel := { w.panel with wantsFocus := false }
    focused := w.focused || w.panel.wantsFocus }

/-- A window with a new panel. -/
def new (p : Panel) : Window := settle ⟨p, false, [], false⟩

/-- The list of the history is open. -/
def historyIsOpen (w : Window) : Bool := w.openLengths.contains w.panel.history.length

/-- Clicks the header of the history, which takes the focus. -/
def clickHeader (w : Window) : Window :=
  let n := w.panel.history.length
  { w with
    focused := false
    headerUsed := true
    openLengths :=
      if w.historyIsOpen then w.openLengths.filter (· ≠ n) else n :: w.openLengths }

/-- Clicks a line of the history, if there is one to click. -/
def clickLine (w : Window) (index : Nat) : Window :=
  if w.historyIsOpen then
    match w.panel.history[index]? with
    | some line => { w with panel := w.panel.edit line.entry }
    | none => w
  else w

/-- Presses a key. Enter alone takes the focus from the field before the field can use it; with
control it evaluates. -/
def pressKey (w : Window) (control : Bool) : Key → Window
  | .escape => { w with panel := w.panel.clearEntry }
  | .enter =>
    if control then if w.focused then { w with panel := w.panel.evaluate } else w
    else { w with focused := false }
  | .other => w

/-- Does an action, without its effect on the focus of the entry field. -/
def act (w : Window) : Action → Window
  | .type text => { w with panel := { w.panel with entry := text } }
  | .press button => { w with panel := w.panel.press button }
  | .key control key => w.pressKey control key
  | .toggleHistory => w.clickHeader
  | .recall index => (if w.headerUsed then w else w.clickHeader).clickLine index

/-- Does an action. -/
def step (w : Window) (a : Action) : Window := (w.act a).settle

/-- Does actions in order. -/
def run (w : Window) (actions : List Action) : Window := actions.foldl step w

end Window

end Calculator
