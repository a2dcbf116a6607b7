import Calculator.Envelope.Message
import Calculator.Settings.Basic

/-!
# The state of the panel

What the calculator shows and remembers: the entry, the outputs of the last evaluation, and the
history. An evaluation is recorded in one of two ways. A success replaces all outputs. A failure
replaces the error and the envelope and clears the working, but leaves the result of the last
success on display.

Each recording adds a line to the history, the newest in front, with the entry as it was then,
trimmed. The history never grows beyond its capacity, which is fixed when the panel is made; the
oldest lines are dropped.
-/

namespace Calculator

/-- How a value came about, as it is displayed. -/
structure Working where
  cleaned : Text
  tokens : Text
  steps : Text
  deriving DecidableEq, Repr

/-- A working with nothing in it. -/
def Working.empty : Working := ⟨[], [], []⟩

/-- The working of an evaluation, its steps one a line. -/
def Working.ofEvaluation (e : Evaluation) : Working :=
  ⟨e.text, Token.line e.tokens, ['\n'].intercalate (e.steps.map Step.render)⟩

/-- A line of the history: an entry and its value or the message of its refusal. -/
structure HistoryLine where
  entry : Text
  outcome : Except Text Float

/-- The state of the panel. -/
structure Panel where
  entry : Text
  result : Text
  error : Text
  envelope : Text
  working : Working
  /-- The lines of the history, the newest first. -/
  history : List HistoryLine
  capacity : Nat
  /-- The entry field is to be given the focus. -/
  wantsFocus : Bool

namespace Panel

/-- A new panel, with the capacity moved into its range. -/
def new (capacity : Nat) : Panel :=
  ⟨[], [], [], [], Working.empty, [], Settings.clampHistoryLimit capacity, true⟩

/-- A new panel with the capacity that holds without a setting. -/
def default : Panel := new Settings.defaultHistoryLimit

/-! ## Clearing -/

/-- Clears the entry and nothing else. -/
def clearEntry (p : Panel) : Panel := { p with entry := [], wantsFocus := true }

/-- Clears all outputs and leaves the entry and the history alone. -/
def clearOutputs (p : Panel) : Panel :=
  { p with
    result := []
    error := []
    envelope := []
    working := Working.empty
    wantsFocus := true }

/-- Clears everything. -/
def reset (p : Panel) : Panel := { p.clearOutputs with entry := [], history := [] }

/-! ## Recording -/

/-- Puts a line with the present entry in front of the history. -/
def remember (p : Panel) (outcome : Except Text Float) : Panel :=
  { p with history := (⟨p.entry.trim, outcome⟩ :: p.history).take p.capacity }

/-- Records a failure. -/
def recordFailure (p : Panel) (message envelope : Text) : Panel :=
  { p.remember (.error message) with
    error := message
    envelope := envelope
    working := Working.empty
    wantsFocus := true }

/-- Records a success. -/
def recordSuccess (p : Panel) (value : Float) (envelope : Text) (working : Working) : Panel :=
  { p.remember (.ok value) with
    result := Number.display value
    error := []
    envelope := envelope
    working := working
    wantsFocus := true }

/-- Evaluates the entry and records what comes of it. -/
def evaluate (p : Panel) : Panel :=
  let outcome := Calculator.evaluate p.entry
  let envelope := (Response.ofOutcome (outcome.map Evaluation.value)).pretty
  match outcome with
  | .ok e => p.recordSuccess e.value envelope (Working.ofEvaluation e)
  | .error r => p.recordFailure r.message envelope

end Panel

end Calculator
