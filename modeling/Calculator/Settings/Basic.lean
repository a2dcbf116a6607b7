import Calculator.Settings.Value

/-!
# Settings

Two settings: the log directive and the length of the history. Each has a default, and an
environment variable whose name is `CALC_` and the name of the setting overrides it. Case does not
matter in these names, and blanks around the name or behind `CALC_` are ignored. A point in a name
begins a dictionary, so `CALC_LOG.X` gives the setting `log` a dictionary for a value; a name with
an empty part between points is ignored. Of two variables for one setting the last one counts.

All variables for settings are read before any of them is used, those for unknown settings too. Then
comes the history length, then the log directive, and the first value of a wrong kind is the one
reported. A length outside its range is moved to the nearest end of it.
-/

namespace Calculator

/-- What can be set. -/
structure Settings where
  log : Text
  historyLimit : Nat
  deriving DecidableEq, Repr

/-- The variables of an environment, each with its text, in order. -/
abbrev Environment := List (Text × Text)

/-- The environment written as `NAME=VALUE`, with a NUL behind each variable. -/
def Environment.ofText (s : Text) : Environment :=
  (s.splitOn '\x00').filterMap fun entry =>
    match entry.dropWhile (· ≠ '=') with
    | '=' :: value => some (entry.takeWhile (· ≠ '='), value)
    | _ => none

namespace Settings

/-! ## Defaults and range -/

/-- The history length without a setting. -/
def defaultHistoryLimit : Nat := 20

/-- The greatest history length. -/
def greatestHistoryLimit : Nat := 200

/-- The nearest history length in the range. -/
def clampHistoryLimit (n : Nat) : Nat := max 1 (min n greatestHistoryLimit)

/-- The settings without any variable. -/
def default : Settings := ⟨"info".toList, defaultHistoryLimit⟩

/-! ## Names -/

/-- A setting that a variable can name. -/
inductive Key
  | log
  | historyLimit
  deriving DecidableEq, Repr

/-- The name of a setting. -/
def Key.name : Key → Text
  | log => "log".toList
  | historyLimit => "historique_max".toList

/-- What the names of all variables for settings begin with. -/
def nameStart : Text := "calc_".toList

/-- The parts of a variable's name behind `CALC_`, in lower case; none if the variable is not for
a setting. -/
def path? (variableName : Text) : Option (List Text) :=
  let name := (Text.trim variableName).map Char.toLower
  if nameStart.isPrefixOf name then
    let parts := (Text.trim (name.drop nameStart.length)).splitOn '.'
    if parts.any (· = []) then none else some parts
  else none

/-! ## Assignments -/

/-- What a variable for settings says: the parts of its name, and its value. -/
structure Assignment where
  path : List Text
  value : Value
  deriving DecidableEq, Repr

/-- The value that an assignment gives to a setting. -/
def Assignment.valueFor? (key : Key) (a : Assignment) : Option Value :=
  match a.path with
  | [name] => if name = key.name then some a.value else none
  | name :: _ :: _ => if name = key.name then some .dictionary else none
  | [] => none

/-- The value that assignments give to a setting. -/
def lookup (key : Key) (l : List Assignment) : Option Value :=
  (l.filterMap (·.valueFor? key)).getLast?

/-! ## Loading -/

/-- Why there are no settings. -/
inductive Fault
  /-- The value of a setting is of the wrong kind. -/
  | wrongType (key : Key)
  /-- The value of a setting is of the right kind but out of the question. -/
  | wrongValue (key : Key)
  /-- A string in a variable would be cut inside a character. -/
  | splitCharacter
  deriving DecidableEq, Repr

/-- What a variable says; nothing if it is not for a setting. -/
def assignment? (variableName text : Text) : Except Fault (Option Assignment) :=
  match path? variableName with
  | none => .ok none
  | some path =>
    match Value.ofText? text with
    | some value => .ok (some ⟨path, value⟩)
    | none => .error .splitCharacter

/-- What the variables of an environment say. -/
def assignments : Environment → Except Fault (List Assignment)
  | [] => .ok []
  | (variableName, text) :: env => do
    return (← assignment? variableName text).toList ++ (← assignments env)

/-- The history length that a value stands for: an integer that is not negative. -/
def historyLimitOf : Value → Except Fault Nat
  | .unsigned n => .ok n
  | .signed i => if 0 ≤ i then .ok i.toNat else .error (.wrongValue .historyLimit)
  | _ => .error (.wrongType .historyLimit)

/-- The log directive that a value stands for: a text, or a character as a text. -/
def logOf : Value → Except Fault Text
  | .text s => .ok s
  | .character c => .ok [c]
  | _ => .error (.wrongType .log)

/-- The settings that assignments make. -/
def ofAssignments (l : List Assignment) : Except Fault Settings := do
  let limit ← match lookup .historyLimit l with
    | some v => historyLimitOf v
    | none => .ok default.historyLimit
  let log ← match lookup .log l with
    | some v => logOf v
    | none => .ok default.log
  return ⟨log, clampHistoryLimit limit⟩

/-- The settings of an environment. -/
def load (env : Environment) : Except Fault Settings := do ofAssignments (← assignments env)

end Settings

end Calculator
