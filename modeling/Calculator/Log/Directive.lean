import Calculator.Number.Numeral
import Calculator.Pattern.Basic
import Calculator.Text.Alphanumeric
import Calculator.Text.Code

/-!
# Log directives

What is logged is set by a comma-separated list. An item is a level, a target, or a target and a
level with an equals sign between them; a lone word that is no level is a target, so it is never
wrong. A target may be followed by a span in square brackets with a field in curly ones, and a span
may stand for the target. Empty items are skipped, and an equals sign needs no level behind it. A
field may have a value behind an equals sign, and the value is a number or a pattern.

An item is scanned without the blanks at its two ends, but the places that the scan finds are places
in the item as it stands. With blanks in front, a piece of it thus begins and ends too early by
their size. The piece need not be well formed then, and it may begin or end inside a character, in
which case the item cannot be cut.
-/

namespace Calculator.Log.Directive

/-! ## Faults -/

/-- What is wrong with a directive. -/
inductive Fault
  /-- It breaks the grammar. -/
  | malformed
  /-- A piece of an item begins or ends inside a character. -/
  | splitCharacter
  deriving DecidableEq, Repr

/-- Accepts what satisfies a condition. -/
def require (condition : Bool) : Except Fault Unit :=
  if condition then .ok () else .error .malformed

/-! ## Levels -/

/-- The names of the levels; the place of a name is the level's number. -/
def levelNames : List Text :=
  ["off".toList, "error".toList, "warn".toList, "info".toList, "debug".toList, "trace".toList]

/-- The text is the number of a level, with a plus or zeros in front if need be. -/
def isLevelNumber (s : Text) : Bool :=
  let digits := match s with
    | '+' :: s => s
    | s => s
  digits ≠ [] && digits.all Char.isDigit && Number.ofDigits digits < levelNames.length

/-- The text is the name of a level in either case. -/
def isLevelName (s : Text) : Bool := levelNames.contains (s.map Char.toLower)

/-- The text is a level. -/
def isLevel (s : Text) : Bool := isLevelNumber s || isLevelName s

/-! ## Fields -/

/-- What stands between the first equals sign of a field and the second. -/
def fieldValue? (field : Text) : Option Text := (field.splitOn '=')[1]?

/-- The text is a field: not empty, and its value is a number or a pattern if it has one. -/
def isField (field : Text) : Bool :=
  field ≠ [] && (fieldValue? field).all fun v => Numeral.isNumeral v || Pattern.isPattern v

/-! ## Items -/

/-- Where a scan stands, with the place where the open piece began. -/
inductive Place
  | start
  | word
  | span (opened : Nat)
  | field (opened : Nat)
  | behindField
  | behindSpan
  | level (opened : Nat)
  deriving DecidableEq, Repr

/-- The character may begin a target. -/
def isTargetStart (c : Char) : Bool := "-:_".toList.contains c || Text.isAlphanumeric c

/-- The piece of an item between two places. -/
def piece (item : Text) (start stop : Nat) : Except Fault Text :=
  match Text.slice? start stop item with
  | some s => .ok s
  | none => .error .splitCharacter

/-- The place behind a character that is at `i`. -/
def Place.next (item : Text) (i : Nat) (c : Char) : Place → Except Fault Place
  | start =>
    if c = '[' then .ok (span (i + 1))
    else if isTargetStart c then .ok word
    else .error .malformed
  | word =>
    if c = '=' then do
      let _ ← piece item 0 i
      return level (i + 1)
    else if c = '[' then do
      let _ ← piece item 0 i
      return span (i + 1)
    else .ok word
  | span opened =>
    if c = ']' then do
      let _ ← piece item opened i
      return behindSpan
    else if c = '{' then do
      let _ ← piece item opened i
      return field (i + 1)
    else .ok (span opened)
  | field opened =>
    if c = '}' then do
      require (isField (← piece item opened i))
      return behindField
    else .ok (field opened)
  | behindField => if c = ']' then .ok behindSpan else .error .malformed
  | behindSpan => if c = '=' then .ok (level (i + 1)) else .error .malformed
  | level opened => .ok (level opened)

/-- The place behind a text that begins at `i`. -/
def Place.scan (item : Text) : Place → Nat → Text → Except Fault Place
  | p, _, [] => .ok p
  | p, i, c :: s => do scan item (← p.next item i c) (i + c.utf8Size) s

/-- An item may end at a place. What is behind an equals sign must be a level, or nothing. -/
def Place.finish (item : Text) : Place → Except Fault Unit
  | word | behindSpan => .ok ()
  | level opened => do
    let s ← piece item opened (Text.byteSize item)
    require (s = [] || isLevel s)
  | _ => .error .malformed

/-- Checks an item. -/
def checkItem (item : Text) : Except Fault Unit := do
  Place.finish item (← Place.scan item .start 0 (Text.trim item))

/-- Checks a directive. Of several faults the first one counts. -/
def check (directive : Text) : Except Fault Unit :=
  ((directive.splitOn ',').filter (· ≠ [])).forM checkItem

/-- The value of the field is no pattern. -/
example : check "info,a[b{c=(}]".toList = .error .malformed := by rfl

/-- Behind a blank the piece is one byte off and holds no value. -/
example : check " [{x=(}]".toList = .ok () := by rfl

/-- The blank takes three bytes, and the piece in front of the equals sign has one. -/
example : check "\u3000a=info".toList = .error .splitCharacter := by rfl

end Calculator.Log.Directive
