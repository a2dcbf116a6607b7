import Calculator.Pattern.CharacterSet
import Calculator.Pattern.Group

/-!
# Patterns

A pattern describes texts: characters stand for themselves, a point for any of them, sets and
shorthands for one of several. Parts follow one another, may be repeated, and may be put in groups;
a bar separates branches. A caret and a dollar sign are the ends of the text.

Only the form of a pattern is of interest here. A pattern is wrong if a parenthesis has no partner,
a repetition nothing to repeat, a range is upside down, two groups have one name, an escape is
unknown or needs more of Unicode than there is, or if its parts are nested too deep.

A pattern comes from between curly brackets, so behind an opening one it has no closing one. An
opening one outside a set would begin a count, which is wrong without its end.
-/

namespace Calculator.Pattern

/-- A part of a pattern. Switches are a part, but nothing that can be repeated. -/
structure Part where
  depth : Nat
  repeatable : Bool
  deriving DecidableEq, Repr

/-- The inside of a group, or of the whole pattern, of which a part has been read. -/
structure Body where
  /-- The names of all groups of the pattern that have begun. -/
  names : List Text
  /-- The depths of the branches in front of the last bar. -/
  branches : List Nat
  /-- The parts since then, the last one first. -/
  parts : List Part
  deriving DecidableEq, Repr

namespace Body

/-- A body of which nothing has been read. -/
def empty (names : List Text) : Body := ⟨names, [], []⟩

/-- The depth of the parts since the last bar. -/
def branchDepth (b : Body) : Nat := rowDepth (b.parts.map Part.depth)

/-- The depth of what has been read. -/
def depth (b : Body) : Nat := rowDepth (b.branchDepth :: b.branches)

/-- Adds a part that can be repeated. -/
def push (b : Body) (depth : Nat) : Body := { b with parts := ⟨depth, true⟩ :: b.parts }

/-- Adds switches. -/
def pushSwitch (b : Body) : Body := { b with parts := ⟨0, false⟩ :: b.parts }

/-- Adds a bar. -/
def branch (b : Body) : Body := { b with branches := b.branchDepth :: b.branches, parts := [] }

/-- Repeats the last part. -/
def repeated? (b : Body) : Option Body :=
  match b.parts with
  | part :: parts =>
    if part.repeatable then some { b with parts := ⟨part.depth + 1, true⟩ :: parts } else none
  | [] => none

/-- Notes the name of a group. No other group may have it. -/
def name? (b : Body) : Option Text → Option Body
  | none => some b
  | some name => if name ∈ b.names then none else some { b with names := name :: b.names }

end Body

/-! ## Reading -/

/-- The character is a repetition. -/
def isRepetition (c : Char) : Bool := c = '?' || c = '*' || c = '+'

/-- Reads a single character, or an escape. -/
def readSingle (m : Mode) (c : Char) (s : Text) : Option Text :=
  if c = '\\' then do
    let (e, rest) ← Escape.read m s
    if e.isAllowed m then some rest else none
  else if c = '.' then if m.unicode then some s else none
  else if c = '^' ∨ c = '$' then some s
  else if c = '\x7b' then none
  else if (Escape.character c false).isAllowed m then some s
  else none

/-- Reads a body up to a closing parenthesis or the end of the text. Each round takes at least one
character, so one more than the length of the text is fuel enough. -/
def readBody : Nat → Mode → Body → Text → Option (Body × Text)
  | 0, _, _, _ => none
  | fuel + 1, m, b, s =>
    match m.skip s with
    | [] => some (b, [])
    | c :: s =>
      if c = ')' then some (b, c :: s)
      else if c = '|' then readBody fuel m b.branch s
      else if c = '(' then do
        let (opening, s) ← Opening.read m s
        match opening with
        | .switch mode => readBody fuel mode b.pushSwitch s
        | .group mode name =>
          let b ← b.name? name
          let (inside, s) ← readBody fuel mode (.empty b.names) s
          match s with
          | [] => none
          | _ :: rest =>
            let b := { b with names := inside.names }
            readBody fuel m (b.push (inside.depth + 1)) rest
      else if c = '[' then do
        let (depth, rest) ← CharacterSet.read m s
        readBody fuel m (b.push (depth + 1)) rest
      else if isRepetition c then do
        let rest := match s with
          | '?' :: rest => rest
          | rest => rest
        readBody fuel m (← b.repeated?) rest
      else do readBody fuel m (b.push 0) (← readSingle m c s)

/-- The greatest depth that a pattern may have. -/
def greatestDepth : Nat := 250

/-- The text is a pattern. -/
def isPattern (s : Text) : Bool :=
  match readBody (s.length + 1) .initial (.empty []) s with
  | some (b, []) => b.depth ≤ greatestDepth
  | _ => false

/-- Branches, groups, sets and repetitions, one of them of an empty group. -/
example : isPattern "^(a|[b-d]+?)*()?$".toList = true := by decide +kernel

/-- There is nothing in front of the star. -/
example : isPattern "a|*".toList = false := by decide +kernel

/-- A word character is a matter of Unicode, unless the pattern is one over bytes. -/
example : isPattern "\\w".toList = false ∧ isPattern "(?-u)\\w".toList = true := by decide +kernel

/-- Switches end with the group around them. -/
example : isPattern "(^(?i)$)a".toList = true ∧ isPattern "(^(?i)$a)".toList = false := by
  decide +kernel

end Calculator.Pattern
