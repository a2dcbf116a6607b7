import Calculator.Pattern.Escape

/-!
# Character sets

A set stands in square brackets. It holds characters, ranges of them, shorthands, named classes such
as `[:alpha:]`, and other sets; a caret in front makes the complement. Two ampersands, minus signs
or tildes intersect, subtract or join by difference what is on their left with what is on their
right, up to the next such sign.

Minus signs at the start stand for themselves, and so does a closing bracket there. Further on, a
minus sign makes a range, except in front of a closing bracket or another minus sign.

Sets count for how deep the parts of a pattern lie in one another. Parts that stand in a row are one
level above the deepest of them, but a row of one part is that part and adds no level.
-/

namespace Calculator.Pattern

/-- The depth of a row of parts. -/
def rowDepth : List Nat → Nat
  | [] => 0
  | [depth] => depth
  | depth :: depths => depths.foldl max depth + 1

namespace CharacterSet

/-! ## Members -/

/-- The names of the named classes. -/
def classNames : List Text :=
  ["alnum".toList, "alpha".toList, "ascii".toList, "blank".toList, "cntrl".toList, "digit".toList,
    "graph".toList, "lower".toList, "print".toList, "punct".toList, "space".toList,
    "upper".toList, "word".toList, "xdigit".toList]

/-- Reads a named class from behind its opening bracket: whether it is a complement, and the rest.
Nothing else that begins with a bracket is one, so this never makes a set wrong. -/
def readNamed (s : Text) : Option (Bool × Text) := do
  let s ← match s with
    | ':' :: s => some s
    | _ => none
  let (complement, s) := match s with
    | '^' :: s => (true, s)
    | s => (false, s)
  match s.dropWhile (· ≠ ':') with
  | ':' :: ']' :: rest =>
    if classNames.contains (s.takeWhile (· ≠ ':')) then some (complement, rest) else none
  | _ => none

/-- A named class may stand in a set. It holds ASCII characters only. -/
def allowsNamed (m : Mode) (complement : Bool) : Bool :=
  if m.unicode then !m.ignoreCase else !complement

/-- Reads a character or an escape. -/
def readMember (m : Mode) : Text → Option (Escape × Text)
  | [] => none
  | c :: s => if c = '\\' then Escape.read m s else some (.character c false, s)

/-- The range between two members. They must be characters in ascending order. -/
def isRange (m : Mode) : Escape → Escape → Bool
  | .character a x, .character b y =>
    a ≤ b && (Escape.character a x).isAllowedInSet m && (Escape.character b y).isAllowedInSet m
  | _, _ => false

/-- Reads a member or a range of them. -/
def readRange (m : Mode) (s : Text) : Option Text := do
  let (first, s) ← readMember m s
  let s := m.skip s
  let single : Bool := s.head? ≠ some '-' || [some ']', some '-'].contains (m.lookahead s)
  if single then if first.isAllowedInSet m then some s else none
  else do
    let (last, rest) ← readMember m (m.skip s.tail)
    if isRange m first last then some rest else none

/-! ## Sets -/

/-- A set of which a part has been read. -/
structure Progress where
  /-- Nothing but minus signs has been read. -/
  fresh : Bool
  /-- The depth of what is on the left of the last operator. -/
  left : Option Nat
  /-- The depths of the members since then. -/
  members : List Nat

namespace Progress

/-- The set of which nothing has been read. -/
def empty : Progress := ⟨true, none, []⟩

/-- The depth of what has been read. -/
def depth (p : Progress) : Nat :=
  match p.left with
  | none => rowDepth p.members
  | some left => rowDepth [left, rowDepth p.members]

/-- Adds a member. -/
def push (p : Progress) (depth : Nat) : Progress :=
  { p with fresh := false, members := depth :: p.members }

/-- Adds a minus sign at the start. -/
def pushMinus (p : Progress) : Progress := { p.push 0 with fresh := true }

/-- Adds an operator. -/
def operate (p : Progress) : Progress := ⟨false, some p.depth, []⟩

end Progress

/-- Reads the caret of a complement. Over bytes there are no complements. -/
def readCaret (m : Mode) (s : Text) : Option Text :=
  match m.skip s with
  | '^' :: s => if m.unicode then some s else none
  | s => some s

/-- The two characters are an operator. -/
def isOperator (c d : Char) : Bool := c = d && (c = '&' || c = '-' || c = '~')

/-- Reads a set up to its closing bracket. Each round takes at least one character, so one more than
the length of the text is fuel enough. -/
def readRest : Nat → Mode → Progress → Text → Option (Nat × Text)
  | 0, _, _, _ => none
  | fuel + 1, m, p, s =>
    match m.skip s with
    | [] => none
    | c :: s =>
      if p.fresh && c = '-' then
        if (Escape.character c false).isAllowedInSet m then readRest fuel m p.pushMinus s else none
      else if c = ']' then
        if p.fresh && p.members = [] then
          if (Escape.character c false).isAllowedInSet m then readRest fuel m (p.push 0) s else none
        else some (p.depth, s)
      else if c = '[' then
        match readNamed s with
        | some (complement, rest) =>
          if allowsNamed m complement then readRest fuel m (p.push 0) rest else none
        | none => do
          let (depth, rest) ← readRest fuel m .empty (← readCaret m s)
          readRest fuel m (p.push (depth + 1)) rest
      else if (s.head?.map (isOperator c)).getD false then readRest fuel m p.operate s.tail
      else do readRest fuel m (p.push 0) (← readRange m (c :: s))

/-- Reads a set from behind its opening bracket: its depth, and the rest. -/
def read (m : Mode) (s : Text) : Option (Nat × Text) := do
  readRest (s.length + 1) m .empty (← readCaret m s)

end CharacterSet

end Calculator.Pattern
