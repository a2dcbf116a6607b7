import Calculator.Json.Number

/-!
# JSON: values

A value that is read has the kind that its reader asks for; the reader tells a value of another
kind from a text that is no value at all (`unexpected`). A value that nobody asks for is passed
over by `skipValue`, with its brackets on a stack, so it may be nested to any depth.
-/

namespace Calculator.Json

/-! ## Kinds -/

/-- The fault of a text whose value is not of the kind that was asked for. A word, a number or a
string is read to its end first and may turn out to be malformed; of a list or an object one
character is enough. -/
def unexpected : Text → Fault
  | [] => .truncated
  | c :: s =>
    let after {α : Type} (r : Except Fault α) : Fault :=
      match r with
      | .ok _ => .mistyped
      | .error e => e
    if c = 'n' then after (expect "ull".toList s)
    else if c = 't' then after (expect "rue".toList s)
    else if c = 'f' then after (expect "alse".toList s)
    else if c = '-' ∨ c.isDigit then after (readNumber (c :: s))
    else if c = '"' then after (readString s)
    else if c = '[' ∨ c = '{' then .mistyped
    else .malformed

/-- Reads a value that must be a string. -/
def stringValue (s : Text) : Except Fault (Text × Text) :=
  match skipSpace s with
  | [] => .error .truncated
  | c :: r => if c = '"' then readString r else .error (unexpected (c :: r))

/-- Reads a value that must be a number. -/
def numberValue (s : Text) : Except Fault (Float × Text) :=
  match skipSpace s with
  | [] => .error .truncated
  | c :: r =>
    if c = '-' ∨ c.isDigit then readNumber (c :: r) else .error (unexpected (c :: r))

/-- Reads the value `null`. -/
def nullValue (s : Text) : Except Fault Text :=
  match skipSpace s with
  | [] => .error .truncated
  | c :: r => if c = 'n' then expect "ull".toList r else .error (unexpected (c :: r))

/-- Reads `null` or what `read` reads. -/
def optional {α : Type} (read : Text → Except Fault (α × Text)) (s : Text) :
    Except Fault (Option α × Text) :=
  match skipSpace s with
  | [] => .error .truncated
  | c :: r =>
    if c = 'n' then (expect "ull".toList r).map (none, ·)
    else (read (c :: r)).map fun (v, rest) => (some v, rest)

/-- Reads the name of a member of an object. Nothing but a string can be one, so another value in
its place breaks the grammar, whatever it is. -/
def memberName (s : Text) : Except Fault (Text × Text) :=
  match skipSpace s with
  | [] => .error .truncated
  | c :: r => if c = '"' then readString r else .error .malformed

/-- Passes over the colon between a name and its value. -/
def colon (s : Text) : Except Fault Text :=
  match skipSpace s with
  | [] => .error .truncated
  | c :: r => if c = ':' then .ok r else .error .malformed

/-! ## Passing over -/

/-- What a value may be enclosed by. -/
inductive Bracket
  | square
  | curly
  deriving DecidableEq, Repr

/-- The character that opens a bracket, as a bracket. -/
def Bracket.ofChar? (c : Char) : Option Bracket :=
  if c = '[' then some square else if c = '{' then some curly else none

/-- The character that closes a bracket. -/
def Bracket.closing : Bracket → Char
  | square => ']'
  | curly => '}'

/-- Passes over a word, a number or a string. -/
def skipScalar : Text → Except Fault Text
  | [] => .error .truncated
  | c :: s =>
    if c = 'n' then expect "ull".toList s
    else if c = 't' then expect "rue".toList s
    else if c = 'f' then expect "alse".toList s
    else if c = '-' ∨ c.isDigit then skipNumber (c :: s)
    else if c = '"' then skipString s
    else .error .malformed

/-- Passes over the name that precedes a value in the given bracket; a list has none. -/
def skipName (b : Bracket) (s : Text) : Except Fault Text :=
  match b with
  | .square => .ok s
  | .curly =>
    match skipSpace s with
    | [] => .error .truncated
    | c :: r => if c = '"' then do colon (← skipString r) else .error .malformed

/-- Goes on to the next value, closing brackets on the way. Right behind an opening bracket the
next value needs no comma. The stack that is left is empty if all brackets are closed. -/
def nextValue (afterValue : Bool) : List Bracket → Text → Except Fault (List Bracket × Text)
  | [], s => .ok ([], s)
  | b :: outer, s =>
    match skipSpace s with
    | [] => .error .truncated
    | c :: r =>
      if c = ',' ∧ afterValue then (skipName b r).map (b :: outer, ·)
      else if c = b.closing then nextValue true outer r
      else if afterValue then .error .malformed
      else (skipName b (c :: r)).map (b :: outer, ·)

/-- Passes over a value and over what is left in the brackets around it. Each round takes a
character at least, so the length of the text is fuel enough. -/
def skipWithin : Nat → List Bracket → Text → Except Fault Text
  | 0, _, _ => .error .truncated
  | fuel + 1, outer, s => do
    let (outer, rest) ← match skipSpace s with
      | [] => .error .truncated
      | c :: r =>
        match Bracket.ofChar? c with
        | some b => nextValue false (b :: outer) r
        | none => do nextValue true outer (← skipScalar (c :: r))
    if outer = [] then return rest else skipWithin fuel outer rest

/-- Passes over a value. -/
def skipValue (s : Text) : Except Fault Text := skipWithin (s.length + 1) [] s

end Calculator.Json
