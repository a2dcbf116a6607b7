import Calculator.Json.Lexical
import Calculator.Number.Numeral
import Calculator.Text.Code

/-!
# Values of environment variables

The text of a variable is read as a value of one of several kinds. `true` and `false` are booleans.
A quote begins a string with escapes, an apostrophe a single character, and brackets begin a list
or a dictionary. Anything else, up to a comma or a bracket, is a number if it reads as one and a
text if not.

The reading must consume the whole variable. Otherwise the variable is a text, exactly as it
stands: `truex`, `a[b]` and a string with an unknown escape are texts.

In a string with escapes, what stands in front of the first one is kept up to a number of bytes, and
that number is the number of its characters. So ASCII is kept whole, and other characters there cost
something at the end. The cut may fall inside a character; then there is no value at all.

A decimal number, a list and a dictionary are kinds that no setting has. Their contents are
checked, since they decide whether the reading succeeds, but not kept.
-/

namespace Calculator.Settings

open scoped Number.Powers

/-! ## Values -/

/-- The value of a variable. -/
inductive Value
  | boolean (value : Bool)
  | unsigned (value : Nat)
  | signed (value : Int)
  | decimal
  | character (value : Char)
  | text (value : Text)
  | list
  | dictionary
  deriving DecidableEq, Repr

/-! ## Numbers -/

/-- An unsigned integer of 64 bits, with a plus or without a sign. -/
def unsigned? (s : Text) : Option Nat :=
  let digits := match s with
    | '+' :: s => s
    | s => s
  (Numeral.natural? digits).filter (· < 2 ^ (64 : Nat))

/-- A signed integer of 64 bits. -/
def signed? (s : Text) : Option Int :=
  let (negative, digits) := Numeral.takeSign s
  ((Numeral.natural? digits).map fun n => if negative then -(n : Int) else n).filter
    fun i => -2 ^ (63 : Nat) ≤ i ∧ i < 2 ^ (63 : Nat)

/-- The text is a decimal number with a point. -/
def isDecimal (s : Text) : Bool := s.contains '.' && Numeral.isNumeral s

/-- The value of a text that is neither quoted nor bracketed. -/
def ofWord (s : Text) : Value :=
  if isDecimal s then .decimal
  else
    match unsigned? s with
    | some n => .unsigned n
    | none =>
      match signed? s with
      | some i => .signed i
      | none => .text s

/-! ## Obstacles -/

/-- What stops a reading. -/
inductive Obstacle
  /-- The text breaks the grammar. -/
  | unreadable
  /-- A string would be cut inside a character. -/
  | splitCharacter
  deriving DecidableEq, Repr

/-- A reading that breaks the grammar if it gives nothing. -/
def orUnreadable {α : Type} : Option α → Except Obstacle α
  | some a => .ok a
  | none => .error .unreadable

/-! ## Strings -/

/-- The characters up to a closing quote, an escaped quote passed over, and what is behind it. -/
def splitString : Text → Option (Text × Text)
  | [] => none
  | '\\' :: c :: s => (splitString s).map fun (t, rest) => ('\\' :: c :: t, rest)
  | c :: s => if c = '"' then some ([], s) else (splitString s).map fun (t, rest) => (c :: t, rest)

/-- A character that may stand for itself in a string. -/
def isPlain (c : Char) : Bool := c = '\t' || (0x20 ≤ c.toNat && c.toNat ≠ 0x7F)

/-- A string with its escapes resolved. -/
def unescape : Text → Option Text
  | [] => some []
  | '\\' :: 'u' :: a :: b :: c :: d :: s => do
    return (← Text.codePoint? [a, b, c, d]) :: (← unescape s)
  | '\\' :: 'U' :: a :: b :: c :: d :: e :: f :: g :: h :: s => do
    return (← Text.codePoint? [a, b, c, d, e, f, g, h]) :: (← unescape s)
  | '\\' :: c :: s => do
    let d ← if c = '/' then none else Json.shortEscape? c
    return d :: (← unescape s)
  | c :: s => do
    if c = '\\' ∨ !isPlain c then none
    return c :: (← unescape s)

/-- The string that the characters between two quotes denote. -/
def resolve (inside : Text) : Except Obstacle Text :=
  let front := inside.takeWhile (· ≠ '\\')
  let escaped := inside.dropWhile (· ≠ '\\')
  if !front.all isPlain then .error .unreadable
  else if escaped = [] then .ok front
  else
    match Text.splitBytes? front.length front with
    | some (kept, _) => (orUnreadable (unescape escaped)).map (kept ++ ·)
    | none => .error .splitCharacter

/-- Reads a string from behind its opening quote. -/
def readString (s : Text) : Except Obstacle (Text × Text) := do
  let (inside, rest) ← orUnreadable (splitString s)
  return (← resolve inside, rest)

/-! ## Reading a value -/

/-- The five characters that end a word. -/
def isSeparator (c : Char) : Bool := ",{}[]".toList.contains c

/-- The blanks that may stand around a value: the ASCII ones, the vertical tab excepted. -/
def isGap (c : Char) : Bool := c = ' ' || c = '\t' || c = '\n' || c = '\x0c' || c = '\r'

/-- A character of an unquoted key. -/
def isKeyChar (c : Char) : Bool := c.isAlphanum || c = '_' || c = '-'

/-- Passes over a key and the equals sign behind it. -/
def skipKey (s : Text) : Except Obstacle Text := do
  let s := s.dropWhile isGap
  let rest ← match s with
    | '"' :: s => (readString s).map Prod.snd
    | s => if s.takeWhile isKeyChar = [] then .error .unreadable else .ok (s.dropWhile isKeyChar)
  match rest.dropWhile isGap with
  | '=' :: rest => .ok rest
  | _ => .error .unreadable

/-- Takes `word` off the front of a text. -/
def afterWord? : Text → Text → Option Text
  | [], s => some s
  | _ :: _, [] => none
  | w :: word, c :: s => if c = w then afterWord? word s else none

/-- Reads a character from behind its opening apostrophe. -/
def readCharacter : Text → Except Obstacle (Value × Text)
  | c :: '\'' :: rest => .ok (.character c, rest)
  | _ => .error .unreadable

mutual

/-- Reads a value and the blanks around it. A round without a character is always followed by one
that takes one, so twice the length of the text is fuel enough. -/
def readValue : Nat → Text → Except Obstacle (Value × Text)
  | 0, _ => .error .unreadable
  | fuel + 1, s => do
    let s := s.dropWhile isGap
    let (value, rest) ←
      if let some rest := afterWord? "true".toList s then .ok (.boolean true, rest)
      else if let some rest := afterWord? "false".toList s then .ok (.boolean false, rest)
      else
        match s with
        | '{' :: s => (skipItems fuel true s).map (.dictionary, ·)
        | '[' :: s => (skipItems fuel false s).map (.list, ·)
        | '"' :: s => (readString s).map fun (t, rest) => (.text t, rest)
        | '\'' :: s => readCharacter s
        | s =>
          let word := s.takeWhile fun c => !isSeparator c
          .ok (ofWord (Text.trim word), s.dropWhile fun c => !isSeparator c)
    return (value, rest.dropWhile isGap)

/-- Passes over the items of a list or a dictionary, whose items have keys, and over its closing
bracket. A comma may stand before the bracket. -/
def skipItems : Nat → Bool → Text → Except Obstacle Text
  | 0, _, _ => .error .unreadable
  | fuel + 1, keyed, s =>
    let closing := if keyed then '}' else ']'
    match s with
    | [] => .error .unreadable
    | c :: r =>
      if c = closing then .ok r
      else do
        let s ← if keyed then skipKey s else .ok s
        let (_, rest) ← readValue fuel s
        match rest with
        | ',' :: rest => skipItems fuel keyed rest
        | d :: rest => if d = closing then .ok rest else .error .unreadable
        | [] => .error .unreadable

end

/-- The value of a variable; none if a string in it would be cut inside a character. -/
def Value.ofText? (s : Text) : Option Value :=
  match readValue (2 * s.length + 2) s with
  | .ok (v, []) => some v
  | .ok (_, _ :: _) | .error .unreadable => some (.text s)
  | .error .splitCharacter => none

end Calculator.Settings
