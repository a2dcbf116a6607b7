import Calculator.Pattern.Mode
import Calculator.Text.Code

/-!
# Escapes of a pattern

What a backslash and the characters behind it stand for. Punctuation stands for itself and so do
ASCII blanks and controls; two, four or eight hexadecimal digits behind `x`, `u` or `U` stand for
the character with that code; six letters stand for controls. There are shorthands for classes of
characters and there are assertions. An ASCII digit, any other letter and a character that is not
ASCII are no escapes.

Properties of characters are not available, and no shorthand has a meaning over all of Unicode:
shorthands and the assertions about words are for bytes only. Where a class of bytes would hold
bytes that are no characters of their own, it is refused as well, which rules out all complements.
-/

namespace Calculator.Pattern

/-- What an escape stands for. -/
inductive Escape
  /-- A character; `asByte` says that it is written with two hexadecimal digits. -/
  | character (c : Char) (asByte : Bool)
  /-- A class of characters or its complement. -/
  | shorthand (complement : Bool)
  /-- The start or the end of the text. -/
  | textEdge
  /-- The start or the end of a word, or neither. -/
  | wordEdge
  deriving DecidableEq, Repr

namespace Escape

/-! ## Reading -/

/-- Reads a number of hexadecimal digits. -/
def readDigits (m : Mode) : Nat → Text → Option (Text × Text)
  | 0, s => some ([], s)
  | n + 1, s =>
    match m.skip s with
    | [] => none
    | d :: s =>
      if (Text.hexValue? d).isSome then
        (readDigits m n s).map fun (digits, rest) => (d :: digits, rest)
      else none

/-- Reads the code of a character. -/
def readCode (m : Mode) (length : Nat) (s : Text) : Option (Escape × Text) := do
  let (digits, rest) ← readDigits m length s
  return (.character (← Text.codePoint? digits) (length = 2), rest)

/-- The control that a letter stands for. -/
def control? : Char → Option Char
  | 'a' => some '\x07'
  | 'f' => some '\x0c'
  | 'n' => some '\n'
  | 'r' => some '\r'
  | 't' => some '\t'
  | 'v' => some '\x0b'
  | _ => none

/-- Behind a backslash the character stands for itself. -/
def isLiteral (c : Char) : Bool := c.toNat < 0x80 && !c.isAlphanum && c ≠ '<' && c ≠ '>'

/-- Reads an escape from behind its backslash. -/
def read (m : Mode) : Text → Option (Escape × Text)
  | [] => none
  | c :: s =>
    match c with
    | 'x' => readCode m 2 s
    | 'u' => readCode m 4 s
    | 'U' => readCode m 8 s
    | 'd' | 's' | 'w' => some (.shorthand false, s)
    | 'D' | 'S' | 'W' => some (.shorthand true, s)
    | 'A' | 'z' => some (.textEdge, s)
    | 'b' | 'B' | '<' | '>' => some (.wordEdge, s)
    | c =>
      if isLiteral c then some (.character c false, s)
      else (control? c).map fun d => (.character d false, s)

/-! ## What is allowed -/

/-- The escape may stand in a pattern, outside sets. Over bytes a character is the bytes of its
encoding, but one that is written as a byte is that byte and has to be ASCII. -/
def isAllowed (m : Mode) : Escape → Bool
  | character c asByte => if m.unicode then !m.ignoreCase else !asByte || c.toNat < 0x80
  | shorthand complement => !m.unicode && !complement
  | textEdge => true
  | wordEdge => !m.unicode

/-- The escape may stand in a set. Over bytes only ASCII characters may. -/
def isAllowedInSet (m : Mode) : Escape → Bool
  | character c _ => if m.unicode then !m.ignoreCase else c.toNat < 0x80
  | shorthand complement => !m.unicode && !complement
  | textEdge | wordEdge => false

end Escape

end Calculator.Pattern
