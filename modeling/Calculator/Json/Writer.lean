import Calculator.Json.Number

/-!
# JSON: writing records

A record is written as an object whose members have the order of the record. There are two
layouts: one line without any space, and one member a line, indented by two spaces. In a string the
quote, the backslash and the control characters are escaped, with a one-letter escape where there is
one; every other character stands for itself. A double that is infinite or a NaN has no JSON number
and is written as `null`.
-/

namespace Calculator.Json

/-- A value without inner structure. -/
inductive Scalar
  | null
  | number (value : Float)
  | string (value : Text)
  deriving DecidableEq

/-! ## Scalars -/

/-- A hexadecimal digit in lower case. -/
def hexChar (d : Nat) : Char := if d < 10 then Char.ofNat (d + 48) else Char.ofNat (d + 87)

/-- The characters that stand for `c` in a string. -/
def escape (c : Char) : Text :=
  if c = '"' then ['\\', '"']
  else if c = '\\' then ['\\', '\\']
  else if c = '\x08' then ['\\', 'b']
  else if c = '\x0c' then ['\\', 'f']
  else if c = '\n' then ['\\', 'n']
  else if c = '\r' then ['\\', 'r']
  else if c = '\t' then ['\\', 't']
  else if c.toNat < 0x20 then
    ['\\', 'u', '0', '0', hexChar (c.toNat / 16), hexChar (c.toNat % 16)]
  else [c]

/-- A string between its quotes. -/
def quote (s : Text) : Text := '"' :: (s.flatMap escape ++ ['"'])

/-- The text of a scalar. -/
def Scalar.write : Scalar → Text
  | null => "null".toList
  | number v => if Number.isFinite v then writeFinite v else "null".toList
  | string s => quote s

/-- The scalar of a value that may be missing. -/
def Scalar.ofOption {α : Type} (f : α → Scalar) : Option α → Scalar
  | none => null
  | some v => f v

/-! ## Records -/

/-- The object on one line. -/
def compact (members : List (Text × Scalar)) : Text :=
  let written := members.map fun (name, value) => quote name ++ ':' :: value.write
  '{' :: ([','].intercalate written ++ ['}'])

/-- The object with one member a line. -/
def pretty (members : List (Text × Scalar)) : Text :=
  let written := members.map fun (name, value) =>
    "\n  ".toList ++ quote name ++ ": ".toList ++ value.write
  '{' :: ([','].intercalate written ++ ['\n', '}'])

end Calculator.Json
