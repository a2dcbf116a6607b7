import Calculator.Number.Decimal

/-!
# Numerals

The texts that denote a number: digits with at most one point among them, with a sign in front and
an exponent behind if need be. The words for infinity and for what is no number are numerals too.
Only the ten ASCII digits count.
-/

namespace Calculator.Numeral

/-- The number that a non-empty string of digits denotes. -/
def natural? (s : Text) : Option Nat :=
  if s ≠ [] ∧ s.all Char.isDigit then some (Number.ofDigits s) else none

/-- Takes a sign off: whether there was a minus, and the rest. -/
def takeSign : Text → Bool × Text
  | '+' :: s => (false, s)
  | '-' :: s => (true, s)
  | s => (false, s)

/-- The text is an exponent, or empty. -/
def isExponent : Text → Bool
  | [] => true
  | c :: s => (c = 'e' || c = 'E') && (natural? (takeSign s).2).isSome

/-- The text is a number without a sign: at least one digit, on either side of the point if there
is one, and an exponent if need be. -/
def isDecimal (s : Text) : Bool :=
  let whole := s.takeWhile Char.isDigit
  match s.dropWhile Char.isDigit with
  | '.' :: s =>
    (whole ≠ [] || s.takeWhile Char.isDigit ≠ []) && isExponent (s.dropWhile Char.isDigit)
  | s => whole ≠ [] && isExponent s

/-- The words that are numerals, in either case. -/
def words : List Text := ["inf".toList, "infinity".toList, "nan".toList]

/-- The text is a numeral. -/
def isNumeral (s : Text) : Bool :=
  let (_, s) := takeSign s
  isDecimal s || words.contains (s.map Char.toLower)

end Calculator.Numeral
