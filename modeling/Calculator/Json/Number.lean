import Calculator.Json.Lexical
import Calculator.Number.Shortest

/-!
# JSON: numbers

**Reading.** A number is an optional minus, a whole part without leading zeros, and then a part
behind the point and an exponent, both optional. Its digits are gathered in a significand below
`2^64`; once the next digit would not fit, the further digits of the whole part only raise the
exponent and those behind the point are dropped. Without point, exponent and surplus digits the
number is an integer and rounded once. Otherwise the rounded significand is multiplied or divided
by a power of ten, each a double itself, so the result can be a unit away from the nearest double.
A number beyond the range of doubles is malformed; one below it is zero.

**Passing over.** `skipNumber` checks the form alone, so it knows no range. It takes a number that
ends too early for malformed.

**Writing.** A finite double is written as the shortest decimal that denotes it, of two equally
near ones that with an even last digit. From `10^-5` up to `10^16` the notation is plain, with at
least one decimal. Outside this range one digit stands before the point, decimals follow only if
there are any, and the exponent has its sign.
-/

namespace Calculator.Json

open scoped Number.Powers

/-! ## Reading -/

/-- Significands stay below this bound. -/
def significandBound : Nat := 2 ^ (64 : Nat)

/-- Appends digits to a significand while it stays below the bound, and gives the digits that were
left over. -/
def absorb (significand : Nat) : Text → Nat × Text
  | [] => (significand, [])
  | c :: s =>
    let next := 10 * significand + (c.toNat - 48)
    if next < significandBound then absorb next s else (significand, c :: s)

/-- The double nearest to a power of ten. -/
def powerOfTen (n : Nat) : Float := Number.ofMagnitude false (Number.nearest (10 ^ n) 1)

/-- The greatest exponent whose power of ten is a finite double. -/
def greatestPower : Nat := 308

/-- Multiplies a double by `10^e`, in steps of the greatest power downwards; none if the result is
beyond the range. -/
def scaled? (f : Float) (e : Int) : Option Float :=
  if e.natAbs ≤ greatestPower then
    if 0 ≤ e then
      let product := f * powerOfTen e.natAbs
      if Number.magnitudeOf product = Number.infinity then none else some product
    else some (f / powerOfTen e.natAbs)
  else if f == 0.0 then some f
  else if 0 ≤ e then none
  else scaled? (f / powerOfTen greatestPower) (e + greatestPower)
termination_by e.natAbs
decreasing_by
  simp only [greatestPower] at *
  omega

/-- The double with a significand and a decimal exponent. -/
def ofParts (negative : Bool) (significand : Nat) (exponent : Int) : Except Fault Float :=
  match scaled? (Number.ofMagnitude false (Number.nearest significand 1)) exponent with
  | none => .error .malformed
  | some f => .ok (if negative then -f else f)

/-- The fault of a text at which a digit was expected. -/
def missingDigit (s : Text) : Fault := if s = [] then .truncated else .malformed

/-- The character announces an exponent. -/
def isExponentMark (c : Char) : Bool := c = 'e' || c = 'E'

/-- Takes the sign of an exponent off. -/
def exponentSign : Text → Bool × Text
  | '+' :: s => (false, s)
  | '-' :: s => (true, s)
  | s => (false, s)

/-- Reads an exponent from behind its mark and adds it to `start`. -/
def readExponent (negative : Bool) (significand : Nat) (start : Int) (s : Text) :
    Except Fault (Float × Text) :=
  let (down, s) := exponentSign s
  let digits := s.takeWhile Char.isDigit
  let rest := s.dropWhile Char.isDigit
  if digits = [] then .error (missingDigit rest)
  else
    let e : Int := Number.ofDigits digits
    (ofParts negative significand (if down then start - e else start + e)).map (·, rest)

/-- Reads the digits behind a point. -/
def readPlaces (negative : Bool) (significand : Nat) (start : Int) (s : Text) :
    Except Fault (Float × Text) :=
  let digits := s.takeWhile Char.isDigit
  let rest := s.dropWhile Char.isDigit
  let (full, left) := absorb significand digits
  let exponent := start - (digits.length - left.length : Nat)
  if digits = [] then .error (missingDigit rest)
  else
    match rest with
    | c :: r =>
      if isExponentMark c then readExponent negative full exponent r
      else (ofParts negative full exponent).map (·, rest)
    | [] => (ofParts negative full exponent).map (·, rest)

/-- Reads a number without its sign. -/
def readUnsigned (negative : Bool) (s : Text) : Except Fault (Float × Text) :=
  let digits := s.takeWhile Char.isDigit
  let rest := s.dropWhile Char.isDigit
  let (significand, left) := absorb 0 digits
  let whole : Except Fault (Float × Text) :=
    if left = [] then
      .ok (Number.ofMagnitude negative (Number.nearest significand 1), rest)
    else (ofParts negative significand left.length).map (·, rest)
  if digits = [] then .error (missingDigit rest)
  else if digits.head? = some '0' ∧ digits ≠ ['0'] then .error .malformed
  else
    match rest with
    | c :: r =>
      if c = '.' then readPlaces negative significand left.length r
      else if isExponentMark c then readExponent negative significand left.length r
      else whole
    | [] => whole

/-- Reads a number. -/
def readNumber : Text → Except Fault (Float × Text)
  | '-' :: s => readUnsigned true s
  | s => readUnsigned false s

/-! ## Passing over -/

/-- Passes over an exponent from behind its mark. -/
def skipExponent (s : Text) : Except Fault Text :=
  let s := (exponentSign s).2
  if s.takeWhile Char.isDigit = [] then .error .malformed else .ok (s.dropWhile Char.isDigit)

/-- Passes over an exponent if there is one. -/
def skipExponent? (s : Text) : Except Fault Text :=
  match s with
  | c :: r => if isExponentMark c then skipExponent r else .ok s
  | [] => .ok s

/-- Passes over a number without its sign. -/
def skipUnsigned (s : Text) : Except Fault Text :=
  let digits := s.takeWhile Char.isDigit
  let rest := s.dropWhile Char.isDigit
  if digits = [] ∨ digits.head? = some '0' ∧ digits ≠ ['0'] then .error .malformed
  else
    match rest with
    | '.' :: r =>
      if r.takeWhile Char.isDigit = [] then .error .malformed
      else skipExponent? (r.dropWhile Char.isDigit)
    | _ => skipExponent? rest

/-- Passes over a number. -/
def skipNumber : Text → Except Fault Text
  | '-' :: s => skipUnsigned s
  | s => skipUnsigned s

/-! ## Writing -/

/-- The exponents of the leading digit, the first included and the last not, that are written in
plain notation. -/
def plainExponents : Int × Int := (-5, 16)

/-- The decimal with one digit before the point and an exponent. -/
def scientific (ds : Text) (exponent : Int) : Text :=
  let places := if ds.length = 1 then [] else '.' :: ds.drop 1
  let sign := if exponent < 0 then '-' else '+'
  ds.take 1 ++ places ++ 'e' :: sign :: Number.digits exponent.natAbs

/-- The text of a decimal. -/
def writeDecimal (d : Decimal) : Text :=
  let ds := Number.digits d.coefficient
  let lead := d.exponent + (ds.length : Int) - 1
  if plainExponents.1 ≤ lead ∧ lead < plainExponents.2 then
    if 0 ≤ d.exponent then d.plain ++ ['.', '0'] else d.plain
  else scientific ds lead

/-- The text of a finite double. -/
def writeFinite (v : Float) : Text :=
  let w := Number.magnitudeOf v
  let body := writeDecimal (if w = 0 then ⟨0, 0⟩ else Number.shortest .even w)
  if Number.isNegative v then '-' :: body else body

end Calculator.Json
