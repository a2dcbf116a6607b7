import Calculator.Number.Nearest

/-!
# Decimal numbers

Digit strings, and the decimal numbers `coefficient · 10^exponent` that a text of digits and a
point denotes. Reading is exact until the last step, which rounds once to the nearest double, so
no literal is ever off by more than half a unit.

* `ofDigits_digits`: a number is the value of its digits.
* `Literal.read?` reads an optional minus, digits, and at most one point; at least one digit is
  needed, on either side of the point.
-/

namespace Calculator

/-! ## Digit strings -/

namespace Number

/-- The character of a digit below ten. -/
def digitChar (d : Nat) : Char := Char.ofNat (d + 48)

/-- The digits of a natural number, the leading one first. -/
def digits (n : Nat) : Text :=
  if n < 10 then [digitChar n] else digits (n / 10) ++ [digitChar (n % 10)]

/-- The value of a digit string; the empty one counts as zero. -/
def ofDigits (s : Text) : Nat := s.foldl (fun v c => 10 * v + (c.toNat - 48)) 0

/-- The number of digits of a natural number. -/
def digitCount (n : Nat) : Nat := if n < 10 then 1 else digitCount (n / 10) + 1

theorem toNat_digitChar {d : Nat} (h : d < 10) : (digitChar d).toNat = d + 48 := by
  have : ∀ d : Fin 10, (digitChar d).toNat = d + 48 := by decide
  exact this ⟨d, h⟩

theorem isDigit_digitChar {d : Nat} (h : d < 10) : (digitChar d).isDigit = true := by
  have : ∀ d : Fin 10, (digitChar d).isDigit = true := by decide
  exact this ⟨d, h⟩

theorem ofDigits_append_singleton (s : Text) (c : Char) :
    ofDigits (s ++ [c]) = 10 * ofDigits s + (c.toNat - 48) := by
  simp [ofDigits, List.foldl_append]

@[simp] theorem ofDigits_digits (n : Nat) : ofDigits (digits n) = n := by
  fun_induction digits n with
  | case1 n h => simp [ofDigits, toNat_digitChar h]
  | case2 n h ih =>
    rw [ofDigits_append_singleton, ih, toNat_digitChar (Nat.mod_lt _ (by omega))]
    omega

theorem isDigit_of_mem_digits {n : Nat} {c : Char} (h : c ∈ digits n) : c.isDigit = true := by
  fun_induction digits n with
  | case1 n hn => simp_all [isDigit_digitChar]
  | case2 n hn ih =>
    rcases List.mem_append.1 h with h | h
    · exact ih h
    · rw [List.mem_singleton.1 h]
      exact isDigit_digitChar (Nat.mod_lt _ (by omega))

theorem digits_ne_nil (n : Nat) : digits n ≠ [] := by
  rw [digits]
  split <;> simp

end Number

/-! ## Decimals -/

/-- The decimal number `coefficient · 10^exponent`. -/
structure Decimal where
  coefficient : Nat
  exponent : Int
  deriving DecidableEq, Repr

namespace Decimal

open scoped Number.Powers

/-- The magnitude of the double nearest to a decimal. -/
def magnitude (d : Decimal) : Nat :=
  if 0 ≤ d.exponent then Number.nearest (d.coefficient * 10 ^ d.exponent.toNat) 1
  else Number.nearest d.coefficient (10 ^ (-d.exponent).toNat)

/-- The decimal written as the digits `whole`, a point and the digits `places`. -/
def ofParts (whole places : Text) : Decimal :=
  ⟨Number.ofDigits (whole ++ places), -(places.length : Int)⟩

/-- The same number without trailing zeros in the coefficient. -/
def reduced (d : Decimal) : Decimal :=
  if h : d.coefficient ≠ 0 ∧ d.coefficient % 10 = 0 then
    reduced ⟨d.coefficient / 10, d.exponent + 1⟩
  else d
termination_by d.coefficient
decreasing_by omega

end Decimal

/-! ## Literals -/

namespace Literal

/-- The decimal denoted by digits with at most one point among them and at least one digit. -/
def decimal? (s : Text) : Option Decimal :=
  let whole := s.takeWhile Char.isDigit
  match s.dropWhile Char.isDigit with
  | [] => if whole = [] then none else some (Decimal.ofParts whole [])
  | c :: places =>
    if c = '.' ∧ places.all Char.isDigit ∧ ¬(whole = [] ∧ places = []) then
      some (Decimal.ofParts whole places)
    else none

/-- The double nearest to a literal: an unsigned literal, or one behind a minus. -/
def read? : Text → Option Float
  | '-' :: s => (decimal? s).map fun d => Number.ofMagnitude true d.magnitude
  | s => (decimal? s).map fun d => Number.ofMagnitude false d.magnitude

end Literal

end Calculator
