import Calculator.Number.Decimal

/-!
# How doubles are printed

**The shortest decimal.** A finite double is printed with the fewest digits that still denote it:
for one digit, two digits and so on, the two neighbours of the exact value on that decimal grid are
read back, and the first grid with a hit wins. Of two hits on one grid the nearer is taken; an exact
tie between them is a choice of the format (`Tie`). Seventeen digits are enough for every double.
Behind them stands the exact decimal expansion, so a finite double always has a decimal; whichever
is printed has the double's own magnitude as its nearest one.

**Plain notation.** A double is displayed without an exponent, however large or small it is: the
digits of its shortest decimal with the point in its place, and zeros where the digits do not reach.
A whole number has no point, and negative zero keeps its sign. The three values that are no numbers
are words, of which the NaN never has a sign.
-/

namespace Calculator

namespace Number

open scoped Powers

/-! ## The shortest decimal -/

/-- Which of two equally near decimals is printed. -/
inductive Tie
  | up
  | even
  deriving DecidableEq, Repr

/-- A fraction equal to a finite magnitude. -/
def fraction (w : Nat) : Nat × Nat :=
  let (m, q) := significand w
  if 0 ≤ q then (m * 2 ^ q.toNat, 1) else (m, 2 ^ (-q).toNat)

/-- The decimal with all the digits of a finite magnitude. -/
def exactDecimal (w : Nat) : Decimal :=
  let (m, q) := significand w
  if 0 ≤ q then ⟨m * 2 ^ q.toNat, 0⟩ else ⟨m * 5 ^ (-q).toNat, q⟩

/-- The exponent of the leading decimal digit of a positive fraction. -/
def leadingPlace (num den : Nat) : Int :=
  let shift := (den.log2 + 3 - num.log2) / 3
  (digitCount (num * 10 ^ shift / den) : Int) - 1 - shift

/-- The two neighbours of a fraction among the multiples of `10^e`, the nearer first. -/
def neighbours (tie : Tie) (num den : Nat) (e : Int) : List Decimal :=
  let (a, b) := if 0 ≤ e then (num, den * 10 ^ e.toNat) else (num * 10 ^ (-e).toNat, den)
  let below := a / b
  let twice := 2 * (a % b)
  let upward := b < twice ∨ twice = b ∧ (tie = .up ∨ below % 2 = 1)
  let nearer := if upward then [below + 1, below] else [below, below + 1]
  nearer.map fun c => (Decimal.mk c e).reduced

/-- The shortest decimal whose nearest double has the finite magnitude `w`. -/
def shortest (tie : Tie) (w : Nat) : Decimal :=
  let (num, den) := fraction w
  let place := leadingPlace num den
  let found := (List.range 17).findSome? fun (n : Nat) =>
    (neighbours tie num den (place - n)).find? fun d => d.magnitude = w
  found.getD (exactDecimal w)

end Number

/-! ## Plain notation -/

/-- The digits of a decimal with the point in its place. -/
def Decimal.plain (d : Decimal) : Text :=
  let ds := Number.digits d.coefficient
  let places := (-d.exponent).toNat
  if 0 ≤ d.exponent then ds ++ List.replicate d.exponent.toNat '0'
  else if places < ds.length then
    ds.take (ds.length - places) ++ '.' :: ds.drop (ds.length - places)
  else '0' :: '.' :: (List.replicate (places - ds.length) '0' ++ ds)

namespace Number

/-- The text of a finite magnitude. -/
def plain (w : Nat) : Text := if w = 0 then ['0'] else (shortest .up w).plain

/-- The text of a double. -/
def display (v : Float) : Text :=
  if infinity < magnitudeOf v then "NaN".toList
  else
    let body := if magnitudeOf v = infinity then "inf".toList else plain (magnitudeOf v)
    if isNegative v then '-' :: body else body

end Number

end Calculator
