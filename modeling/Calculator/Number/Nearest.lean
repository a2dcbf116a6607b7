import Calculator.Text.Blank

/-!
# The double nearest to a fraction

A finite double is `m · 2^q` with `m < 2^53` and `-1074 ≤ q`, and its sign apart it is stored as a
63-bit number, here called its *magnitude*: for `m` normal, or `m` subnormal at the lowest
exponent, the magnitude is `(q + 1074) · 2^52 + m`. The formula carries by itself: `m = 2^53` at
`q` and `m = 2^52` at `q + 1` have the same magnitude, so a significand that is rounded up to the
next power of two needs no second step.

* `spacing num den` is the exponent `q` of the doubles around `num / den`.
* `nearest num den` is the magnitude of the double nearest to `num / den`, the one with the even
  significand of two that are equally near, and infinity from half a unit above the greatest
  finite double on.
-/

namespace Calculator.Number

/-! ## Powers -/

namespace Powers

-- What is computed uses the power function of natural numbers that the kernel evaluates on binary
-- numbers. Where monoids are imported, `^` would otherwise be repeated multiplication in one.
attribute [scoped instance (high)] instPowNat

end Powers

open scoped Powers

/-! ## Quotients -/

/-- The natural number nearest to `num / den`; of two that are equally near, the even one. -/
def roundQuotient (num den : Nat) : Nat :=
  let q := num / den
  let twice := 2 * (num % den)
  if twice < den then q
  else if den < twice then q + 1
  else if q % 2 = 0 then q else q + 1

/-- A fraction equal to `num / den / 2^q`. -/
def unscale (num den : Nat) (q : Int) : Nat × Nat :=
  if 0 ≤ q then (num, den * 2 ^ q.toNat) else (num * 2 ^ (-q).toNat, den)

/-! ## Magnitudes -/

/-- The lowest exponent of a double's significand. -/
def lowestExponent : Int := -1074

/-- The magnitude of infinity; those of the finite doubles lie below it. -/
def infinity : Nat := 2047 * 2 ^ (52 : Nat)

/-- The exponent of the significands of the doubles around a positive fraction: the one at which
the fraction has a whole part of 53 bits, or the lowest. -/
def spacing (num den : Nat) : Int :=
  let q := max lowestExponent ((num.log2 : Int) - den.log2 - 53)
  let scaled := unscale num den q
  if scaled.1 / scaled.2 < 2 ^ (53 : Nat) then q else q + 1

/-- The magnitude with significand `m` at exponent `q`, infinity if it is beyond the range. -/
def magnitude (m : Nat) (q : Int) : Nat :=
  min infinity ((q - lowestExponent).toNat * 2 ^ (52 : Nat) + m)

/-- The magnitude of the double nearest to `num / den`. -/
def nearest (num den : Nat) : Nat :=
  if num = 0 then 0
  else
    let q := spacing num den
    let scaled := unscale num den q
    magnitude (roundQuotient scaled.1 scaled.2) q

/-- The significand and the exponent of a finite magnitude. -/
def significand (w : Nat) : Nat × Int :=
  if w / 2 ^ (52 : Nat) = 0 then (w, lowestExponent)
  else (w % 2 ^ (52 : Nat) + 2 ^ (52 : Nat), (w / 2 ^ (52 : Nat) : Nat) - 1 + lowestExponent)

/-! ## Doubles -/

/-- The double with the given sign and magnitude. -/
def ofMagnitude (negative : Bool) (w : Nat) : Float :=
  Float.ofBits (if negative then w + 2 ^ (63 : Nat) else w).toUInt64

/-- The magnitude of a double, its sign apart. -/
def magnitudeOf (v : Float) : Nat := v.toBits.toNat % 2 ^ (63 : Nat)

/-- The sign bit of a double is set. -/
def isNegative (v : Float) : Bool := 2 ^ (63 : Nat) ≤ v.toBits.toNat

/-- The double is neither infinite nor a NaN. -/
def isFinite (v : Float) : Bool := magnitudeOf v < infinity

end Calculator.Number
