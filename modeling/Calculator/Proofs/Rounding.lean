import Calculator.Number.Nearest
import Mathlib.Tactic.Ring
import Mathlib.Tactic.SplitIfs

/-!
# Rounding sees a value

**Theorem (`nearest_mul`).** The double nearest to a fraction depends on its value only, not on the
way it is written: common factors of numerator and denominator change nothing.

**Theorem (`nearest_of_eq`).** The double nearest to a fraction that is a double is that double.

Both hold because the exponent of the doubles around a fraction, of which rounding first has an
estimate from the lengths of numerator and denominator, is determined by the value in the end
(`IsSpacing.unique`, `isSpacing_spacing`). The exponent is counted here from the lowest one, so all
quantities are natural numbers.
-/

namespace Calculator.Number

variable {num den k m c : Nat}

/-! ## Exponents counted from the lowest -/

/-- The doubles at the lowest exponent are the multiples of one over this. -/
def finest : Nat := 2 ^ (-lowestExponent).toNat

theorem finest_pos : 0 < finest := Nat.two_pow_pos _

/-- The exponent `k` above the lowest one. -/
def raised (k : Nat) : Int := k + lowestExponent

/-- The unscaled fraction, expanded by a common power of two. -/
theorem exists_unscale (num den k : Nat) :
    ∃ j, (unscale num den (raised k)).1 * 2 ^ j = num * finest ∧
      (unscale num den (raised k)).2 * 2 ^ j = den * 2 ^ k := by
  have hlow : lowestExponent ≤ 0 := by decide
  unfold unscale raised finest
  split_ifs with h
  · obtain ⟨n, hn⟩ : ∃ n : Nat, (k : Int) + lowestExponent = n := ⟨_, (Int.toNat_of_nonneg h).symm⟩
    refine ⟨(-lowestExponent).toNat, rfl, ?_⟩
    rw [hn, Int.toNat_natCast, Nat.mul_assoc, ← Nat.pow_add]
    congr 2
    omega
  · refine ⟨k, ?_, rfl⟩
    rw [Nat.mul_assoc, ← Nat.pow_add]
    congr 2
    omega

theorem unscale_div (num den k : Nat) :
    (unscale num den (raised k)).1 / (unscale num den (raised k)).2 =
      num * finest / (den * 2 ^ k) := by
  obtain ⟨j, hnum, hden⟩ := exists_unscale num den k
  rw [← hnum, ← hden, Nat.mul_div_mul_right _ _ (Nat.two_pow_pos j)]

theorem roundQuotient_mul_right (a b : Nat) (hc : 0 < c) :
    roundQuotient (a * c) (b * c) = roundQuotient a b := by
  have hlt : ∀ x y : Nat, x * c < y * c ↔ x < y := fun x y => Nat.mul_lt_mul_right hc
  simp only [roundQuotient, Nat.mul_div_mul_right a b hc, Nat.mul_mod_mul_right, ← Nat.mul_assoc,
    hlt]

theorem roundQuotient_unscale (num den k : Nat) :
    roundQuotient (unscale num den (raised k)).1 (unscale num den (raised k)).2 =
      roundQuotient (num * finest) (den * 2 ^ k) := by
  obtain ⟨j, hnum, hden⟩ := exists_unscale num den k
  rw [← hnum, ← hden, roundQuotient_mul_right _ _ (Nat.two_pow_pos j)]

theorem magnitude_raised (m k : Nat) : magnitude m (raised k) = min infinity (k * 2 ^ 52 + m) := by
  rw [magnitude, raised, Int.add_sub_cancel, Int.toNat_natCast]

/-! ## The exponent of a fraction -/

/-- At the exponent `k` the fraction has a whole part of 53 bits, or of fewer if there is no lower
exponent. -/
def IsSpacing (num den k : Nat) : Prop :=
  num * finest < 2 ^ 53 * (den * 2 ^ k) ∧ (k = 0 ∨ 2 ^ 52 * (den * 2 ^ k) ≤ num * finest)

theorem IsSpacing.unique {l : Nat} (hk : IsSpacing num den k) (hl : IsSpacing num den l) :
    k = l := by
  have hnot : ∀ {k l : Nat}, IsSpacing num den k → IsSpacing num den l → ¬k < l := by
    intro k l hk hl hlt
    obtain ⟨hk, -⟩ := hk
    obtain ⟨-, hl⟩ := hl
    have hl := hl.resolve_left (by omega)
    have hpow : 2 ^ (k + 1) ≤ 2 ^ l := Nat.pow_le_pow_right (by omega) hlt
    have : 2 ^ 53 * (den * 2 ^ k) ≤ 2 ^ 52 * (den * 2 ^ l) := by
      calc 2 ^ 53 * (den * 2 ^ k) = 2 ^ 52 * (den * 2 ^ (k + 1)) := by ring
        _ ≤ 2 ^ 52 * (den * 2 ^ l) := Nat.mul_le_mul_left _ (Nat.mul_le_mul_left _ hpow)
    omega
  have hkl := hnot hk hl
  have hlk := hnot hl hk
  omega

/-- The estimate of the exponent is right, or too small by one. -/
theorem estimate_bounds (hnum : 0 < num) (hden : 0 < den)
    (hk : raised k = max lowestExponent ((num.log2 : Int) - den.log2 - 53)) :
    num * finest < 2 ^ 54 * (den * 2 ^ k) ∧ (k = 0 ∨ 2 ^ 52 * (den * 2 ^ k) ≤ num * finest) := by
  have hlow : lowestExponent = -1074 := rfl
  unfold raised at hk
  constructor
  · calc num * finest
        < 2 ^ (num.log2 + 1) * finest := Nat.mul_lt_mul_of_pos_right Nat.lt_log2_self finest_pos
      _ = 2 ^ (num.log2 + 1 + (-lowestExponent).toNat) := (Nat.pow_add ..).symm
      _ ≤ 2 ^ (54 + (den.log2 + k)) := Nat.pow_le_pow_right (by omega) (by omega)
      _ = 2 ^ 54 * (2 ^ den.log2 * 2 ^ k) := by rw [Nat.pow_add, Nat.pow_add]
      _ ≤ 2 ^ 54 * (den * 2 ^ k) :=
          Nat.mul_le_mul_left _ (Nat.mul_le_mul_right _ (Nat.log2_self_le hden.ne'))
  · by_cases h0 : k = 0
    · exact Or.inl h0
    · right
      calc 2 ^ 52 * (den * 2 ^ k)
          ≤ 2 ^ 52 * (2 ^ (den.log2 + 1) * 2 ^ k) :=
            Nat.mul_le_mul_left _ (Nat.mul_le_mul_right _ Nat.lt_log2_self.le)
        _ = 2 ^ (52 + (den.log2 + 1 + k)) := by
            rw [Nat.pow_add 2 52, Nat.pow_add 2 (den.log2 + 1)]
        _ = 2 ^ (num.log2 + (-lowestExponent).toNat) := congrArg (2 ^ ·) (by omega)
        _ = 2 ^ num.log2 * finest := Nat.pow_add ..
        _ ≤ num * finest := Nat.mul_le_mul_right _ (Nat.log2_self_le hnum.ne')

theorem isSpacing_spacing (hnum : 0 < num) (hden : 0 < den) :
    ∃ k, spacing num den = raised k ∧ IsSpacing num den k := by
  obtain ⟨k, hk⟩ : ∃ k, raised k = max lowestExponent ((num.log2 : Int) - den.log2 - 53) := by
    refine ⟨(max lowestExponent ((num.log2 : Int) - den.log2 - 53) - lowestExponent).toNat, ?_⟩
    unfold raised
    omega
  obtain ⟨hupper, hlower⟩ := estimate_bounds hnum hden hk
  have hpos : 0 < den * 2 ^ k := Nat.mul_pos hden (Nat.two_pow_pos k)
  simp only [spacing, ← hk, unscale_div]
  split_ifs with hdiv
  · exact ⟨k, rfl, (Nat.div_lt_iff_lt_mul hpos).1 hdiv, hlower⟩
  · have hdouble : den * 2 ^ (k + 1) = 2 * (den * 2 ^ k) := by ring
    rw [Nat.div_lt_iff_lt_mul hpos, Nat.not_lt] at hdiv
    refine ⟨k + 1, by unfold raised; omega, ?_, Or.inr ?_⟩
    · rw [hdouble]
      omega
    · rw [hdouble]
      omega

/-- The double nearest to a fraction, by the exponent of the fraction. -/
theorem nearest_of_isSpacing (hnum : 0 < num) (hden : 0 < den) (h : IsSpacing num den k) :
    nearest num den = min infinity (k * 2 ^ 52 + roundQuotient (num * finest) (den * 2 ^ k)) := by
  obtain ⟨l, hl, hspacing⟩ := isSpacing_spacing hnum hden
  obtain rfl := h.unique hspacing
  rw [nearest, if_neg hnum.ne']
  simp only [hl, roundQuotient_unscale, magnitude_raised]

/-! ## The theorems -/

theorem IsSpacing.mul (h : IsSpacing num den k) (hc : 0 < c) : IsSpacing (num * c) (den * c) k := by
  have hnum : num * c * finest = num * finest * c := by ring
  have hden : ∀ n : Nat, n * (den * c * 2 ^ k) = n * (den * 2 ^ k) * c := fun n => by ring
  obtain ⟨hupper, hlower⟩ := h
  constructor
  · rw [hnum, hden]
    exact Nat.mul_lt_mul_of_pos_right hupper hc
  · refine hlower.imp_right ?_
    intro hlower
    rw [hnum, hden]
    exact Nat.mul_le_mul_right c hlower

/-- Common factors do not change the nearest double. -/
theorem nearest_mul (num : Nat) (hden : 0 < den) (hc : 0 < c) :
    nearest (num * c) (den * c) = nearest num den := by
  by_cases hnum : num = 0
  · rw [hnum, Nat.zero_mul, nearest, nearest, if_pos rfl, if_pos rfl]
  · have hpos : 0 < num := by omega
    obtain ⟨k, -, hk⟩ := isSpacing_spacing hpos hden
    rw [nearest_of_isSpacing hpos hden hk,
      nearest_of_isSpacing (Nat.mul_pos hpos hc) (Nat.mul_pos hden hc) (hk.mul hc),
      Nat.mul_right_comm num, Nat.mul_right_comm den, roundQuotient_mul_right _ _ hc]

/-- A fraction that is a double is its own nearest double. -/
theorem nearest_of_eq (hden : 0 < den) (h : num * finest = m * (den * 2 ^ k)) (hpos : 0 < m)
    (hlt : m < 2 ^ 53) (hk : k = 0 ∨ 2 ^ 52 ≤ m) :
    nearest num den = min infinity (k * 2 ^ 52 + m) := by
  have hunit : 0 < den * 2 ^ k := Nat.mul_pos hden (Nat.two_pow_pos k)
  have hnum : 0 < num := by
    by_contra h0
    have : 0 < num * finest := by rw [h]; exact Nat.mul_pos hpos hunit
    rw [show num = 0 by omega, Nat.zero_mul] at this
    omega
  have hspacing : IsSpacing num den k := by
    unfold IsSpacing
    rw [h]
    exact ⟨Nat.mul_lt_mul_of_pos_right hlt hunit, hk.imp_right (Nat.mul_le_mul_right _)⟩
  have hround : roundQuotient (m * (den * 2 ^ k)) (den * 2 ^ k) = m := by
    simp only [roundQuotient, Nat.mul_div_cancel m hunit, Nat.mul_mod_left, Nat.mul_zero,
      if_pos hunit]
  rw [nearest_of_isSpacing hnum hden hspacing, h, hround]

end Calculator.Number
