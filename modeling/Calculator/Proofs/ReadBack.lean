import Calculator.Number.Shortest
import Calculator.Proofs.Bits
import Calculator.Proofs.Literal
import Calculator.Proofs.Rounding
import Mathlib.Data.List.Induction
import Mathlib.Tactic.Ring

/-!
# What is printed reads back

**Theorem (`read?_display`).** The text of a finite double is a literal, and its value is that very
double.

Most of it holds by construction: the digits that are printed are those of a decimal that was read
back before it was chosen. What remains is the fallback, the decimal with all the digits, which
reads back because a fraction that is a double is its own nearest double
(`magnitude_exactDecimal`). The point and the zeros of plain notation do not change the value
(`Decimal.exists_writtenAs`).
-/

namespace Calculator

namespace Number

variable {w : Nat}

/-! ## Decimals with all the digits -/

/-- What the significand and the exponent of a positive magnitude are. -/
theorem significand_spec (h : 0 < w) :
    ∃ m k, significand w = (m, raised k) ∧ 0 < m ∧ m < 2 ^ 53 ∧ (k = 0 ∨ 2 ^ 52 ≤ m) ∧
      k * 2 ^ 52 + m = w := by
  unfold significand raised
  split_ifs with h0
  · exact ⟨w, 0, by rw [Nat.cast_zero, Int.zero_add], h, by omega, Or.inl rfl, by omega⟩
  · refine ⟨w % 2 ^ 52 + 2 ^ 52, w / 2 ^ 52 - 1, ?_, by omega, by omega, Or.inr (by omega),
      by omega⟩
    rw [show ((w / 2 ^ 52 - 1 : Nat) : Int) = (w / 2 ^ 52 : Nat) - 1 by omega]

/-- The decimal with all the digits of a magnitude reads back. -/
theorem magnitude_exactDecimal (h : 0 < w) (hw : w < infinity) :
    (exactDecimal w).magnitude = w := by
  obtain ⟨m, k, hsig, hpos, hlt, hk, hsum⟩ := significand_spec h
  have hmin : min infinity (k * 2 ^ 52 + m) = w := by omega
  have hlow : lowestExponent ≤ 0 := by decide
  simp only [exactDecimal, hsig]
  by_cases hq : 0 ≤ raised k
  · rw [if_pos hq, Decimal.magnitude, if_pos (Int.le_refl 0), ← hmin]
    refine nearest_of_eq (by omega) ?_ hpos hlt hk
    have hexponent : (raised k).toNat + (-lowestExponent).toNat = k := by
      unfold raised at hq ⊢
      omega
    show m * 2 ^ (raised k).toNat * 10 ^ 0 * finest = m * (1 * 2 ^ k)
    rw [Nat.pow_zero, Nat.mul_one, Nat.one_mul, Nat.mul_assoc, finest, ← Nat.pow_add, hexponent]
  · rw [if_neg hq, Decimal.magnitude, if_neg hq, ← hmin]
    refine nearest_of_eq (Nat.pow_pos (by omega)) ?_ hpos hlt hk
    have hexponent : (-raised k).toNat + k = (-lowestExponent).toNat := by
      unfold raised at hq ⊢
      omega
    show m * 5 ^ (-raised k).toNat * finest = m * (10 ^ (-raised k).toNat * 2 ^ k)
    rw [finest, ← hexponent, Nat.pow_add, Nat.mul_assoc, ← Nat.mul_assoc (5 ^ _), ← Nat.mul_pow]

/-- The decimal that is printed reads back. -/
theorem magnitude_shortest (tie : Tie) (h : 0 < w) (hw : w < infinity) :
    (shortest tie w).magnitude = w := by
  simp only [shortest]
  generalize hfound : List.findSome? _ (List.range 17) = found
  cases found with
  | none => exact magnitude_exactDecimal h hw
  | some d =>
    obtain ⟨n, -, hn⟩ := List.exists_of_findSome?_eq_some hfound
    simpa using List.find?_some hn

/-! ## Digit strings -/

theorem ofDigits_append (s t : Text) :
    ofDigits (s ++ t) = ofDigits s * 10 ^ t.length + ofDigits t := by
  induction t using List.reverseRecOn with
  | nil => simp [ofDigits]
  | append_singleton t c ih =>
    rw [← List.append_assoc, ofDigits_append_singleton, ofDigits_append_singleton, ih,
      List.length_append, List.length_singleton]
    ring

theorem ofDigits_zeros (n : Nat) : ofDigits (List.replicate n '0') = 0 := by
  induction n with
  | zero => rfl
  | succ n ih => rw [List.replicate_succ', ofDigits_append_singleton, ih]; rfl

theorem isDigit_zeros {n : Nat} : ∀ c ∈ List.replicate n '0', c.isDigit = true := by
  intro c hc
  rw [List.eq_of_mem_replicate hc]
  rfl

/-- The digits of a positive number begin with no zero. -/
theorem head?_digits {n : Nat} (h : 0 < n) : (digits n).head? ≠ some '0' := by
  fun_induction digits n with
  | case1 n hn =>
    intro hzero
    have hnat := toNat_digitChar hn
    rw [List.head?_cons, Option.some.injEq] at hzero
    rw [hzero] at hnat
    have : ('0' : Char).toNat = 48 := rfl
    omega
  | case2 n hn ih =>
    obtain ⟨c, s, hs⟩ := List.exists_cons_of_ne_nil (digits_ne_nil (n / 10))
    have := ih (by omega)
    rw [hs] at this ⊢
    exact this

theorem head?_of_append_eq_digits {s t : Text} {n : Nat} (hs : s ≠ []) (hst : s ++ t = digits n)
    (h : 0 < n) : s.head? ≠ some '0' := by
  obtain ⟨c, s, rfl⟩ := List.exists_cons_of_ne_nil hs
  have := head?_digits h
  rwa [← hst] at this

end Number

/-! ## Plain notation -/

namespace Decimal

/-- Digits, and behind a point the places if there are any. -/
def pointed (whole places : Text) : Text :=
  if places = [] then whole else whole ++ '.' :: places

theorem coefficient_pos {d : Decimal} (h : 0 < d.magnitude) : 0 < d.coefficient := by
  by_contra h0
  have hc : d.coefficient = 0 := by omega
  unfold magnitude at h
  rw [hc, Nat.zero_mul] at h
  simp [Number.nearest] at h

/-- Zeros moved from the coefficient into the exponent do not change the nearest double. -/
theorem magnitude_shift (c n : Nat) (e : Int) :
    magnitude ⟨c * 10 ^ n, e - n⟩ = magnitude ⟨c, e⟩ := by
  have hpow : ∀ k : Nat, 0 < 10 ^ k := fun k => Nat.pow_pos (by omega)
  unfold magnitude
  dsimp only
  by_cases he : 0 ≤ e
  · by_cases hn : 0 ≤ e - n
    · rw [if_pos he, if_pos hn, Nat.mul_assoc, ← Nat.pow_add]
      congr 3
      omega
    · have hsplit : c * 10 ^ n = c * 10 ^ e.toNat * 10 ^ (-(e - n)).toNat := by
        rw [Nat.mul_assoc, ← Nat.pow_add]
        congr 2
        omega
      have hmul := Number.nearest_mul (c * 10 ^ e.toNat) Nat.one_pos (hpow (-(e - n)).toNat)
      rw [Nat.one_mul] at hmul
      rw [if_pos he, if_neg hn, hsplit]
      exact hmul
  · rw [if_neg he, if_neg (by omega), show (-(e - n)).toNat = (-e).toNat + n by omega, Nat.pow_add]
    exact Number.nearest_mul c (hpow _) (hpow n)

/-- The digits `whole` and the places `places` denote, up to one rounding, the decimal `d`. -/
structure WrittenAs (d : Decimal) (whole places : Text) : Prop where
  whole_ne_nil : whole ≠ []
  isDigit_whole : ∀ c ∈ whole, c.isDigit = true
  isDigit_places : ∀ c ∈ places, c.isDigit = true
  no_leading_zero : 0 < d.coefficient → whole.head? = some '0' → whole = ['0']
  magnitude_eq : (ofParts whole places).magnitude = d.magnitude

theorem decimal?_pointed {d : Decimal} {whole places : Text} (h : d.WrittenAs whole places) :
    Literal.decimal? (pointed whole places) = some (ofParts whole places) := by
  unfold pointed
  split_ifs with hp
  · rw [Literal.decimal?_digits h.isDigit_whole, if_neg h.whole_ne_nil, hp]
  · rw [Literal.decimal?_point h.isDigit_whole (by decide),
      if_pos ⟨rfl, List.all_eq_true.2 h.isDigit_places, fun hn => hp hn.2⟩]

theorem writtenAs_zeros (d : Decimal) (he : 0 ≤ d.exponent) :
    d.WrittenAs (Number.digits d.coefficient ++ List.replicate d.exponent.toNat '0') [] where
  whole_ne_nil := by simp [Number.digits_ne_nil]
  isDigit_whole c hc :=
    (List.mem_append.1 hc).elim Number.isDigit_of_mem_digits (Number.isDigit_zeros c)
  isDigit_places := by simp
  no_leading_zero hpos hzero := by
    obtain ⟨c, s, hs⟩ := List.exists_cons_of_ne_nil (Number.digits_ne_nil d.coefficient)
    refine absurd ?_ (Number.head?_digits hpos)
    rw [hs] at hzero ⊢
    exact hzero
  magnitude_eq := by
    rw [ofParts, List.append_nil, Number.ofDigits_append, Number.ofDigits_zeros,
      Number.ofDigits_digits, List.length_replicate, magnitude, magnitude, if_pos he]
    simp

theorem writtenAs_split (d : Decimal) {n : Nat} (hn : 0 < n)
    (hlen : (n : Int) - d.exponent = (Number.digits d.coefficient).length) (he : d.exponent < 0) :
    d.WrittenAs ((Number.digits d.coefficient).take n) ((Number.digits d.coefficient).drop n) where
  whole_ne_nil := by simp [Number.digits_ne_nil, hn.ne']
  isDigit_whole c hc := Number.isDigit_of_mem_digits (List.mem_of_mem_take hc)
  isDigit_places c hc := Number.isDigit_of_mem_digits (List.mem_of_mem_drop hc)
  no_leading_zero hpos hzero :=
    absurd hzero (Number.head?_of_append_eq_digits (by simp [Number.digits_ne_nil, hn.ne'])
      (List.take_append_drop ..) hpos)
  magnitude_eq := by
    have hexponent : -(((Number.digits d.coefficient).length - n : Nat) : Int) = d.exponent := by
      omega
    rw [ofParts, List.take_append_drop, Number.ofDigits_digits, List.length_drop, hexponent]

theorem writtenAs_small (d : Decimal) {n : Nat}
    (hlen : (n : Int) + (Number.digits d.coefficient).length = -d.exponent) :
    d.WrittenAs ['0'] (List.replicate n '0' ++ Number.digits d.coefficient) where
  whole_ne_nil := by simp
  isDigit_whole := by simp
  isDigit_places c hc :=
    (List.mem_append.1 hc).elim (Number.isDigit_zeros c) Number.isDigit_of_mem_digits
  no_leading_zero _ _ := rfl
  magnitude_eq := by
    have hzeros : ['0'] ++ List.replicate n '0' = List.replicate (n + 1) '0' := rfl
    have hexponent : -((n + (Number.digits d.coefficient).length : Nat) : Int) = d.exponent := by
      omega
    rw [ofParts, ← List.append_assoc, hzeros, Number.ofDigits_append, Number.ofDigits_zeros,
      Number.ofDigits_digits, List.length_append, List.length_replicate, hexponent, Nat.zero_mul,
      Nat.zero_add]

/-- Plain notation keeps the value. The point stands behind the digits, among them or before
them. -/
theorem exists_writtenAs (d : Decimal) :
    ∃ whole places, d.plain = pointed whole places ∧ d.WrittenAs whole places := by
  have hne := Number.digits_ne_nil d.coefficient
  simp only [plain]
  by_cases he : 0 ≤ d.exponent
  · exact ⟨_, _, by rw [if_pos he]; rfl, d.writtenAs_zeros he⟩
  · rw [if_neg he]
    by_cases hlen : (-d.exponent).toNat < (Number.digits d.coefficient).length
    · refine ⟨_, _, ?_, d.writtenAs_split (n := (Number.digits d.coefficient).length -
        (-d.exponent).toNat) (by omega) (by omega) (by omega)⟩
      have hplaces : (Number.digits d.coefficient).drop
          ((Number.digits d.coefficient).length - (-d.exponent).toNat) ≠ [] := by
        rw [Ne, List.drop_eq_nil_iff]
        omega
      rw [if_pos hlen, pointed, if_neg hplaces]
    · refine ⟨_, _, ?_, d.writtenAs_small (n := (-d.exponent).toNat -
        (Number.digits d.coefficient).length) (by omega)⟩
      rw [if_neg hlen, pointed, if_neg (by simp [hne])]
      rfl

end Decimal

/-! ## Doubles -/

namespace Number

theorem decimal?_plain {w : Nat} (hw : w < infinity) :
    ∃ d, Literal.decimal? (plain w) = some d ∧ d.magnitude = w := by
  unfold plain
  split_ifs with h0
  · exact ⟨⟨0, 0⟩, by decide, by rw [h0]; decide⟩
  · obtain ⟨whole, places, hplain, hwritten⟩ := (shortest .up w).exists_writtenAs
    refine ⟨_, by rw [hplain, Decimal.decimal?_pointed hwritten], ?_⟩
    rw [hwritten.magnitude_eq]
    exact magnitude_shortest .up (by omega) hw

theorem display_of_isFinite {v : Float} (h : isFinite v = true) :
    display v = if isNegative v then '-' :: plain (magnitudeOf v) else plain (magnitudeOf v) := by
  have hw : magnitudeOf v < infinity := of_decide_eq_true h
  simp only [display]
  rw [if_neg (show ¬infinity < magnitudeOf v by omega),
    if_neg (show ¬magnitudeOf v = infinity by omega)]

/-- The text of a finite double reads back. -/
theorem read?_display {v : Float} (h : isFinite v = true) : Literal.read? (display v) = some v := by
  obtain ⟨d, hd, hmagnitude⟩ := decimal?_plain (of_decide_eq_true h)
  have hvalue := ofMagnitude_magnitudeOf v
  rw [display_of_isFinite h]
  split_ifs with hneg
  · rw [hneg] at hvalue
    rw [Literal.read?_minus, hd, Option.map_some, hmagnitude, hvalue]
  · have hunsigned := Literal.isSome_decimal?_iff.1 (Option.isSome_of_eq_some hd)
    have hhead := Literal.head?_unsigned_ne_minus ⟨false, _, hunsigned⟩
    rw [Bool.not_eq_true] at hneg
    rw [hneg] at hvalue
    rw [Literal.read?_of_head?_ne_minus hhead, hd, Option.map_some, hmagnitude, hvalue]

end Number

end Calculator
