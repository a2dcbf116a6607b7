import Calculator.Panel.State
import Calculator.Proofs.LogVariable
import Calculator.Proofs.ReadBack

/-!
# The history length in a variable

**Theorem (`load_of_spells`).** A variable that holds an integer in decimal sets the history length
to the nearest length in its range, if the integer is neither negative nor beyond 64 bits. A
negative integer of 64 bits is a value out of the question, and any other integer is of the wrong
kind, no matter which zeros and which sign it is written with. A panel made with the length keeps
it.

Integers have two readers, one without a sign and one with. Between them they take the integers from
`-2 ^ 63` up to `2 ^ 64`, because the one without a sign is asked first and reaches twice as far
(`ofWord_of_spells`). What neither takes is no number any more but a text. Blanks and zeros in front
cost nothing: the blanks are trimmed off before any reader sees the word, and the readers compare
the number with their bounds and not its digits.
-/

namespace Calculator

open Settings

/-! ## Integers in decimal -/

namespace Numeral

/-- The signs that an integer may be written with. -/
def signs (z : Int) : List Text := if 0 ≤ z then [[], ['+']] else [['-']]

/-- `Spells z word`: the word is the integer `z` in decimal, with a sign and with zeros in front. -/
inductive Spells (z : Int) : Text → Prop
  | intro {sign : Text} (hsign : sign ∈ signs z) (zeros : Nat) :
      Spells z (sign ++ (List.replicate zeros '0' ++ Number.digits z.natAbs))

variable {z : Int} {s word : Text}

theorem signs_of_nonneg (h : 0 ≤ z) : signs z = [[], ['+']] := if_pos h

theorem signs_of_neg (h : z < 0) : signs z = [['-']] := if_neg (by omega)

theorem isDigit_of_mem_padded {zeros n : Nat} {c : Char}
    (h : c ∈ List.replicate zeros '0' ++ Number.digits n) : c.isDigit = true := by
  rcases List.mem_append.1 h with h | h
  · rw [List.eq_of_mem_replicate h]
    rfl
  · exact Number.isDigit_of_mem_digits h

theorem natural?_padded (zeros n : Nat) :
    natural? (List.replicate zeros '0' ++ Number.digits n) = some n := by
  have hne : List.replicate zeros '0' ++ Number.digits n ≠ [] :=
    List.append_ne_nil_of_right_ne_nil _ (Number.digits_ne_nil n)
  have hall : (List.replicate zeros '0' ++ Number.digits n).all Char.isDigit = true :=
    List.all_eq_true.2 fun c hc => isDigit_of_mem_padded hc
  rw [natural?, if_pos ⟨hne, hall⟩, Number.ofDigits_append, Number.ofDigits_zeros,
    Number.ofDigits_digits, Nat.zero_mul, Nat.zero_add]

theorem head?_padded_ne {c : Char} (hc : c.isDigit = false) (zeros n : Nat) :
    (List.replicate zeros '0' ++ Number.digits n).head? ≠ some c := by
  intro hhead
  rw [isDigit_of_mem_padded (List.mem_of_head? hhead)] at hc
  cases hc

/-- Taking the sign off leaves the digits. -/
theorem takeSign_append {sign : Text} (hsign : sign ∈ signs z) (zeros n : Nat) :
    takeSign (sign ++ (List.replicate zeros '0' ++ Number.digits n)) =
      (decide (z < 0), List.replicate zeros '0' ++ Number.digits n) := by
  by_cases hz : 0 ≤ z
  · have hnonneg : decide (z < 0) = false := decide_eq_false (by omega)
    rw [signs_of_nonneg hz] at hsign
    rw [hnonneg]
    rcases List.mem_pair.1 hsign with rfl | rfl
    · have hplus := head?_padded_ne (c := '+') (by decide) zeros n
      have hminus := head?_padded_ne (c := '-') (by decide) zeros n
      rw [List.nil_append]
      generalize List.replicate zeros '0' ++ Number.digits n = s at hplus hminus
      unfold takeSign
      split
      · exact absurd rfl hplus
      · exact absurd rfl hminus
      · rfl
    · rfl
  · have hneg : decide (z < 0) = true := decide_eq_true (by omega)
    rw [signs_of_neg (by omega), List.mem_singleton] at hsign
    rw [hsign, hneg]
    rfl

theorem isSymbol_of_spells (h : Spells z word) {c : Char} (hc : c ∈ word) :
    c.isDigit = true ∨ c = '+' ∨ c = '-' := by
  obtain ⟨hsign, zeros⟩ := h
  rcases List.mem_append.1 hc with hc | hc
  · unfold signs at hsign
    split_ifs at hsign <;> aesop
  · exact .inl (isDigit_of_mem_padded hc)

/-- No character of the word is one of those. -/
theorem not_mem_of_spells (h : Spells z word) {c : Char} (hdigit : c.isDigit = false)
    (hplus : c ≠ '+') (hminus : c ≠ '-') : c ∉ word := by
  intro hc
  rcases isSymbol_of_spells h hc with hc | rfl | rfl
  · rw [hdigit] at hc
    cases hc
  · exact hplus rfl
  · exact hminus rfl

end Numeral

/-! ## The two readers of integers -/

namespace Settings

open Numeral

variable {z : Int} {s word front back : Text} {n : Nat}

theorem unsigned?_of_head? (h : s.head? ≠ some '+') :
    unsigned? s = (natural? s).filter (· < 2 ^ 64) := by
  unfold unsigned?
  split
  · exact absurd rfl h
  · rfl

/-- The reader without a sign takes what is not negative, up to 64 bits. -/
theorem unsigned?_of_spells (h : Spells z word) :
    unsigned? word = if 0 ≤ z ∧ z < 2 ^ 64 then some z.toNat else none := by
  obtain ⟨hsign, zeros⟩ := h
  by_cases hz : 0 ≤ z
  · have hread : (natural? (List.replicate zeros '0' ++ Number.digits z.natAbs)).filter
        (· < 2 ^ 64) = if 0 ≤ z ∧ z < 2 ^ 64 then some z.toNat else none := by
      rw [natural?_padded, Option.filter_some]
      have hlt : z.natAbs < 2 ^ 64 ↔ 0 ≤ z ∧ z < 2 ^ 64 := by omega
      have habs : z.toNat = z.natAbs := by omega
      simp only [decide_eq_true_eq, hlt, habs]
    rw [signs_of_nonneg hz] at hsign
    rcases List.mem_pair.1 hsign with rfl | rfl
    · rwa [List.nil_append, unsigned?_of_head? (head?_padded_ne (by decide) zeros _)]
    · exact hread
  · rw [signs_of_neg (by omega), List.mem_singleton] at hsign
    rw [hsign, unsigned?_of_head? (by simp), if_neg (by omega)]
    rfl

/-- The reader with a sign takes what has 63 bits besides it. -/
theorem signed?_of_spells (h : Spells z word) :
    signed? word = if -2 ^ 63 ≤ z ∧ z < 2 ^ 63 then some z else none := by
  obtain ⟨hsign, zeros⟩ := h
  have hvalue : (if z < 0 then -(z.natAbs : Int) else (z.natAbs : Int)) = z := by
    split_ifs <;> omega
  simp only [signed?, takeSign_append hsign, natural?_padded, Option.bind_eq_bind,
    Option.bind_some, Option.pure_def, Option.map_some, decide_eq_true_eq, hvalue,
    Option.filter_some]

/-- A word that is an integer has a value of one of three kinds. -/
theorem ofWord_of_spells (h : Spells z word) :
    ofWord word =
      if 0 ≤ z ∧ z < 2 ^ 64 then .unsigned z.toNat
      else if -2 ^ 63 ≤ z ∧ z < 0 then .signed z
      else .text word := by
  have hpoint : word.contains '.' = false := by
    simpa using not_mem_of_spells h (c := '.') (by decide) (by decide) (by decide)
  have hdecimal : isDecimal word = false := by rw [isDecimal, hpoint, Bool.false_and]
  rw [ofWord, hdecimal, if_neg (by decide), unsigned?_of_spells h, signed?_of_spells h]
  by_cases hunsigned : 0 ≤ z ∧ z < 2 ^ 64
  · rw [if_pos hunsigned, if_pos hunsigned]
  rw [if_neg hunsigned, if_neg hunsigned]
  by_cases hsigned : -2 ^ 63 ≤ z ∧ z < 0
  · rw [if_pos hsigned, if_pos (by omega)]
  · rw [if_neg hsigned, if_neg (by omega)]

/-! ## Reading the variable -/

theorem afterWord?_eq_none {c : Char} (h : c ∉ s) (word : Text) :
    afterWord? (c :: word) s = none := by
  cases s with
  | nil => rfl
  | cons d s =>
    have hd : d ≠ c := fun hd => h (by simp [hd])
    exact if_neg hd

/-- The characters that end a word, and those that values of other kinds begin with. -/
def wordBreaks : Text := ",\x7b\x7d[]tf\"'".toList

theorem isSeparator_of_no_break (h : ∀ c ∈ wordBreaks, c ∉ s) :
    ∀ c ∈ s, isSeparator c = false := by
  intro c hc
  refine Bool.eq_false_iff.2 fun hseparator => ?_
  have hmem : c ∈ ",\x7b\x7d[]".toList := List.contains_iff_mem.1 hseparator
  exact h c (List.mem_append_left "tf\"'".toList hmem) hc

/-- A text without such characters is a word. -/
theorem ofText?_of_no_break (h : ∀ c ∈ wordBreaks, c ∉ s) :
    Value.ofText? s = some (ofWord (Text.trim s)) := by
  have hsub : ∀ c ∈ s.dropWhile isGap, c ∈ s := fun c hc => (List.dropWhile_sublist _).mem hc
  have hread : ∀ n, readValue (n + 1) s = .ok (ofWord (Text.trim s), []) := by
    intro n
    rw [← Text.trim_dropWhile fun _ => isBlank_of_isGap, readValue]
    generalize s.dropWhile isGap = r at hsub
    have hr : ∀ c ∈ wordBreaks, c ∉ r := fun c hc hmem => h c hc (hsub c hmem)
    have hword := isSeparator_of_no_break hr
    have htrue : afterWord? "true".toList r = none := afterWord?_eq_none (hr 't' (by decide)) _
    have hfalse : afterWord? "false".toList r = none := afterWord?_eq_none (hr 'f' (by decide)) _
    have htake : (r.takeWhile fun c => !isSeparator c) = r :=
      List.takeWhile_eq_self_iff.2 (by simpa using hword)
    have hdrop : (r.dropWhile fun c => !isSeparator c) = [] :=
      List.dropWhile_eq_nil_iff.2 (by simpa using hword)
    simp only [htrue, hfalse]
    split
    · exact absurd List.mem_cons_self (hr '\x7b' (by decide))
    · exact absurd List.mem_cons_self (hr '[' (by decide))
    · exact absurd List.mem_cons_self (hr '"' (by decide))
    · exact absurd List.mem_cons_self (hr '\'' (by decide))
    · rw [htake, hdrop]
      rfl
  rw [Value.ofText?, hread]

/-- Trimming finds a word without blanks between blanks. -/
theorem trim_between (hne : word ≠ []) (hfront : ∀ c ∈ front, Text.isBlank c = true)
    (hword : ∀ c ∈ word, Text.isBlank c = false) (hback : ∀ c ∈ back, Text.isBlank c = true) :
    Text.trim (front ++ word ++ back) = word := by
  have hhead : ∀ c, (word ++ back).head? = some c → Text.isBlank c = false := by
    intro c hc
    rw [List.head?_append_of_ne_nil _ hne] at hc
    exact hword c (List.mem_of_head? hc)
  have hlast : ∀ c, word.reverse.head? = some c → Text.isBlank c = false := by
    intro c hc
    exact hword c (List.mem_reverse.1 (List.mem_of_head? hc))
  rw [List.append_assoc, Text.trim, List.dropWhile_append_of_pos hfront,
    Text.dropWhile_eq_self hhead, List.reverse_append,
    List.dropWhile_append_of_pos fun c hc => hback c (List.mem_reverse.1 hc),
    Text.dropWhile_eq_self hlast, List.reverse_reverse]

/-- An integer between blanks is read as the word it is written with. -/
theorem ofText?_of_spells (h : Spells z word) (hfront : ∀ c ∈ front, Text.isBlank c = true)
    (hback : ∀ c ∈ back, Text.isBlank c = true) :
    Value.ofText? (front ++ word ++ back) = some (ofWord word) := by
  have hne : word ≠ [] := by
    obtain ⟨-, zeros⟩ := h
    simp [Number.digits_ne_nil]
  have hblank : ∀ c ∈ word, Text.isBlank c = false := by
    intro c hc
    rcases isSymbol_of_spells h hc with hc | rfl | rfl
    · exact Text.isBlank_of_isAlphanum (by rw [Char.isAlphanum, hc, Bool.or_true])
    · decide
    · decide
  rw [ofText?_of_no_break, trim_between hne hfront hblank hback]
  -- A break is neither a blank nor a character of the word.
  intro c hc hmem
  have hbreaks : (wordBreaks.all fun c =>
      !Text.isBlank c && (!c.isDigit && (c ≠ '+' && c ≠ '-'))) = true := by decide
  obtain ⟨hnot, hdigit, hplus, hminus⟩ := by
    simpa only [Bool.and_eq_true, Bool.not_eq_true', decide_eq_true_eq] using
      List.all_eq_true.1 hbreaks c hc
  simp only [List.mem_append] at hmem
  rcases hmem with (hmem | hmem) | hmem
  · simp [hfront c hmem] at hnot
  · exact not_mem_of_spells h hdigit hplus hminus hmem
  · simp [hback c hmem] at hnot

/-! ## The settings of one variable -/

theorem load_variable (s : Text) :
    load [("CALC_HISTORIQUE_MAX".toList, s)] =
      match Value.ofText? s with
      | none => .error .splitCharacter
      | some v => (historyLimitOf v).map fun n => ⟨default.log, clampHistoryLimit n⟩ := by
  have hpath : path? "CALC_HISTORIQUE_MAX".toList = some [Key.historyLimit.name] := by decide
  rw [load_single hpath]
  cases Value.ofText? s with
  | none => rfl
  | some v =>
    have hlookup : lookup .historyLimit [⟨[Key.historyLimit.name], v⟩] = some v := rfl
    simp only [ofAssignments, hlookup]
    cases historyLimitOf v <;> rfl

/-- A length in its range stays where it is. -/
theorem clampHistoryLimit_clampHistoryLimit (n : Nat) :
    clampHistoryLimit (clampHistoryLimit n) = clampHistoryLimit n := by
  simp only [clampHistoryLimit, greatestHistoryLimit]
  omega

/-- A variable with an integer, written with any zeros, any sign that fits and any blanks around
it, sets the history length if the integer is not negative and has 64 bits. -/
theorem load_of_spells (h : Spells z word) (hfront : ∀ c ∈ front, Text.isBlank c = true)
    (hback : ∀ c ∈ back, Text.isBlank c = true) :
    let loaded := load [("CALC_HISTORIQUE_MAX".toList, front ++ word ++ back)]
    (0 ≤ z ∧ z < 2 ^ 64 → ∃ limit, loaded = .ok ⟨default.log, limit⟩ ∧
      (limit : Int) = max 1 (min z 200) ∧ (Panel.new limit).capacity = limit) ∧
    (-2 ^ 63 ≤ z ∧ z < 0 → loaded = .error (.wrongValue .historyLimit)) ∧
    (z < -2 ^ 63 ∨ 2 ^ 64 ≤ z → loaded = .error (.wrongType .historyLimit)) := by
  have hload : load [("CALC_HISTORIQUE_MAX".toList, front ++ word ++ back)] =
      (historyLimitOf (ofWord word)).map fun n => ⟨default.log, clampHistoryLimit n⟩ := by
    rw [load_variable, ofText?_of_spells h hfront hback]
  intro loaded
  have hloaded : loaded = _ := hload
  rw [ofWord_of_spells h] at hloaded
  refine ⟨?_, ?_, ?_⟩
  · intro hz
    rw [if_pos hz] at hloaded
    refine ⟨clampHistoryLimit z.toNat, hloaded, ?_, clampHistoryLimit_clampHistoryLimit _⟩
    simp only [clampHistoryLimit, greatestHistoryLimit]
    omega
  · intro hz
    rw [if_neg (by omega), if_pos hz, historyLimitOf, if_neg (by omega)] at hloaded
    exact hloaded
  · intro hz
    rw [if_neg (by omega), if_neg (by omega)] at hloaded
    exact hloaded

/-- The greatest integer without a sign, which the reader with a sign would refuse, and the least
one with a sign. -/
theorem load_of_spells_extremes :
    load [("CALC_HISTORIQUE_MAX".toList, "  +00018446744073709551615 ".toList)] =
        .ok ⟨default.log, 200⟩ ∧
      load [("CALC_HISTORIQUE_MAX".toList, "-9223372036854775808".toList)] =
        .error (.wrongValue .historyLimit) := by
  have hgreatest : Spells 18446744073709551615 "+00018446744073709551615".toList := by
    have hword : "+00018446744073709551615".toList = ['+'] ++ (List.replicate 3 '0' ++
        Number.digits (18446744073709551615 : Int).natAbs) := by decide +kernel
    rw [hword]
    exact .intro (by decide) 3
  have hleast : Spells (-9223372036854775808) "-9223372036854775808".toList := by
    have hword : "-9223372036854775808".toList = ['-'] ++ (List.replicate 0 '0' ++
        Number.digits (-9223372036854775808 : Int).natAbs) := by decide +kernel
    rw [hword]
    exact .intro (by decide) 0
  constructor
  · have hback : ∀ c ∈ [' '], Text.isBlank c = true := List.forall_mem_singleton.2 rfl
    have hfront : ∀ c ∈ [' ', ' '], Text.isBlank c = true := List.forall_mem_cons.2 ⟨rfl, hback⟩
    obtain ⟨limit, hlimit, hvalue, -⟩ := (load_of_spells hgreatest hfront hback).1 (by decide)
    obtain rfl : limit = 200 := by omega
    exact hlimit
  · have hnone : ∀ c ∈ ([] : Text), Text.isBlank c = true := List.forall_mem_nil _
    exact (load_of_spells hleast hnone hnone).2.1 (by decide)

end Settings

end Calculator
