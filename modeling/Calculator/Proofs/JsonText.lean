import Calculator.Json.Writer
import Calculator.Proofs.ReadBack

/-!
# Numbers and strings of JSON

What is written in a JSON text, and what a reader of it finds there.

**Theorem (`exists_numeral`).** A finite double is written as a number of the JSON grammar, and the
double nearest to that number is the one that was written.

**Theorem (`readString_flatMap_escape`).** A text is written as a string that reads back as the
text, whatever characters it has.

A number is given by its parts (`Numeral`), its value is the nearest double (`Numeral.value`), and a
reader finds the value from the text alone (`decode_text`). The reader rounds once. The
readers of `Calculator.Json.Number` are less exact on purpose, they keep to what one library does.
-/

namespace Calculator.Json

/-! ## Numbers -/

/-- The exponent of a number. -/
structure Exponent where
  mark : Char
  sign : Text
  digits : Text
  isMark : isExponentMark mark = true
  isSign : sign = [] ∨ sign = ['+'] ∨ sign = ['-']
  isDigit_digits : ∀ c ∈ digits, c.isDigit = true
  digits_ne_nil : digits ≠ []

/-- A number of JSON: an optional minus, a whole part without leading zeros, places behind a point
if there are any, and an optional exponent. -/
structure Numeral where
  negative : Bool
  whole : Text
  places : Text
  exponent : Option Exponent
  isDigit_whole : ∀ c ∈ whole, c.isDigit = true
  isDigit_places : ∀ c ∈ places, c.isDigit = true
  whole_ne_nil : whole ≠ []
  no_leading_zero : whole.head? = some '0' → whole = ['0']

def Exponent.text (x : Exponent) : Text := x.mark :: (x.sign ++ x.digits)

def Exponent.value (x : Exponent) : Int :=
  if x.sign = ['-'] then -Number.ofDigits x.digits else Number.ofDigits x.digits

namespace Numeral

/-- The text of the exponent. -/
def tail (n : Numeral) : Text := n.exponent.elim [] Exponent.text

/-- The text of a number. -/
def text (n : Numeral) : Text :=
  let body := Decimal.pointed n.whole n.places ++ n.tail
  if n.negative then '-' :: body else body

/-- The decimal that a number denotes, its sign apart. -/
def decimal (n : Numeral) : Decimal :=
  ⟨Number.ofDigits (n.whole ++ n.places), n.exponent.elim 0 Exponent.value - n.places.length⟩

/-- The double nearest to a number. -/
def value (n : Numeral) : Float := Number.ofMagnitude n.negative n.decimal.magnitude

end Numeral

/-! ## Reading numbers -/

/-- The exponent that a text denotes; none is zero. -/
def decodeExponent : Text → Int
  | [] => 0
  | _ :: '-' :: s => -Number.ofDigits s
  | _ :: '+' :: s => Number.ofDigits s
  | _ :: s => Number.ofDigits s

/-- The double nearest to the number that a text without a sign denotes. -/
def decodeUnsigned (negative : Bool) (s : Text) : Float :=
  let whole := s.takeWhile Char.isDigit
  match s.dropWhile Char.isDigit with
  | '.' :: s =>
    let places := s.takeWhile Char.isDigit
    Number.ofMagnitude negative (Decimal.mk (Number.ofDigits (whole ++ places))
      (decodeExponent (s.dropWhile Char.isDigit) - places.length)).magnitude
  | s =>
    Number.ofMagnitude negative (Decimal.mk (Number.ofDigits whole) (decodeExponent s)).magnitude

/-- The double nearest to the number that a text denotes. -/
def decode : Text → Float
  | '-' :: s => decodeUnsigned true s
  | s => decodeUnsigned false s

theorem decodeExponent_text (x : Exponent) : decodeExponent x.text = x.value := by
  obtain ⟨mark, sign, digits, -, hsign, hdigit, hne⟩ := x
  unfold Exponent.text Exponent.value
  dsimp only at hsign ⊢
  rcases hsign with rfl | rfl | rfl
  · obtain ⟨c, s, rfl⟩ := List.exists_cons_of_ne_nil hne
    have hc := hdigit c (by simp)
    have hminus : c ≠ '-' := by
      intro hminus
      subst hminus
      exact absurd hc (by decide)
    have hplus : c ≠ '+' := by
      intro hplus
      subst hplus
      exact absurd hc (by decide)
    rw [if_neg (by simp)]
    unfold decodeExponent
    split <;> simp_all
  · rfl
  · rfl

namespace Numeral

variable (n : Numeral)

theorem decodeExponent_tail : decodeExponent n.tail = n.exponent.elim 0 Exponent.value := by
  unfold tail
  cases n.exponent with
  | none => rfl
  | some x => exact decodeExponent_text x

/-- The text of the exponent begins with neither a digit nor a point. -/
theorem tail_cases : n.tail = [] ∨ ∃ c s, n.tail = c :: s ∧ c.isDigit = false ∧ c ≠ '.' := by
  unfold tail
  cases n.exponent with
  | none => exact Or.inl rfl
  | some x =>
    have hmark : x.mark = 'e' ∨ x.mark = 'E' := by simpa [isExponentMark] using x.isMark
    refine Or.inr ⟨x.mark, _, rfl, ?_⟩
    rcases hmark with h | h <;> rw [h] <;> decide

theorem takeWhile_append_tail {s : Text} (h : ∀ c ∈ s, c.isDigit = true) :
    (s ++ n.tail).takeWhile Char.isDigit = s ∧ (s ++ n.tail).dropWhile Char.isDigit = n.tail := by
  rw [List.takeWhile_append_of_pos h, List.dropWhile_append_of_pos h]
  rcases n.tail_cases with htail | ⟨c, r, htail, hc, -⟩
  · simp [htail]
  · simp [htail, hc]

theorem decodeUnsigned_text : decodeUnsigned n.negative
    (Decimal.pointed n.whole n.places ++ n.tail) = n.value := by
  unfold decodeUnsigned value decimal Decimal.pointed
  by_cases hplaces : n.places = []
  · obtain ⟨htake, hdrop⟩ := n.takeWhile_append_tail n.isDigit_whole
    rw [if_pos hplaces, htake, hdrop, hplaces, List.append_nil, List.length_nil,
      ← decodeExponent_tail]
    rcases n.tail_cases with htail | ⟨c, r, htail, -, hc⟩
    · simp [htail]
    · rw [htail]
      split
      · next s hs => exact absurd (List.cons.inj hs).1 hc
      · simp
  · obtain ⟨htake, hdrop⟩ := n.takeWhile_append_tail n.isDigit_places
    have hpoint : Char.isDigit '.' = false := by decide
    rw [if_neg hplaces, List.append_assoc, List.takeWhile_append_of_pos n.isDigit_whole,
      List.dropWhile_append_of_pos n.isDigit_whole]
    simp only [List.cons_append, List.takeWhile_cons, List.dropWhile_cons, hpoint,
      Bool.false_eq_true, if_false, List.append_nil, htake, hdrop, decodeExponent_tail]

/-- Without its sign a number begins with a digit. -/
theorem exists_digit : ∃ c s, Decimal.pointed n.whole n.places ++ n.tail = c :: s ∧
    c.isDigit = true := by
  obtain ⟨c, s, hs⟩ := List.exists_cons_of_ne_nil n.whole_ne_nil
  have hc := n.isDigit_whole c (by simp [hs])
  unfold Decimal.pointed
  rw [hs]
  split_ifs
  · exact ⟨c, s ++ n.tail, rfl, hc⟩
  · exact ⟨c, s ++ '.' :: n.places ++ n.tail, rfl, hc⟩

/-- A reader finds the value of a number from its text. -/
theorem decode_text : decode n.text = n.value := by
  have hunsigned := n.decodeUnsigned_text
  unfold text
  by_cases hn : n.negative = true
  · rw [hn] at hunsigned
    simp only [hn, if_true]
    exact hunsigned
  · rw [Bool.not_eq_true] at hn
    rw [hn] at hunsigned
    simp only [hn, Bool.false_eq_true, if_false]
    rw [← hunsigned]
    obtain ⟨c, s, hs, hc⟩ := n.exists_digit
    rw [hs]
    unfold decode
    split
    · next heq =>
      rw [(List.cons.inj heq).1] at hc
      exact absurd hc (by decide)
    · rfl

/-- The word `null` is no number. -/
theorem text_ne_null : n.text ≠ "null".toList := by
  obtain ⟨c, s, hs, hc⟩ := n.exists_digit
  unfold text
  dsimp only
  rw [hs]
  intro h
  split_ifs at h
  · exact absurd (List.cons.inj h).1 (by decide)
  · rw [(List.cons.inj h).1] at hc
    exact absurd hc (by decide)

end Numeral

/-! ## Writing numbers -/

/-- The exponent that is written behind one digit and its decimals. -/
def Exponent.ofInt (e : Int) : Exponent where
  mark := 'e'
  sign := [if e < 0 then '-' else '+']
  digits := Number.digits e.natAbs
  isMark := rfl
  isSign := by split_ifs <;> simp
  isDigit_digits _ := Number.isDigit_of_mem_digits
  digits_ne_nil := Number.digits_ne_nil _

theorem Exponent.value_ofInt (e : Int) : (ofInt e).value = e := by
  unfold value ofInt
  dsimp only
  rw [Number.ofDigits_digits]
  by_cases he : e < 0
  · rw [if_pos (by simp [he])]
    omega
  · rw [if_neg (by simp [he])]
    omega

/-- A number is written for the decimal `d`. -/
def IsWritten (d : Decimal) (s : Text) : Prop :=
  ∀ negative : Bool, ∃ n : Numeral, n.negative = negative ∧
    n.text = (if negative then '-' :: s else s) ∧ n.decimal.magnitude = d.magnitude

theorem isWritten_plain {d : Decimal} (hpos : 0 < d.coefficient) : IsWritten d d.plain := by
  intro negative
  obtain ⟨whole, places, hplain, h⟩ := d.exists_writtenAs
  refine ⟨⟨negative, whole, places, none, h.isDigit_whole, h.isDigit_places, h.whole_ne_nil,
    h.no_leading_zero hpos⟩, rfl, ?_, ?_⟩
  · simp [Numeral.text, Numeral.tail, hplain]
  · rw [← h.magnitude_eq]
    simp [Numeral.decimal, Decimal.ofParts]

theorem isWritten_whole {d : Decimal} (hpos : 0 < d.coefficient) (he : 0 ≤ d.exponent) :
    IsWritten d (d.plain ++ ['.', '0']) := by
  intro negative
  have h := d.writtenAs_zeros he
  refine ⟨⟨negative, _, ['0'], none, h.isDigit_whole, by simp, h.whole_ne_nil,
    h.no_leading_zero hpos⟩, rfl, ?_, ?_⟩
  · simp [Numeral.text, Numeral.tail, Decimal.plain, Decimal.pointed, he]
  · have hshift := Decimal.magnitude_shift
      (Number.ofDigits (Number.digits d.coefficient ++ List.replicate d.exponent.toNat '0')) 1 0
    rw [← h.magnitude_eq, Decimal.ofParts, List.append_nil]
    refine Eq.trans ?_ hshift
    rw [Numeral.decimal, Number.ofDigits_append _ ['0']]
    rfl

theorem isWritten_scientific (d : Decimal) :
    IsWritten d (scientific (Number.digits d.coefficient)
      (d.exponent + ((Number.digits d.coefficient).length : Int) - 1)) := by
  intro negative
  obtain ⟨c, s, hs⟩ := List.exists_cons_of_ne_nil (Number.digits_ne_nil d.coefficient)
  have hdigit : ∀ b ∈ c :: s, b.isDigit = true := hs ▸ fun b hb => Number.isDigit_of_mem_digits hb
  have hvalue : Number.ofDigits ([c] ++ s) = d.coefficient := by
    rw [List.singleton_append, ← hs, Number.ofDigits_digits]
  have hlead : [c].head? = some '0' → [c] = ['0'] := by
    intro h
    rw [Option.some.inj h]
  rw [hs, List.length_cons]
  refine ⟨⟨negative, [c], s, some (Exponent.ofInt (d.exponent + (s.length + 1 : Nat) - 1)),
    fun b hb => hdigit b (by simp_all), fun b hb => hdigit b (by simp [hb]), by simp, hlead⟩, rfl,
    ?_, ?_⟩
  · unfold Numeral.text Numeral.tail Decimal.pointed scientific
    by_cases hplaces : s = []
    · simp [hplaces, Exponent.text, Exponent.ofInt]
    · simp [hplaces, Exponent.text, Exponent.ofInt]
  · have hexponent : (d.exponent + (s.length + 1 : Nat) - 1) - (s.length : Int) = d.exponent := by
      omega
    simp only [Numeral.decimal, hvalue, Option.elim_some, Exponent.value_ofInt, hexponent]

theorem isWritten_writeDecimal {d : Decimal} (hpos : 0 < d.coefficient) :
    IsWritten d (writeDecimal d) := by
  simp only [writeDecimal]
  split_ifs with hrange he
  · exact isWritten_whole hpos he
  · exact isWritten_plain hpos
  · exact isWritten_scientific d

/-- Zero is written with one place. -/
theorem isWritten_zero : IsWritten ⟨0, 0⟩ (writeDecimal ⟨0, 0⟩) := by
  intro negative
  refine ⟨⟨negative, ['0'], ['0'], none, by simp, by simp, by simp, fun _ => rfl⟩, rfl, ?_, ?_⟩
  · cases negative <;> decide +kernel
  · cases negative <;> decide +kernel

/-- A finite double is written as a number that denotes it. -/
theorem exists_numeral {v : Float} (h : Number.isFinite v = true) :
    ∃ n : Numeral, n.text = writeFinite v ∧ n.value = v := by
  have hw : Number.magnitudeOf v < Number.infinity := of_decide_eq_true h
  have hvalue := Number.ofMagnitude_magnitudeOf v
  have hwritten : ∃ d : Decimal, d.magnitude = Number.magnitudeOf v ∧
      IsWritten d (writeDecimal (if Number.magnitudeOf v = 0 then ⟨0, 0⟩ else
        Number.shortest .even (Number.magnitudeOf v))) := by
    split_ifs with h0
    · exact ⟨⟨0, 0⟩, by rw [h0]; decide, isWritten_zero⟩
    · have hmagnitude := Number.magnitude_shortest .even (by omega) hw
      exact ⟨_, hmagnitude, isWritten_writeDecimal (Decimal.coefficient_pos (by omega))⟩
  obtain ⟨d, hd, hwritten⟩ := hwritten
  obtain ⟨n, hn, htext, hmagnitude⟩ := hwritten (Number.isNegative v)
  refine ⟨n, ?_, ?_⟩
  · rw [htext]
    rfl
  · rw [Numeral.value, hn, hmagnitude, hd, hvalue]

/-! ## Strings -/

/-- The text `q` is a string of JSON, and the text `t` is what it says. -/
def IsString (q t : Text) : Prop := ∃ s, q = '"' :: s ∧ readString s = .ok (t, [])

theorem readString_quote (s : Text) : readString ('"' :: s) = .ok ([], s) := by
  rw [readString, if_pos rfl]

theorem readString_escape {s r : Text} {c : Char} (h : readEscape s = .ok (c, r)) :
    readString ('\\' :: s) = (readString r).map fun (t, rest) => (c :: t, rest) := by
  rw [readString, if_neg (by decide), if_pos rfl]
  split
  · next e he =>
    rw [h] at he
    cases he
  · next d r' he =>
    rw [h] at he
    cases he
    rfl

theorem readString_cons {c : Char} (hquote : c ≠ '"') (hescape : c ≠ '\\')
    (hcontrol : isControl c = false) (s : Text) :
    readString (c :: s) = (readString s).map fun (t, rest) => (c :: t, rest) := by
  rw [readString, if_neg hquote, if_neg hescape, hcontrol, if_neg Bool.false_ne_true]

theorem readEscape_control {c : Char} (h : c.toNat < 0x20) (s : Text) :
    readEscape ('u' :: '0' :: '0' :: hexChar (c.toNat / 16) :: hexChar (c.toNat % 16) :: s) =
      .ok (c, s) := by
  have hunits : ∀ n : Fin 32,
      Text.hexadecimal? ['0', '0', hexChar (n / 16), hexChar (n % 16)] = some n.val := by decide
  have hunit := hunits ⟨c.toNat, h⟩
  have hchar : Char.ofNat c.toNat = c := Char.ofNat_toNat c
  have hlow : isLowSurrogate c.toNat = false := by
    simp [isLowSurrogate]
    omega
  have hhigh : isHighSurrogate c.toNat = false := by
    simp [isHighSurrogate]
    omega
  dsimp only at hunit
  rw [readEscape, if_pos rfl, readCodePoint, readUnit, hunit]
  simp only [hlow, hhigh, Bool.false_eq_true, if_false, hchar]

/-- What is written for a character reads back as the character. -/
theorem readString_escape_append (c : Char) (s : Text) :
    readString (escape c ++ s) = (readString s).map fun (t, rest) => (c :: t, rest) := by
  by_cases hshort : c ∈ ['"', '\\', '\x08', '\x0c', '\n', '\r', '\t']
  · simp only [List.mem_cons, List.not_mem_nil, or_false] at hshort
    rcases hshort with rfl | rfl | rfl | rfl | rfl | rfl | rfl <;> exact readString_escape rfl
  · simp only [List.mem_cons, List.not_mem_nil, or_false, not_or] at hshort
    obtain ⟨hquote, hslash, hb, hf, hn, hr, ht⟩ := hshort
    rw [escape, if_neg hquote, if_neg hslash, if_neg hb, if_neg hf, if_neg hn, if_neg hr, if_neg ht]
    by_cases hcontrol : c.toNat < 0x20
    · rw [if_pos hcontrol]
      exact readString_escape (readEscape_control hcontrol s)
    · rw [if_neg hcontrol]
      exact readString_cons hquote hslash (by simpa [isControl] using hcontrol) s

/-- A text is written as a string that reads back as the text. -/
theorem readString_flatMap_escape (t rest : Text) :
    readString (t.flatMap escape ++ '"' :: rest) = .ok (t, rest) := by
  induction t with
  | nil => exact readString_quote rest
  | cons c t ih =>
    rw [List.flatMap_cons, List.append_assoc, readString_escape_append, ih]
    rfl

theorem isString_quote (t : Text) : IsString (quote t) t :=
  ⟨_, rfl, readString_flatMap_escape t []⟩

end Calculator.Json
