import Calculator.Number.Decimal
import Mathlib.Data.List.TakeWhile

/-!
# Literals

A literal is what a number looks like in an expression: digits with at most one point among them
and at least one digit, and a minus in front or none. The texts that `Literal.read?` reads are
exactly the texts of literals (`Literal.read?_text`, `Literal.exists_text_of_read?`), so every
literal has a value.
-/

namespace Calculator

/-- Digits with at most one point among them and at least one digit. -/
def Literal.IsUnsigned (s : Text) : Prop :=
  (∀ c ∈ s, c.isDigit = true ∨ c = '.') ∧ s.count '.' ≤ 1 ∧ ∃ c ∈ s, c.isDigit = true

instance (s : Text) : Decidable (Literal.IsUnsigned s) :=
  decidable_of_iff (s.all (fun c => c.isDigit || c = '.') = true ∧ s.count '.' ≤ 1 ∧
    s.any Char.isDigit = true) (by simp [Literal.IsUnsigned])

/-- A literal of the grammar. -/
structure Literal where
  negative : Bool
  unsigned : Text
  isUnsigned : Literal.IsUnsigned unsigned

namespace Literal

/-- The text of a literal. -/
def text (l : Literal) : Text := if l.negative then '-' :: l.unsigned else l.unsigned

/-- The character goes on with a literal: a digit or a point. -/
def isBody (c : Char) : Bool := c.isDigit || c = '.'

theorem isBody_iff {c : Char} : isBody c = true ↔ c.isDigit = true ∨ c = '.' := by
  simp [isBody]

theorem ne_parenthesis_of_isBody {c : Char} (h : isBody c = true) : c ≠ '(' ∧ c ≠ ')' := by
  constructor
  · intro hc
    subst hc
    exact absurd h (by decide)
  · intro hc
    subst hc
    exact absurd h (by decide)

/-! ## Reading -/

theorem isUnsigned_digits {s : Text} (h : ∀ c ∈ s, c.isDigit = true) :
    IsUnsigned s ↔ s ≠ [] := by
  have h0 : s.count '.' = 0 := List.count_eq_zero.2 fun hp => absurd (h _ hp) (by decide)
  constructor
  · rintro ⟨-, -, c, hc, -⟩ rfl
    simp at hc
  · intro hs
    obtain ⟨c, hc⟩ := List.exists_mem_of_ne_nil s hs
    exact ⟨fun c hc => Or.inl (h c hc), by omega, c, hc, h c hc⟩

theorem isUnsigned_point {whole places : Text} {c : Char}
    (hw : ∀ d ∈ whole, d.isDigit = true) (hc : c.isDigit = false) :
    IsUnsigned (whole ++ c :: places) ↔
      c = '.' ∧ (∀ d ∈ places, d.isDigit = true) ∧ ¬(whole = [] ∧ places = []) := by
  have h0 : whole.count '.' = 0 := List.count_eq_zero.2 fun hp => absurd (hw _ hp) (by decide)
  constructor
  · rintro ⟨hall, hone, d, hd, hdigit⟩
    obtain rfl : c = '.' := (hall c (by simp)).resolve_left (by simp [hc])
    have hp : places.count '.' = 0 := by
      simp only [List.count_append, h0, List.count_cons_self] at hone
      omega
    refine ⟨rfl, fun e he => (hall e (by simp [he])).resolve_right ?_, ?_⟩
    · rintro rfl
      exact List.count_eq_zero.1 hp he
    · rintro ⟨rfl, rfl⟩
      rw [List.mem_singleton.1 hd, hc] at hdigit
      exact Bool.noConfusion hdigit
  · rintro ⟨rfl, hp, hne⟩
    have h1 : places.count '.' = 0 := List.count_eq_zero.2 fun h => absurd (hp _ h) (by decide)
    refine ⟨?_, by simp [h0, h1], ?_⟩
    · intro d hd
      rcases List.mem_append.1 hd with hd | hd
      · exact Or.inl (hw d hd)
      · exact (List.mem_cons.1 hd).elim Or.inr fun hd => Or.inl (hp d hd)
    · by_cases hw0 : whole = []
      · obtain ⟨d, hd⟩ := List.exists_mem_of_ne_nil places fun h => hne ⟨hw0, h⟩
        exact ⟨d, by simp [hd], hp d hd⟩
      · obtain ⟨d, hd⟩ := List.exists_mem_of_ne_nil whole hw0
        exact ⟨d, by simp [hd], hw d hd⟩

theorem decimal?_digits {s : Text} (h : ∀ c ∈ s, c.isDigit = true) :
    decimal? s = if s = [] then none else some (Decimal.ofParts s []) := by
  have ht : (s ++ []).takeWhile Char.isDigit = s ++ [].takeWhile Char.isDigit :=
    List.takeWhile_append_of_pos h
  have hd : (s ++ []).dropWhile Char.isDigit = [].dropWhile Char.isDigit :=
    List.dropWhile_append_of_pos h
  simp only [List.append_nil, List.takeWhile_nil, List.dropWhile_nil] at ht hd
  simp only [decimal?, ht, hd]

theorem decimal?_point {whole places : Text} {c : Char}
    (hw : ∀ d ∈ whole, d.isDigit = true) (hc : c.isDigit = false) :
    decimal? (whole ++ c :: places) =
      if c = '.' ∧ places.all Char.isDigit = true ∧ ¬(whole = [] ∧ places = []) then
        some (Decimal.ofParts whole places)
      else none := by
  simp only [decimal?, List.takeWhile_append_of_pos hw, List.dropWhile_append_of_pos hw,
    List.takeWhile_cons, List.dropWhile_cons, hc, Bool.false_eq_true, if_false, List.append_nil]

/-- A text is digits, or digits and then a character that is none. -/
theorem digits_or_break (s : Text) :
    (∀ c ∈ s, c.isDigit = true) ∨ ∃ whole c places, s = whole ++ c :: places ∧
      (∀ d ∈ whole, d.isDigit = true) ∧ c.isDigit = false := by
  have hs : s.takeWhile Char.isDigit ++ s.dropWhile Char.isDigit = s :=
    List.takeWhile_append_dropWhile
  have hw : ∀ c ∈ s.takeWhile Char.isDigit, c.isDigit = true := fun c hc =>
    List.mem_takeWhile_imp hc
  cases hd : s.dropWhile Char.isDigit with
  | nil =>
    rw [hd, List.append_nil] at hs
    exact Or.inl (hs ▸ hw)
  | cons c places =>
    have hhead := List.head?_dropWhile_not Char.isDigit s
    rw [hd] at hs hhead
    exact Or.inr ⟨_, c, places, hs.symm, hw, by simpa using hhead⟩

/-- The texts that denote a decimal are the unsigned literals. -/
theorem isSome_decimal?_iff {s : Text} : (decimal? s).isSome = true ↔ IsUnsigned s := by
  rcases digits_or_break s with h | ⟨whole, c, places, rfl, hw, hc⟩
  · rw [decimal?_digits h, isUnsigned_digits h]
    split_ifs with hs <;> simp [hs]
  · rw [decimal?_point hw hc, isUnsigned_point hw hc]
    split_ifs with h <;> simpa [List.all_eq_true] using h

theorem isBody_of_mem_unsigned (l : Literal) {c : Char} (hc : c ∈ l.unsigned) :
    isBody c = true :=
  isBody_iff.2 (l.isUnsigned.1 c hc)

theorem unsigned_ne_nil (l : Literal) : l.unsigned ≠ [] := by
  obtain ⟨-, -, c, hc, -⟩ := l.isUnsigned
  exact List.ne_nil_of_mem hc

theorem read?_minus (s : Text) :
    read? ('-' :: s) = (decimal? s).map fun d => Number.ofMagnitude true d.magnitude := rfl

theorem read?_of_head?_ne_minus {s : Text} (h : s.head? ≠ some '-') :
    read? s = (decimal? s).map fun d => Number.ofMagnitude false d.magnitude := by
  unfold read?
  split
  · simp at h
  · rfl

theorem head?_unsigned_ne_minus (l : Literal) : l.unsigned.head? ≠ some '-' := by
  intro h
  exact absurd (l.isBody_of_mem_unsigned (List.mem_of_head? h)) (by decide)

/-- Every literal can be read. -/
theorem isSome_read?_text (l : Literal) : (read? l.text).isSome = true := by
  have h := isSome_decimal?_iff.2 l.isUnsigned
  unfold text
  split
  · rwa [read?_minus, Option.isSome_map]
  · rwa [read?_of_head?_ne_minus l.head?_unsigned_ne_minus, Option.isSome_map]

/-- The double that a literal denotes. -/
def value (l : Literal) : Float := (read? l.text).get l.isSome_read?_text

@[simp] theorem read?_text (l : Literal) : read? l.text = some l.value := by
  simp [value]

/-- Only literals can be read. -/
theorem exists_text_of_read? {s : Text} {v : Float} (h : read? s = some v) :
    ∃ l : Literal, l.text = s ∧ l.value = v := by
  have hl : ∃ l : Literal, l.text = s := by
    by_cases hs : s.head? = some '-'
    · obtain ⟨s, rfl⟩ := List.head?_eq_some_iff.1 hs
      rw [read?_minus, Option.map_eq_some_iff] at h
      obtain ⟨d, hd, -⟩ := h
      exact ⟨⟨true, s, isSome_decimal?_iff.1 (by simp [hd])⟩, rfl⟩
    · rw [read?_of_head?_ne_minus hs, Option.map_eq_some_iff] at h
      obtain ⟨d, hd, -⟩ := h
      exact ⟨⟨false, s, isSome_decimal?_iff.1 (by simp [hd])⟩, rfl⟩
  obtain ⟨l, rfl⟩ := hl
  rw [read?_text] at h
  exact ⟨l, rfl, Option.some.inj h⟩

end Literal

/-! ## Stretches -/

/-- Digits and points, possibly behind a minus: what a literal looks like before its points and
digits are counted. -/
structure Stretch where
  negative : Bool
  body : Text
  body_ne_nil : body ≠ []
  isBody_of_mem : ∀ c ∈ body, Literal.isBody c = true

/-- The text of a stretch. -/
def Stretch.text (r : Stretch) : Text := if r.negative then '-' :: r.body else r.body

/-- A stretch is one character, possibly a minus, and then digits and points. -/
theorem Stretch.exists_text_eq_cons (r : Stretch) :
    ∃ c s, r.text = c :: s ∧ (Literal.isBody c = true ∨ r.negative = true ∧ c = '-') ∧
      ∀ d ∈ s, Literal.isBody d = true := by
  by_cases hn : r.negative = true
  · exact ⟨'-', r.body, by simp [text, hn], Or.inr ⟨hn, rfl⟩, r.isBody_of_mem⟩
  · obtain ⟨c, s, hs⟩ := List.exists_cons_of_ne_nil r.body_ne_nil
    refine ⟨c, s, by simp [text, hn, hs], Or.inl ?_, ?_⟩
    · exact r.isBody_of_mem c (by simp [hs])
    · intro d hd
      exact r.isBody_of_mem d (by simp [hs, hd])

namespace Literal

/-! ## The characters of a literal -/

/-- A literal is a stretch. -/
def stretch (l : Literal) : Stretch :=
  ⟨l.negative, l.unsigned, l.unsigned_ne_nil, fun _ => l.isBody_of_mem_unsigned⟩

@[simp] theorem text_stretch (l : Literal) : l.stretch.text = l.text := rfl

/-- A literal is one character, possibly a minus, and then digits and points. -/
theorem exists_text_eq_cons (l : Literal) :
    ∃ c s, l.text = c :: s ∧ (isBody c = true ∨ l.negative = true ∧ c = '-') ∧
      ∀ d ∈ s, isBody d = true :=
  l.stretch.exists_text_eq_cons

theorem isBody_or_minus_of_mem_text (l : Literal) {c : Char} (hc : c ∈ l.text) :
    isBody c = true ∨ c = '-' := by
  obtain ⟨d, s, hs, hd, hbody⟩ := l.exists_text_eq_cons
  rw [hs] at hc
  rcases List.mem_cons.1 hc with rfl | hc
  · exact hd.imp_right And.right
  · exact Or.inl (hbody c hc)

/-- The last character of a literal is no minus. -/
theorem exists_getLast?_text (l : Literal) : ∃ c, l.text.getLast? = some c ∧ isBody c = true := by
  have hlast : l.text.getLast? = l.unsigned.getLast? := by
    obtain ⟨c, s, hs⟩ := List.exists_cons_of_ne_nil l.unsigned_ne_nil
    unfold text
    split_ifs
    · rw [hs, List.getLast?_cons_cons]
    · rfl
  obtain ⟨c, hc⟩ := Option.ne_none_iff_exists'.1 (mt List.getLast?_eq_none_iff.1 l.unsigned_ne_nil)
  exact ⟨c, hlast.trans hc, l.isBody_of_mem_unsigned (List.mem_of_getLast? hc)⟩

end Literal

end Calculator
