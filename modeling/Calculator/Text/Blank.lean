/-!
# Text and blank characters

Text is a list of characters, so every reader and every printer of the library is a function on
lists. A character is *blank* when Unicode gives it the property `White_Space`: 25 characters,
listed here as ranges. The zero width space U+200B and the byte order mark U+FEFF do not have the
property and are not blank.

* `Text.unspaced` removes the blanks of a text, wherever they stand.
* `Text.trim` removes those at its two ends.
-/

namespace Calculator

/-- A text is the list of its characters. -/
abbrev Text := List Char

namespace Text

/-! ## The property -/

/-- The ranges of the Unicode property `White_Space`, ends included, in ascending order. -/
def blankRanges : List (Nat × Nat) :=
  [(0x09, 0x0D), (0x20, 0x20), (0x85, 0x85), (0xA0, 0xA0), (0x1680, 0x1680), (0x2000, 0x200A),
    (0x2028, 0x2029), (0x202F, 0x202F), (0x205F, 0x205F), (0x3000, 0x3000)]

/-- The character has the property `White_Space`. -/
def isBlank (c : Char) : Bool :=
  blankRanges.any fun r => r.1 ≤ c.toNat && c.toNat ≤ r.2

theorem isBlank_of_isAlphanum {c : Char} (h : c.isAlphanum = true) : isBlank c = false := by
  rw [Char.isAlphanum, Bool.or_eq_true] at h
  change (decide (c.val ≥ 65 ∧ c.val ≤ 90) ||
      (decide (c.val ≥ 97) && decide (c.val ≤ 122))) = true ∨
    (decide (c.val ≥ 48) && decide (c.val ≤ 57)) = true at h
  simp only [Bool.or_eq_true, Bool.and_eq_true, decide_eq_true_eq, UInt32.le_iff_toNat_le] at h
  change ((65 ≤ c.toNat ∧ c.toNat ≤ 90) ∨ (97 ≤ c.toNat ∧ c.toNat ≤ 122)) ∨
    (48 ≤ c.toNat ∧ c.toNat ≤ 57) at h
  refine Bool.eq_false_iff.2 fun hblank => ?_
  simp only [isBlank, blankRanges, List.any_cons, List.any_nil, Bool.or_eq_true,
    Bool.and_eq_true, decide_eq_true_eq, Bool.false_eq_true, or_false] at hblank
  omega

/-- The property has 25 characters. -/
example : (blankRanges.map fun r => r.2 + 1 - r.1).sum = 25 := by decide

/-! ## Removing blanks -/

/-- The text without its blanks. -/
def unspaced (s : Text) : Text := s.filter fun c => !isBlank c

/-- The text without the blanks at its two ends. -/
def trim (s : Text) : Text := ((s.dropWhile isBlank).reverse.dropWhile isBlank).reverse

@[simp] theorem unspaced_append (s t : Text) : unspaced (s ++ t) = unspaced s ++ unspaced t :=
  List.filter_append ..

@[simp] theorem unspaced_reverse (s : Text) : unspaced s.reverse = (unspaced s).reverse :=
  List.filter_reverse ..

@[simp] theorem unspaced_dropWhile (s : Text) : unspaced (s.dropWhile isBlank) = unspaced s := by
  induction s with
  | nil => rfl
  | cons c s ih =>
    by_cases hc : isBlank c = true
    · rw [List.dropWhile_cons_of_pos hc, ih, unspaced, unspaced,
        List.filter_cons_of_neg (by simp [hc])]
    · rw [List.dropWhile_cons_of_neg hc]

/-- The blanks at the two ends are among all blanks. -/
@[simp] theorem unspaced_trim (s : Text) : unspaced (trim s) = unspaced s := by
  simp [trim]

theorem dropWhile_eq_self {p : Char → Bool} {s : Text} (h : ∀ c, s.head? = some c → p c = false) :
    s.dropWhile p = s := by
  cases s with
  | nil => rfl
  | cons c s => exact List.dropWhile_cons_of_neg (by simp [h c rfl])

/-- Dropping from the end leaves the front as it is. -/
theorem head?_dropEnd {p : Char → Bool} {s : Text} {c : Char}
    (h : (s.reverse.dropWhile p).reverse.head? = some c) : s.head? = some c := by
  have hsplit : (s.reverse.dropWhile p).reverse ++ (s.reverse.takeWhile p).reverse = s := by
    rw [← List.reverse_append, List.takeWhile_append_dropWhile, List.reverse_reverse]
  rw [← hsplit, List.head?_append, h]
  rfl

@[simp] theorem trim_trim (s : Text) : trim (trim s) = trim s := by
  have hfront : ∀ c, (trim s).head? = some c → isBlank c = false := by
    intro c hc
    have hhead := List.head?_dropWhile_not isBlank s
    rw [head?_dropEnd hc] at hhead
    simpa using hhead
  have hback : ∀ c, (trim s).reverse.head? = some c → isBlank c = false := by
    intro c hc
    have hhead := List.head?_dropWhile_not isBlank (s.dropWhile isBlank).reverse
    rw [trim, List.reverse_reverse] at hc
    rw [hc] at hhead
    simpa using hhead
  rw [trim, dropWhile_eq_self hfront, dropWhile_eq_self hback, List.reverse_reverse]

theorem head?_trim (s : Text) : (trim s).head? = (s.dropWhile isBlank).head? := by
  have hhead := List.head?_dropWhile_not isBlank s
  cases h : s.dropWhile isBlank with
  | nil => simp [trim, h]
  | cons c r =>
    have hc : isBlank c = false := by simpa [h] using hhead
    rw [trim, h, List.reverse_cons, List.dropWhile_append]
    split <;> simp [hc]

/-- Trimming takes blanks off the two ends and nothing else. -/
theorem exists_eq_append_trim (s : Text) :
    ∃ front back, s = front ++ trim s ++ back ∧ front.all isBlank = true ∧
      back.all isBlank = true := by
  refine ⟨s.takeWhile isBlank, ((s.dropWhile isBlank).reverse.takeWhile isBlank).reverse,
    ?_, List.all_takeWhile, ?_⟩
  · rw [trim, List.append_assoc, ← List.reverse_append, List.takeWhile_append_dropWhile,
      List.reverse_reverse, List.takeWhile_append_dropWhile]
  · rw [List.all_reverse, List.all_takeWhile]

theorem mem_of_mem_trim {s : Text} {c : Char} (h : c ∈ s.trim) : c ∈ s := by
  have hback := (List.dropWhile_sublist _).mem (List.mem_reverse.1 h)
  exact (List.dropWhile_sublist _).mem (List.mem_reverse.1 hback)

theorem trim_dropWhile {s : Text} {p : Char → Bool} (hp : ∀ c, p c = true → isBlank c = true) :
    trim (s.dropWhile p) = trim s := by
  have hdrop : (s.dropWhile p).dropWhile isBlank = s.dropWhile isBlank := by
    induction s with
    | nil => rfl
    | cons c s ih =>
      by_cases hc : p c = true
      · rw [List.dropWhile_cons_of_pos hc, List.dropWhile_cons_of_pos (hp c hc), ih]
      · rw [List.dropWhile_cons_of_neg hc]
  rw [trim, trim, hdrop]

theorem unspaced_of_no_blank {s : Text} (h : ∀ c ∈ s, isBlank c = false) : unspaced s = s := by
  simpa [unspaced] using h

end Text

end Calculator
