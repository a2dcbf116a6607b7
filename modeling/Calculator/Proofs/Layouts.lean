import Calculator.Proofs.Records
import Calculator.Proofs.Validity

/-!
# Removing the layout of a record

**Theorem (`withoutLayout_object`).** Whatever the layout, the text of a record without the blanks
outside its strings is the text on one line.

What is outside is found by a scan with three places: outside strings, inside one, and behind a
backslash inside one. The scan keeps a string whole, because what is written for a character leads
from inside a string to inside it again (`withoutLayout_escape`). Words and numbers are kept whole
because they have no blanks.
-/

namespace Calculator.Json

/-! ## The scan -/

/-- Where a character of a JSON text stands. -/
inductive Zone
  | outside
  | string
  /-- Behind a backslash. -/
  | escape
  deriving DecidableEq, Repr

/-- The text without the blanks outside strings, from a place in the zone on. -/
def withoutLayout : Zone → Text → Text
  | _, [] => []
  | .outside, c :: s =>
    if Text.isBlank c then withoutLayout .outside s
    else c :: withoutLayout (if c = '"' then .string else .outside) s
  | .string, c :: s =>
    c :: withoutLayout (if c = '"' then .outside else if c = '\\' then .escape else .string) s
  | .escape, c :: s => c :: withoutLayout .string s

/-- Characters that are neither blank nor a quote leave the scan outside strings. -/
theorem withoutLayout_append {s : Text} (h : ∀ c ∈ s, Text.isBlank c = false ∧ c ≠ '"')
    (rest : Text) :
    withoutLayout .outside (s ++ rest) = s ++ withoutLayout .outside rest := by
  induction s with
  | nil => rfl
  | cons c s ih =>
    obtain ⟨hblank, hquote⟩ := h c List.mem_cons_self
    have ih := ih fun d hd => h d (List.mem_cons_of_mem _ hd)
    rw [List.cons_append, withoutLayout, hblank, if_neg Bool.false_ne_true, if_neg hquote, ih,
      List.cons_append]

theorem withoutLayout_spaces {gap : Text} (h : ∀ c ∈ gap, isSpace c = true) (rest : Text) :
    withoutLayout .outside (gap ++ rest) = withoutLayout .outside rest := by
  induction gap with
  | nil => rfl
  | cons c gap ih =>
    have hblank : Text.isBlank c = true := by
      have hspace := h c List.mem_cons_self
      simp only [isSpace, Bool.or_eq_true, decide_eq_true_eq] at hspace
      rcases hspace with ((rfl | rfl) | rfl) | rfl <;> decide
    rw [List.cons_append, withoutLayout, hblank, if_pos rfl]
    exact ih fun d hd => h d (List.mem_cons_of_mem _ hd)

/-- What stands for a character in a string does not end the string. -/
theorem withoutLayout_escape (c : Char) (rest : Text) :
    withoutLayout .string (escape c ++ rest) = escape c ++ withoutLayout .string rest := by
  have hplain : ∀ d : Char, d ≠ '"' → d ≠ '\\' → ∀ s,
      withoutLayout .string (d :: s) = d :: withoutLayout .string s := by
    intro d hquote hslash s
    rw [withoutLayout, if_neg hquote, if_neg hslash]
  have hhex : ∀ n : Fin 16, hexChar n ≠ '"' ∧ hexChar n ≠ '\\' := by decide
  unfold escape
  split_ifs with hquote hslash _ _ _ _ _ hcontrol
  · rfl
  · rfl
  · rfl
  · rfl
  · rfl
  · rfl
  · rfl
  · obtain ⟨hhigh, hhigh'⟩ := hhex ⟨c.toNat / 16, by omega⟩
    obtain ⟨hlow, hlow'⟩ := hhex ⟨c.toNat % 16, by omega⟩
    have hescape : ∀ s, withoutLayout .string ('\\' :: 'u' :: s) =
        '\\' :: 'u' :: withoutLayout .string s := fun _ => rfl
    simp only [List.cons_append, List.nil_append]
    rw [hescape, hplain '0' (by decide) (by decide), hplain '0' (by decide) (by decide),
      hplain _ hhigh hhigh', hplain _ hlow hlow']
  · exact hplain c hquote hslash rest

theorem withoutLayout_quote (s rest : Text) :
    withoutLayout .outside (quote s ++ rest) = quote s ++ withoutLayout .outside rest := by
  have hbody : ∀ t : Text, withoutLayout .string (t.flatMap escape ++ '"' :: rest) =
      t.flatMap escape ++ '"' :: withoutLayout .outside rest := by
    intro t
    induction t with
    | nil => rfl
    | cons c t ih =>
      rw [List.flatMap_cons, List.append_assoc, withoutLayout_escape, ih, List.append_assoc]
  have hquote : ∀ r, quote s ++ r = '"' :: (s.flatMap escape ++ '"' :: r) := by
    intro r
    rw [quote, List.cons_append, List.append_assoc, List.singleton_append]
  have hopen : ∀ r, withoutLayout .outside ('"' :: r) = '"' :: withoutLayout .string r :=
    fun _ => rfl
  rw [hquote, hopen, hbody, hquote]

theorem Exponent.mem_text {x : Exponent} {c : Char} (h : c ∈ x.text) :
    c.isDigit = true ∨ c ∈ ".-+eE".toList := by
  have hmark : x.mark = 'e' ∨ x.mark = 'E' := by simpa [isExponentMark] using x.isMark
  rcases List.mem_cons.1 h with rfl | h
  · rcases hmark with hmark | hmark <;> rw [hmark] <;> decide
  · rcases List.mem_append.1 h with h | h
    · rcases x.isSign with hsign | hsign | hsign <;> rw [hsign] at h
      · cases h
      · rw [List.mem_singleton.1 h]
        decide
      · rw [List.mem_singleton.1 h]
        decide
    · exact Or.inl (x.isDigit_digits c h)

theorem Numeral.mem_text {n : Numeral} {c : Char} (h : c ∈ n.text) :
    c.isDigit = true ∨ c ∈ ".-+eE".toList := by
  have hmem : c = '-' ∨ c ∈ n.whole ∨ c = '.' ∨ c ∈ n.places ∨ c ∈ n.tail := by
    unfold text Decimal.pointed at h
    dsimp only at h
    split_ifs at h <;> simp only [List.mem_cons, List.mem_append] at h <;> tauto
  rcases hmem with rfl | hc | rfl | hc | hc
  · exact Or.inr (by decide)
  · exact Or.inl (n.isDigit_whole c hc)
  · exact Or.inr (by decide)
  · exact Or.inl (n.isDigit_places c hc)
  · unfold tail at hc
    cases hx : n.exponent with
    | none =>
      rw [hx] at hc
      cases hc
    | some x =>
      rw [hx] at hc
      exact x.mem_text hc

/-- A number has no blanks and no quotes. -/
theorem Numeral.isBlank_of_mem_text (n : Numeral) :
    ∀ c ∈ n.text, Text.isBlank c = false ∧ c ≠ '"' := by
  have hsigns : ∀ c ∈ ".-+eE".toList, Text.isBlank c = false ∧ c ≠ '"' := by
    simpa using (by decide : ".-+eE".toList.all fun c => !Text.isBlank c && c ≠ '"')
  intro c hc
  rcases n.mem_text hc with hdigit | hsign
  · refine ⟨Validation.isBlank_of_isAllowed ?_, ?_⟩
    · rw [Validation.isAllowed, hdigit, Bool.true_or]
    · rintro rfl
      exact absurd hdigit (by decide)
  · exact hsigns c hsign

theorem withoutLayout_write (v : Scalar) (rest : Text) :
    withoutLayout .outside (v.write ++ rest) = v.write ++ withoutLayout .outside rest := by
  have hnull : ∀ c ∈ "null".toList, Text.isBlank c = false ∧ c ≠ '"' := by
    simpa using (by decide : "null".toList.all fun c => !Text.isBlank c && c ≠ '"')
  cases v with
  | null => exact withoutLayout_append hnull rest
  | string s => exact withoutLayout_quote s rest
  | number v =>
    by_cases hfinite : Number.isFinite v = true
    · obtain ⟨n, hn, -⟩ := exists_numeral hfinite
      rw [Scalar.write, if_pos hfinite, ← hn]
      exact withoutLayout_append n.isBlank_of_mem_text rest
    · rw [Scalar.write, if_neg hfinite]
      exact withoutLayout_append hnull rest

theorem withoutLayout_member (l : Layout) (m : Text × Scalar) (rest : Text) :
    withoutLayout .outside (l.member m ++ rest) =
      Layout.line.member m ++ withoutLayout .outside rest := by
  have hcolon : ∀ r, withoutLayout .outside (':' :: r) = ':' :: withoutLayout .outside r :=
    fun _ => rfl
  simp only [Layout.member, List.append_assoc, List.cons_append,
    withoutLayout_spaces l.isSpace_before, withoutLayout_quote, hcolon,
    withoutLayout_spaces l.isSpace_between, withoutLayout_write]
  simp [Layout.line]

theorem withoutLayout_further (l : Layout) (members : List (Text × Scalar)) :
    withoutLayout .outside (l.further members) = Layout.line.further members := by
  induction members with
  | nil =>
    rw [Layout.further, withoutLayout_spaces l.isSpace_closing]
    rfl
  | cons m members ih =>
    have hcomma : ∀ r, withoutLayout .outside (',' :: r) = ',' :: withoutLayout .outside r :=
      fun _ => rfl
    rw [Layout.further, hcomma, withoutLayout_member, ih, Layout.further]

/-- Without its layout a record is written on one line. -/
theorem withoutLayout_object (l : Layout) (members : List (Text × Scalar)) :
    withoutLayout .outside (l.object members) = compact members := by
  have hopen : ∀ r, withoutLayout .outside ('\x7b' :: r) = '\x7b' :: withoutLayout .outside r :=
    fun _ => rfl
  rw [compact_eq]
  cases members with
  | nil => rw [Layout.object, hopen, withoutLayout_further, Layout.object]
  | cons m members =>
    rw [Layout.object, hopen, withoutLayout_member, withoutLayout_further, Layout.object]

end Calculator.Json
