import Calculator.Proofs.Lexemes
import Calculator.Proofs.ReadBack

/-!
# The displayed tokens read back

**Theorem (`ofText_line`).** The line of the tokens of a text, its spaces taken out, is read as the
same tokens again, if their numbers are finite. Every number is the same double, and every minus has
the role it had in the text.

A number is displayed with other digits than it was written with, but these are the digits of a
literal with the same value, and it has a minus in front if and only if the written one had it
(`Literal.isNegative_value`). The rest of the line is the rest of the text, character by character.
So the only thing to fear is that pieces merge when the spaces go. A number could merge with the
number before it or with an operator that a sign is mistaken for; but a text spells numbers only
where no literal has just ended (`endsLiteral_render`), and it spells negative ones only where a
minus is a sign, which is the same place in both texts.
-/

namespace Calculator

open Token (EndsLiteral Spells)

/-! ## The sign of a value -/

theorem Number.nearest_le_infinity (num den : Nat) : nearest num den ≤ infinity := by
  unfold nearest
  split_ifs
  · exact Nat.zero_le _
  · exact Nat.min_le_left ..

theorem Decimal.magnitude_le_infinity (d : Decimal) : d.magnitude ≤ Number.infinity := by
  unfold magnitude
  split_ifs <;> exact Number.nearest_le_infinity ..

/-- The value of a literal has the sign that is written, zero and infinity included. -/
theorem Literal.isNegative_value (l : Literal) : Number.isNegative l.value = l.negative := by
  obtain ⟨d, hd⟩ := Option.isSome_iff_exists.1 (isSome_decimal?_iff.2 l.isUnsigned)
  have hvalue : l.value = Number.ofMagnitude l.negative d.magnitude := by
    have hread := l.read?_text
    unfold text at hread
    split_ifs at hread with hn
    · rw [read?_minus, hd] at hread
      rw [hn]
      exact (Option.some.inj hread).symm
    · rw [read?_of_head?_ne_minus l.head?_unsigned_ne_minus, hd] at hread
      rw [Bool.not_eq_true] at hn
      rw [hn]
      exact (Option.some.inj hread).symm
  rw [hvalue, Number.isNegative_ofMagnitude _ d.magnitude_le_infinity]

/-- A finite value is displayed as a literal of the same value and the same sign. -/
theorem Literal.exists_text_eq_display {l : Literal} (h : Number.isFinite l.value = true) :
    ∃ k : Literal, k.text = Number.display l.value ∧ k.value = l.value ∧
      k.negative = l.negative := by
  obtain ⟨k, htext, hvalue⟩ := exists_text_of_read? (Number.read?_display h)
  refine ⟨k, htext, hvalue, ?_⟩
  rw [← k.isNegative_value, hvalue, l.isNegative_value]

/-! ## The line without its spaces -/

namespace Token

variable {signed : Bool} {s : Text} {ts : List Token}

/-- The numbers are neither infinite nor a NaN. -/
def AllFinite (ts : List Token) : Prop := ∀ v, number v ∈ ts → Number.isFinite v = true

theorem render_of_ofChar {c : Char} {t : Token} (h : ofChar c = .ok t) : t.render = [c] := by
  rcases ofChar_eq_ok h with ⟨rfl, rfl⟩ | ⟨rfl, rfl⟩ | ⟨op, rfl, rfl⟩ <;> rfl

/-- Where the text does not go on with a literal, its tokens do not either. -/
theorem endsLiteral_render (h : Spells false s ts) (hs : EndsLiteral s) :
    EndsLiteral (ts.flatMap render) := by
  cases h with
  | nil => exact endsLiteral_nil
  | literal l hl hrest hspells =>
    exact absurd rfl (head?_ne_number (.literal l hl hrest hspells) hs _)
  | single hc _ ht =>
    rw [List.flatMap_cons, render_of_ofChar ht]
    exact endsLiteral_cons hc

/-- What a text spells is spelled by its tokens. -/
theorem spells_render (h : Spells signed s ts) (hfinite : AllFinite ts) :
    Spells signed (ts.flatMap render) ts := by
  induction h with
  | nil => exact .nil
  | literal l hl hs hspells ih =>
    obtain ⟨k, htext, hvalue, hnegative⟩ :=
      Literal.exists_text_eq_display (hfinite l.value (by simp))
    have hrest := ih fun v hv => hfinite v (by simp [hv])
    rw [List.flatMap_cons, render, ← htext, ← hvalue]
    exact .literal k (by rwa [hnegative]) (endsLiteral_render hspells hs) hrest
  | minus hs hspells ih =>
    have hrest := ih fun v hv => hfinite v (by simp [hv])
    exact .minus (endsLiteral_render hspells hs) hrest
  | single hc hm ht _ ih =>
    have hrest := ih fun v hv => hfinite v (by simp [hv])
    rw [List.flatMap_cons, render_of_ofChar ht]
    exact .single hc hm ht hrest

theorem space_not_mem_render {t : Token} (h : AllFinite [t]) : ' ' ∉ t.render := by
  cases t with
  | number v =>
    obtain ⟨l, htext, -⟩ := Literal.exists_text_of_read? (Number.read?_display (h v (by simp)))
    intro hmem
    rw [render, ← htext] at hmem
    rcases l.isBody_or_minus_of_mem_text hmem with hbody | hminus
    · exact absurd hbody (by decide)
    · exact absurd hminus (by decide)
  | operator op => cases op <;> decide
  | opening | closing => decide

/-- The spaces of the line are those between the tokens. -/
theorem filter_line (h : AllFinite ts) : (line ts).filter (· ≠ ' ') = ts.flatMap render := by
  induction ts with
  | nil => rfl
  | cons t ts ih =>
    have hrest := ih fun v hv => h v (by simp [hv])
    have ht : t.render.filter (· ≠ ' ') = t.render := by
      have hspace : ' ' ∉ t.render := by
        refine space_not_mem_render ?_
        intro v hv
        exact h v (by simpa using Or.inl (List.mem_singleton.1 hv))
      refine List.filter_eq_self.2 fun c hc => decide_eq_true ?_
      rintro rfl
      exact hspace hc
    by_cases hts : ts = []
    · rw [hts, line_singleton, ht, List.flatMap_singleton]
    · rw [line_cons hts, List.filter_append, ht, List.filter_cons_of_neg (by simp), hrest,
        List.flatMap_cons]

end Token

/-! ## The roles of a minus -/

/-- What a minus stands for. -/
inductive MinusRole
  | sign
  | operator
  deriving DecidableEq, Repr

/-- The role of the minus of a lexeme, if it has one. -/
def Lexeme.role? : Lexeme → Option MinusRole
  | stretch r => if r.negative then some .sign else none
  | loneMinus => some .operator
  | single c => if c = '-' then some .operator else none

/-- The role of the minus that a token is displayed with, if it is. -/
def Token.role? : Token → Option MinusRole
  | number v => if Number.isNegative v then some .sign else none
  | operator op => if op = .minus then some .operator else none
  | opening | closing => none

theorem Lexeme.Reads.role?_eq {l : Lexeme} {t : Token} (h : l.Reads t) : l.role? = t.role? := by
  cases h with
  | literal l => rw [Lexeme.role?, Token.role?, l.isNegative_value]; rfl
  | operator op => cases op <;> rfl
  | loneMinus | opening | closing => rfl

/-- The lexemes of a text have the roles of its tokens. -/
theorem map_role?_lexemes {s : Text} {ts : List Token} (h : Token.ofText s = .ok ts) :
    (lexemes true s).map Lexeme.role? = ts.map Token.role? := by
  have hreads := ((lexed_of_cut (cut_lexemes true s)).ok_iff ts).1 h
  clear h
  generalize lexemes true s = ls at hreads
  induction hreads with
  | nil => rfl
  | cons ht _ ih => rw [List.map_cons, List.map_cons, ht.role?_eq, ih]

/-! ## The theorem -/

/-- The line of the tokens of a text, its spaces taken out, is read as the same tokens, and every
minus of it has the role that it had in the text. -/
theorem ofText_line {s : Text} {ts : List Token} (h : Token.ofText s = .ok ts)
    (hfinite : Token.AllFinite ts) :
    Token.ofText ((Token.line ts).filter (· ≠ ' ')) = .ok ts ∧
      (lexemes true ((Token.line ts).filter (· ≠ ' '))).map Lexeme.role? =
        (lexemes true s).map Lexeme.role? := by
  have hspells := Token.spells_render (Token.scan_eq_ok_iff.1 h) hfinite
  have hline : Token.ofText ((Token.line ts).filter (· ≠ ' ')) = .ok ts := by
    rw [Token.filter_line hfinite]
    exact Token.scan_of_spells hspells none rfl
  exact ⟨hline, by rw [map_role?_lexemes hline, map_role?_lexemes h]⟩

/-- The first zero is negative, and of the other three minus characters two are operators. -/
theorem ofText_line_product :
    Token.ofText "-0*-(-1.50-.5)".toList = .ok [.number (-0), .operator .times, .operator .minus,
        .opening, .number (-1.5), .operator .minus, .number 0.5, .closing] ∧
      Token.ofText "-0*-(-1.5-0.5)".toList = .ok [.number (-0), .operator .times, .operator .minus,
        .opening, .number (-1.5), .operator .minus, .number 0.5, .closing] := by
  have htokens : Token.ofText "-0*-(-1.50-.5)".toList = .ok [.number (-0), .operator .times,
      .operator .minus, .opening, .number (-1.5), .operator .minus, .number 0.5, .closing] := by
    decide +kernel
  have hfinite : Token.AllFinite [.number (-0), .operator .times, .operator .minus, .opening,
      .number (-1.5), .operator .minus, .number 0.5, .closing] := by
    intro v hv
    have hv : v = -0 ∨ v = -1.5 ∨ v = 0.5 := by simpa using hv
    rcases hv with rfl | rfl | rfl <;> decide +kernel
  have hline : (Token.line [.number (-0), .operator .times, .operator .minus, .opening,
      .number (-1.5), .operator .minus, .number 0.5, .closing]).filter (· ≠ ' ') =
      "-0*-(-1.5-0.5)".toList := by
    decide +kernel
  have hagain := (ofText_line htokens hfinite).1
  rw [hline] at hagain
  exact ⟨htokens, hagain⟩

end Calculator
