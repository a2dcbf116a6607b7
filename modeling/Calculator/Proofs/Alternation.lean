import Calculator.Proofs.Validity
import Mathlib.Data.List.Chain

/-!
# Operands and operators in turn

What a text lacks to be an expression shows at two neighbouring characters, or at its ends, or in
the count of its parentheses. Two facts are proved here.

**Lemma (`separated_of_derives`).** In an expression no operand stands next to another: a literal
does not touch a parenthesis from outside, and no parenthesis opens where one has just closed.

**Lemma (`isExpression_of_alternates`).** A text in which operands and operators take turns, and
whose parentheses match, is an expression. `Alternates` reads a text from left to right, with no
memory but what is awaited and how many parentheses are open. The proof goes backwards: a text that
alternates from the middle on *completes* whatever expression is being read, and then the one
around it, for each of the open parentheses (`Completes`). Levels play no role before the end:
what `+ - * /` and a factor append to an expression is an expression again.
-/

namespace Calculator

/-! ## Juxtaposition -/

/-- An operand ends with `c` and another begins with `d`. -/
def Juxtaposed (c d : Char) : Prop :=
  (Validation.isOperandEnd c = true ∧ d = '(') ∨ (c = ')' ∧ Literal.isBody d = true)

instance : DecidableRel Juxtaposed :=
  fun _ _ => inferInstanceAs (Decidable (_ ∨ _))

/-- No operand of the text is juxtaposed to another. -/
def Separated (s : Text) : Prop := s.IsChain fun c d => ¬Juxtaposed c d

instance (s : Text) : Decidable (Separated s) :=
  inferInstanceAs (Decidable (List.IsChain _ s))

theorem not_juxtaposed_left {c : Char} (hc : Validation.isOperandEnd c = false) (d : Char) :
    ¬Juxtaposed c d := by
  intro h
  rcases h with ⟨h, -⟩ | ⟨rfl, -⟩
  · rw [hc] at h
    exact Bool.noConfusion h
  · exact absurd hc (by decide)

theorem not_juxtaposed_right {d : Char} (ho : d ≠ '(') (hd : Literal.isBody d = false) (c : Char) :
    ¬Juxtaposed c d := by
  intro h
  rcases h with ⟨-, h⟩ | ⟨-, h⟩
  · exact ho h
  · rw [hd] at h
    exact Bool.noConfusion h

theorem separated_cons {c : Char} {s : Text} :
    Separated (c :: s) ↔ (∀ d, s.head? = some d → ¬Juxtaposed c d) ∧ Separated s := by
  cases s with
  | nil => simp [Separated]
  | cons d s => simp [Separated]

theorem separated_append {s t : Text} :
    Separated (s ++ t) ↔ Separated s ∧ Separated t ∧
      ∀ c, s.getLast? = some c → ∀ d, t.head? = some d → ¬Juxtaposed c d :=
  List.isChain_append

theorem separated_of_isBody {s : Text} (h : ∀ c ∈ s, Literal.isBody c = true) : Separated s := by
  induction s with
  | nil => exact List.isChain_nil
  | cons c s ih =>
    refine separated_cons.2 ⟨?_, ih fun d hd => h d (by simp [hd])⟩
    intro d hd hjuxtaposed
    have hc := h c (by simp)
    have hbody := h d (by simp [List.mem_of_head? hd])
    rcases hjuxtaposed with ⟨-, hopening⟩ | ⟨hclosing, -⟩
    · exact (Literal.ne_parenthesis_of_isBody hbody).1 hopening
    · exact (Literal.ne_parenthesis_of_isBody hc).2 hclosing

theorem Literal.separated_text (l : Literal) : Separated l.text := by
  have hunsigned := separated_of_isBody fun c => l.isBody_of_mem_unsigned
  unfold text
  split_ifs
  · exact separated_cons.2 ⟨fun d _ => not_juxtaposed_left (by decide) d, hunsigned⟩
  · exact hunsigned

theorem Operator.not_juxtaposed_symbol (op : Operator) (c : Char) :
    ¬Juxtaposed c op.symbol ∧ ¬Juxtaposed op.symbol c := by
  cases op with
  | plus | minus | times | divide =>
    exact ⟨not_juxtaposed_right (by decide) (by decide) c, not_juxtaposed_left (by decide) c⟩

theorem separated_of_derives {signed : Bool} {level : Level} {t : Text} {e : Tree}
    (h : Derives signed level t e) : Separated t := by
  induction h with
  | literal l _ => exact l.separated_text
  | parentheses h ih =>
    have hclosing : ∀ c d, [')'].head? = some d → ¬Juxtaposed c d := by
      intro c d hd
      obtain rfl : ')' = d := by simpa using hd
      exact not_juxtaposed_right (by decide) (by decide) c
    refine separated_cons.2 ⟨fun d _ => not_juxtaposed_left (by decide) d, ?_⟩
    exact separated_append.2 ⟨ih, List.isChain_singleton _, fun c _ => hclosing c⟩
  | part _ ih => exact ih
  | @binary _ _ _ _ _ _ op _ _ _ iha ihb =>
    have hright : Separated (op.symbol :: _) :=
      separated_cons.2 ⟨fun d _ => (op.not_juxtaposed_symbol d).2, ihb⟩
    refine separated_append.2 ⟨iha, hright, ?_⟩
    intro c _ d hd
    obtain rfl : op.symbol = d := by simpa using hd
    exact (op.not_juxtaposed_symbol c).1

/-! ## Reading in turn -/

/-- What comes next: an operand that may carry a sign, an operand that may not, or an operator. -/
inductive Awaited
  | first
  | operand
  | operator
  deriving DecidableEq

/-- A sign may come next. -/
def Awaited.signed : Awaited → Bool
  | first => true
  | operand | operator => false

/-- `Alternates a d s`: the text `s` goes on in turn where `a` is awaited and `d` parentheses are
open, and ends behind a complete operand with no parenthesis open. -/
inductive Alternates : Awaited → Nat → Text → Prop
  | nil : Alternates .operator 0 []
  | literal {a : Awaited} {d : Nat} {s : Text} (ha : a ≠ .operator) (l : Literal)
      (hl : l.negative = true → a.signed = true) (h : Alternates .operator d s) :
      Alternates a d (l.text ++ s)
  | opening {a : Awaited} {d : Nat} {s : Text} (ha : a ≠ .operator)
      (h : Alternates .first (d + 1) s) : Alternates a d ('(' :: s)
  | operator {d : Nat} {s : Text} (op : Operator) (h : Alternates .operand d s) :
      Alternates .operator d (op.symbol :: s)
  | closing {d : Nat} {s : Text} (h : Alternates .operator d s) :
      Alternates .operator (d + 1) (')' :: s)

/-- What an operator and a factor add to an expression gives an expression. -/
theorem exists_derives_append {signed : Bool} {s t : Text} {a b : Tree}
    (ha : Derives signed .expression s a) (op : Operator) (hb : Derives false .factor t b) :
    ∃ e, Derives signed .expression (s ++ op.symbol :: t) e := by
  by_cases hop : op ∈ Level.expression.operators
  · exact ⟨_, ha.binary hop hb.part⟩
  · have hterm : op ∈ Level.term.operators := by
      cases op <;> simp_all [Level.operators]
    -- The factor joins the last term.
    cases ha with
    | part ha => exact ⟨_, Derives.part (Derives.binary hterm ha hb)⟩
    | @binary _ _ s₁ s₂ _ _ op' hop' ha₁ ha₂ =>
      have := Derives.binary hop' ha₁ (Derives.binary hterm ha₂ hb)
      rw [← List.cons_append, ← List.append_assoc] at this
      exact ⟨_, this⟩

/-- The text goes on with every expression, to an expression. -/
def Extends (x : Text) : Prop :=
  ∀ signed s a, Derives signed .expression s a → ∃ e, Derives signed .expression (s ++ x) e

theorem extends_nil : Extends [] := by
  intro signed s a h
  exact ⟨a, by rwa [List.append_nil]⟩

theorem Extends.cons {x t : Text} {b : Tree} (hx : Extends x) (op : Operator)
    (hb : Derives false .factor t b) : Extends (op.symbol :: (t ++ x)) := by
  intro signed s a ha
  obtain ⟨e, he⟩ := exists_derives_append ha op hb
  obtain ⟨e', he'⟩ := hx signed _ e he
  exact ⟨e', by simpa using he'⟩

/-- The text goes on with an expression up to its closing parenthesis, and then with the expression
around it, for `d` parentheses. -/
inductive Completes : Nat → Text → Prop
  | last {x : Text} (hx : Extends x) : Completes 0 x
  | closing {d : Nat} {x s : Text} (hx : Extends x) (h : Completes d s) :
      Completes (d + 1) (x ++ ')' :: s)

theorem Completes.cons {d : Nat} {s t : Text} {b : Tree} (h : Completes d s) (op : Operator)
    (hb : Derives false .factor t b) : Completes d (op.symbol :: (t ++ s)) := by
  cases h with
  | last hx => exact .last (hx.cons op hb)
  | @closing d x s hx h =>
    have := Completes.closing (hx.cons op hb) h
    simpa using this

/-- A text that alternates completes the expressions that are being read. -/
theorem completes_of_alternates {a : Awaited} {d : Nat} {s : Text} (h : Alternates a d s) :
    if a = .operator then Completes d s
    else ∃ t r e, s = t ++ r ∧ Derives a.signed .factor t e ∧ Completes d r := by
  induction h with
  | nil => exact .last extends_nil
  | @literal a d s ha l hl _ ih =>
    rw [if_neg ha]
    rw [if_pos rfl] at ih
    exact ⟨l.text, s, _, rfl, .literal l hl, ih⟩
  | @opening a d s ha _ ih =>
    rw [if_neg ha]
    rw [if_neg (by decide)] at ih
    obtain ⟨t, r, e, rfl, ht, hr⟩ := ih
    cases hr with
    | @closing d x s hx h =>
      obtain ⟨e', he'⟩ := hx true t e ht.part.part
      exact ⟨'(' :: (t ++ x ++ [')']), s, e', by simp, .parentheses he', h⟩
  | @operator d s op _ ih =>
    rw [if_pos rfl]
    rw [if_neg (by decide)] at ih
    obtain ⟨t, r, e, rfl, ht, hr⟩ := ih
    exact hr.cons op ht
  | closing _ ih =>
    rw [if_pos rfl] at ih ⊢
    exact .closing extends_nil ih

/-- A text in which operands and operators take turns is an expression. -/
theorem isExpression_of_alternates {s : Text} (h : Alternates .first 0 s) : IsExpression s := by
  have := completes_of_alternates h
  rw [if_neg (by decide)] at this
  obtain ⟨t, r, e, rfl, ht, hr⟩ := this
  cases hr with
  | last hx => exact hx true t e ht.part.part

end Calculator
