import Calculator.Proofs.Alternation
import Calculator.Proofs.Courses
import Calculator.Proofs.Lexing
import Calculator.Proofs.Unwinding

/-!
# Which accepted texts are expressions

**Theorem (`isExpression_iff_of_evaluate`).** A text that has a value is an expression if and only
if no operand of it stands next to another.

The reduction does not look at the order of operands and operators. It counts: an operator needs two
operands when it is applied, and one operand must remain. So a missing operand is noticed only if
there is no operand too many elsewhere, as in `2(3)(*)`, whose value is six.

The count is a *weight*: a number weighs one, an operator minus one, a parenthesis nothing. The
weight of the operands above the waiting operators changes by the weight of each token
(`weight_step`), so the tokens of a text that has a value weigh one (`weight_of_reduce`). On the
other side a text whose operands are separated never weighs more than what is awaited at its start,
and it weighs that much only if it alternates (`fits_of_spells`).
-/

namespace Calculator

open Reduction

/-! ## The weight of the stacks -/

/-- What a token adds to the operands above the waiting operators. -/
def Token.weight : Token → Int
  | number _ => 1
  | operator _ => -1
  | opening | closing => 0

/-- What a list of tokens adds. -/
def Token.totalWeight : List Token → Int
  | [] => 0
  | t :: ts => t.weight + totalWeight ts

@[simp] theorem Token.totalWeight_nil : totalWeight [] = 0 := rfl

@[simp] theorem Token.totalWeight_cons (t : Token) (ts : List Token) :
    totalWeight (t :: ts) = t.weight + totalWeight ts := rfl

/-- The operands above the waiting operators. -/
def Reduction.Stacks.weight (s : Stacks) : Int :=
  s.bench.operands.length - s.markers.countP Marker.isOperator

theorem Reduction.apply_eq_ok {w w' : Bench} {m : Marker} (h : w.apply m = .ok w') :
    m.isOperator = true ∧ w.operands.length = w'.operands.length + 1 := by
  obtain ⟨a, op, b, r, rest, rfl, hw, -, rfl⟩ := exists_of_apply h
  rw [hw]
  exact ⟨rfl, rfl⟩

theorem Reduction.weight_unwind {p : Marker → Bool} {ms : List Marker} {w : Bench} {s : Stacks}
    (h : unwind p ms w = .ok s) : s.weight = Stacks.weight ⟨ms, w⟩ := by
  induction ms generalizing w with
  | nil =>
    cases h
    rfl
  | cons m ms ih =>
    by_cases hp : p m = true
    · rw [unwind_of_pos hp] at h
      obtain ⟨w', hw', h⟩ := bind_eq_ok h
      obtain ⟨hm, hlen⟩ := apply_eq_ok hw'
      rw [ih h]
      simp only [Stacks.weight, List.countP_cons, hm, if_true, hlen]
      omega
    · rw [unwind_of_neg (by simpa using hp)] at h
      cases h
      rfl

theorem Reduction.countP_dropOpening (ms : List Marker) :
    (dropOpening ms).countP Marker.isOperator = ms.countP Marker.isOperator := by
  unfold dropOpening
  split
  · rw [List.countP_cons_of_neg (by decide)]
  · rfl

theorem Reduction.weight_step {s s' : Stacks} {t : Token} (h : s.step t = .ok s') :
    s'.weight = s.weight + t.weight := by
  cases t with
  | number v =>
    cases h
    simp only [Stacks.weight, Bench.push, List.length_cons, Token.weight]
    omega
  | opening =>
    cases h
    simp [Stacks.weight, Token.weight, Marker.isOperator]
  | closing =>
    obtain ⟨r, hr, h⟩ := bind_eq_ok h
    cases h
    have := weight_unwind hr
    simp only [Stacks.weight, countP_dropOpening, Token.weight] at this ⊢
    omega
  | operator op =>
    obtain ⟨r, hr, h⟩ := bind_eq_ok h
    cases h
    have := weight_unwind hr
    simp only [Stacks.weight, List.countP_cons, Marker.isOperator, if_true, Token.weight] at this ⊢
    omega

theorem Reduction.weight_run {s s' : Stacks} {ts : List Token} (h : s.run ts = .ok s') :
    s'.weight = s.weight + Token.totalWeight ts := by
  induction ts generalizing s with
  | nil =>
    cases h
    simp
  | cons t ts ih =>
    obtain ⟨r, hr, h⟩ := bind_eq_ok h
    rw [ih h, weight_step hr, Token.totalWeight_cons]
    omega

/-- Tokens that have a value weigh one. -/
theorem Reduction.weight_of_reduce {ts : List Token} {r : Float × List Step}
    (h : reduce ts = .ok r) : Token.totalWeight ts = 1 := by
  obtain ⟨s, hs, h⟩ := bind_eq_ok h
  obtain ⟨u, hu, h⟩ := bind_eq_ok h
  have hone : u.bench.operands.length = 1 := by
    split at h
    · next v hv => rw [hv]; rfl
    · cases h
  have hrun := weight_run hs
  have hunwind := weight_unwind hu
  have hmarkers := markers_unwind_all hu
  simp only [Stacks.weight, Stacks.empty, hmarkers, hone, List.countP_nil, List.length_nil]
    at hrun hunwind
  omega

/-! ## The weight of a text -/

/-- What the rest of an expression weighs. -/
def Awaited.weight : Awaited → Int
  | first | operand => 1
  | operator => 0

theorem Awaited.weight_of_ne {a : Awaited} (h : a ≠ .operator) : a.weight = 1 := by
  cases a with
  | first | operand => rfl
  | operator => exact absurd rfl h

@[simp] theorem Awaited.weight_first : first.weight = 1 := rfl

@[simp] theorem Awaited.weight_operand : operand.weight = 1 := rfl

@[simp] theorem Awaited.weight_operator : operator.weight = 0 := rfl

theorem Awaited.eq_operator_of_weight {a : Awaited} (h : a.weight < 1) : a = .operator := by
  by_contra ha
  rw [weight_of_ne ha] at h
  omega

theorem Awaited.weight_nonneg (a : Awaited) : 0 ≤ a.weight := by
  cases a <;> decide

/-- The text weighs at most what is awaited. If it weighs as much, and its parentheses match, then
operands and operators take turns in it. -/
def Fits (a : Awaited) (s : Text) (ts : List Token) : Prop :=
  Token.totalWeight ts ≤ a.weight ∧ ∀ d : Nat, Token.totalWeight ts = a.weight →
    Validation.parenthesesFault? d s = none → Alternates a d s

theorem fits_nil (a : Awaited) : Fits a [] [] := by
  refine ⟨a.weight_nonneg, ?_⟩
  intro d hw hd
  obtain rfl := Validation.eq_zero_of_parenthesesFault?_nil hd
  cases a with
  | first | operand => exact absurd hw (by decide)
  | operator => exact .nil

theorem Fits.literal {a : Awaited} {s : Text} {ts : List Token} (h : Fits .operator s ts)
    (ha : a ≠ .operator) (l : Literal) (hl : l.negative = true → a.signed = true) :
    Fits a (l.text ++ s) (.number l.value :: ts) := by
  obtain ⟨hle, halt⟩ := h
  unfold Fits
  rw [Token.totalWeight_cons, Awaited.weight_of_ne ha]
  simp only [Token.weight, Awaited.weight_operator] at hle halt ⊢
  refine ⟨by omega, fun d hw hd => .literal ha l hl (halt d (by omega) ?_)⟩
  rwa [Validation.matched_of_derives (Derives.literal l hl) d s (by omega)] at hd

theorem Fits.opening {a : Awaited} {s : Text} {ts : List Token} (h : Fits .first s ts)
    (ha : a ≠ .operator) : Fits a ('(' :: s) (.opening :: ts) := by
  obtain ⟨hle, halt⟩ := h
  unfold Fits
  rw [Token.totalWeight_cons, Awaited.weight_of_ne ha]
  simp only [Token.weight, Awaited.weight_first] at hle halt ⊢
  refine ⟨by omega, fun d hw hd => .opening ha (halt (d + 1) (by omega) ?_)⟩
  rwa [Validation.parenthesesFault?_opening (by omega)] at hd

/-- A closing parenthesis fits only if an operator is awaited: any other text behind it weighs too
little. -/
theorem Fits.closing {s : Text} {ts : List Token} (h : Fits .operator s ts) (a : Awaited) :
    Fits a (')' :: s) (.closing :: ts) := by
  obtain ⟨hle, halt⟩ := h
  have hnonneg := a.weight_nonneg
  unfold Fits
  rw [Token.totalWeight_cons]
  simp only [Token.weight, Awaited.weight_operator] at hle halt ⊢
  refine ⟨by omega, ?_⟩
  intro d hw hd
  obtain rfl := Awaited.eq_operator_of_weight (a := a) (by omega)
  obtain ⟨k, rfl, hk⟩ := Validation.exists_of_parenthesesFault?_closing hd
  rw [Awaited.weight_operator] at hw
  exact .closing (halt k (by omega) hk)

/-- Likewise an operator. -/
theorem Fits.operator {s : Text} {ts : List Token} (h : Fits .operand s ts) (op : Operator)
    (a : Awaited) : Fits a (op.symbol :: s) (.operator op :: ts) := by
  obtain ⟨hle, halt⟩ := h
  have hnonneg := a.weight_nonneg
  unfold Fits
  rw [Token.totalWeight_cons]
  simp only [Token.weight, Awaited.weight_operand] at hle halt ⊢
  refine ⟨by omega, ?_⟩
  intro d hw hd
  obtain rfl := Awaited.eq_operator_of_weight (a := a) (by omega)
  rw [Awaited.weight_operator] at hw
  rw [Validation.parenthesesFault?_symbol op (by omega)] at hd
  exact .operator op (halt d (by omega) hd)

/-- No operand begins the text. -/
def BeginsNoOperand (s : Text) : Prop :=
  ∀ c, s.head? = some c → c ≠ '(' ∧ Literal.isBody c = false

theorem beginsNoOperand_of_literal {l : Literal} {s : Text} (h : Separated (l.text ++ s))
    (hs : Token.EndsLiteral s) : BeginsNoOperand s := by
  intro c hc
  refine ⟨?_, hs c hc⟩
  intro hopening
  subst hopening
  obtain ⟨b, hb, hbody⟩ := l.exists_getLast?_text
  obtain ⟨-, -, hjoint⟩ := separated_append.1 h
  exact hjoint b hb '(' hc (Or.inl ⟨by simp [Validation.isOperandEnd, hbody], rfl⟩)

theorem beginsNoOperand_of_closing {s : Text} (h : Separated (')' :: s)) : BeginsNoOperand s := by
  intro c hc
  have hnot := (separated_cons.1 h).1 c hc
  refine ⟨?_, ?_⟩
  · intro hopening
    exact hnot (Or.inl ⟨by decide, hopening⟩)
  · by_contra hbody
    exact hnot (Or.inr ⟨rfl, by simpa using hbody⟩)

/-- A literal where none can begin would have to begin with a sign that none can be. -/
theorem ne_operator_of_literal {a : Awaited} {l : Literal} {s : Text}
    (hl : l.negative = true → a.signed = true)
    (hbegin : a = .operator → BeginsNoOperand (l.text ++ s)) : a ≠ .operator := by
  rintro rfl
  obtain ⟨c, t, htext, hc, -⟩ := l.exists_text_eq_cons
  obtain ⟨-, hbody⟩ := hbegin rfl c (by rw [htext, List.cons_append, List.head?_cons])
  rcases hc with hc | ⟨hn, -⟩
  · simp [hc] at hbody
  · exact absurd (hl hn) (by decide)

/-- A separated text fits what is awaited. -/
theorem fits_of_spells {signed : Bool} {s : Text} {ts : List Token}
    (h : Token.Spells signed s ts) (a : Awaited) (ha : a.signed = signed) (hsep : Separated s)
    (hbegin : a = .operator → BeginsNoOperand s) : Fits a s ts := by
  induction h generalizing a with
  | nil => exact fits_nil a
  | literal l hl hs _ ih =>
    rw [← ha] at hl
    have hnext := beginsNoOperand_of_literal hsep hs
    obtain ⟨-, hrest, -⟩ := separated_append.1 hsep
    exact (ih .operator rfl hrest fun _ => hnext).literal (ne_operator_of_literal hl hbegin) l hl
  | minus _ _ ih =>
    obtain ⟨-, hrest⟩ := separated_cons.1 hsep
    exact (ih .operand rfl hrest (absurd · (by decide))).operator .minus a
  | single _ _ ht _ ih =>
    obtain ⟨-, hrest⟩ := separated_cons.1 hsep
    rcases Token.ofChar_eq_ok ht with ⟨rfl, rfl⟩ | ⟨rfl, rfl⟩ | ⟨op, rfl, rfl⟩
    · have hne : a ≠ .operator := fun ha => (hbegin ha '(' rfl).1 rfl
      exact (ih .first rfl hrest (absurd · (by decide))).opening hne
    · have hnext := beginsNoOperand_of_closing hsep
      exact (ih .operator rfl hrest fun _ => hnext).closing a
    · have hsigned : Awaited.operand.signed = decide (op.symbol = '(') := by
        simp [Awaited.signed, op.symbol_ne_parenthesis.1]
      exact (ih .operand hsigned hrest (absurd · (by decide))).operator op a

/-! ## The theorem -/

/-- What is known of a text that has a value. -/
theorem exists_of_evaluate {s : Text} {r : Evaluation} (h : evaluate s = .ok r) :
    Validation.fault? s.unspaced = none ∧ r.text = s.unspaced ∧
      Token.ofText s.unspaced = .ok r.tokens ∧ reduce r.tokens = .ok (r.value, r.steps) := by
  obtain ⟨run, hcourse⟩ := Run.exists_course s
  rw [hcourse.evaluate_eq] at h
  cases hcourse with
  | rejected | unread | interrupted => cases h
  | finished hfault htokens hreduce =>
    cases h
    exact ⟨hfault, rfl, htokens, hreduce⟩

theorem exists_of_valueOf {s : Text} {v : Float} (h : valueOf s = .ok v) :
    ∃ r, evaluate s = .ok r ∧ r.value = v := by
  unfold valueOf at h
  cases hr : evaluate s with
  | error reason =>
    rw [hr] at h
    cases h
  | ok r =>
    rw [hr] at h
    exact ⟨r, rfl, Except.ok.inj h⟩

/-- A text that has a value is an expression if and only if no operand of it stands next to
another. -/
theorem isExpression_iff_of_evaluate {s : Text} {r : Evaluation} (h : evaluate s = .ok r) :
    IsExpression s.unspaced ↔ Separated s.unspaced := by
  constructor
  · intro he
    obtain ⟨e, he⟩ := he
    exact separated_of_derives he
  · intro hsep
    obtain ⟨hfault, -, htokens, hreduce⟩ := exists_of_evaluate h
    obtain ⟨hregular, -⟩ := Validation.regular_of_fault?_eq_none hfault
    have hspells := Token.scan_eq_ok_iff.1 htokens
    obtain ⟨-, halt⟩ := fits_of_spells hspells .first rfl hsep (absurd · (by decide))
    exact isExpression_of_alternates (halt 0 (weight_of_reduce hreduce) hregular.parentheses)

theorem isExpression_product :
    ∃ r, evaluate "2 * (3)".toList = .ok r ∧ IsExpression (Text.unspaced "2 * (3)".toList) := by
  have hvalue : valueOf "2 * (3)".toList = .ok 6 := by decide +kernel
  obtain ⟨r, hr, -⟩ := exists_of_valueOf hvalue
  exact ⟨r, hr, (isExpression_iff_of_evaluate hr).2 (by decide)⟩

/-- A text that has a value and is no expression: the operand that the last parentheses lack is one
of the two that stand next to each other before. -/
theorem not_isExpression_of_evaluate :
    ∃ r, evaluate "2(3)(*)".toList = .ok r ∧ r.value = 6 ∧
      ¬IsExpression (Text.unspaced "2(3)(*)".toList) := by
  have hvalue : valueOf "2(3)(*)".toList = .ok 6 := by decide +kernel
  obtain ⟨r, hr, hv⟩ := exists_of_valueOf hvalue
  refine ⟨r, hr, hv, ?_⟩
  intro he
  obtain ⟨e, he⟩ := he
  exact absurd (separated_of_derives he) (by decide)

end Calculator
