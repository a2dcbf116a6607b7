import Calculator.Proofs.Acceptance
import Calculator.Proofs.Postfix
import Mathlib.Algebra.Order.Group.Multiset
import Mathlib.Tactic.Abel

/-!
# Nothing is lost between the steps

**Theorem (`conserved_of_evaluate`).** Whenever a text has a value, the steps to it use every number
of the text and every result of a step exactly once, as an operand or as the final value, and they
apply every operator of the text exactly once. So there are as many steps as operators, and one less
than numbers; and if there are steps at all, the last one has the value for its result.

The text need not be an expression. What it needs is a reduction that succeeds, and this one keeps
an account (`Account`): the numbers taken so far and the results are the operands of the steps and
the operands on the stack; the operators taken so far are those of the steps and those that wait.
An application moves two operands from the stack into a step and brings a result, which leaves the
account as it is (`account_apply`). A token enters itself into it (`account_step`). At the end no
operator waits and one operand is on the stack.
-/

namespace Calculator

/-! ## Numbers and operators -/

/-- The operator that a token is. -/
def Token.operator? : Token → Option Operator
  | operator op => some op
  | number _ | opening | closing => none

/-- The numbers among tokens. -/
def Token.numbers (ts : List Token) : List Float := ts.filterMap value?

/-- The operators among tokens. -/
def Token.operators (ts : List Token) : List Operator := ts.filterMap operator?

theorem Token.numbers_concat (ts : List Token) (t : Token) :
    numbers (ts ++ [t]) = numbers ts ++ t.value?.toList := by
  rw [numbers, List.filterMap_append]
  cases t <;> rfl

theorem Token.operators_concat (ts : List Token) (t : Token) :
    operators (ts ++ [t]) = operators ts ++ t.operator?.toList := by
  rw [operators, List.filterMap_append]
  cases t <;> rfl

/-- The operator that a marker is. -/
def Reduction.Marker.operator? : Marker → Option Operator
  | operator op => some op
  | opening => none

/-- The operators among markers. -/
def Reduction.Marker.operators (ms : List Marker) : List Operator := ms.filterMap operator?

/-- The steps use each number and each result once and apply each operator once, and come to `v`. -/
structure Conserved (ts : List Token) (v : Float) (steps : List Step) : Prop where
  length_operators : steps.length = (Token.operators ts).length
  length_numbers : steps.length + 1 = (Token.numbers ts).length
  values : (Token.numbers ts + steps.map Step.value : Multiset Float) =
    steps.map Step.left + steps.map Step.right + {v}
  operators : (steps.map Step.op : Multiset Operator) = Token.operators ts
  computed : ∀ step ∈ steps, step.op.compute? step.left step.right = some step.value
  last : ∀ step, steps.getLast? = some step → step.value = v

namespace Reduction

variable {m : Marker} {ms : List Marker} {w w' : Bench} {s s' : Stacks} {t : Token}
  {ts us : List Token}

/-! ## The account -/

/-- The account of the stacks for the tokens taken so far. -/
structure Account (ts : List Token) (s : Stacks) : Prop where
  values : (Token.numbers ts + s.bench.steps.map Step.value : Multiset Float) =
    s.bench.steps.map Step.left + s.bench.steps.map Step.right + s.bench.operands
  operators : (s.bench.steps.map Step.op + Marker.operators s.markers : Multiset Operator) =
    Token.operators ts
  computed : ∀ step ∈ s.bench.steps, step.op.compute? step.left step.right = some step.value
  /-- The latest result has not been used yet. -/
  latest : ∀ step, s.bench.steps.head? = some step → step.value ∈ s.bench.operands

theorem account_empty : Account [] Stacks.empty where
  values := rfl
  operators := rfl
  computed := by simp [Stacks.empty]
  latest := by simp [Stacks.empty]

/-- An application moves two operands and an operator into a step. -/
theorem account_apply (h : Account ts ⟨m :: ms, w⟩) (happly : w.apply m = .ok w') :
    Account ts ⟨ms, w'⟩ := by
  obtain ⟨operands, steps⟩ := w
  obtain ⟨a, op, b, r, rest, rfl, rfl, hr, rfl⟩ := exists_of_apply happly
  constructor
  -- The result takes the place that both operands had on the stack.
  · have hvalues := h.values
    simp only [List.map_cons, ← Multiset.cons_coe, ← Multiset.singleton_add] at hvalues ⊢
    rw [add_left_comm, hvalues]
    abel
  · rw [← h.operators]
    simp only [Marker.operators, List.map_cons, List.filterMap_cons, Marker.operator?,
      ← Multiset.cons_coe, ← Multiset.singleton_add]
    abel
  · intro step hstep
    rcases List.mem_cons.1 hstep with rfl | hstep
    · exact hr
    · exact h.computed step hstep
  · intro step hstep
    cases hstep
    exact List.mem_cons_self

theorem account_unwind {p : Marker → Bool} (h : Account ts ⟨ms, w⟩)
    (hunwind : unwind p ms w = .ok s) : Account ts s := by
  induction ms generalizing w with
  | nil =>
    cases hunwind
    exact h
  | cons m ms ih =>
    by_cases hp : p m = true
    · rw [unwind_of_pos hp] at hunwind
      obtain ⟨w', happly, hunwind⟩ := bind_eq_ok hunwind
      exact ih (account_apply h happly) hunwind
    · rw [unwind_of_neg (by simpa using hp)] at hunwind
      cases hunwind
      exact h

theorem operators_dropOpening (ms : List Marker) :
    Marker.operators (dropOpening ms) = Marker.operators ms := by
  unfold dropOpening
  split <;> rfl

/-- The account for one more token, which is put on the stack where it belongs. -/
theorem account_enter (h : Account ts s) (t : Token)
    (hms : Marker.operators ms = t.operator?.toList ++ Marker.operators s.markers) :
    Account (ts ++ [t]) ⟨ms, ⟨t.value?.toList ++ s.bench.operands, s.bench.steps⟩⟩ := by
  constructor
  · rw [Token.numbers_concat, ← Multiset.coe_add, ← Multiset.coe_add, add_right_comm, h.values]
    abel
  · rw [Token.operators_concat, hms, ← Multiset.coe_add, ← Multiset.coe_add, ← h.operators]
    abel
  · exact h.computed
  · exact fun step hstep => List.mem_append_right _ (h.latest step hstep)

/-- A token enters itself into the account. -/
theorem account_step (h : Account ts s) (hstep : s.step t = .ok s') :
    Account (ts ++ [t]) s' := by
  cases t with
  | number v =>
    cases hstep
    exact account_enter h (.number v) rfl
  | opening =>
    cases hstep
    exact account_enter h .opening rfl
  | closing =>
    obtain ⟨r, hr, hstep⟩ := bind_eq_ok hstep
    cases hstep
    exact account_enter (account_unwind h hr) .closing (operators_dropOpening r.markers)
  | operator op =>
    obtain ⟨r, hr, hstep⟩ := bind_eq_ok hstep
    cases hstep
    exact account_enter (account_unwind h hr) (.operator op) rfl

theorem account_run (h : Account ts s) (hrun : s.run us = .ok s') : Account (ts ++ us) s' := by
  induction us generalizing ts s with
  | nil =>
    cases hrun
    rwa [List.append_nil]
  | cons u us ih =>
    obtain ⟨r, hr, hrun⟩ := bind_eq_ok hrun
    rw [List.append_cons]
    exact ih (account_step h hr) hrun

/-! ## The end of the tokens -/

/-- At the end the account has one operand and no operator that waits. -/
theorem conserved_of_account {v : Float} (h : Account ts s) (hmarkers : s.markers = [])
    (hoperands : s.bench.operands = [v]) : Conserved ts v s.bench.steps.reverse := by
  have hvalues : (Token.numbers ts + s.bench.steps.map Step.value : Multiset Float) =
      s.bench.steps.map Step.left + s.bench.steps.map Step.right + {v} := by
    rw [h.values, hoperands]
    rfl
  have hoperators : (s.bench.steps.map Step.op : Multiset Operator) = Token.operators ts := by
    rw [← h.operators, hmarkers]
    exact (add_zero _).symm
  -- The numbers of steps are the sizes of the two multisets.
  have hcard := congrArg Multiset.card hvalues
  have hcount := congrArg Multiset.card hoperators
  simp only [Multiset.card_add, Multiset.coe_card, Multiset.card_singleton, List.length_map]
    at hcard hcount
  constructor
  · rw [List.length_reverse, hcount]
  · rw [List.length_reverse]
    omega
  · simpa only [List.map_reverse, Multiset.coe_reverse] using hvalues
  · simpa only [List.map_reverse, Multiset.coe_reverse] using hoperators
  · intro step hstep
    exact h.computed step (List.mem_reverse.1 hstep)
  · intro step hstep
    rw [List.getLast?_reverse] at hstep
    have hlatest := h.latest step hstep
    rwa [hoperands, List.mem_singleton] at hlatest

theorem conserved_of_reduce {v : Float} {steps : List Step} (h : reduce ts = .ok (v, steps)) :
    Conserved ts v steps := by
  obtain ⟨s, hs, h⟩ := bind_eq_ok h
  obtain ⟨u, hu, h⟩ := bind_eq_ok h
  have haccount : Account ts u := account_unwind (account_run account_empty hs) hu
  have hmarkers := markers_unwind_all hu
  split at h
  · next v' hv =>
    cases h
    exact conserved_of_account haccount hmarkers hv
  · cases h

end Reduction

/-! ## The theorem -/

/-- Whenever a text has a value, the steps to it use every number of its tokens and every result
once, and apply every operator of its tokens once. -/
theorem conserved_of_evaluate {s : Text} {e : Evaluation} (h : evaluate s = .ok e) :
    Token.ofText s.unspaced = .ok e.tokens ∧ Conserved e.tokens e.value e.steps := by
  obtain ⟨-, -, htokens, hreduce⟩ := exists_of_evaluate h
  exact ⟨htokens, Reduction.conserved_of_reduce hreduce⟩

/-- A text that is no expression: the operator in the last parentheses takes both operands from
outside. -/
theorem conserved_product :
    evaluate "2 (3) (*) - 1".toList = .ok ⟨5, "2(3)(*)-1".toList,
        [.number 2, .opening, .number 3, .closing, .opening, .operator .times, .closing,
          .operator .minus, .number 1], [⟨2, .times, 3, 6⟩, ⟨6, .minus, 1, 5⟩]⟩ ∧
      Conserved [.number 2, .opening, .number 3, .closing, .opening, .operator .times, .closing,
        .operator .minus, .number 1] 5 [⟨2, .times, 3, 6⟩, ⟨6, .minus, 1, 5⟩] := by
  have h : evaluate "2 (3) (*) - 1".toList = .ok ⟨5, "2(3)(*)-1".toList,
      [.number 2, .opening, .number 3, .closing, .opening, .operator .times, .closing,
        .operator .minus, .number 1], [⟨2, .times, 3, 6⟩, ⟨6, .minus, 1, 5⟩]⟩ := by
    decide +kernel
  exact ⟨h, (conserved_of_evaluate h).2⟩

end Calculator
