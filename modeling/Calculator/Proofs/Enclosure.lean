import Calculator.Proofs.Substitution

/-!
# Parentheses around a whole text

**Theorem (`evaluate_enclosed`).** A text that passes validation and the same text in parentheses
have the same outcome: the same value by the same steps, or the same failure. The text need not be
an expression, and it need not have a value.

Unlike in the middle of a text (`run_parenthesised`), nothing lies below the operands here, so a
reduction that fails inside the parentheses fails alike outside. The two reductions run side by
side, one with an opening parenthesis below its markers (`Stacks.enclosed`). Every unwinding stops
at it, so each step comes to the same, failures and their steps included (`step_enclosed`). At the
end the closing parenthesis unwinds the operators that the end of the tokens unwinds outside.
-/

namespace Calculator

namespace Reduction

variable {p : Marker → Bool} {d : Nat} {t : Token} {ts : List Token} {s : Stacks}

/-! ## The stacks above one parenthesis -/

/-- The stacks with an opening parenthesis below the markers. -/
def Stacks.enclosed (s : Stacks) : Stacks := ⟨s.markers ++ [.opening], s.bench⟩

theorem unwind_enclosed (hp : p .opening = false) (ms : List Marker) (w : Bench) :
    unwind p (ms ++ [.opening]) w = (unwind p ms w).map Stacks.enclosed := by
  induction ms generalizing w with
  | nil => exact unwind_of_neg hp
  | cons m ms ih =>
    rw [List.cons_append]
    by_cases hm : p m = true
    · rw [unwind_of_pos hm, unwind_of_pos hm]
      cases w.apply m with
      | error halt => rfl
      | ok w' => exact ih w'
    · rw [Bool.not_eq_true] at hm
      rw [unwind_of_neg hm, unwind_of_neg hm]
      rfl

/-- A token is taken alike. A closing parenthesis must find one of its own. -/
theorem step_enclosed (ht : t = .closing → 0 < openings s.markers) :
    s.enclosed.step t = (s.step t).map Stacks.enclosed := by
  cases t with
  | number v => rfl
  | opening => rfl
  | operator op =>
    show (unwind _ (s.markers ++ [.opening]) s.bench >>= _) = _
    rw [unwind_enclosed rfl, step_operator, Marker.yieldsTo_eq]
    cases unwind (Marker.binds op.precedence) s.markers s.bench <;> rfl
  | closing =>
    show (unwind _ (s.markers ++ [.opening]) s.bench >>= _) =
      (unwind _ s.markers s.bench >>= _).map _
    rw [unwind_enclosed rfl]
    cases hr : unwind Marker.isOperator s.markers s.bench with
    | error halt => rfl
    | ok r =>
      obtain ⟨rest, hrest⟩ := exists_opening_of_dropWhile (ht rfl)
      rw [← markers_unwind hr] at hrest
      show Except.ok (Stacks.mk (dropOpening (r.markers ++ [.opening])) r.bench) =
        .ok (Stacks.enclosed ⟨dropOpening r.markers, r.bench⟩)
      rw [hrest]
      rfl

theorem run_enclosed_cons (ht : t = .closing → 0 < openings s.markers)
    (h : ∀ r, s.step t = .ok r → r.enclosed.run ts = (r.run ts).map Stacks.enclosed) :
    s.enclosed.run (t :: ts) = (s.run (t :: ts)).map Stacks.enclosed := by
  rw [run_cons, run_cons, step_enclosed ht]
  cases hr : s.step t with
  | error halt => rfl
  | ok r => exact h r hr

/-- Matched tokens are taken alike. -/
theorem run_enclosed (hn : Nested d ts) (hs : openings s.markers = d) :
    s.enclosed.run ts = (s.run ts).map Stacks.enclosed := by
  induction hn generalizing s with
  | nil => rfl
  | number v _ ih | operator op _ ih =>
    refine run_enclosed_cons (by simp) fun r hr => ih ?_
    rw [openings_step hr, hs]
  | opening _ ih =>
    refine run_enclosed_cons (by simp) fun r hr => ih ?_
    rw [openings_step hr, hs]
  | closing _ ih =>
    refine run_enclosed_cons (by omega) fun r hr => ih ?_
    rw [openings_step hr, hs]
    rfl

/-- The closing parenthesis at the end unwinds what the end of the tokens unwinds. -/
theorem finish_enclosed (hs : openings s.markers = 0) :
    (s.enclosed.step .closing >>= Stacks.finish) = s.finish := by
  have hall : ∀ m ∈ s.markers, Marker.isOperator m = true := isOperator_of_openings_eq_zero hs
  have hunwind := unwind_congr (p := Marker.isOperator) (q := fun _ => true) hall s.bench
  show ((unwind _ (s.markers ++ [.opening]) s.bench >>= _) >>= _) =
    (unwind _ s.markers s.bench >>= _)
  rw [unwind_enclosed rfl, hunwind]
  cases hu : unwind (fun _ => true) s.markers s.bench with
  | error halt => rfl
  | ok u =>
    show Stacks.finish ⟨dropOpening (u.markers ++ [.opening]), u.bench⟩ = _
    rw [markers_unwind_all hu]
    rfl

/-- Matched tokens in parentheses are reduced as the tokens are, failures included. -/
theorem reduce_enclosed (hn : Nested 0 ts) :
    reduce (.opening :: (ts ++ [.closing])) = reduce ts := by
  show (Stacks.empty.enclosed.run (ts ++ [.closing]) >>= Stacks.finish) = _
  rw [run_append, run_enclosed hn rfl]
  cases hr : Stacks.empty.run ts with
  | error halt => rw [reduce, hr]; rfl
  | ok r =>
    obtain ⟨-, hopen⟩ := run_inside hn hr rfl Stacks.empty
    show (r.enclosed.run [.closing] >>= Stacks.finish) = _
    rw [run_singleton, finish_enclosed hopen, reduce, hr]
    rfl

end Reduction

/-! ## The text around -/

namespace Validation

/-- Parentheses around a text that passes validation are no fault. -/
theorem fault?_enclosed {s : Text} (h : fault? s = none) : fault? ('(' :: (s ++ [')'])) = none :=
  -- Validation does not see what is between parentheses, so any other text will do.
  (fault?_exchange h (t := ['1']) (by decide) [] []).trans (by decide)

end Validation

theorem Token.ofText_enclosed (s : Text) :
    ofText ('(' :: (s ++ [')'])) = (ofText s).map fun ts => opening :: (ts ++ [closing]) := by
  have haround := ofText_around [] s []
  rw [List.nil_append] at haround
  rw [haround]
  cases ofText s <;> rfl

/-- The line of tokens in parentheses. -/
theorem Token.line_enclosed {ts : List Token} (h : ts ≠ []) :
    line (opening :: (ts ++ [closing])) = "( ".toList ++ line ts ++ " )".toList := by
  rw [line_cons (by simp), line_concat h]
  rfl

/-! ## The theorem -/

/-- The same evaluation for the text in parentheses. -/
def Evaluation.enclosed (e : Evaluation) : Evaluation :=
  ⟨e.value, '(' :: (e.text ++ [')']), .opening :: (e.tokens ++ [.closing]), e.steps⟩

/-- The same run for the text in parentheses. -/
def Run.enclosed : Run → Run
  | rejected text reason => rejected ('(' :: (text ++ [')'])) reason
  | failed text reason steps => failed ('(' :: (text ++ [')'])) reason steps
  | finished e => finished e.enclosed

theorem Run.ofText_of_fault?_eq_none {s : Text} (h : Validation.fault? s = none) :
    ofText s = ofAccepted s := by
  rw [ofText, Validation.unspaced_of_fault?_eq_none h]
  simp only [h]

/-- An accepted text and the text in parentheses take the same course. -/
theorem Run.ofText_enclosed {s : Text} (h : Validation.fault? s = none) :
    ofText ('(' :: (s ++ [')'])) = (ofText s).enclosed := by
  rw [ofText_of_fault?_eq_none h, ofText_of_fault?_eq_none (Validation.fault?_enclosed h),
    ofAccepted, ofAccepted, Token.ofText_enclosed]
  cases hts : Token.ofText s with
  | error reason => rfl
  | ok ts =>
    simp only [Except.map, Reduction.reduce_enclosed (Reduction.nested_of_accepted h hts)]
    cases Reduction.reduce ts <;> rfl

theorem Run.ofAccepted_ne_rejected (s text : Text) (reason : Rejection) :
    ofAccepted s ≠ rejected text reason := by
  unfold ofAccepted
  split
  · simp
  · split <;> simp

/-- A text that passes validation and the text in parentheses have the same outcome. -/
theorem evaluate_enclosed {s : Text} (h : Validation.fault? s = none) :
    (∀ e, evaluate s = .ok e →
      evaluate ('(' :: (s ++ [')'])) =
          .ok ⟨e.value, '(' :: (s ++ [')']), .opening :: (e.tokens ++ [.closing]), e.steps⟩ ∧
        Token.line (.opening :: (e.tokens ++ [.closing])) =
          "( ".toList ++ Token.line e.tokens ++ " )".toList) ∧
    ∀ refusal, evaluate s = .error refusal → ∃ reason, refusal = .failed reason ∧
      evaluate ('(' :: (s ++ [')'])) = .error (.failed reason) := by
  have hencl : evaluate ('(' :: (s ++ [')'])) = (Run.ofText s).enclosed.outcome := by
    rw [evaluate, Run.ofText_enclosed h]
  rw [hencl]
  cases hrun : Run.ofText s with
  | rejected text reason =>
    rw [Run.ofText_of_fault?_eq_none h] at hrun
    exact absurd hrun (Run.ofAccepted_ne_rejected s text reason)
  | failed text reason steps =>
    have hs : evaluate s = .error (.failed reason) := by rw [evaluate, hrun]; rfl
    rw [hs]
    refine ⟨fun e he => (by cases he), ?_⟩
    rintro refusal ⟨⟩
    exact ⟨reason, rfl, rfl⟩
  | finished e =>
    have hs : evaluate s = .ok e := by rw [evaluate, hrun]; rfl
    obtain ⟨-, htext, -, hreduce⟩ := exists_of_evaluate hs
    rw [Validation.unspaced_of_fault?_eq_none h] at htext
    have hne : e.tokens ≠ [] := by
      intro hnil
      rw [hnil] at hreduce
      cases hreduce
    rw [hs]
    refine ⟨?_, fun refusal he => (by cases he)⟩
    rintro _ ⟨⟩
    refine ⟨?_, Token.line_enclosed hne⟩
    rw [← htext]
    rfl

/-- A text that is no expression and has a value, and a text that divides by a zero before its last
operator lacks an operand. -/
theorem evaluate_enclosed_product :
    Validation.fault? "-2(3)(*)".toList = none ∧
      evaluate "(-2(3)(*))".toList = .ok ⟨-6, "(-2(3)(*))".toList,
        [.opening, .number (-2), .opening, .number 3, .closing, .opening, .operator .times,
          .closing, .closing], [⟨-2, .times, 3, -6⟩]⟩ ∧
      Validation.fault? "1/(2-2)+(*)".toList = none ∧
      evaluate "(1/(2-2)+(*))".toList = .error (.failed .divisionByZero) := by
  have hfault : Validation.fault? "-2(3)(*)".toList = none := by decide
  have hvalue : evaluate "-2(3)(*)".toList = .ok ⟨-6, "-2(3)(*)".toList,
      [.number (-2), .opening, .number 3, .closing, .opening, .operator .times, .closing],
      [⟨-2, .times, 3, -6⟩]⟩ := by
    decide +kernel
  have hfault' : Validation.fault? "1/(2-2)+(*)".toList = none := by decide
  have hfails : evaluate "1/(2-2)+(*)".toList = .error (.failed .divisionByZero) := by
    decide +kernel
  obtain ⟨reason, hreason, hencl⟩ := (evaluate_enclosed hfault').2 _ hfails
  cases hreason
  exact ⟨hfault, ((evaluate_enclosed hfault).1 _ hvalue).1, hfault', hencl⟩

end Calculator
