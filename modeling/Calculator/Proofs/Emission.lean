import Calculator.Log.Event
import Calculator.Proofs.Courses
import Calculator.Proofs.Unwinding

/-!
# The log as it is written

A run keeps one record, its steps, and both its log and its answer are read off it. An evaluation
that logs on its way keeps two, and writes them at different places. An event goes into the log in
the middle of an application, as soon as there is a value, and a failure later on cannot take it
back. The line of a step is added after the event. It lies with the operands, and a failure throws
it away with them. `Emission` is the reduction, the calculation and the evaluation in this form.

**Theorem (`run_evaluate`).** The log that is written on the way is the log of the run, and the
answer that is returned shows what the run found out.

Each part of a reduction that logs ends as the same part does without a log (`ending`): with the
same failure, or with the same operands and the lines of the steps, and either way with the events
of all the steps in the log. Endings follow one another (`run_bind`), so that no part needs more
than the endings of its own parts.
-/

namespace Calculator

open Log

/-- A value and the way to it as they are shown: the text without blanks, the line of its tokens and
one line a step. -/
structure Report where
  value : Float
  text : Text
  tokens : Text
  lines : List Text
  deriving DecidableEq

/-- What is shown of an evaluation. -/
def Report.ofEvaluation (e : Evaluation) : Report :=
  ⟨e.value, e.text, Token.line e.tokens, e.steps.map Step.render⟩

namespace Emission

open Reduction (Marker Bench Stacks Halt dropOpening unwind_of_pos unwind_of_neg)

/-! ## Evaluation with a log -/

/-- A computation that writes a log. -/
abbrev Logging := StateM (List Event)

/-- A computation that writes a log and may fail; what it has written stays. -/
abbrev Failing := ExceptT Failure Logging

/-- Writes an event. -/
def emit (e : Event) : Logging Unit := modify (· ++ [e])

/-- The operands, the top one first, and the lines of the applied operators, in order. -/
structure Sheet where
  operands : List Float
  lines : List Text

/-- The markers and the sheet. -/
structure Desk where
  markers : List Marker
  sheet : Sheet

/-- Applies a marker. Once there is a value, the event is written, then the line, and then the value
is put on top. -/
def Sheet.apply (w : Sheet) (m : Marker) : Failing Sheet :=
  match w.operands with
  | b :: a :: rest =>
    match m with
    | .opening => throw (.unknownOperator '(')
    | .operator op =>
      match op.compute? a b with
      | none => throw .divisionByZero
      | some r => do
        emit (.reduced ⟨a, op, b, r⟩)
        let lines := w.lines ++ [Step.render ⟨a, op, b, r⟩]
        return ⟨r :: rest, lines⟩
  | _ => throw .badFormat

/-- Applies markers from the top for as long as they satisfy `p`. -/
def unwind (p : Marker → Bool) : List Marker → Sheet → Failing Desk
  | [], w => return ⟨[], w⟩
  | m :: ms, w => if p m then do unwind p ms (← w.apply m) else return ⟨m :: ms, w⟩

/-- Takes one token. -/
def Desk.step (d : Desk) : Token → Failing Desk
  | .number v => return ⟨d.markers, ⟨v :: d.sheet.operands, d.sheet.lines⟩⟩
  | .opening => return ⟨.opening :: d.markers, d.sheet⟩
  | .closing => do
    let t ← unwind Marker.isOperator d.markers d.sheet
    return ⟨dropOpening t.markers, t.sheet⟩
  | .operator op => do
    let t ← unwind (Marker.yieldsTo op) d.markers d.sheet
    return ⟨.operator op :: t.markers, t.sheet⟩

/-- Takes the tokens in order. -/
def Desk.run (d : Desk) : List Token → Failing Desk
  | [] => return d
  | t :: ts => do (← d.step t).run ts

/-- Applies all that waits and takes the one operand that is left, with the lines. -/
def Desk.finish (d : Desk) : Failing (Float × List Text) := do
  let t ← unwind (fun _ => true) d.markers d.sheet
  match t.sheet.operands with
  | [v] => return (v, t.sheet.lines)
  | _ => throw .badFormat

/-- The value of a list of tokens and the lines of the way to it. -/
def reduce (tokens : List Token) : Failing (Float × List Text) := do
  (← Desk.run ⟨[], ⟨[], []⟩⟩ tokens).finish

/-- Calculates a text that passed validation. -/
def calculate (text : Text) : Failing (Float × List Token × List Text) := do
  let tokens ← MonadExcept.ofExcept (Token.ofText text)
  let (value, lines) ← reduce tokens
  return (value, tokens, lines)

/-- Evaluates a text. -/
def evaluate (s : Text) : Logging (Except Refusal Report) := do
  let text := s.unspaced
  emit (.started text)
  match Validation.fault? text with
  | some reason => do
    emit (.rejected reason)
    return .error (.rejected reason)
  | none =>
    match ← (calculate text).run with
    | .ok (value, tokens, lines) => do
      emit (.finished value)
      return .ok ⟨value, text, Token.line tokens, lines⟩
    | .error reason => do
      emit (.failed reason)
      return .error (.failed reason)

/-- The value of a text. -/
def valueOf (s : Text) : Logging (Except Refusal Float) :=
  return (← evaluate s).map Report.value

/-! ## Endings -/

variable {α β γ δ : Type} {past log : List Event}

/-- The events of steps, of which the latest comes first. -/
def told (steps : List Step) : List Event := steps.reverse.map .reduced

theorem told_cons (s : Step) (steps : List Step) :
    told (s :: steps) = told steps ++ [.reduced s] := by
  rw [told, List.reverse_cons, List.map_append]
  rfl

/-- How a reduction ends if it logs: what is seen of its result, and behind what had been logged
before it the events of all the steps completed so far. -/
def ending (past : List Event) (view : α → β) (steps : α → List Step) :
    Except Halt α → Except Failure β × List Event
  | .ok a => (.ok (view a), past ++ told (steps a))
  | .error halt => (.error halt.reason, past ++ told halt.steps)

/-- Endings follow one another. -/
theorem run_bind {view : α → β} {steps : α → List Step} {view' : γ → δ} {steps' : γ → List Step}
    {x : Failing β} {y : Except Halt α} {f : β → Failing δ} {g : α → Except Halt γ}
    (hx : x.run.run log = ending past view steps y)
    (hf : ∀ a, (f (view a)).run.run (past ++ told (steps a)) = ending past view' steps' (g a)) :
    (x >>= f).run.run log = ending past view' steps' (y >>= g) := by
  show ((ExceptT.bindCont f (x.run.run log).1).run (x.run.run log).2) = _
  rw [hx]
  cases y with
  | error halt => rfl
  | ok a => exact hf a

/-! ## The parts of a reduction -/

/-- The sheet of a bench. -/
def Sheet.ofBench (w : Bench) : Sheet := ⟨w.operands, w.steps.reverse.map Step.render⟩

/-- The desk of the stacks. -/
def Desk.ofStacks (s : Stacks) : Desk := ⟨s.markers, .ofBench s.bench⟩

theorem run_apply (past : List Event) (w : Bench) (m : Marker) :
    ((Sheet.ofBench w).apply m).run.run (past ++ told w.steps) =
      ending past .ofBench Bench.steps (w.apply m) := by
  obtain ⟨operands, steps⟩ := w
  match operands, m with
  | [], _ | [_], _ | _ :: _ :: _, .opening => rfl
  | b :: a :: rest, .operator op =>
    simp only [Sheet.apply, Sheet.ofBench, Bench.apply]
    cases op.compute? a b with
    | none => rfl
    | some r =>
      show (Except.ok _, (past ++ told steps) ++ [_]) = (Except.ok _, past ++ told (_ :: steps))
      rw [told_cons, List.append_assoc]
      simp [Sheet.ofBench]

theorem run_unwind (past : List Event) (p : Marker → Bool) (ms : List Marker) (w : Bench) :
    (unwind p ms (.ofBench w)).run.run (past ++ told w.steps) =
      ending past .ofStacks (·.bench.steps) (Reduction.unwind p ms w) := by
  induction ms generalizing w with
  | nil => rfl
  | cons m ms ih =>
    by_cases hp : p m = true
    · rw [unwind, if_pos hp, unwind_of_pos hp]
      exact run_bind (run_apply past w m) ih
    · rw [unwind, if_neg hp, unwind_of_neg (by simpa using hp)]
      rfl

theorem run_step (past : List Event) (s : Stacks) (t : Token) :
    ((Desk.ofStacks s).step t).run.run (past ++ told s.bench.steps) =
      ending past .ofStacks (·.bench.steps) (s.step t) := by
  cases t with
  | number v => rfl
  | opening => rfl
  | closing | operator op => exact run_bind (run_unwind past _ s.markers s.bench) fun _ => rfl

theorem run_run (past : List Event) (s : Stacks) (ts : List Token) :
    ((Desk.ofStacks s).run ts).run.run (past ++ told s.bench.steps) =
      ending past .ofStacks (·.bench.steps) (s.run ts) := by
  induction ts generalizing s with
  | nil => rfl
  | cons t ts ih => exact run_bind (run_step past s t) ih

/-- What is seen of a reduced list of tokens. -/
def shown (r : Float × List Step) : Float × List Text := (r.1, r.2.map Step.render)

theorem run_finish (past : List Event) (s : Stacks) :
    (Desk.ofStacks s).finish.run.run (past ++ told s.bench.steps) =
      ending past shown (·.2.reverse) s.finish := by
  refine run_bind (run_unwind past _ s.markers s.bench) ?_
  rintro ⟨markers, ⟨operands, steps⟩⟩
  match operands with
  | [] | _ :: _ :: _ => rfl
  | [v] =>
    show (Except.ok _, past ++ told steps) = (Except.ok _, past ++ told steps.reverse.reverse)
    rw [List.reverse_reverse]
    rfl

theorem run_reduce (past : List Event) (ts : List Token) :
    (reduce ts).run.run past = ending past shown (·.2.reverse) (Reduction.reduce ts) := by
  have h := run_run past .empty ts
  rw [show told Stacks.empty.bench.steps = [] from rfl, List.append_nil] at h
  exact run_bind h (run_finish past)

/-! ## The whole evaluation -/

/-- An accepted text is calculated as the run from it goes, up to the last event. -/
theorem run_calculate (past : List Event) (text : Text) :
    (calculate text).run.run past = match Token.ofText text with
      | .error reason => (.error reason, past)
      | .ok tokens =>
        ending past (fun r => (r.1, tokens, r.2.map Step.render)) (·.2.reverse)
          (Reduction.reduce tokens) := by
  rw [calculate]
  cases Token.ofText text with
  | error reason => rfl
  | ok tokens =>
    have h := run_bind (f := fun r => pure (r.1, tokens, r.2)) (g := pure)
      (run_reduce past tokens) fun _ => rfl
    rwa [bind_pure] at h

theorem run_emit_bind (e : Event) (f : Unit → Logging α) :
    (emit e >>= f).run log = (f ()).run (log ++ [e]) := rfl

theorem run_bind_of_run {x : Logging α} {f : α → Logging β} {a : α} {log' : List Event}
    (h : x.run log = (a, log')) : (x >>= f).run log = (f a).run log' := by
  rw [StateT.run_bind, h]
  rfl

theorem append_told (first last : Event) (steps : List Step) :
    past ++ [first] ++ told steps ++ [last] =
      past ++ first :: (steps.reverse.map .reduced ++ [last]) := by
  rw [told, List.append_assoc, List.append_assoc]
  rfl

/-- The log that is written is that of the run, and the answer shows the evaluation. -/
theorem run_evaluate (past : List Event) (s : Text) :
    (evaluate s).run past =
      ((Calculator.evaluate s).map Report.ofEvaluation, past ++ (Run.ofText s).events) := by
  have hcalculate := run_calculate (past ++ [.started s.unspaced]) s.unspaced
  obtain ⟨run, hcourse⟩ := Run.exists_course s
  rw [hcourse.evaluate_eq, hcourse.eq_ofText, evaluate, run_emit_bind]
  cases hcourse with
  | rejected h =>
    rw [h]
    exact congrArg (Prod.mk _) (List.append_assoc past [_] [_])
  | unread h htokens =>
    rw [h]
    rw [htokens] at hcalculate
    refine (run_bind_of_run hcalculate).trans ?_
    exact congrArg (Prod.mk _) (List.append_assoc past [_] [_])
  | interrupted h htokens hreduce =>
    rw [h]
    simp only [htokens, hreduce] at hcalculate
    refine (run_bind_of_run hcalculate).trans ?_
    exact congrArg (Prod.mk _) (append_told _ _ _)
  | finished h htokens hreduce =>
    rw [h]
    simp only [htokens, hreduce] at hcalculate
    refine (run_bind_of_run hcalculate).trans ?_
    refine congrArg (Prod.mk _) ((append_told _ _ _).trans ?_)
    rw [List.reverse_reverse]
    rfl

/-- The log keeps the difference; nothing is logged of the quotient. -/
example : ((evaluate "4/(2-2)".toList).run []).2 =
    [.started "4/(2-2)".toList, .reduced ⟨2, .minus, 2, 0⟩, .failed .divisionByZero] := by
  decide +kernel

theorem run_valueOf (past : List Event) (s : Text) :
    (valueOf s).run past = (Calculator.valueOf s, past ++ (Run.ofText s).events) := by
  rw [valueOf, run_bind_of_run (run_evaluate past s), Calculator.valueOf]
  cases Calculator.evaluate s <;> rfl

end Emission

end Calculator
