import Calculator.Proofs.Emission
import Calculator.Proofs.Postfix

/-!
# The story that the log tells

**Theorem (`run_evaluate_story`).** The log of an evaluation tells the story of its answer. It
begins with the text and ends with the rejection, the failure or the value that is returned. Between
them stands one event for each operator that was applied, in the order of application, and if there
is a value these events say what the lines say that are returned with it.

Which operators were applied is said without stacks. The operators of a list of tokens are applied
in the order of its postfix form, so a reduction gets through the postfix form up to some entry.
`Completed` is such a part, with a step for each operator in it. `Interrupted` adds why there is no
getting further: the next operator lacks an operand or divides by zero, and leaves no step, or there
is no next entry and the values that are left are not just one.
-/

namespace Calculator

open Log

/-! ## How far an evaluation gets -/

namespace Postfix

open Reduction

/-- The postfix form of a list of tokens, with its numbers. -/
def entries (tokens : List Token) : List (Entry Float) :=
  fill (convert [] (tokens.map Token.kind)) (tokens.filterMap Token.value?)

/-- `Completed es values steps`: the evaluation gets through the entries. It leaves `values`, the
top one first, and has applied every operator among the entries, in the given steps. -/
inductive Completed : List (Entry Float) → List Float → List Step → Prop
  | nil : Completed [] [] []
  | number {es : List (Entry Float)} {values : List Float} {steps : List Step} (v : Float)
      (h : Completed es values steps) : Completed (es ++ [.number v]) (v :: values) steps
  | operator {es : List (Entry Float)} {values : List Float} {steps : List Step} {op : Operator}
      {a b r : Float} (h : Completed es (b :: a :: values) steps)
      (hr : op.compute? a b = some r) :
      Completed (es ++ [.operator op]) (r :: values) (steps ++ [⟨a, op, b, r⟩])

/-- `Interrupted es steps reason`: the evaluation of the entries fails. The steps are those of the
part that it got through. -/
inductive Interrupted : List (Entry Float) → List Step → Failure → Prop
  /-- The next operator lacks an operand. -/
  | operands {before after : List (Entry Float)} {values : List Float} {steps : List Step}
      {op : Operator} (h : Completed before values steps) (hvalues : values.length < 2) :
      Interrupted (before ++ .operator op :: after) steps .badFormat
  /-- The next operator divides by zero. -/
  | divisor {before after : List (Entry Float)} {values : List Float} {steps : List Step}
      {op : Operator} {a b : Float} (h : Completed before (b :: a :: values) steps)
      (hr : op.compute? a b = none) :
      Interrupted (before ++ .operator op :: after) steps .divisionByZero
  /-- There is no next entry, and no value is left or several are. -/
  | remainder {es : List (Entry Float)} {values : List Float} {steps : List Step}
      (h : Completed es values steps) (hvalues : values.length ≠ 1) :
      Interrupted es steps .badFormat

/-- What the result of an evaluation says about the entries. -/
def Accounts (es : List (Entry Float)) : Except Halt (Float × List Step) → Prop
  | .ok (v, steps) => Completed es [v] steps
  | .error halt => Interrupted es halt.steps.reverse halt.reason

variable {before : List (Entry Float)} {values : List Float} {steps : List Step}

theorem accounts_evaluate (h : Completed before values steps.reverse)
    (after : List (Entry Float)) : Accounts (before ++ after) (evaluate after values steps) := by
  induction after generalizing before values steps with
  | nil =>
    rw [List.append_nil]
    match values with
    | [_] => exact h
    | [] | _ :: _ :: _ => exact .remainder h (by simp)
  | cons entry after ih =>
    cases entry with
    | number v =>
      have hafter := ih (h.number v)
      rwa [List.append_assoc] at hafter
    | operator op =>
      match values with
      | [] | [_] => exact .operands h (by simp)
      | b :: a :: rest =>
        rw [evaluate_operator_cons]
        split_ifs with hzero
        · exact .divisor h (by rw [Operator.compute?_eq, if_pos hzero])
        · have hr : op.compute? a b = some (op.value a b) := by
            rw [Operator.compute?_eq, if_neg hzero]
          have hstep := h.operator hr
          rw [← List.reverse_cons] at hstep
          have hafter := ih hstep
          rwa [List.append_assoc] at hafter

theorem accounts_reduce {tokens : List Token} (h : Nested 0 tokens) :
    Accounts (entries tokens) (reduce tokens) := by
  have heq : reduce tokens = evaluate (entries tokens) [] [] := run_finish_eq h rfl ⟨[], []⟩
  have hnil : Completed [] [] ([] : List Step).reverse := .nil
  rw [heq]
  exact accounts_evaluate hnil (entries tokens)

end Postfix

/-! ## The story -/

open Postfix (Completed Interrupted entries accounts_reduce)

/-- `Story s log answer`: the whole log of the text `s`, if it has this answer. -/
inductive Story (s : Text) : List Event → Except Refusal Report → Prop
  | rejected {reason : Rejection} (h : Validation.fault? s.unspaced = some reason) :
      Story s [.started s.unspaced, .rejected reason] (.error (.rejected reason))
  | unread {reason : Failure} (h : Validation.fault? s.unspaced = none)
      (htokens : Token.ofText s.unspaced = .error reason) :
      Story s [.started s.unspaced, .failed reason] (.error (.failed reason))
  | interrupted {tokens : List Token} {steps : List Step} {reason : Failure}
      (h : Validation.fault? s.unspaced = none) (htokens : Token.ofText s.unspaced = .ok tokens)
      (hsteps : Interrupted (entries tokens) steps reason) :
      Story s (.started s.unspaced :: (steps.map .reduced ++ [.failed reason]))
        (.error (.failed reason))
  | finished {tokens : List Token} {steps : List Step} {value : Float}
      (h : Validation.fault? s.unspaced = none) (htokens : Token.ofText s.unspaced = .ok tokens)
      (hsteps : Completed (entries tokens) [value] steps) :
      Story s (.started s.unspaced :: (steps.map .reduced ++ [.finished value]))
        (.ok ⟨value, s.unspaced, Token.line tokens, steps.map Step.render⟩)

theorem story_ofText (s : Text) :
    Story s (Run.ofText s).events ((evaluate s).map Report.ofEvaluation) := by
  obtain ⟨run, hcourse⟩ := Run.exists_course s
  rw [hcourse.evaluate_eq, hcourse.eq_ofText]
  cases hcourse with
  | rejected h => exact .rejected h
  | unread h htokens => exact .unread h htokens
  | interrupted h htokens hreduce =>
    have hsteps := accounts_reduce (Reduction.nested_of_accepted h htokens)
    rw [hreduce] at hsteps
    exact .interrupted h htokens hsteps
  | finished h htokens hreduce =>
    have hsteps := accounts_reduce (Reduction.nested_of_accepted h htokens)
    rw [hreduce] at hsteps
    exact .finished h htokens hsteps

/-! ## Levels and lines -/

/-- The event that announces an answer. -/
def Log.Event.ofAnswer : Except Refusal Report → Event
  | .error (.rejected reason) => .rejected reason
  | .error (.failed reason) => .failed reason
  | .ok report => .finished report.value

/-- The line `a op b = r` of an event at the level `trace`, written from its fields. -/
def Log.Event.line? (e : Event) : Option Text :=
  match e.level, e.fields with
  | .trace, [(_, .number a), (_, .number b), (_, .text op), (_, .number r)] =>
    some (Number.display a ++ ' ' :: (op ++ ' ' :: Number.display b) ++ " = ".toList ++
      Number.display r)
  | _, _ => none

theorem filterMap_line?_reduced (steps : List Step) :
    (steps.map Event.reduced).filterMap Event.line? = steps.map Step.render := by
  have hline : Event.line? ∘ Event.reduced = some ∘ Step.render := rfl
  rw [List.filterMap_map, hline, List.filterMap_eq_map]

theorem filter_debug_reduced (steps : List Step) :
    (steps.map Event.reduced).filter (·.level = .debug) = [] := by
  rw [List.filter_eq_nil_iff]
  intro e he
  obtain ⟨step, -, rfl⟩ := List.mem_map.1 he
  exact Bool.false_ne_true

variable {s : Text} {log : List Event} {answer : Except Refusal Report}

theorem Story.filter_debug (h : Story s log answer) :
    log.filter (·.level = .debug) = [.started s.unspaced, .ofAnswer answer] := by
  cases h with
  | rejected | unread => rfl
  | interrupted | finished =>
    rw [List.filter_cons_of_pos rfl, List.filter_append, filter_debug_reduced]
    rfl

theorem Story.filterMap_line? {report : Report} (h : Story s log (.ok report)) :
    log.filterMap Event.line? = report.lines := by
  cases h with
  | finished =>
    rw [List.filterMap_cons_none rfl, List.filterMap_append, filterMap_line?_reduced]
    exact List.append_nil _

end Calculator
