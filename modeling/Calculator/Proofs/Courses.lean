import Calculator.Expression.Evaluation

/-!
# The courses of an evaluation

An evaluation takes one of four courses. The text is rejected, or it is accepted and its tokens
cannot be read, or their reduction is interrupted, or there is a value. `Run.Course` says of each
what the stages on the way have found. Every text takes one (`exists_course`), and the findings
determine the run (`Course.eq_ofText`). So what holds of all evaluations is shown by cases on the
course, and what a particular one comes to is read off its run.
-/

namespace Calculator.Run

open Reduction

/-- `Course s run`: the course of the text `s` is this run, with what was found on the way. -/
inductive Course (s : Text) : Run → Prop
  | rejected {reason : Rejection} (h : Validation.fault? s.unspaced = some reason) :
      Course s (rejected s.unspaced reason)
  | unread {reason : Failure} (h : Validation.fault? s.unspaced = none)
      (htokens : Token.ofText s.unspaced = .error reason) : Course s (failed s.unspaced reason [])
  | interrupted {tokens : List Token} {halt : Halt} (h : Validation.fault? s.unspaced = none)
      (htokens : Token.ofText s.unspaced = .ok tokens) (hreduce : reduce tokens = .error halt) :
      Course s (failed s.unspaced halt.reason halt.steps.reverse)
  | finished {tokens : List Token} {value : Float} {steps : List Step}
      (h : Validation.fault? s.unspaced = none) (htokens : Token.ofText s.unspaced = .ok tokens)
      (hreduce : reduce tokens = .ok (value, steps)) :
      Course s (finished ⟨value, s.unspaced, tokens, steps⟩)

variable {s : Text} {run : Run}

theorem Course.eq_ofText (h : Course s run) : ofText s = run := by
  rw [ofText]
  cases h with
  | rejected h => simp only [h]
  | unread h htokens => simp only [h, ofAccepted, htokens]
  | interrupted h htokens hreduce | finished h htokens hreduce =>
    simp only [h, ofAccepted, htokens, hreduce]

theorem Course.evaluate_eq (h : Course s run) : evaluate s = run.outcome := by
  rw [evaluate, h.eq_ofText]

/-- Every text takes a course. -/
theorem exists_course (s : Text) : ∃ run, Course s run := by
  cases h : Validation.fault? s.unspaced with
  | some reason => exact ⟨_, .rejected h⟩
  | none =>
    cases htokens : Token.ofText s.unspaced with
    | error reason => exact ⟨_, .unread h htokens⟩
    | ok tokens =>
      cases hreduce : reduce tokens with
      | error halt => exact ⟨_, .interrupted h htokens hreduce⟩
      | ok r => exact ⟨_, .finished h htokens hreduce⟩

end Calculator.Run
