import Calculator.CommandLine.Run
import Calculator.Proofs.Layouts
import Calculator.Proofs.Outputs

/-!
# The panel and the command line give one answer

**Theorem (`run_expression_eq_shown`).** In every state that a user can reach, pressing the equals
button shows what the command line answers for the text in the entry. The envelope on the panel
differs from the output in its layout only, an error on the panel is an exit code of two, and the
message in the envelope is the error on the panel and the one of the newest line of the history.

Both go through the response to the entry. The panel writes it with one member a line, and the
command line writes it on one line (`run_expression`), which is the former without its layout
(`withoutLayout_pretty`).
-/

namespace Calculator

open Json

/-! ## The command line -/

/-- The settings of an environment load: each variable reads as what it sets, and the log directive
that comes of it is accepted. -/
structure Settings.Loads (env : Environment) (s : Settings) : Prop where
  load : Settings.load env = .ok s
  check : Log.Directive.check s.log = .ok ()

namespace CommandLine

/-- With settings that load, the answer to an expression is printed. -/
theorem run_expression {env : Environment} {s : Settings} (h : Settings.Loads env s) (x : Text) :
    run ["--eval=".toList ++ x] env = printed (Request.respond ⟨some x⟩) := by
  have hcheck : Log.Directive.check ((none : Option Text).getD s.log) = .ok () := h.check
  simp only [run, Arguments.ofList_expression, runOptions, h.load, hcheck, answer]

end CommandLine

/-! ## The panel -/

/-- Without its layout the envelope is the text on one line. -/
theorem withoutLayout_pretty (r : Response) : withoutLayout .outside r.pretty = r.compact := by
  rw [Response.pretty, pretty_eq, withoutLayout_object]
  rfl

theorem respond_of_ok {t : Text} {e : Evaluation} (h : evaluate t = .ok e) :
    Request.respond ⟨some t⟩ = Response.ofOutcome (.ok e.value) := by
  rw [Request.respond, valueOf?, valueOf, h]
  rfl

theorem respond_of_error {t : Text} {reason : Refusal} (h : evaluate t = .error reason) :
    Request.respond ⟨some t⟩ = Response.ofOutcome (.error reason) := by
  rw [Request.respond, valueOf?, valueOf, h]
  rfl

namespace Panel

/-- After an evaluation the command line prints what the envelope says, with the exit code that the
error on the panel announces. -/
theorem printed_respond_entry (p : Panel) :
    CommandLine.printed (Request.respond ⟨some p.entry⟩) =
      .exit (if p.evaluate.error = [] then 0 else 2)
        (withoutLayout .outside p.evaluate.envelope ++ ['\n']) := by
  cases h : Calculator.evaluate p.entry with
  | ok e =>
    have herror : p.evaluate.error = [] := by
      rw [evaluate_of_ok h]
      rfl
    have henvelope : p.evaluate.envelope = (Response.ofOutcome (.ok e.value)).pretty := by
      rw [evaluate_of_ok h]
      rfl
    rw [herror, if_pos rfl, henvelope, withoutLayout_pretty, respond_of_ok h]
    rfl
  | error reason =>
    have herror : p.evaluate.error = reason.message := by
      rw [evaluate_of_error h]
      rfl
    have henvelope : p.evaluate.envelope = (Response.ofOutcome (.error reason)).pretty := by
      rw [evaluate_of_error h]
      rfl
    rw [herror, if_neg (message_ne_nil reason), henvelope, withoutLayout_pretty,
      respond_of_error h]
    rfl

/-- An error on the panel is the message in the envelope and the one of the newest line. -/
theorem error_evaluate {p : Panel} (hp : 0 < p.capacity) (herror : p.evaluate.error ≠ []) :
    Response.parse p.evaluate.envelope = .ok ⟨.invalid, none, some p.evaluate.error⟩ ∧
      ∃ line, p.evaluate.history.head? = some line ∧ line.outcome = .error p.evaluate.error := by
  have hnewest := head?_history_evaluate hp
  cases h : Calculator.evaluate p.entry with
  | ok e =>
    rw [evaluate_of_ok h] at herror
    exact absurd rfl herror
  | error reason =>
    rw [HistoryLine.ofText_of_error h] at hnewest
    have hparse : Response.parse (Response.ofOutcome (.error reason)).pretty =
        .ok (Response.ofOutcome (.error reason)) :=
      Response.parse_pretty rfl
    rw [evaluate_of_error h] at hnewest ⊢
    exact ⟨hparse, _, hnewest, rfl⟩

end Panel

/-! ## Both -/

namespace Window

variable {w : Window}

/-- In every state that a user can reach, the panel shows for its entry what the command line
answers. -/
theorem run_expression_eq_shown (hw : w.Reachable) {env : Environment} {s : Settings}
    (hs : Settings.Loads env s) :
    let shown := (w.step (.press .equals)).panel
    ∃ code,
      CommandLine.run ["--eval=".toList ++ w.panel.entry] env =
          .exit code (withoutLayout .outside shown.envelope ++ ['\n']) ∧
        code = (if shown.error = [] then 0 else 2) ∧
        (code = 2 →
          Response.parse shown.envelope = .ok ⟨.invalid, none, some shown.error⟩ ∧
            ∃ line, shown.history.head? = some line ∧ line.outcome = .error shown.error) ∧
        shown.entry = w.panel.entry := by
  have hshown : (w.step (.press .equals)).panel = { w.panel.evaluate with wantsFocus := false } :=
    panel_step_of_evaluates rfl
  rw [CommandLine.run_expression hs, Panel.printed_respond_entry]
  dsimp only
  rw [hshown]
  refine ⟨_, rfl, rfl, ?_, Panel.entry_evaluate w.panel⟩
  intro hcode
  refine Panel.error_evaluate hw.capacity_pos fun herror => ?_
  rw [if_pos herror] at hcode
  cases hcode

/-- A division by zero, on a panel that still shows an earlier result, with a log directive in the
environment. -/
theorem run_expression_eq_shown_quotient :
    ((new (Panel.new 5)).run [.type "2".toList, .press .equals, .type "1 / (1 - 1)".toList,
        .press .equals]).panel.error = "Invalid expression: Division by zero".toList ∧
      CommandLine.run ["--eval=1 / (1 - 1)".toList] [("CALC_LOG".toList, "debug".toList)] =
        .exit 2 (withoutLayout .outside ((new (Panel.new 5)).run [.type "2".toList,
          .press .equals, .type "1 / (1 - 1)".toList, .press .equals]).panel.envelope ++
            ['\n']) := by
  let w := (new (Panel.new 5)).run [.type "2".toList, .press .equals,
    .type "1 / (1 - 1)".toList]
  have hw : w.Reachable := ⟨5, _, rfl⟩
  have hs : Settings.Loads [("CALC_LOG".toList, "debug".toList)] ⟨"debug".toList, 20⟩ :=
    ⟨by decide +kernel, by decide +kernel⟩
  have herror : (w.step (.press .equals)).panel.error =
      "Invalid expression: Division by zero".toList := by
    decide +kernel
  obtain ⟨code, hrun, hcode, -⟩ := run_expression_eq_shown hw hs
  rw [herror, if_neg (by decide)] at hcode
  subst hcode
  exact ⟨herror, hrun⟩

end Window

end Calculator
