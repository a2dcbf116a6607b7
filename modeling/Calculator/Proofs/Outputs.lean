import Calculator.Proofs.Actions

/-!
# What the panel shows

**Theorem (`shows_run`).** Whatever a user has done, the outputs show the last text that was
evaluated since they were last cleared, and nothing if there is none: its value with its envelope
and its working, or the message of its refusal with its envelope. The newest line of the history is
its line.

A refusal leaves the result of an earlier evaluation on display. So the outputs do not depend on
the last text alone, but on all that were evaluated since the last clearing (`evaluated`), and the
result is that of the last one among them that has a value (`lastResult`). Neither the entry nor the
length of the history matters to them.
-/

namespace Calculator

/-! ## The texts evaluated -/

namespace Window

/-- The texts evaluated since the outputs were last cleared, the latest first, after another
action. -/
def evaluatedAfter (w : Window) (texts : List Text) (a : Action) : List Text :=
  if a.clearsOutputs then [] else if w.evaluates a then w.panel.entry :: texts else texts

/-- The texts evaluated since the outputs were last cleared, the latest first, after more
actions. -/
def evaluated (w : Window) (texts : List Text) : List Action → List Text
  | [] => texts
  | a :: actions => (w.step a).evaluated (w.evaluatedAfter texts a) actions

end Window

/-- The result of the first of the texts that has a value, as it is displayed. -/
def lastResult : List Text → Text
  | [] => []
  | t :: texts =>
    match valueOf t with
    | .ok v => Number.display v
    | .error _ => lastResult texts

/-! ## What is shown -/

namespace Panel

/-- No output is shown. -/
structure ShowsNothing (p : Panel) : Prop where
  result : p.result = []
  error : p.error = []
  envelope : p.envelope = []
  cleaned : p.working.cleaned = []
  tokens : p.working.tokens = []
  steps : p.working.steps = []

/-- The evaluation of a text is shown. -/
structure ShowsValue (t : Text) (e : Evaluation) (p : Panel) : Prop where
  error : p.error = []
  result : p.result = Number.display e.value
  envelope : p.envelope = (Response.ofOutcome (.ok e.value)).pretty
  cleaned : p.working.cleaned = e.text
  tokens : p.working.tokens = Token.line e.tokens
  steps : p.working.steps = ['\n'].intercalate (e.steps.map Step.render)
  newest : p.history.head? = some ⟨t.trim, .ok e.value⟩

/-- The refusal of a text is shown, above an earlier result. -/
structure ShowsRefusal (t : Text) (reason : Refusal) (earlier : Text) (p : Panel) : Prop where
  error : p.error = reason.message
  error_ne : p.error ≠ []
  envelope : p.envelope = (Response.ofOutcome (.error reason)).pretty
  working : p.working = Working.empty
  result : p.result = earlier
  newest : p.history.head? = some ⟨t.trim, .error reason.message⟩

/-- The panel shows the last of the texts, which are given the latest first. -/
def Shows : List Text → Panel → Prop
  | [], p => p.ShowsNothing
  | t :: texts, p =>
    match Calculator.evaluate t with
    | .ok e => p.ShowsValue t e
    | .error reason => p.ShowsRefusal t reason (lastResult texts)

variable {p : Panel} {t : Text} {texts : List Text}

theorem shows_of_ok {e : Evaluation} (he : Calculator.evaluate t = .ok e) :
    Shows (t :: texts) p ↔ ShowsValue t e p := by
  rw [Shows, he]

theorem shows_of_error {reason : Refusal} (he : Calculator.evaluate t = .error reason) :
    Shows (t :: texts) p ↔ ShowsRefusal t reason (lastResult texts) p := by
  rw [Shows, he]

theorem result_of_shows (h : Shows texts p) : p.result = lastResult texts := by
  cases texts with
  | nil => exact h.result
  | cons t texts =>
    cases he : Calculator.evaluate t with
    | ok e =>
      rw [lastResult, valueOf, he]
      exact ((shows_of_ok he).1 h).result
    | error reason =>
      rw [lastResult, valueOf, he]
      exact ((shows_of_error he).1 h).result

/-- What is shown does not depend on the entry, nor on whether it is to have the focus. -/
theorem shows_edit (h : Shows texts p) (entry : Text) (focus : Bool) :
    Shows texts { p with entry := entry, wantsFocus := focus } := by
  cases texts with
  | nil => exact ⟨h.result, h.error, h.envelope, h.cleaned, h.tokens, h.steps⟩
  | cons t texts =>
    cases he : Calculator.evaluate t with
    | ok e =>
      have h := (shows_of_ok he).1 h
      rw [shows_of_ok he]
      exact ⟨h.error, h.result, h.envelope, h.cleaned, h.tokens, h.steps, h.newest⟩
    | error reason =>
      have h := (shows_of_error he).1 h
      rw [shows_of_error he]
      exact ⟨h.error, h.error_ne, h.envelope, h.working, h.result, h.newest⟩

theorem message_ne_nil (reason : Refusal) : reason.message ≠ [] := by
  cases reason with
  | rejected reason => cases reason <;> decide
  | failed reason => exact List.append_ne_nil_of_left_ne_nil (by decide) _

theorem head?_history_evaluate (hp : 0 < p.capacity) :
    p.evaluate.history.head? = some (HistoryLine.ofText p.entry) := by
  rw [history_evaluate]
  obtain ⟨n, hn⟩ := Nat.exists_eq_add_of_lt hp
  rw [hn]
  rfl

/-- An evaluation shows the entry. The earlier texts matter if it is refused. -/
theorem shows_evaluate (h : Shows texts p) (hp : 0 < p.capacity) :
    Shows (p.entry :: texts) p.evaluate := by
  have hresult := result_of_shows h
  have hnewest := head?_history_evaluate hp
  cases he : Calculator.evaluate p.entry with
  | ok e =>
    rw [HistoryLine.ofText_of_ok he, evaluate_of_ok he] at hnewest
    rw [shows_of_ok he, evaluate_of_ok he]
    exact ⟨rfl, rfl, rfl, rfl, rfl, rfl, hnewest⟩
  | error reason =>
    rw [HistoryLine.ofText_of_error he, evaluate_of_error he] at hnewest
    rw [shows_of_error he, evaluate_of_error he]
    exact ⟨rfl, message_ne_nil reason, rfl, rfl, hresult, hnewest⟩

end Panel

namespace Window

variable {w : Window} {texts : List Text}

theorem shows_step (h : Panel.Shows texts w.panel) (hw : 0 < w.panel.capacity) (a : Action) :
    Panel.Shows (w.evaluatedAfter texts a) (w.step a).panel := by
  have hchange := change_step w a
  unfold evaluatedAfter
  generalize (w.step a).panel = p at hchange
  cases hchange with
  | evaluate ha hc =>
    rw [hc, ha, if_neg (by decide), if_pos rfl]
    exact Panel.shows_edit (Panel.shows_evaluate h hw) _ false
  | clearOutputs hc | reset hc =>
    rw [hc, if_pos rfl]
    exact ⟨rfl, rfl, rfl, rfl, rfl, rfl⟩
  | edit ha hc entry =>
    rw [hc, ha, if_neg (by decide), if_neg (by decide)]
    exact Panel.shows_edit h entry false

theorem shows_run_of_shows (h : Panel.Shows texts w.panel) (hw : 0 < w.panel.capacity)
    (actions : List Action) :
    Panel.Shows (w.evaluated texts actions) (w.run actions).panel := by
  induction actions generalizing w texts with
  | nil => exact h
  | cons a actions ih =>
    refine ih (shows_step h hw a) ?_
    rwa [capacity_step]

/-- Whatever a user does with a new panel, it shows the last text evaluated since the outputs were
last cleared. -/
theorem shows_run (capacity : Nat) (actions : List Action) :
    Panel.Shows ((new (Panel.new capacity)).evaluated [] actions)
      ((new (Panel.new capacity)).run actions).panel := by
  have hnew : Panel.Shows [] (new (Panel.new capacity)).panel :=
    Panel.ShowsNothing.mk rfl rfl rfl rfl rfl rfl
  exact shows_run_of_shows hnew (Panel.capacity_new_pos capacity) actions

end Window

end Calculator
