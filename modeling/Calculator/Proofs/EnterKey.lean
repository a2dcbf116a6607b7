import Calculator.Proofs.Outputs
import Calculator.Proofs.Symbols
import Calculator.Proofs.Replay

/-!
# The Enter key

**Theorem (`contents_step_enter`).** In every state that a user can reach with the focus on the
entry field, Enter with control does what the equals button does. Enter alone does not: it takes the
focus from the field and leaves all contents of the panel as they are, so it only agrees with the
button where the button itself changes nothing. That is so when the outputs show an evaluation and
the history is full of lines of this very entry. Without the focus neither does anything.

So after Enter alone the field has lost the focus, and Enter with control does nothing any more
either, until a button, a line of the history or the escape key gives the focus back
(`focused_step`).

That an evaluation changes nothing can be seen from the history, because what is shown is always
the evaluation of its newest line (`contents_evaluate_iff`).
-/

namespace Calculator

/-! ## Contents -/

namespace Panel

/-- What a panel shows and remembers. -/
structure Contents where
  entry : Text
  result : Text
  error : Text
  envelope : Text
  working : Working
  history : List HistoryLine
  deriving DecidableEq

/-- The contents of a panel. -/
def contents (p : Panel) : Contents :=
  ⟨p.entry, p.result, p.error, p.envelope, p.working, p.history⟩

variable {p q : Panel} {t u : Text} {texts : List Text}

/-! ## An evaluation that changes nothing -/

theorem envelope_evaluate (p : Panel) :
    p.evaluate.envelope = (Response.ofOutcome (valueOf p.entry)).pretty := by
  cases h : Calculator.evaluate p.entry with
  | ok e =>
    rw [evaluate_of_ok h, valueOf, h]
    rfl
  | error reason =>
    rw [evaluate_of_error h, valueOf, h]
    rfl

theorem working_of_showsValue {e : Evaluation} (h : ShowsValue t e p) :
    p.working = Working.ofEvaluation e := by
  have hparts : p.working = ⟨p.working.cleaned, p.working.tokens, p.working.steps⟩ := rfl
  rw [hparts, h.cleaned, h.tokens, h.steps, Working.ofEvaluation]

/-- The newest line is the one of the text shown. -/
theorem newest_of_shows (h : Shows (t :: texts) p) :
    p.history.head? = some (HistoryLine.ofText t) := by
  cases he : Calculator.evaluate t with
  | ok e =>
    rw [HistoryLine.ofText_of_ok he]
    exact ((shows_of_ok he).1 h).newest
  | error reason =>
    rw [HistoryLine.ofText_of_error he]
    exact ((shows_of_error he).1 h).newest

/-- A text that is evaluated again, spaced in another way or not, is shown as before. -/
theorem contents_eq_of_shows (hp : Shows (t :: texts) p) (hq : Shows (u :: t :: texts) q)
    (heval : Calculator.evaluate u = Calculator.evaluate t) (hentry : q.entry = p.entry)
    (hhistory : q.history = p.history) : q.contents = p.contents := by
  cases he : Calculator.evaluate t with
  | ok e =>
    have hp := (shows_of_ok he).1 hp
    have hq := (shows_of_ok (heval.trans he)).1 hq
    rw [contents, contents, hentry, hhistory, hp.result, hq.result, hp.error, hq.error,
      hp.envelope, hq.envelope, working_of_showsValue hp, working_of_showsValue hq]
  | error reason =>
    -- A refusal leaves the result of an earlier text on display, and there are only refusals here.
    have hlast : lastResult (t :: texts) = lastResult texts := by
      rw [lastResult, valueOf, he]
      rfl
    have hp := (shows_of_error he).1 hp
    have hq := (shows_of_error (heval.trans he)).1 hq
    rw [contents, contents, hentry, hhistory, hp.result, hq.result, hlast, hp.error, hq.error,
      hp.envelope, hq.envelope, hp.working, hq.working]

/-- Pushing a line onto a bounded list leaves it alone if it is full of this line. -/
theorem take_cons_eq_self_iff {α : Type} {a : α} {l : List α} {n : Nat} :
    (a :: l).take n = l ↔ l = List.replicate n a := by
  induction n generalizing l with
  | zero => rw [List.take_zero, List.replicate_zero, eq_comm]
  | succ n ih =>
    rw [List.take_succ_cons, List.replicate_succ]
    cases l with
    | nil => simp
    | cons b l =>
      rw [List.cons.injEq, List.cons.injEq, eq_comm (a := a)]
      refine and_congr_right ?_
      rintro rfl
      exact ih

theorem evaluate_eq_of_ofText_eq (h : HistoryLine.ofText t = HistoryLine.ofText u) :
    Calculator.evaluate t = Calculator.evaluate u := by
  have htrim : t.trim = u.trim := congrArg HistoryLine.entry h
  refine evaluate_congr ?_
  rw [← Text.unspaced_trim, htrim, Text.unspaced_trim]

/-- An evaluation changes nothing exactly when an evaluation is shown and the history is full of
the line of the entry. -/
theorem contents_evaluate_iff (h : Shows texts p) (hp : 0 < p.capacity) :
    p.evaluate.contents = p.contents ↔
      texts ≠ [] ∧ p.history = List.replicate p.capacity (HistoryLine.ofText p.entry) := by
  have hhistory : p.evaluate.history = p.history ↔
      p.history = List.replicate p.capacity (HistoryLine.ofText p.entry) := by
    rw [history_evaluate, take_cons_eq_self_iff]
  constructor
  · intro heq
    refine ⟨?_, hhistory.1 (congrArg Contents.history heq)⟩
    rintro rfl
    -- The envelope of an evaluation is not empty.
    have henvelope : p.evaluate.envelope = p.envelope := congrArg Contents.envelope heq
    rw [envelope_evaluate, h.envelope] at henvelope
    cases henvelope
  · rintro ⟨hne, hfull⟩
    obtain ⟨t, texts, rfl⟩ := List.exists_cons_of_ne_nil hne
    have hnewest := newest_of_shows h
    rw [hfull, List.head?_replicate, if_neg (by omega), Option.some.injEq] at hnewest
    exact contents_eq_of_shows h (shows_evaluate h hp) (evaluate_eq_of_ofText_eq hnewest)
      (entry_evaluate p) (hhistory.2 hfull)

/-- Every button asks for the focus. -/
theorem wantsFocus_press (p : Panel) (b : Button) : (p.press b).wantsFocus = true := by
  cases b with
  | equals =>
    cases h : Calculator.evaluate p.entry with
    | ok e =>
      rw [press, evaluate_of_ok h]
      rfl
    | error reason =>
      rw [press, evaluate_of_error h]
      rfl
  | _ => rfl

end Panel

namespace Window

variable {w : Window}

/-! ## The focus -/

/-- The entry field has the focus after another action. -/
def focusedAfter (w : Window) : Action → Bool
  | .press _ | .key _ .escape => true
  | .type _ | .key _ .other => w.focused
  | .key control .enter => control && w.focused
  | .toggleHistory => false
  | .recall index => (w.recalled? index).isSome || (w.headerUsed && w.focused)

theorem focused_step (h : w.panel.wantsFocus = false) (a : Action) :
    (w.step a).focused = w.focusedAfter a := by
  have hstep : (w.step a).focused = ((w.act a).focused || (w.act a).panel.wantsFocus) := rfl
  rw [hstep]
  cases a with
  | type text => simp [act, focusedAfter, h]
  | press button => simp [act, focusedAfter, Panel.wantsFocus_press]
  | toggleHistory => simp [act, clickHeader, focusedAfter, h]
  | key control key =>
    cases key with
    | escape => simp [act, pressKey, Panel.clearEntry, focusedAfter]
    | other => simp [act, pressKey, focusedAfter, h]
    | enter => cases control <;> cases hf : w.focused <;> simp [act, pressKey, focusedAfter, h, hf]
  | «recall» i =>
    -- The header may take the focus first; a line that is found gives it back.
    have hpanel := panel_beforeRecall w
    have hfocused : w.beforeRecall.focused = (w.headerUsed && w.focused) := by
      unfold beforeRecall
      split_ifs with hused
      · rw [hused, Bool.true_and]
      · rw [Bool.eq_false_iff.2 hused, Bool.false_and]
        rfl
    show ((w.beforeRecall.clickLine i).focused || (w.beforeRecall.clickLine i).panel.wantsFocus) = _
    rw [focusedAfter, recalled?, clickLine, hpanel, ← hfocused]
    split_ifs
    · cases w.panel.history[i]? with
      | none => simp [hpanel, h]
      | some line => simp [Panel.edit]
    · simp [hpanel, h]

/-- Between two actions the panel does not ask for the focus. -/
theorem Reachable.wantsFocus_eq_false (hw : w.Reachable) : w.panel.wantsFocus = false :=
  hw.induction (P := fun w => w.panel.wantsFocus = false) (fun _ => rfl) fun _ _ _ => rfl

/-! ## The theorem -/

/-- With the focus on the entry field, Enter with control does what the equals button does, and
Enter alone does only if the button changes nothing. Without it, neither changes anything. -/
theorem contents_step_enter (capacity : Nat) (actions : List Action) (control : Bool) :
    let w := (new (Panel.new capacity)).run actions
    let texts := (new (Panel.new capacity)).evaluated [] actions
    (w.focused = true →
      ((w.step (.key control .enter)).panel.contents =
          (w.step (.press .equals)).panel.contents ↔
        control = true ∨ texts ≠ [] ∧ w.panel.history =
          List.replicate w.panel.capacity (HistoryLine.ofText w.panel.entry))) ∧
      (w.focused = false → (w.step (.key control .enter)).panel.contents = w.panel.contents) ∧
      (w.step (.key control .enter)).focused = (control && w.focused) := by
  intro w texts
  have hw : w.Reachable := ⟨capacity, actions, rfl⟩
  have hshows : Panel.Shows texts w.panel := shows_run capacity actions
  have hequals : (w.step (.press .equals)).panel.contents = w.panel.evaluate.contents := rfl
  refine ⟨?_, ?_, focused_step hw.wantsFocus_eq_false _⟩
  · intro hfocused
    cases control with
    | true =>
      have hsame := panel_step_of_evaluates (w := w) (a := .key true .enter) hfocused
      exact iff_of_true (by rw [hsame, hequals]; rfl) (.inl rfl)
    | false =>
      have hsame : (w.step (.key false .enter)).panel.contents = w.panel.contents := rfl
      rw [hequals, hsame, eq_comm, Panel.contents_evaluate_iff hshows hw.capacity_pos]
      simp
  · intro hfocused
    cases control with
    | false => rfl
    | true =>
      rw [step, act, pressKey, if_pos rfl, hfocused, if_neg (by decide)]
      rfl

/-- A sum that Enter evaluates with control, and a quotient that is evaluated again in a history of
one line, where neither the button nor Enter changes anything. -/
theorem contents_step_enter_quotient :
    let sum := (new (Panel.new 20)).run [.type "1+1".toList]
    let quotient := (new (Panel.new 1)).run
      [.type "6/2".toList, .press .equals, .type " 6/2".toList]
    (sum.step (.key true .enter)).panel.contents = (sum.step (.press .equals)).panel.contents ∧
      (quotient.step (.key false .enter)).panel.contents =
        (quotient.step (.press .equals)).panel.contents := by
  constructor
  · exact ((contents_step_enter 20 [.type "1+1".toList] true).1 rfl).2 (.inl rfl)
  · refine ((contents_step_enter 1 [.type "6/2".toList, .press .equals, .type " 6/2".toList]
      false).1 rfl).2 (.inr ⟨?_, ?_⟩)
    · decide +kernel
    · decide +kernel

/-- The field has the focus and there is a sum in it, but Enter alone does not evaluate it. -/
theorem contents_step_enter_ne_equals :
    let w := (new (Panel.new 20)).run [.type "1+1".toList]
    w.focused = true ∧
      (w.step (.press .equals)).panel.result = "2".toList ∧
      (w.step (.key false .enter)).panel.result = [] ∧
      (w.step (.key false .enter)).panel.contents ≠ (w.step (.press .equals)).panel.contents := by
  decide +kernel

end Window

end Calculator
