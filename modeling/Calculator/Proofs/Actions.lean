import Calculator.Panel.Window
import Mathlib.Tactic.SplitIfs

/-!
# What an action does to the panel

An action on the window comes to one of four things for the panel (`change_step`): the entry is
evaluated, the outputs are cleared, everything is cleared, or the entry is given another text and
all else stays. Typing, the keys of the keypad, the erasing keys, the header and the lines of the
history are all of the fourth kind, and so are the keys that do nothing.

What a new window satisfies and every action preserves holds in every state that a user can reach
(`Reachable.induction`).
-/

namespace Calculator

/-! ## Evaluating the entry -/

/-- The line that an evaluation of the text adds to the history. -/
def HistoryLine.ofText (t : Text) : HistoryLine :=
  ⟨t.trim, (valueOf t).mapError Refusal.message⟩

theorem HistoryLine.ofText_of_ok {t : Text} {e : Evaluation} (h : evaluate t = .ok e) :
    ofText t = ⟨t.trim, .ok e.value⟩ := by
  rw [ofText, valueOf, h]
  rfl

theorem HistoryLine.ofText_of_error {t : Text} {reason : Refusal} (h : evaluate t = .error reason) :
    ofText t = ⟨t.trim, .error reason.message⟩ := by
  rw [ofText, valueOf, h]
  rfl

namespace Panel

theorem evaluate_of_ok {p : Panel} {e : Evaluation} (h : Calculator.evaluate p.entry = .ok e) :
    p.evaluate = p.recordSuccess e.value (Response.ofOutcome (.ok e.value)).pretty
      (Working.ofEvaluation e) := by
  rw [evaluate, h]
  rfl

theorem evaluate_of_error {p : Panel} {reason : Refusal}
    (h : Calculator.evaluate p.entry = .error reason) :
    p.evaluate = p.recordFailure reason.message (Response.ofOutcome (.error reason)).pretty := by
  rw [evaluate, h]
  rfl

theorem history_evaluate (p : Panel) :
    p.evaluate.history = (HistoryLine.ofText p.entry :: p.history).take p.capacity := by
  cases h : Calculator.evaluate p.entry with
  | ok e =>
    rw [evaluate_of_ok h, HistoryLine.ofText_of_ok h]
    rfl
  | error reason =>
    rw [evaluate_of_error h, HistoryLine.ofText_of_error h]
    rfl

theorem capacity_evaluate (p : Panel) : p.evaluate.capacity = p.capacity := by
  cases h : Calculator.evaluate p.entry with
  | ok e =>
    rw [evaluate_of_ok h]
    rfl
  | error reason =>
    rw [evaluate_of_error h]
    rfl

/-- An evaluation leaves the entry as it is. -/
theorem entry_evaluate (p : Panel) : p.evaluate.entry = p.entry := by
  cases h : Calculator.evaluate p.entry with
  | ok e =>
    rw [evaluate_of_ok h]
    rfl
  | error reason =>
    rw [evaluate_of_error h]
    rfl

theorem capacity_new_pos (n : Nat) : 0 < (new n).capacity :=
  Nat.lt_of_lt_of_le Nat.zero_lt_one (Nat.le_max_left 1 _)

end Panel

/-! ## Actions -/

/-- The action clears the outputs. -/
def Action.clearsOutputs : Action → Bool
  | press .clearOutputs | press .reset => true
  | _ => false

namespace Window

variable {w : Window} {a : Action}

/-- The action evaluates the entry: the equals button does, and Enter with control while the entry
field has the focus. -/
def evaluates (w : Window) : Action → Bool
  | .press .equals => true
  | .key control .enter => control && w.focused
  | _ => false

/-- What an action comes to for the panel. Whatever it is, no wish for the focus is left over. -/
inductive Change (w : Window) (a : Action) : Panel → Prop
  | evaluate (ha : w.evaluates a = true) (hc : a.clearsOutputs = false) :
      Change w a { w.panel.evaluate with wantsFocus := false }
  | clearOutputs (hc : a.clearsOutputs = true) :
      Change w a { w.panel.clearOutputs with wantsFocus := false }
  | reset (hc : a.clearsOutputs = true) : Change w a { w.panel.reset with wantsFocus := false }
  | edit (ha : w.evaluates a = false) (hc : a.clearsOutputs = false) (entry : Text) :
      Change w a { w.panel with entry := entry, wantsFocus := false }

theorem panel_clickLine (w : Window) (i : Nat) :
    ∃ entry focus,
      (w.clickLine i).panel = { w.panel with entry := entry, wantsFocus := focus } := by
  unfold clickLine
  split_ifs
  · split
    · next line _ => exact ⟨line.entry, true, rfl⟩
    · exact ⟨w.panel.entry, w.panel.wantsFocus, rfl⟩
  · exact ⟨w.panel.entry, w.panel.wantsFocus, rfl⟩

theorem change_step (w : Window) (a : Action) : Change w a (w.step a).panel := by
  cases a with
  | type text => exact .edit rfl rfl text
  | press button =>
    cases button with
    | equals => exact .evaluate rfl rfl
    | clearOutputs => exact .clearOutputs rfl
    | reset => exact .reset rfl
    | clearEntry | erase | digit | point | operator | opening | closing => exact .edit rfl rfl _
  | key control key =>
    cases key with
    | escape => exact .edit rfl rfl []
    | other => exact .edit rfl rfl w.panel.entry
    | enter =>
      cases control with
      | false => exact .edit rfl rfl w.panel.entry
      | true =>
        -- The one action for which the focus decides what it comes to.
        have hevaluates : w.evaluates (.key true .enter) = w.focused := rfl
        cases hf : w.focused with
        | false =>
          have hpanel : (w.step (.key true .enter)).panel =
              { w.panel with wantsFocus := false } := by
            simp [step, act, pressKey, settle, hf]
          rw [hpanel]
          exact .edit (hevaluates.trans hf) rfl w.panel.entry
        | true =>
          have hpanel : (w.step (.key true .enter)).panel =
              { w.panel.evaluate with wantsFocus := false } := by
            simp [step, act, pressKey, settle, hf]
          rw [hpanel]
          exact .evaluate (hevaluates.trans hf) rfl
  | toggleHistory => exact .edit rfl rfl w.panel.entry
  | «recall» i =>
    -- The header may be clicked first, which leaves the panel alone.
    have hsame : (if w.headerUsed then w else w.clickHeader).panel = w.panel := by
      split_ifs <;> rfl
    obtain ⟨entry, focus, hpanel⟩ := panel_clickLine (if w.headerUsed then w else w.clickHeader) i
    have hstep : (w.step (.recall i)).panel =
        { w.panel with entry := entry, wantsFocus := false } := by
      rw [hsame] at hpanel
      rw [step, settle, act, hpanel]
    rw [hstep]
    exact .edit rfl rfl entry

theorem clearsOutputs_of_evaluates (ha : w.evaluates a = true) : a.clearsOutputs = false := by
  cases a with
  | press button => cases button <;> first | rfl | cases ha
  | key => rfl
  | type | toggleHistory | «recall» => cases ha

theorem panel_step_of_evaluates (ha : w.evaluates a = true) :
    (w.step a).panel = { w.panel.evaluate with wantsFocus := false } := by
  have hc := clearsOutputs_of_evaluates ha
  have h := change_step w a
  generalize (w.step a).panel = p at h ⊢
  cases h with
  | evaluate => rfl
  | clearOutputs hclears | reset hclears =>
    rw [hc] at hclears
    cases hclears
  | edit hedits =>
    rw [ha] at hedits
    cases hedits

theorem capacity_step (w : Window) (a : Action) : (w.step a).panel.capacity = w.panel.capacity := by
  have h := change_step w a
  generalize (w.step a).panel = p at h
  cases h with
  | evaluate => exact Panel.capacity_evaluate w.panel
  | clearOutputs | reset | edit => rfl

/-- What holds of all lines of the history, and of the line that the entry would add, holds of all
lines after any action. -/
theorem forall_mem_history_step {P : HistoryLine → Prop} (h : ∀ line ∈ w.panel.history, P line)
    (hnew : P (HistoryLine.ofText w.panel.entry)) (a : Action) :
    ∀ line ∈ (w.step a).panel.history, P line := by
  have hchange := change_step w a
  generalize (w.step a).panel = p at hchange ⊢
  cases hchange with
  | evaluate =>
    intro line hline
    have hmem : line ∈ HistoryLine.ofText w.panel.entry :: w.panel.history :=
      List.mem_of_mem_take (Panel.history_evaluate w.panel ▸ hline)
    rcases List.mem_cons.1 hmem with rfl | hold
    · exact hnew
    · exact h line hold
  | clearOutputs | edit => exact h
  | reset => exact fun line hline => absurd hline List.not_mem_nil

/-- Some actions lead from a new panel to the window. -/
def Reachable (w : Window) : Prop :=
  ∃ capacity actions, w = (new (Panel.new capacity)).run actions

/-- What every action preserves holds wherever actions lead. -/
theorem run_induction {P : Window → Prop} (hstep : ∀ w a, P w → P (w.step a)) (h : P w)
    (actions : List Action) : P (w.run actions) := by
  induction actions generalizing w with
  | nil => exact h
  | cons a actions ih => exact ih (hstep w a h)

theorem Reachable.induction {P : Window → Prop} (hw : w.Reachable)
    (hnew : ∀ capacity, P (new (Panel.new capacity))) (hstep : ∀ w a, P w → P (w.step a)) :
    P w := by
  obtain ⟨capacity, actions, rfl⟩ := hw
  exact run_induction hstep (hnew capacity) actions

/-- There is room for a line of the history. -/
theorem Reachable.capacity_pos (hw : w.Reachable) : 0 < w.panel.capacity := by
  refine hw.induction (P := fun w => 0 < w.panel.capacity) Panel.capacity_new_pos ?_
  intro w a h
  rwa [capacity_step]

end Window

end Calculator
