import Calculator.Proofs.Actions
import Mathlib.Data.List.Basic

/-!
# The history can be replayed

**Theorem (`history_replay`).** In every state that a user can reach, each line of the history holds
what its entry evaluates to. So a line that is taken back and evaluated comes again: the newest line
is then this line once more, whatever has happened since it was recorded.

A line keeps the trimmed entry, but its value was found from the entry as it was. Both evaluate
alike, because evaluation removes all blanks first, and those at the ends are among them
(`Text.unspaced_trim`). A line that is replayed is trimmed again, which changes nothing any more
(`Text.trim_trim`).
-/

namespace Calculator

deriving instance DecidableEq for HistoryLine

/-! ## Lines -/

theorem evaluate_congr {s t : Text} (h : s.unspaced = t.unspaced) : evaluate s = evaluate t := by
  rw [evaluate, evaluate, Run.ofText, Run.ofText, h]

theorem valueOf_trim (t : Text) : valueOf t.trim = valueOf t := by
  rw [valueOf, valueOf, evaluate_congr (Text.unspaced_trim t)]

namespace HistoryLine

/-- The line holds what its entry evaluates to. -/
structure Reproducible (line : HistoryLine) : Prop where
  outcome : line.outcome = (valueOf line.entry).mapError Refusal.message
  trimmed : line.entry.trim = line.entry

theorem reproducible_ofText (t : Text) : (ofText t).Reproducible where
  outcome := by
    show (valueOf t).mapError Refusal.message = (valueOf t.trim).mapError Refusal.message
    rw [valueOf_trim]
  trimmed := Text.trim_trim t

/-- Evaluating the entry of a line gives the line again. -/
theorem Reproducible.ofText_entry {line : HistoryLine} (h : line.Reproducible) :
    ofText line.entry = line := by
  obtain ⟨entry, outcome⟩ := line
  rw [ofText, ← h.outcome, h.trimmed]

end HistoryLine

namespace Window

variable {w : Window} {i : Nat} {line : HistoryLine}

/-! ## Taking a line back -/

/-- What a user does to take the line `i` back. The list of the history is opened first if it is
closed, unless it has never been opened: then taking a line back opens it. -/
def recalling (w : Window) (i : Nat) : List Action :=
  if w.historyIsOpen || !w.headerUsed then [.recall i] else [.toggleHistory, .recall i]

theorem historyIsOpen_clickHeader (h : w.historyIsOpen = false) :
    w.clickHeader.historyIsOpen = true := by
  have hlengths : w.clickHeader.openLengths = w.panel.history.length :: w.openLengths := by
    rw [clickHeader, h, if_neg (by decide)]
  have hpanel : w.clickHeader.panel = w.panel := rfl
  rw [historyIsOpen, hlengths, hpanel, List.contains_cons, beq_self_eq_true, Bool.true_or]

theorem panel_settle_clickLine (hopen : w.historyIsOpen = true)
    (hline : w.panel.history[i]? = some line) :
    (w.clickLine i).settle.panel = { w.panel with entry := line.entry, wantsFocus := false } := by
  rw [clickLine, if_pos hopen, hline]
  rfl

/-- A line that is taken back is the entry then, and nothing else of the panel has changed. -/
theorem panel_run_recalling (hw : w.headerUsed = false → w.openLengths = [])
    (hline : w.panel.history[i]? = some line) :
    (w.run (w.recalling i)).panel = { w.panel with entry := line.entry, wantsFocus := false } := by
  have hstep : w.step (.recall i) =
      ((if w.headerUsed then w else w.clickHeader).clickLine i).settle := rfl
  cases hused : w.headerUsed with
  | false =>
    -- Taking the line back clicks the header, and the list must not be closed by that.
    have hclosed : w.historyIsOpen = false := by
      rw [historyIsOpen, hw hused]
      rfl
    have hrun : w.run (w.recalling i) = w.step (.recall i) := by
      rw [recalling, hused, Bool.not_false, Bool.or_true, if_pos rfl]
      rfl
    rw [hrun, hstep, hused, if_neg (by decide)]
    exact panel_settle_clickLine (historyIsOpen_clickHeader hclosed) hline
  | true =>
    cases hopen : w.historyIsOpen with
    | false =>
      have hrun : w.run (w.recalling i) = (w.clickHeader.settle.clickLine i).settle := by
        rw [recalling, hopen, hused, if_neg (by decide)]
        rfl
      have hopened : w.clickHeader.settle.historyIsOpen = true := historyIsOpen_clickHeader hopen
      rw [hrun, panel_settle_clickLine hopened hline]
      rfl
    | true =>
      have hrun : w.run (w.recalling i) = w.step (.recall i) := by
        rw [recalling, hopen, Bool.true_or, if_pos rfl]
        rfl
      rw [hrun, hstep, hused, if_pos rfl]
      exact panel_settle_clickLine hopen hline

/-! ## The invariant -/

/-- What holds of a window in every state that a user can reach. -/
structure Replayable (w : Window) : Prop where
  lines : ∀ line ∈ w.panel.history, line.Reproducible
  capacity_pos : 0 < w.panel.capacity
  closed : w.headerUsed = false → w.openLengths = []

theorem headerUsed_clickLine (w : Window) (i : Nat) :
    (w.clickLine i).headerUsed = w.headerUsed := by
  unfold clickLine
  split_ifs
  · split <;> rfl
  · rfl

theorem headerUsed_step_recall (w : Window) (i : Nat) : (w.step (.recall i)).headerUsed = true := by
  have hused : (if w.headerUsed then w else w.clickHeader).headerUsed = true := by
    split_ifs with h
    · exact h
    · rfl
  exact (headerUsed_clickLine _ i).trans hused

/-- Only the header opens the list. -/
theorem closed_step (h : w.headerUsed = false → w.openLengths = []) (a : Action)
    (hused : (w.step a).headerUsed = false) : (w.step a).openLengths = [] := by
  cases a with
  | type | press => exact h hused
  | key control key =>
    cases key with
    | escape | other => exact h hused
    | enter =>
      cases control with
      | false => exact h hused
      | true =>
        revert hused
        rw [step, act, pressKey, if_pos rfl]
        split_ifs <;> exact h
  | toggleHistory => cases hused
  | «recall» i =>
    rw [headerUsed_step_recall] at hused
    cases hused

theorem replayable_step (h : w.Replayable) (a : Action) : (w.step a).Replayable where
  lines := forall_mem_history_step h.lines (HistoryLine.reproducible_ofText _) a
  capacity_pos := by
    rw [capacity_step]
    exact h.capacity_pos
  closed := closed_step h.closed a

theorem Reachable.replayable (hw : w.Reachable) : w.Replayable := by
  refine hw.induction (fun capacity => ?_) fun w a h => replayable_step h a
  exact ⟨fun line hline => absurd hline List.not_mem_nil, Panel.capacity_new_pos capacity,
    fun _ => rfl⟩

/-! ## Replaying -/

/-- Evaluating a line that was taken back records it once more, in front of all others. -/
theorem history_step_recalling (hw : w.Replayable) (hline : w.panel.history[i]? = some line)
    {a : Action} (ha : (w.run (w.recalling i)).evaluates a = true) :
    ((w.run (w.recalling i)).step a).panel.history =
      line :: w.panel.history.take (w.panel.capacity - 1) := by
  have hreproducible : line.Reproducible := hw.lines line (List.mem_of_getElem? hline)
  obtain ⟨n, hn⟩ := Nat.exists_eq_add_of_lt hw.capacity_pos
  calc ((w.run (w.recalling i)).step a).panel.history
      = (w.run (w.recalling i)).panel.evaluate.history := by
        rw [panel_step_of_evaluates ha]
    _ = (HistoryLine.ofText line.entry :: w.panel.history).take w.panel.capacity := by
        rw [panel_run_recalling hw.closed hline, Panel.history_evaluate]
    _ = line :: w.panel.history.take (w.panel.capacity - 1) := by
        rw [hreproducible.ofText_entry, hn]
        rfl

/-- In every state that a user can reach, a line of the history holds what its entry evaluates to,
and taking it back and evaluating it records the same line again. -/
theorem history_replay (hw : w.Reachable) :
    (∀ line ∈ w.panel.history,
        line.outcome = (valueOf line.entry).mapError Refusal.message) ∧
      ∀ i line, w.panel.history[i]? = some line →
        ∀ a, (w.run (w.recalling i)).evaluates a = true →
          ((w.run (w.recalling i)).step a).panel.history =
            line :: w.panel.history.take (w.panel.capacity - 1) :=
  ⟨fun line hline => (hw.replayable.lines line hline).outcome,
    fun _ _ hline _ ha => history_step_recalling hw.replayable hline ha⟩

/-- A quotient is taken back over a division by zero and evaluated with Enter. -/
theorem history_replay_quotient :
    ((new (Panel.new 20)).run [.type " 6/2 ".toList, .press .equals, .type "1/(1-1)".toList,
        .press .equals, .recall 1, .key true .enter]).panel.history =
      [⟨"6/2".toList, .ok 3⟩,
        ⟨"1/(1-1)".toList, .error "Invalid expression: Division by zero".toList⟩,
        ⟨"6/2".toList, .ok 3⟩] := by
  let w := (new (Panel.new 20)).run [.type " 6/2 ".toList, .press .equals,
    .type "1/(1-1)".toList, .press .equals]
  have hw : w.Reachable := ⟨20, _, rfl⟩
  have hhistory : w.panel.history =
      [⟨"1/(1-1)".toList, .error "Invalid expression: Division by zero".toList⟩,
        ⟨"6/2".toList, .ok 3⟩] := by
    decide +kernel
  have hline : w.panel.history[1]? = some ⟨"6/2".toList, .ok 3⟩ := by
    rw [hhistory]
    rfl
  have happly := (history_replay hw).2 1 _ hline (.key true .enter) rfl
  rw [hhistory] at happly
  exact happly

end Window

end Calculator
