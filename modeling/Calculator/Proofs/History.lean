import Calculator.Panel.State
import Mathlib.Data.List.DropRight

/-!
# The history is a log

**Theorem (`history_run`).** Whatever is done to a new panel, its history is the log of what was
recorded since the last reset, the newest line first, as far as the capacity goes. A line holds the
entry as it was when it was recorded, trimmed, and the value or the message. The capacity is the
wanted one, moved into its range once and for all, and a reset makes the panel new again.

The log (`log`) is found from the operations alone: those since the last reset are kept, the entry
is followed through them, and each one that records adds a line. The panel on the other hand cuts
its history with every line. Both agree because a line that has been cut off never comes back: what
is in front of it only grows (`take_append_take`).
-/

namespace Calculator

namespace Panel

/-! ## Operations -/

/-- What can be done to a panel. -/
inductive Operation
  | assign (entry : Text)
  | clearEntry
  | clearOutputs
  | reset
  | fail (message envelope : Text)
  | succeed (value : Float) (envelope : Text) (working : Working)

/-- Does an operation. -/
def apply (p : Panel) : Operation → Panel
  | .assign entry => { p with entry := entry }
  | .clearEntry => p.clearEntry
  | .clearOutputs => p.clearOutputs
  | .reset => p.reset
  | .fail message envelope => p.recordFailure message envelope
  | .succeed value envelope working => p.recordSuccess value envelope working

/-- Does operations in order. -/
def run (p : Panel) (ops : List Operation) : Panel := ops.foldl apply p

/-! ## The log -/

namespace Operation

/-- The operation is a reset. -/
def isReset : Operation → Bool
  | reset => true
  | _ => false

/-- The entry after the operation. -/
def entryAfter (entry : Text) : Operation → Text
  | assign entry => entry
  | clearEntry | reset => []
  | clearOutputs | fail _ _ | succeed _ _ _ => entry

/-- What the operation records, if it does. -/
def outcome? : Operation → Option (Except Text Float)
  | fail message _ => some (.error message)
  | succeed value _ _ => some (.ok value)
  | assign _ | clearEntry | clearOutputs | reset => none

/-- The line that the operation records with the given entry, if it records one. -/
def line? (entry : Text) (op : Operation) : Option HistoryLine :=
  op.outcome?.map fun outcome => ⟨entry.trim, outcome⟩

/-- The entry after operations. -/
def entryAfterAll (entry : Text) (ops : List Operation) : Text := ops.foldl entryAfter entry

/-- The lines that operations record, the oldest first. -/
def lines (entry : Text) : List Operation → List HistoryLine
  | [] => []
  | op :: ops => (op.line? entry).toList ++ lines (op.entryAfter entry) ops

/-- The operations behind the last reset. -/
def sinceReset (ops : List Operation) : List Operation := ops.rtakeWhile fun op => !op.isReset

/-- The lines recorded since the last reset, the newest first. -/
def log (ops : List Operation) : List HistoryLine := (lines [] (sinceReset ops)).reverse

theorem lines_append (entry : Text) (ops : List Operation) (op : Operation) :
    lines entry (ops ++ [op]) =
      lines entry ops ++ (op.line? (entryAfterAll entry ops)).toList := by
  induction ops generalizing entry with
  | nil => simp [lines, entryAfterAll]
  | cons op' ops ih =>
    rw [List.cons_append, lines, lines, ih, List.append_assoc]
    rfl

theorem entryAfterAll_append (entry : Text) (ops : List Operation) (op : Operation) :
    entryAfterAll entry (ops ++ [op]) = op.entryAfter (entryAfterAll entry ops) :=
  List.foldl_append ..

end Operation

/-! ## One operation -/

open Operation

variable {p : Panel} {op : Operation} {ops : List Operation}

theorem entry_apply (p : Panel) (op : Operation) : (p.apply op).entry = op.entryAfter p.entry := by
  cases op <;> rfl

theorem capacity_apply (p : Panel) (op : Operation) : (p.apply op).capacity = p.capacity := by
  cases op <;> rfl

/-- A line in front of the history costs the oldest one its place, if there is no room. -/
theorem history_apply (hop : op.isReset = false) (hp : p.history.length ≤ p.capacity) :
    (p.apply op).history = ((op.line? p.entry).toList ++ p.history).take p.capacity := by
  cases op with
  | assign | clearEntry | clearOutputs => exact (List.take_of_length_le hp).symm
  | reset => cases hop
  | fail | succeed => rfl

theorem take_append_take {α : Type} (n : Nat) (front l : List α) :
    (front ++ l.take n).take n = (front ++ l).take n := by
  rw [List.take_append, List.take_append, List.take_take, Nat.min_eq_left (Nat.sub_le ..)]

/-! ## All operations -/

/-- The panel has logged the operations, which were done behind a reset. -/
structure Logs (ops : List Operation) (p : Panel) : Prop where
  entry : p.entry = entryAfterAll [] ops
  history : p.history = (lines [] ops).reverse.take p.capacity

theorem logs_apply (h : Logs ops p) (hop : op.isReset = false) :
    Logs (ops ++ [op]) (p.apply op) where
  entry := by rw [entry_apply, entryAfterAll_append, h.entry]
  history := by
    have hlength : p.history.length ≤ p.capacity := by
      rw [h.history]
      exact List.length_take_le ..
    have hreverse : ∀ line : Option HistoryLine, line.toList.reverse = line.toList := by
      intro line
      cases line <;> rfl
    rw [history_apply hop hlength, capacity_apply, h.history, h.entry, take_append_take,
      lines_append, List.reverse_append, hreverse]

theorem logs_reset (p : Panel) : Logs [] p.reset := ⟨rfl, List.take_nil.symm⟩

/-- A reset leaves nothing of a panel but its capacity. -/
theorem reset_eq_new {n : Nat} (h : p.capacity = (new n).capacity) : p.reset = new n := by
  show { new n with capacity := p.capacity } = new n
  rw [h]

theorem run_append (p : Panel) (ops : List Operation) (op : Operation) :
    p.run (ops ++ [op]) = (p.run ops).apply op :=
  List.foldl_append ..

theorem capacity_run (p : Panel) (ops : List Operation) : (p.run ops).capacity = p.capacity := by
  induction ops using List.reverseRecOn with
  | nil => rfl
  | append_singleton ops op ih => rw [run_append, capacity_apply, ih]

theorem logs_run (n : Nat) (ops : List Operation) :
    Logs (sinceReset ops) ((new n).run ops) := by
  -- Whether an operation counts depends on what is done after it, so they are added at the end.
  induction ops using List.reverseRecOn with
  | nil => exact ⟨rfl, List.take_nil.symm⟩
  | append_singleton ops op ih =>
    rw [run_append, sinceReset]
    cases hop : op.isReset with
    | false =>
      rw [List.rtakeWhile_concat_pos _ _ _ (by simp [hop])]
      exact logs_apply ih hop
    | true =>
      rw [List.rtakeWhile_concat_neg _ _ _ (by simp [hop])]
      cases op with
      | reset => exact logs_reset _
      | assign | clearEntry | clearOutputs | fail | succeed => cases hop

/-- The history of a panel is the log of the operations that led to it, as far as the capacity
goes. -/
theorem history_run (n : Nat) (ops : List Operation) :
    ((new n).run ops).capacity = max 1 (min n 200) ∧
      ((new n).run ops).history = (log ops).take ((new n).run ops).capacity ∧
      ((new n).run ops).history.head? = (log ops).head? ∧
      ((new n).run ops).apply .reset = new n := by
  have hcapacity : ((new n).run ops).capacity = max 1 (min n 200) := capacity_run (new n) ops
  have hhistory := (logs_run n ops).history
  refine ⟨hcapacity, hhistory, ?_, reset_eq_new hcapacity⟩
  rw [hhistory, log, List.head?_take, if_neg (by omega)]

/-- Of three lines the oldest is cut off, and what was recorded before the reset is gone. -/
example :
    ((new 2).run [.assign "1/0".toList, .fail "a".toList [], .reset, .assign " 2 ".toList,
        .fail "b".toList [], .clearOutputs, .fail "c".toList [], .clearEntry,
        .fail "d".toList []]).history =
      [⟨[], .error "d".toList⟩, ⟨"2".toList, .error "c".toList⟩] := by rfl

end Panel

end Calculator
