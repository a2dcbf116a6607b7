import Calculator.Expression.Reduction
import Calculator.Proofs.Outcome

/-!
# Unwinding the stack of markers

Every token that is no number applies waiting operators from the top of the stack of markers for as
long as they bind tightly enough. The three places of the reduction that do so differ only in what
is tight enough: an incoming operator asks for its own precedence, a closing parenthesis for any
operator, the end of the tokens for any marker.

* `unwind_unwind`: unwinding with a strict condition first changes nothing for a lax one. This is
  how a part of the tokens, reduced on its own, is taken up by what follows it.
* `unwind_eq`: unwinding applies the markers down to the first one that is not tight enough.
* `run_append`: a list of tokens may be cut anywhere.
-/

namespace Calculator.Reduction

variable {p q : Marker → Bool} {m : Marker} {ms : List Marker} {w : Bench} {s : Stacks} {n k : Nat}

/-! ## Precedences -/

/-- The marker is an operator that binds at least as tightly as the precedence `n` does. -/
def Marker.binds (n : Nat) : Marker → Bool
  | .operator op => n ≤ op.precedence
  | .opening => false

theorem Marker.yieldsTo_eq (op : Operator) : Marker.yieldsTo op = Marker.binds op.precedence := by
  funext m
  cases m <;> rfl

theorem Marker.isOperator_eq : Marker.isOperator = Marker.binds 1 := by
  funext m
  cases m with
  | opening => rfl
  | operator op => cases op <;> rfl

theorem Marker.binds_mono (h : n ≤ k) (hm : m.binds k = true) : m.binds n = true := by
  cases m with
  | opening => exact hm
  | operator op => exact decide_eq_true (Nat.le_trans h (of_decide_eq_true hm))

/-! ## Applying -/

/-- An application takes an operator and two operands, and leaves their value and a step. -/
theorem exists_of_apply {w' : Bench} (h : w.apply m = .ok w') :
    ∃ a op b r rest, m = .operator op ∧ w.operands = b :: a :: rest ∧
      op.compute? a b = some r ∧ w' = ⟨r :: rest, ⟨a, op, b, r⟩ :: w.steps⟩ := by
  obtain ⟨operands, steps⟩ := w
  match operands, m with
  | [], _ | [_], _ | _ :: _ :: _, .opening => cases h
  | b :: a :: rest, .operator op =>
    simp only [Bench.apply] at h
    cases hr : op.compute? a b with
    | none =>
      rw [hr] at h
      cases h
    | some r =>
      rw [hr] at h
      cases h
      exact ⟨a, op, b, r, rest, rfl, rfl, hr, rfl⟩

/-! ## Unwinding -/

theorem unwind_of_pos (h : p m = true) :
    unwind p (m :: ms) w = w.apply m >>= unwind p ms := by
  rw [unwind, if_pos h]

theorem unwind_of_neg (h : p m = false) : unwind p (m :: ms) w = .ok ⟨m :: ms, w⟩ := by
  rw [unwind, if_neg (by simp [h])]

/-- No marker on top of the stack binds as tightly as `n`. -/
def Settled (n : Nat) (ms : List Marker) : Prop := ∀ m, ms.head? = some m → m.binds n = false

theorem settled_nil : Settled n [] := by
  intro m h
  simp at h

theorem settled_cons (h : m.binds n = false) : Settled n (m :: ms) := by
  intro m' h'
  rw [List.head?_cons, Option.some.injEq] at h'
  rwa [← h']

theorem Settled.mono (h : n ≤ k) (hs : Settled n ms) : Settled k ms := by
  intro m hm
  cases hk : m.binds k with
  | false => rfl
  | true => rw [← Marker.binds_mono h hk, hs m hm]

theorem unwind_of_settled (h : Settled n ms) : unwind (Marker.binds n) ms w = .ok ⟨ms, w⟩ := by
  cases ms with
  | nil => rfl
  | cons m ms => exact unwind_of_neg (h m rfl)

/-- Unwinding with a stricter condition first changes nothing. -/
theorem unwind_unwind (h : ∀ m, q m = true → p m = true) (ms : List Marker) (w : Bench) :
    (unwind q ms w >>= fun s => unwind p s.markers s.bench) = unwind p ms w := by
  induction ms generalizing w with
  | nil => rfl
  | cons m ms ih =>
    by_cases hq : q m = true
    · rw [unwind_of_pos hq, unwind_of_pos (h m hq), bind_assoc]
      exact bind_congr fun w' => ih w'
    · rw [unwind_of_neg (by simpa using hq)]
      rfl

/-- Whatever result is unwound may be unwound with a stricter condition first. -/
theorem bind_unwind_unwind (h : ∀ m, q m = true → p m = true) (x : Except Halt Stacks) :
    ((x >>= fun s => unwind q s.markers s.bench) >>= fun s => unwind p s.markers s.bench) =
      x >>= fun s => unwind p s.markers s.bench := by
  rw [bind_assoc]
  exact bind_congr fun s => unwind_unwind h s.markers s.bench

/-! ## What unwinding leaves -/

theorem unwind_congr (h : ∀ m ∈ ms, p m = q m) (w : Bench) : unwind p ms w = unwind q ms w := by
  induction ms generalizing w with
  | nil => rfl
  | cons m ms ih =>
    have hm := h m (by simp)
    by_cases hq : q m = true
    · rw [unwind_of_pos hq, unwind_of_pos (hm.trans hq)]
      exact bind_congr fun w' => ih (fun m hm => h m (by simp [hm])) w'
    · rw [Bool.not_eq_true] at hq
      rw [unwind_of_neg hq, unwind_of_neg (hm.trans hq)]

/-- Unwinding applies the markers down to the first one that is not tight enough. -/
theorem unwind_eq (p : Marker → Bool) (ms : List Marker) (w : Bench) :
    unwind p ms w =
      (ms.takeWhile p).foldlM Bench.apply w >>= fun w' => .ok ⟨ms.dropWhile p, w'⟩ := by
  induction ms generalizing w with
  | nil => rfl
  | cons m ms ih =>
    by_cases hp : p m = true
    · rw [unwind_of_pos hp, List.takeWhile_cons_of_pos hp, List.dropWhile_cons_of_pos hp,
        List.foldlM_cons, bind_assoc]
      exact bind_congr fun w' => ih w'
    · rw [unwind_of_neg (by simpa using hp), List.takeWhile_cons_of_neg hp,
        List.dropWhile_cons_of_neg hp]
      rfl

theorem markers_unwind (h : unwind p ms w = .ok s) : s.markers = ms.dropWhile p := by
  rw [unwind_eq] at h
  obtain ⟨w', -, h⟩ := bind_eq_ok h
  cases h
  rfl

theorem markers_unwind_all (h : unwind (fun _ => true) ms w = .ok s) : s.markers = [] := by
  rw [markers_unwind h]
  clear h
  induction ms with
  | nil => rfl
  | cons m ms ih => exact ih

/-! ## Steps and runs -/

theorem step_operator (s : Stacks) (op : Operator) :
    s.step (.operator op) = unwind (Marker.binds op.precedence) s.markers s.bench >>=
      fun r => .ok ⟨.operator op :: r.markers, r.bench⟩ := by
  rw [← Marker.yieldsTo_eq]
  rfl

theorem step_closing (s : Stacks) :
    s.step .closing = unwind (Marker.binds 1) s.markers s.bench >>=
      fun r => .ok ⟨dropOpening r.markers, r.bench⟩ := by
  rw [← Marker.isOperator_eq]
  rfl

theorem run_cons (s : Stacks) (t : Token) (ts : List Token) :
    s.run (t :: ts) = s.step t >>= fun s' => s'.run ts := rfl

theorem run_singleton (s : Stacks) (t : Token) : s.run [t] = s.step t := by
  rw [run_cons]
  exact bind_pure _

theorem run_append (s : Stacks) (ts us : List Token) :
    s.run (ts ++ us) = s.run ts >>= fun s' => s'.run us := by
  induction ts generalizing s with
  | nil => rfl
  | cons t ts ih =>
    rw [List.cons_append, run_cons, run_cons, bind_assoc]
    exact bind_congr fun s' => ih s'

end Calculator.Reduction
