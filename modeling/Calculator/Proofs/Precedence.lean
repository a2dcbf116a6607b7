import Calculator.Proofs.Courses
import Calculator.Proofs.Lexing
import Calculator.Proofs.Unwinding
import Calculator.Proofs.Validity
import Mathlib.Data.List.Infix

/-!
# Evaluation follows the tree

**Theorem (`evaluate_expression`).** An expression, with blanks put in anywhere, evaluates to what
the traversal of its tree gives: the same value, the same steps in the same order, each shown as a
line `a op b = r`, and the same first division by zero. The one exception is textual: an expression
that contains `/0` is rejected.

The reduction never sees the tree. It interleaves the two stacks with the reading of the tokens, so
at the end of a part of the text some of the part's operators may still wait. The invariant
(`Reads.runs`) says that this does not matter: running the tokens of a part and then unwinding what
binds as tightly as the level of the part is the same as carrying out the part's tree on the bench
(`Tree.exec`), and the markers below are untouched. It is an equation between results that may be
failures, so it also says that the first division by zero is the same.
-/

namespace Calculator

open Reduction

/-! ## Carrying out a tree on a bench -/

/-- Carries out a tree in post-order. -/
def Tree.exec : Tree → Bench → Except Halt Bench
  | literal l, w => .ok (w.push l.value)
  | binary left op right, w => do
    let w ← left.exec w
    let w ← right.exec w
    w.apply (.operator op)

theorem Reduction.Bench.apply_operator (op : Operator) (a b : Float) (rest : List Float)
    (steps : List Step) :
    Bench.apply ⟨b :: a :: rest, steps⟩ (.operator op) =
      if op.DividesByZero b then .error ⟨.divisionByZero, steps⟩
      else .ok ⟨op.value a b :: rest, ⟨a, op, b, op.value a b⟩ :: steps⟩ := by
  simp only [Bench.apply, Operator.compute?_eq]
  split_ifs <;> rfl

/-- A tree that is carried out leaves its value on top of the operands and its steps on top of the
steps; the only failure is a division by zero. -/
theorem Tree.exec_eq (e : Tree) (w : Bench) :
    match e.evaluate with
    | some (v, steps) => e.exec w = .ok ⟨v :: w.operands, steps.reverse ++ w.steps⟩
    | none => ∃ steps, e.exec w = .error ⟨.divisionByZero, steps⟩ := by
  induction e generalizing w with
  | literal l => rfl
  | binary left op right ihl ihr =>
    have hl := ihl w
    simp only [evaluate, exec]
    cases hel : left.evaluate with
    | none =>
      rw [hel] at hl
      obtain ⟨steps, hl⟩ := hl
      exact ⟨steps, by rw [hl]; rfl⟩
    | some vl =>
      obtain ⟨a, before⟩ := vl
      rw [hel] at hl
      have hr := ihr ⟨a :: w.operands, before.reverse ++ w.steps⟩
      cases her : right.evaluate with
      | none =>
        rw [her] at hr
        obtain ⟨steps, hr⟩ := hr
        exact ⟨steps, by rw [hl]; show (right.exec _ >>= _) = _; rw [hr]; rfl⟩
      | some vr =>
        obtain ⟨b, after⟩ := vr
        rw [her] at hr
        have happ : (do let w ← left.exec w; let w ← right.exec w; w.apply (.operator op)) =
            Bench.apply ⟨b :: a :: w.operands, after.reverse ++ (before.reverse ++ w.steps)⟩
              (.operator op) := by
          rw [hl]
          show (right.exec _ >>= _) = _
          rw [hr]
          rfl
        rw [happ, Bench.apply_operator]
        by_cases hz : op.DividesByZero b
        · simp [hz]
        · simp [hz]

/-! ## Levels and precedences -/

/-- The lowest precedence outside parentheses. -/
def Level.precedence : Level → Nat
  | expression => 1
  | term => 2
  | factor => 3

theorem Level.precedence_of_mem {level : Level} {op : Operator} (h : op ∈ level.operators) :
    op.precedence = level.precedence := by
  cases level <;> cases op <;> simp_all [operators, Level.precedence, Operator.precedence]

theorem Level.precedence_le_part (level : Level) : level.precedence ≤ level.part.precedence := by
  cases level <;> decide

theorem Level.precedence_lt_part {level : Level} {op : Operator} (h : op ∈ level.operators) :
    level.precedence < level.part.precedence := by
  cases level with
  | expression | term => decide
  | factor => simp [operators] at h

/-! ## The invariant -/

/-- The text, of the given level and with the given tree, is read as the tokens `ts`. -/
structure Reads (signed : Bool) (level : Level) (t : Text) (e : Tree) (ts : List Token) : Prop where
  /-- The text spells the tokens, whatever follows. -/
  spells : ∀ rest us, Token.EndsLiteral rest → Token.Spells false rest us →
    Token.Spells signed (t ++ rest) (ts ++ us)
  /-- The tokens, with what they leave waiting, carry out the tree. -/
  runs : ∀ ms w, Settled level.precedence ms →
    (Stacks.run ⟨ms, w⟩ ts >>= fun s => unwind (Marker.binds level.precedence) s.markers s.bench) =
      e.exec w >>= fun w' => .ok ⟨ms, w'⟩

theorem Reads.literal {signed : Bool} (l : Literal) (hl : l.negative = true → signed = true) :
    Reads signed .factor l.text (.literal l) [.number l.value] := by
  constructor
  · intro rest us hrest hus
    exact Token.Spells.literal l hl hrest hus
  · intro ms w hms
    show unwind (Marker.binds Level.factor.precedence) ms (w.push l.value) = _
    rw [unwind_of_settled hms]
    rfl

theorem Reads.parentheses {signed : Bool} {s : Text} {e : Tree} {ts : List Token}
    (h : Reads true .expression s e ts) :
    Reads signed .factor ('(' :: (s ++ [')'])) e (.opening :: (ts ++ [.closing])) := by
  constructor
  · intro rest us _ hus
    have hclosing : Token.Spells false (')' :: rest) (.closing :: us) :=
      Token.Spells.single (by decide) (by decide) rfl hus
    have := h.spells _ _ (Token.endsLiteral_cons (by decide)) hclosing
    have hopening : Token.Spells signed ('(' :: (s ++ ')' :: rest))
        (.opening :: (ts ++ .closing :: us)) :=
      Token.Spells.single (by decide) (fun hc => absurd hc (by decide)) rfl this
    simpa using hopening
  · intro ms w hms
    have hinner := h.runs (.opening :: ms) w (settled_cons rfl)
    -- The closing parenthesis unwinds every operator down to the opening one.
    have hclosing : Marker.binds 1 = Marker.binds Level.expression.precedence := rfl
    have hrun : Stacks.run ⟨ms, w⟩ (.opening :: (ts ++ [.closing])) =
        e.exec w >>= fun w' => .ok ⟨ms, w'⟩ := by
      show Stacks.run ⟨.opening :: ms, w⟩ (ts ++ [.closing]) = _
      rw [run_append]
      simp only [run_singleton, step_closing, hclosing]
      rw [← bind_assoc, hinner, bind_assoc]
      rfl
    rw [hrun, bind_assoc]
    exact bind_congr fun w' => unwind_of_settled hms

theorem Reads.part {signed : Bool} {level : Level} {s : Text} {e : Tree} {ts : List Token}
    (h : Reads signed level.part s e ts) : Reads signed level s e ts := by
  refine ⟨h.spells, ?_⟩
  intro ms w hms
  have hle := level.precedence_le_part
  have hinner := h.runs ms w (hms.mono hle)
  rw [← bind_unwind_unwind (fun _ => Marker.binds_mono hle), hinner, bind_assoc]
  exact bind_congr fun w' => unwind_of_settled hms

/-- An operator that waits is applied as soon as its right operand is read. -/
theorem Reads.runs_right {level : Level} {t : Text} {b : Tree} {op : Operator} {us : List Token}
    (hb : Reads false level.part t b us) (hop : op ∈ level.operators) {ms : List Marker}
    (hms : Settled level.precedence ms) (w : Bench) :
    (Stacks.run ⟨.operator op :: ms, w⟩ us >>=
      fun r => unwind (Marker.binds level.precedence) r.markers r.bench) =
      b.exec w >>= fun w' => w'.apply (.operator op) >>= fun w'' => .ok ⟨ms, w''⟩ := by
  have hle := level.precedence_le_part
  have hlt := Level.precedence_lt_part hop
  have hprec := Level.precedence_of_mem hop
  have hwaits : Settled level.part.precedence (.operator op :: ms) :=
    settled_cons (by simpa [Marker.binds, hprec] using hlt)
  have happlies : (Marker.operator op).binds level.precedence = true := by
    simp [Marker.binds, hprec]
  rw [← bind_unwind_unwind (fun _ => Marker.binds_mono hle), hb.runs _ w hwaits, bind_assoc]
  apply bind_congr
  intro w'
  show unwind (Marker.binds level.precedence) (.operator op :: ms) w' = _
  rw [unwind_of_pos happlies]
  exact bind_congr fun w'' => unwind_of_settled hms

theorem Reads.binary {signed : Bool} {level : Level} {s t : Text} {a b : Tree} {op : Operator}
    {ts us : List Token} (hop : op ∈ level.operators) (ha : Reads signed level s a ts)
    (hb : Reads false level.part t b us) :
    Reads signed level (s ++ op.symbol :: t) (.binary a op b) (ts ++ .operator op :: us) := by
  have hbody : Literal.isBody op.symbol = false := by cases op <;> decide
  constructor
  · intro rest vs hrest hvs
    have hof : Token.ofChar op.symbol = .ok (.operator op) := by cases op <;> rfl
    have hnot : decide (op.symbol = '(') = false := decide_eq_false op.symbol_ne_parenthesis.1
    have hright := hb.spells rest vs hrest hvs
    rw [← hnot] at hright
    have hjoint : Token.Spells false (op.symbol :: (t ++ rest)) (.operator op :: (us ++ vs)) :=
      Token.Spells.single hbody (fun _ => rfl) hof hright
    simpa using ha.spells _ _ (Token.endsLiteral_cons hbody) hjoint
  · intro ms w hms
    -- The operator unwinds the left operand before it waits itself.
    have hprec := Level.precedence_of_mem hop
    calc (Stacks.run ⟨ms, w⟩ (ts ++ .operator op :: us) >>=
          fun r => unwind (Marker.binds level.precedence) r.markers r.bench)
        = (Stacks.run ⟨ms, w⟩ ts >>=
            fun r => unwind (Marker.binds level.precedence) r.markers r.bench) >>=
            fun r => Stacks.run ⟨.operator op :: r.markers, r.bench⟩ us >>=
            fun r => unwind (Marker.binds level.precedence) r.markers r.bench := by
          simp only [run_append, run_cons, step_operator, hprec, bind_assoc]
          rfl
      _ = a.exec w >>= fun w' => b.exec w' >>=
            fun w'' => w''.apply (.operator op) >>= fun w₃ => .ok ⟨ms, w₃⟩ := by
          rw [ha.runs ms w hms, bind_assoc]
          exact bind_congr fun w' => hb.runs_right hop hms w'
      _ = (Tree.binary a op b).exec w >>= fun w' => .ok ⟨ms, w'⟩ := by
          simp only [Tree.exec, bind_assoc]

/-- Every derived text is read as its tree. -/
theorem exists_reads {signed : Bool} {level : Level} {t : Text} {e : Tree}
    (h : Derives signed level t e) : ∃ ts, Reads signed level t e ts := by
  induction h with
  | literal l hl => exact ⟨_, Reads.literal l hl⟩
  | parentheses _ ih =>
    obtain ⟨ts, h⟩ := ih
    exact ⟨_, h.parentheses⟩
  | part _ ih =>
    obtain ⟨ts, h⟩ := ih
    exact ⟨ts, h.part⟩
  | binary hop _ _ iha ihb =>
    obtain ⟨ts, ha⟩ := iha
    obtain ⟨us, hb⟩ := ihb
    exact ⟨_, ha.binary hop hb⟩

/-! ## The theorem -/

theorem reduce_of_reads {signed : Bool} {t : Text} {e : Tree} {ts : List Token}
    (h : Reads signed .expression t e ts) :
    (∃ halt, reduce ts = .error halt ∧ halt.reason = .divisionByZero ∧ e.evaluate = none) ∨
      ∃ r, reduce ts = .ok r ∧ e.evaluate = some r := by
  have hall : (Stacks.empty.run ts >>= fun s => unwind (fun _ => true) s.markers s.bench) =
      e.exec ⟨[], []⟩ >>= fun w => .ok ⟨[], w⟩ := by
    rw [← bind_unwind_unwind (q := Marker.binds 1) (fun _ _ => rfl)]
    show (Stacks.run ⟨[], ⟨[], []⟩⟩ ts >>=
      fun s => unwind (Marker.binds Level.expression.precedence) s.markers s.bench) >>= _ = _
    rw [h.runs [] ⟨[], []⟩ settled_nil, bind_assoc]
    rfl
  have hreduce : reduce ts = e.exec ⟨[], []⟩ >>= fun w => Stacks.finish ⟨[], w⟩ := by
    show (Stacks.empty.run ts >>= fun s => unwind (fun _ => true) s.markers s.bench >>= _) = _
    rw [← bind_assoc, hall, bind_assoc]
    rfl
  have hexec := e.exec_eq ⟨[], []⟩
  rw [hreduce]
  cases he : e.evaluate with
  | none =>
    rw [he] at hexec
    obtain ⟨steps, hexec⟩ := hexec
    exact Or.inl ⟨⟨.divisionByZero, steps⟩, by rw [hexec]; rfl, rfl, rfl⟩
  | some r =>
    rw [he] at hexec
    refine Or.inr ⟨r, ?_, rfl⟩
    rw [hexec]
    show Except.ok (r.1, (r.2.reverse ++ []).reverse) = .ok r
    simp

/-- An expression with blanks put in anywhere evaluates as its tree does: with the value of the
tree, the text without the blanks, and a step for each operator in post-order. A step is shown as
the line `a op b = r`. -/
theorem evaluate_expression {t s : Text} {e : Tree} (ht : Derives true .expression t e)
    (hs : Text.Spaced t s) :
    (evaluate s).map (fun r => (r.value, r.text, r.steps, r.steps.map Step.render)) =
      if ['/', '0'] <:+: t then .error (.rejected .zeroDivisor)
      else match e.evaluate with
        | none => .error (.failed .divisionByZero)
        | some (v, steps) => .ok (v, t, steps, steps.map fun step =>
            Number.display step.left ++ ' ' :: step.op.symbol :: ' ' ::
              Number.display step.right ++ " = ".toList ++ Number.display step.value) := by
  have htext : s.unspaced = t := by
    rw [hs.unspaced_eq, Validation.unspaced_of_derives ht]
  have hfault := Validation.fault?_of_regular (Validation.regular_of_derives ht)
  obtain ⟨ts, hreads⟩ := exists_reads ht
  have htokens : Token.ofText t = .ok ts := by
    have hspells := hreads.spells [] [] Token.endsLiteral_nil Token.Spells.nil
    rw [List.append_nil, List.append_nil] at hspells
    exact Token.scan_of_spells hspells none rfl
  rw [← htext] at hfault htokens ⊢
  simp only [Validation.hasAdjacent_iff_infix] at hfault
  by_cases hzero : ['/', '0'] <:+: s.unspaced
  · rw [if_pos hzero] at hfault ⊢
    rw [(Run.Course.rejected hfault).evaluate_eq]
    rfl
  · rw [if_neg hzero] at hfault ⊢
    rcases reduce_of_reads hreads with ⟨halt, hreduce, hreason, he⟩ | ⟨r, hreduce, he⟩
    · rw [(Run.Course.interrupted hfault htokens hreduce).evaluate_eq, he, hreason]
      rfl
    · rw [(Run.Course.finished hfault htokens hreduce).evaluate_eq, he]
      rfl

/-- Operators of one level associate to the left, and a sign needs its parentheses. -/
theorem evaluate_differences :
    Text.Spaced "8-2-(-1)".toList "8 - 2 - (-1)".toList ∧
      (∃ e, Derives true .expression "8-2-(-1)".toList e) ∧
      (evaluate "8 - 2 - (-1)".toList).map
          (fun r => (r.value, r.text, r.steps, r.steps.map Step.render)) =
        .ok (7, "8-2-(-1)".toList, [⟨8, .minus, 2, 6⟩, ⟨6, .minus, -1, 7⟩],
          ["8 - 2 = 6".toList, "6 - -1 = 7".toList]) := by
  let l : Literal := ⟨false, ['8'], by decide⟩
  let m : Literal := ⟨false, ['2'], by decide⟩
  let n : Literal := ⟨true, ['1'], by decide⟩
  have hs : Text.Spaced "8-2-(-1)".toList "8 - 2 - (-1)".toList := by
    repeat first
      | exact .nil
      | refine .char _ ?_
      | refine .blank (by decide) ?_
  have hl : Derives true .expression l.text (.literal l) := .part (.part (.literal l (by decide)))
  have hm : Derives false .term m.text (.literal m) := .part (.literal m (by decide))
  have hn : Derives true .expression n.text (.literal n) := .part (.part (.literal n (by decide)))
  have hop : Operator.minus ∈ Level.expression.operators := by decide
  have hd : Derives true .expression "8-2-(-1)".toList
      (.binary (.binary (.literal l) .minus (.literal m)) .minus (.literal n)) :=
    .binary hop (.binary hop hl hm) (.part (.parentheses hn))
  refine ⟨hs, ⟨_, hd⟩, ?_⟩
  rw [evaluate_expression hd hs]
  decide +kernel

end Calculator
