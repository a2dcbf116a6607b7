import Calculator.Proofs.Nesting
import Calculator.Proofs.Precedence

/-!
# Reduction and postfix form

**Theorem (`reduce_eq_evaluate`).** Reducing tokens whose parentheses match comes to the same as
writing them in postfix form first and evaluating the postfix form afterwards: the same value, the
same error, the same steps up to it.

The postfix form (`Postfix.convert`) is found from the kinds of the tokens alone; no number is
known to it, only that there is one. The numbers are filled in afterwards, in the order in which
they were read. The evaluation (`Postfix.evaluate`) has one stack, of values, and knows neither
parentheses nor precedences.

The reduction does both at once, so that a failure ends the conversion too. The equation holds
nevertheless, because the conversion cannot fail: what it would have written after the failure is
never reached by the evaluation (`run_finish_eq`, for any markers that wait and any values below).

Two lists of tokens of the same kinds have one postfix form. Its evaluation only looks at a number
to see whether it divides by zero (`agree_evaluate`).
-/

namespace Calculator

open Reduction

/-! ## Kinds of tokens -/

/-- What there is to a token besides the value of a number. -/
inductive Token.Kind
  | number
  | operator (op : Operator)
  | opening
  | closing
  deriving DecidableEq, Repr

/-- The kind of a token. -/
def Token.kind : Token → Kind
  | number _ => .number
  | operator op => .operator op
  | opening => .opening
  | closing => .closing

/-- The value of a number. -/
def Token.value? : Token → Option Float
  | number v => some v
  | operator _ | opening | closing => none

namespace Postfix

/-! ## Postfix form -/

/-- An entry of a postfix form: a number, or the operator of the two values before it. -/
inductive Entry (α : Type)
  | number (value : α)
  | operator (op : Operator)
  deriving DecidableEq

/-- The operators among markers, from the top, as entries. -/
def operators : List Marker → List (Entry Unit)
  | [] => []
  | .operator op :: ms => .operator op :: operators ms
  | .opening :: ms => operators ms

/-- The postfix form of tokens of the given kinds, read while some markers wait. A number is written
at once. An operator waits, and so does an opening parenthesis; before an operator waits, those on
top that do not bind less tightly are written, and a closing parenthesis writes those down to the
opening one, which goes away with it. -/
def convert (waiting : List Marker) : List Token.Kind → List (Entry Unit)
  | [] => operators waiting
  | .number :: kinds => .number () :: convert waiting kinds
  | .operator op :: kinds =>
    operators (waiting.takeWhile (Marker.yieldsTo op)) ++
      convert (.operator op :: waiting.dropWhile (Marker.yieldsTo op)) kinds
  | .opening :: kinds => convert (.opening :: waiting) kinds
  | .closing :: kinds =>
    operators (waiting.takeWhile Marker.isOperator) ++
      convert (dropOpening (waiting.dropWhile Marker.isOperator)) kinds

/-- The entries with their numbers, which are given in order. -/
def fill : List (Entry Unit) → List Float → List (Entry Float)
  | [], _ => []
  | .number () :: _, [] => []
  | .number () :: entries, v :: numbers => .number v :: fill entries numbers
  | .operator op :: entries, numbers => .operator op :: fill entries numbers

/-- `2 * (3 + 4)` is `2 3 4 + *` in postfix form. -/
example :
    convert [] [.number, .operator .times, .opening, .number, .operator .plus, .number, .closing] =
      [.number (), .number (), .number (), .operator .plus, .operator .times] := by decide

/-! ## Evaluation -/

/-- Evaluates entries from left to right on a stack of values, after the given steps, the latest
first. -/
def evaluate : List (Entry Float) → List Float → List Step → Except Halt (Float × List Step)
  | [], values, steps =>
    match values with
    | [v] => .ok (v, steps.reverse)
    | _ => .error ⟨.badFormat, steps⟩
  | .number v :: entries, values, steps => evaluate entries (v :: values) steps
  | .operator op :: entries, values, steps =>
    match values with
    | b :: a :: rest =>
      if op.DividesByZero b then .error ⟨.divisionByZero, steps⟩
      else evaluate entries (op.value a b :: rest) (⟨a, op, b, op.value a b⟩ :: steps)
    | _ => .error ⟨.badFormat, steps⟩

theorem evaluate_operator_cons (op : Operator) (entries : List (Entry Float)) (a b : Float)
    (values : List Float) (steps : List Step) :
    evaluate (.operator op :: entries) (b :: a :: values) steps =
      if op.DividesByZero b then .error ⟨.divisionByZero, steps⟩
      else evaluate entries (op.value a b :: values) (⟨a, op, b, op.value a b⟩ :: steps) := rfl

theorem evaluate_operator (op : Operator) (entries : List (Entry Float)) (w : Bench) :
    evaluate (.operator op :: entries) w.operands w.steps =
      w.apply (.operator op) >>= fun w' => evaluate entries w'.operands w'.steps := by
  obtain ⟨operands, steps⟩ := w
  match operands with
  | [] => rfl
  | [_] => rfl
  | b :: a :: rest =>
    rw [Bench.apply_operator, evaluate_operator_cons]
    split_ifs <;> rfl

/-- Entries fail for two reasons only. -/
theorem reason_of_evaluate {entries : List (Entry Float)} {values : List Float}
    {steps : List Step} {halt : Halt} (h : evaluate entries values steps = .error halt) :
    halt.reason = .badFormat ∨ halt.reason = .divisionByZero := by
  induction entries generalizing values steps with
  | nil =>
    match values with
    | [] | _ :: _ :: _ =>
      cases h
      exact Or.inl rfl
    | [_] => cases h
  | cons entry entries ih =>
    cases entry with
    | number v => exact ih h
    | operator op =>
      match values with
      | [] | [_] =>
        cases h
        exact Or.inl rfl
      | b :: a :: _ =>
        rw [evaluate_operator_cons] at h
        split_ifs at h
        · cases h
          exact Or.inr rfl
        · exact ih h

/-- The entries of operators are evaluated by applying the operators. -/
theorem evaluate_operators {ms : List Marker} (h : ∀ m ∈ ms, m.isOperator = true)
    (entries : List (Entry Unit)) (numbers : List Float) (w : Bench) :
    evaluate (fill (operators ms ++ entries) numbers) w.operands w.steps =
      ms.foldlM Bench.apply w >>= fun w' =>
        evaluate (fill entries numbers) w'.operands w'.steps := by
  induction ms generalizing w with
  | nil => rfl
  | cons m ms ih =>
    have hms : ∀ m ∈ ms, m.isOperator = true := fun m hm => h m (List.mem_cons_of_mem _ hm)
    cases m with
    | opening => exact absurd (h .opening (by simp)) (by decide)
    | operator op =>
      rw [operators, List.cons_append, fill, evaluate_operator, List.foldlM_cons, bind_assoc]
      exact bind_congr fun w' => ih hms w'

/-! ## The equation -/

variable {ts us : List Token} {ms : List Marker} {d : Nat}

theorem isOperator_of_mem_takeWhile {p : Marker → Bool} (hp : p .opening = false) {m : Marker}
    (hm : m ∈ ms.takeWhile p) : m.isOperator = true := by
  have := List.mem_takeWhile_imp hm
  cases m with
  | operator op => rfl
  | opening => rw [hp] at this; cases this

/-- A token that unwinds markers writes their operators. -/
theorem unwind_bind_eq {p : Marker → Bool} (hp : p .opening = false)
    {f : Stacks → Except Halt (Float × List Step)} {entries : List (Entry Unit)}
    {numbers : List Float}
    (hf : ∀ w, f ⟨ms.dropWhile p, w⟩ = evaluate (fill entries numbers) w.operands w.steps)
    (w : Bench) :
    unwind p ms w >>= f =
      evaluate (fill (operators (ms.takeWhile p) ++ entries) numbers) w.operands w.steps := by
  rw [unwind_eq, bind_assoc,
    evaluate_operators fun m hm => isOperator_of_mem_takeWhile hp hm]
  exact bind_congr hf

/-- The end of the tokens writes the operators that are left. -/
theorem finish_eq (h : openings ms = 0) (w : Bench) :
    Stacks.finish ⟨ms, w⟩ = evaluate (fill (operators ms) []) w.operands w.steps := by
  have hall : ms.takeWhile (fun _ => true) = ms := List.takeWhile_eq_self_iff.2 fun _ _ => rfl
  have hops := evaluate_operators (isOperator_of_openings_eq_zero h) [] [] w
  rw [List.append_nil] at hops
  rw [hops, Stacks.finish, unwind_eq, hall, bind_assoc]
  apply bind_congr
  rintro ⟨operands, steps⟩
  match operands with
  | [] => rfl
  | [_] => rfl
  | _ :: _ :: _ => rfl

/-- Reduction that goes on with matched tokens, over waiting markers and operands below, evaluates
their postfix form. -/
theorem run_finish_eq (hn : Nested d ts) (hms : openings ms = d) (w : Bench) :
    (Stacks.run ⟨ms, w⟩ ts >>= Stacks.finish) =
      evaluate (fill (convert ms (ts.map Token.kind)) (ts.filterMap Token.value?)) w.operands
        w.steps := by
  -- The markers keep as many opening parentheses as the tokens still have to close, so that the
  -- last ones left are operators.
  induction hn generalizing ms w with
  | nil => exact finish_eq hms w
  | number v _ ih => exact ih hms (w.push v)
  | opening _ ih =>
    refine ih ?_ w
    rw [openings, List.count_cons_self]
    exact congrArg (· + 1) hms
  | operator op _ ih =>
    rw [run_cons, Stacks.step, bind_assoc, bind_assoc]
    refine unwind_bind_eq rfl (fun w' => ih ?_ w') w
    rw [openings, List.count_cons_of_ne (by simp)]
    exact (openings_dropWhile rfl ms).trans hms
  | closing _ ih =>
    rw [run_cons, Stacks.step, bind_assoc, bind_assoc]
    refine unwind_bind_eq rfl (fun w' => ih ?_ w') w
    rw [openings_dropOpening, hms]
    rfl

/-! ## Other numbers -/

/-- No division by zero ends the computation. -/
def AvoidsZeroDivisor {α : Type} (x : Except Halt α) : Prop :=
  ∀ halt, x = .error halt → halt.reason ≠ .divisionByZero

theorem avoidsZeroDivisor_of_isOk {α : Type} {x : Except Halt α} (h : x.isOk = true) :
    AvoidsZeroDivisor x := by
  intro halt hx
  rw [hx] at h
  cases h

/-- Two failures for the format. -/
def BothBadFormat (h k : Halt) : Prop := h.reason = .badFormat ∧ k.reason = .badFormat

/-- Two values after as many steps. -/
def SameCount (r q : Float × List Step) : Prop := r.2.length = q.2.length

variable {numbers numbers' values values' : List Float} {steps steps' : List Step}

theorem agree_evaluate_nil (hvalues : values.length = values'.length)
    (hsteps : steps.length = steps'.length) :
    Agree BothBadFormat SameCount (evaluate [] values steps) (evaluate [] values' steps') := by
  match values, values' with
  | [], [] => exact .error ⟨rfl, rfl⟩
  | [_], [_] =>
    refine .ok ?_
    show steps.reverse.length = steps'.reverse.length
    rw [List.length_reverse, List.length_reverse, hsteps]
  | _ :: _ :: _, _ :: _ :: _ => exact .error ⟨rfl, rfl⟩

theorem evaluate_operator_of_avoids {op : Operator} {entries : List (Entry Float)} {a b : Float}
    (h : AvoidsZeroDivisor (evaluate (.operator op :: entries) (b :: a :: values) steps)) :
    evaluate (.operator op :: entries) (b :: a :: values) steps =
      evaluate entries (op.value a b :: values) (⟨a, op, b, op.value a b⟩ :: steps) := by
  rw [evaluate_operator_cons] at h ⊢
  split_ifs at h ⊢ with hzero
  · exact absurd rfl (h _ rfl)
  · rfl

/-- Whether there are enough values does not depend on the values. -/
theorem agree_evaluate (entries : List (Entry Unit)) (hnumbers : numbers.length = numbers'.length)
    (hvalues : values.length = values'.length) (hsteps : steps.length = steps'.length)
    (h : AvoidsZeroDivisor (evaluate (fill entries numbers) values steps))
    (h' : AvoidsZeroDivisor (evaluate (fill entries numbers') values' steps')) :
    Agree BothBadFormat SameCount (evaluate (fill entries numbers) values steps)
      (evaluate (fill entries numbers') values' steps') := by
  induction entries generalizing numbers numbers' values values' steps steps' with
  | nil => exact agree_evaluate_nil hvalues hsteps
  | cons entry entries ih =>
    cases entry with
    | number _ =>
      match numbers, numbers' with
      | [], [] => exact agree_evaluate_nil hvalues hsteps
      | _ :: _, _ :: _ =>
        exact ih (Nat.succ.inj hnumbers) (congrArg Nat.succ hvalues) hsteps h h'
    | operator op =>
      match values, values' with
      | [], [] => exact .error ⟨rfl, rfl⟩
      | [_], [_] => exact .error ⟨rfl, rfl⟩
      | _ :: _ :: _, _ :: _ :: _ =>
        rw [fill] at h h'
        rw [fill, fill, evaluate_operator_of_avoids h, evaluate_operator_of_avoids h']
        rw [evaluate_operator_of_avoids h] at h
        rw [evaluate_operator_of_avoids h'] at h'
        exact ih hnumbers (Nat.succ.inj hvalues) (congrArg Nat.succ hsteps) h h'

/-- Whether parentheses match can be seen from the kinds of the tokens. -/
theorem nested_of_kinds (hn : Nested d ts) (hkinds : us.map Token.kind = ts.map Token.kind) :
    Nested d us := by
  induction hn generalizing us with
  | nil =>
    rw [List.map_eq_nil_iff.1 hkinds]
    exact .nil
  | number v _ ih =>
    obtain ⟨u, us, rfl, hu, hus⟩ := List.map_eq_cons_iff.1 hkinds
    cases u with
    | number v' => exact .number v' (ih hus)
    | operator | opening | closing => cases hu
  | operator op _ ih =>
    obtain ⟨u, us, rfl, hu, hus⟩ := List.map_eq_cons_iff.1 hkinds
    cases u with
    | operator op' => exact .operator op' (ih hus)
    | number | opening | closing => cases hu
  | opening _ ih =>
    obtain ⟨u, us, rfl, hu, hus⟩ := List.map_eq_cons_iff.1 hkinds
    cases u with
    | opening => exact .opening (ih hus)
    | number | operator | closing => cases hu
  | closing _ ih =>
    obtain ⟨u, us, rfl, hu, hus⟩ := List.map_eq_cons_iff.1 hkinds
    cases u with
    | closing => exact .closing (ih hus)
    | number | operator | opening => cases hu

theorem length_values (ts : List Token) :
    (ts.filterMap Token.value?).length = (ts.map Token.kind).count .number := by
  induction ts with
  | nil => rfl
  | cons t ts ih =>
    cases t with
    | number v =>
      rw [List.map_cons, Token.kind, List.count_cons_self, ← ih]
      rfl
    | operator | opening | closing =>
      rw [List.map_cons, Token.kind, List.count_cons_of_ne (by simp), ← ih]
      rfl

/-! ## The theorem -/

/-- Matched tokens are reduced as their postfix form is evaluated. Other numbers in their place, as
long as there is no division by zero, change neither success nor the number of steps. -/
theorem reduce_eq_evaluate (h : Nested 0 ts) :
    reduce ts = evaluate (fill (convert [] (ts.map Token.kind)) (ts.filterMap Token.value?)) [] [] ∧
      ∀ us, us.map Token.kind = ts.map Token.kind →
        AvoidsZeroDivisor (reduce ts) → AvoidsZeroDivisor (reduce us) →
          Agree BothBadFormat SameCount (reduce ts) (reduce us) := by
  have hreduce : ∀ {ts : List Token}, Nested 0 ts → reduce ts =
      evaluate (fill (convert [] (ts.map Token.kind)) (ts.filterMap Token.value?)) [] [] :=
    fun hn => run_finish_eq hn rfl ⟨[], []⟩
  refine ⟨hreduce h, ?_⟩
  intro us hkinds hts hus
  rw [hreduce h] at hts ⊢
  rw [hreduce (nested_of_kinds h hkinds), hkinds] at hus ⊢
  refine agree_evaluate _ ?_ rfl rfl hts hus
  rw [length_values, length_values, hkinds]

/-- An operand stands next to another, and the operator has none on either side. -/
theorem reduce_eq_evaluate_juxtaposed :
    reduce [.number 2, .opening, .number 3, .closing, .opening, .operator .times, .closing] =
        evaluate [.number 2, .number 3, .operator .times] [] [] ∧
      Agree BothBadFormat SameCount
        (reduce [.number 2, .opening, .number 3, .closing, .opening, .operator .times, .closing])
        (reduce [.number 5, .opening, .number 7, .closing, .opening, .operator .times,
          .closing]) := by
  have hn : Nested 0
      [.number 2, .opening, .number 3, .closing, .opening, .operator .times, .closing] :=
    .number 2 (.opening (.number 3 (.closing (.opening (.operator .times (.closing .nil))))))
  obtain ⟨heq, hagree⟩ := reduce_eq_evaluate hn
  refine ⟨heq, hagree
    [.number 5, .opening, .number 7, .closing, .opening, .operator .times, .closing] (by decide)
    ?_ ?_⟩
  · exact avoidsZeroDivisor_of_isOk (by decide +kernel)
  · exact avoidsZeroDivisor_of_isOk (by decide +kernel)

end Postfix

end Calculator
