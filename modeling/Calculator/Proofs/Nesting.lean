import Calculator.Proofs.Lexing
import Calculator.Proofs.Unwinding
import Calculator.Proofs.Validity

/-!
# The run of a parenthesis

**Lemma (`run_parenthesised`).** Tokens that have a value, put between parentheses, leave that value
on top of the operands, whatever lies on the two stacks, and nothing else changes but the steps.

The run inside the parentheses is the run from empty stacks with the outer stacks below it
(`Stacks.inside`). No step of it reaches down to them. Operands are taken only where the run from
empty stacks found them. Markers are taken down to the opening parenthesis, which no unwinding
passes; only a closing parenthesis removes one, and it is not that one as long as the parentheses
inside are matched (`Nested`). A run from empty stacks that fails says nothing: with more operands
below it might succeed.
-/

namespace Calculator.Reduction

variable {p q : Marker → Bool} {m : Marker} {ms : List Marker} {w w' : Bench} {s s' : Stacks}
  {t : Token} {ts : List Token}

/-! ## Matched tokens -/

/-- The parentheses of the tokens match, if `d` of them are open before. -/
inductive Nested : Nat → List Token → Prop
  | nil : Nested 0 []
  | number {d : Nat} {ts : List Token} (v : Float) (h : Nested d ts) : Nested d (.number v :: ts)
  | operator {d : Nat} {ts : List Token} (op : Operator) (h : Nested d ts) :
      Nested d (.operator op :: ts)
  | opening {d : Nat} {ts : List Token} (h : Nested (d + 1) ts) : Nested d (.opening :: ts)
  | closing {d : Nat} {ts : List Token} (h : Nested d ts) : Nested (d + 1) (.closing :: ts)

theorem nested_of_spells {signed : Bool} {x : Text} (h : Token.Spells signed x ts) {d : Nat}
    (hd : Validation.parenthesesFault? d x = none) : Nested d ts := by
  induction h generalizing d with
  | nil =>
    obtain rfl := Validation.eq_zero_of_parenthesesFault?_nil hd
    exact .nil
  | literal l hl _ _ ih =>
    rw [Validation.matched_of_derives (.literal l hl) d _ (by omega)] at hd
    exact .number l.value (ih hd)
  | minus _ _ ih =>
    rw [← Operator.symbol, Validation.parenthesesFault?_symbol .minus (by omega)] at hd
    exact .operator .minus (ih hd)
  | single _ _ ht _ ih =>
    rcases Token.ofChar_eq_ok ht with ⟨rfl, rfl⟩ | ⟨rfl, rfl⟩ | ⟨op, rfl, rfl⟩
    · rw [Validation.parenthesesFault?_opening (by omega)] at hd
      exact .opening (ih (d := d + 1) hd)
    · obtain ⟨k, rfl, hk⟩ := Validation.exists_of_parenthesesFault?_closing hd
      exact .closing (ih hk)
    · rw [Validation.parenthesesFault?_symbol op (by omega)] at hd
      exact .operator op (ih hd)

/-- Accepted texts spell matched tokens. -/
theorem nested_of_accepted {x : Text} {ts : List Token} (hx : Validation.fault? x = none)
    (hts : Token.ofText x = .ok ts) : Nested 0 ts := by
  obtain ⟨hregular, -⟩ := Validation.regular_of_fault?_eq_none hx
  exact nested_of_spells (Token.scan_eq_ok_iff.1 hts) hregular.parentheses

/-! ## Opening parentheses that wait -/

/-- The opening parentheses that wait. -/
def openings (ms : List Marker) : Nat := ms.count .opening

theorem openings_dropWhile (hp : p .opening = false) (ms : List Marker) :
    openings (ms.dropWhile p) = openings ms := by
  induction ms with
  | nil => rfl
  | cons m ms ih =>
    by_cases hm : p m = true
    · have hne : m ≠ .opening := by
        intro hopening
        rw [hopening, hp] at hm
        cases hm
      rw [List.dropWhile_cons_of_pos hm, ih, openings, openings, List.count_cons_of_ne hne]
    · rw [List.dropWhile_cons_of_neg hm]

theorem isOperator_of_openings_eq_zero (h : openings ms = 0) : ∀ m ∈ ms, m.isOperator = true := by
  intro m hm
  cases m with
  | operator op => rfl
  | opening => exact absurd hm (List.count_eq_zero.1 h)

/-- If an opening parenthesis waits, unwinding the operators ends at one. -/
theorem exists_opening_of_dropWhile (hms : 0 < openings ms) :
    ∃ rest, ms.dropWhile Marker.isOperator = .opening :: rest := by
  induction ms with
  | nil => exact absurd hms (by decide)
  | cons m ms ih =>
    cases m with
    | opening => exact ⟨ms, rfl⟩
    | operator op =>
      rw [openings, List.count_cons_of_ne (by simp)] at hms
      exact ih hms

/-- A closing parenthesis takes down one opening parenthesis, if one waits. -/
theorem openings_dropOpening (ms : List Marker) :
    openings (dropOpening (ms.dropWhile Marker.isOperator)) = openings ms - 1 := by
  induction ms with
  | nil => rfl
  | cons m ms ih =>
    cases m with
    | opening =>
      rw [openings, openings, List.count_cons_self]
      rfl
    | operator op =>
      rw [List.dropWhile_cons_of_pos rfl, ih, openings, openings, List.count_cons_of_ne (by simp)]

/-! ## Running above other stacks -/

/-- A bench with another one below. -/
def Bench.above (w base : Bench) : Bench := ⟨w.operands ++ base.operands, w.steps ++ base.steps⟩

/-- The stacks inside a parenthesis that was opened on `base`. -/
def Stacks.inside (s base : Stacks) : Stacks :=
  ⟨s.markers ++ .opening :: base.markers, s.bench.above base.bench⟩

theorem apply_above (h : w.apply m = .ok w') (base : Bench) :
    (w.above base).apply m = .ok (w'.above base) := by
  obtain ⟨operands, steps⟩ := w
  obtain ⟨a, op, b, r, rest, rfl, rfl, hr, rfl⟩ := exists_of_apply h
  simp only [Bench.apply, Bench.above, List.cons_append, hr]

theorem unwind_inside (hp : p .opening = false) (h : unwind p ms w = .ok s) (base : Stacks) :
    unwind p (ms ++ .opening :: base.markers) (w.above base.bench) = .ok (s.inside base) := by
  induction ms generalizing w with
  | nil =>
    cases h
    exact unwind_of_neg hp
  | cons m ms ih =>
    rw [List.cons_append]
    by_cases hm : p m = true
    · rw [unwind_of_pos hm] at h ⊢
      obtain ⟨w', hw', h⟩ := bind_eq_ok h
      rw [apply_above hw' base.bench]
      exact ih h
    · rw [Bool.not_eq_true] at hm
      rw [unwind_of_neg hm] at h ⊢
      cases h
      rfl

theorem step_inside (h : s.step t = .ok s') (ht : t = .closing → 0 < openings s.markers)
    (base : Stacks) : (s.inside base).step t = .ok (s'.inside base) := by
  cases t with
  | number v =>
    cases h
    rfl
  | opening =>
    cases h
    rfl
  | operator op =>
    obtain ⟨r, hr, h⟩ := bind_eq_ok h
    cases h
    show (unwind _ (s.markers ++ .opening :: base.markers) (s.bench.above base.bench) >>= _) = _
    rw [unwind_inside rfl hr base]
    rfl
  | closing =>
    obtain ⟨r, hr, h⟩ := bind_eq_ok h
    cases h
    obtain ⟨rest, hrest⟩ := exists_opening_of_dropWhile (ht rfl)
    rw [← markers_unwind hr] at hrest
    show (unwind _ (s.markers ++ .opening :: base.markers) (s.bench.above base.bench) >>= _) = _
    rw [unwind_inside rfl hr base]
    show Except.ok (Stacks.mk (dropOpening (r.markers ++ _)) _) =
      .ok (Stacks.inside ⟨dropOpening r.markers, r.bench⟩ base)
    rw [hrest]
    rfl

/-- The opening parentheses that wait after a token. -/
theorem openings_step (h : s.step t = .ok s') :
    openings s'.markers = match t with
      | .opening => openings s.markers + 1
      | .closing => openings s.markers - 1
      | _ => openings s.markers := by
  cases t with
  | number v =>
    cases h
    rfl
  | opening =>
    cases h
    exact List.count_cons_self
  | operator op =>
    obtain ⟨r, hr, h⟩ := bind_eq_ok h
    cases h
    show openings (.operator op :: r.markers) = openings s.markers
    rw [openings, List.count_cons_of_ne (by simp), markers_unwind hr]
    exact openings_dropWhile rfl s.markers
  | closing =>
    obtain ⟨r, hr, h⟩ := bind_eq_ok h
    cases h
    show openings (dropOpening r.markers) = openings s.markers - 1
    rw [markers_unwind hr]
    exact openings_dropOpening s.markers

/-- The run of matched tokens does not reach the stacks below. -/
theorem run_inside {d : Nat} (hn : Nested d ts) (h : s.run ts = .ok s')
    (hs : openings s.markers = d) (base : Stacks) :
    (s.inside base).run ts = .ok (s'.inside base) ∧ openings s'.markers = 0 := by
  induction hn generalizing s with
  | nil =>
    cases h
    exact ⟨rfl, hs⟩
  | number v _ ih | operator op _ ih =>
    obtain ⟨r, hr, h⟩ := bind_eq_ok h
    rw [run_cons, step_inside hr (by simp) base]
    exact ih h ((openings_step hr).trans hs)
  | opening _ ih =>
    obtain ⟨r, hr, h⟩ := bind_eq_ok h
    rw [run_cons, step_inside hr (by simp) base]
    refine ih h ((openings_step hr).trans ?_)
    rw [hs]
  | closing _ ih =>
    obtain ⟨r, hr, h⟩ := bind_eq_ok h
    rw [run_cons, step_inside hr (by omega) base]
    refine ih h ((openings_step hr).trans ?_)
    show openings s.markers - 1 = _
    omega

/-- Tokens in parentheses leave their value, and nothing else but their steps. -/
theorem run_parenthesised {v : Float} {steps : List Step} (hn : Nested 0 ts)
    (h : reduce ts = .ok (v, steps)) (s : Stacks) :
    s.run (.opening :: (ts ++ [.closing])) =
      .ok ⟨s.markers, ⟨v :: s.bench.operands, steps.reverse ++ s.bench.steps⟩⟩ := by
  obtain ⟨r, hr, h⟩ := bind_eq_ok h
  obtain ⟨u, hu, h⟩ := bind_eq_ok h
  obtain ⟨hrun, hopen⟩ := run_inside hn hr rfl s
  have hempty := markers_unwind_all hu
  have hbench : u.bench = ⟨[v], steps.reverse⟩ := by
    obtain ⟨_, ⟨operands, done⟩⟩ := u
    split at h
    · next v' hv =>
      cases h
      rw [List.reverse_reverse]
      exact congrArg (Bench.mk · done) hv
    · cases h
  -- No parenthesis waits at the end, so the end unwinds what a closing parenthesis does.
  have hall : ∀ m ∈ r.markers, true = Marker.isOperator m :=
    fun m hm => (isOperator_of_openings_eq_zero hopen m hm).symm
  rw [unwind_congr hall] at hu
  show (Stacks.inside Stacks.empty s).run (ts ++ [.closing]) = _
  rw [run_append, hrun]
  show Stacks.run _ [.closing] = _
  rw [run_singleton]
  show (unwind _ (r.markers ++ .opening :: s.markers) (r.bench.above s.bench) >>= _) = _
  rw [unwind_inside rfl hu s]
  show Except.ok (Stacks.mk (dropOpening (u.markers ++ _)) (u.bench.above s.bench)) = _
  rw [hempty, hbench]
  rfl

end Calculator.Reduction
