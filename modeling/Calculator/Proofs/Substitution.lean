import Calculator.Proofs.Acceptance
import Calculator.Proofs.Nesting
import Calculator.Proofs.ReadBack

/-!
# Substitution of values

**Theorem (`valueOf_substitute`).** In any text, parentheses around a text that has a finite value
may be filled with the digits of this value instead: the outcome is the same, whether it is a value
or a refusal, and whatever stands around the parentheses.

More generally any two texts of one value may be exchanged there (`valueOf_exchange`). Every stage
is looked at for what it sees of the text between the parentheses. Validation sees nothing of it
(`fault?_exchange`): the text is matched, it neither begins with a closing parenthesis nor ends with
an opening one, and the two parentheses keep its first and last character from what is around.
Reading is cut by the parentheses. The reduction sees the value (`run_parenthesised`) and records
the steps, which it never reads (`agree_finish`).
-/

namespace Calculator

/-! ## What validation sees -/

namespace Validation

theorem fault?_congr {s t : Text} (hne : s = [] ↔ t = []) (hall : s.all isAllowed = t.all isAllowed)
    (hpar : parenthesesFault? 0 s = parenthesesFault? 0 t)
    (hedge : hasOperatorAtEdge s = hasOperatorAtEdge t)
    (hfill : hasAdjacent '(' ')' s = hasAdjacent '(' ')' t)
    (hzero : hasAdjacent '/' '0' s = hasAdjacent '/' '0' t) : fault? s = fault? t := by
  unfold fault?
  rw [hall, hpar, hedge, hfill, hzero]
  exact if_congr hne rfl rfl

theorem parenthesesFault?_append_congr {x y : Text}
    (h : ∀ d, 0 ≤ d → parenthesesFault? d x = parenthesesFault? d y) (p : Text) {d : Int}
    (hd : 0 ≤ d) : parenthesesFault? d (p ++ x) = parenthesesFault? d (p ++ y) := by
  induction p generalizing d with
  | nil => exact h d hd
  | cons c p ih =>
    rw [List.cons_append, List.cons_append, parenthesesFault?, parenthesesFault?]
    split_ifs with hneg
    · rfl
    · exact ih (by omega)

/-- A text that ends with an opening parenthesis is not matched. -/
theorem parenthesesFault?_append_opening (s : Text) {d : Int} (hd : 0 ≤ d) :
    parenthesesFault? d (s ++ ['(']) ≠ none := by
  induction s generalizing d with
  | nil =>
    rw [List.nil_append, parenthesesFault?_opening hd, parenthesesFault?, if_neg (by omega)]
    exact Option.some_ne_none _
  | cons c s ih =>
    rw [List.cons_append, parenthesesFault?]
    split_ifs with hneg
    · exact Option.some_ne_none _
    · exact ih (by omega)

theorem Regular.head?_ne {s : Text} (h : Regular s) : s.head? ≠ some ')' := by
  intro hs
  obtain ⟨t, rfl⟩ := List.head?_eq_some_iff.1 hs
  have := h.parentheses
  rw [parenthesesFault?_closing, if_pos (by omega)] at this
  cases this

theorem Regular.getLast?_ne {s : Text} (h : Regular s) : s.getLast? ≠ some '(' := by
  intro hs
  obtain ⟨t, rfl⟩ := List.getLast?_eq_some_iff.1 hs
  exact parenthesesFault?_append_opening t (Int.le_refl 0) h.parentheses

theorem hasAdjacent_around {a b : Char} {s : Text} (hs : hasAdjacent a b s = false)
    (hb : '(' ≠ b) (hhead : ¬('(' = a ∧ s.head? = some b))
    (hlast : ¬(s.getLast? = some a ∧ ')' = b)) (hne : s ≠ []) (p q : Text) :
    hasAdjacent a b (p ++ '(' :: (s ++ ')' :: q)) =
      (hasAdjacent a b p || hasAdjacent a b (')' :: q)) := by
  have hfirst : (s ++ ')' :: q).head? = s.head? := by
    obtain ⟨c, s, rfl⟩ := List.exists_cons_of_ne_nil hne
    rfl
  rw [hasAdjacent_append, hasAdjacent_cons, hasAdjacent_append, hs, hfirst, List.head?_cons,
    List.head?_cons, ← Bool.decide_and, decide_eq_false hhead, ← Bool.decide_and,
    decide_eq_false (by simpa using hlast), ← Bool.decide_and,
    decide_eq_false (by simp [hb])]
  simp only [Bool.false_or, Bool.or_false]

theorem edges_around {s : Text} (p q : Text) :
    hasOperatorAtEdge (p ++ '(' :: (s ++ ')' :: q)) =
      (((p ++ ['(']).head?.any ("+*/".toList.contains ·)) ||
        (')' :: q).getLast?.any ("+-*/".toList.contains ·)) := by
  have hfirst : (p ++ '(' :: (s ++ ')' :: q)).head? = (p ++ ['(']).head? := by
    cases p <;> rfl
  have hlast : (p ++ '(' :: (s ++ ')' :: q)).getLast? = (')' :: q).getLast? := by
    rw [← List.cons_append, ← List.append_assoc]
    exact List.getLast?_append_of_ne_nil _ (List.cons_ne_nil _ _)
  rw [hasOperatorAtEdge, hfirst, hlast]

/-- Validation does not see what stands between parentheses, if it passes on its own. -/
theorem fault?_exchange {s t : Text} (hs : fault? s = none) (ht : fault? t = none) (p q : Text) :
    fault? (p ++ '(' :: (s ++ ')' :: q)) = fault? (p ++ '(' :: (t ++ ')' :: q)) := by
  obtain ⟨hs, hszero⟩ := regular_of_fault?_eq_none hs
  obtain ⟨ht, htzero⟩ := regular_of_fault?_eq_none ht
  refine fault?_congr (by simp) ?_ ?_ ?_ ?_ ?_
  · have hall : ∀ x : Text, Regular x → x.all isAllowed = true := fun x hx =>
      List.all_eq_true.2 hx.allowed
    simp only [List.all_append, List.all_cons, hall s hs, hall t ht]
  · refine parenthesesFault?_append_congr ?_ p (Int.le_refl 0)
    intro d hd
    rw [parenthesesFault?_opening hd, parenthesesFault?_opening hd,
      Matched.of_fault?_eq_none hs.parentheses _ _ (by omega),
      Matched.of_fault?_eq_none ht.parentheses _ _ (by omega)]
  · rw [edges_around, edges_around]
  · rw [hasAdjacent_around hs.filled (by decide) (fun h => hs.head?_ne h.2)
        (fun h => hs.getLast?_ne h.1) hs.nonempty,
      hasAdjacent_around ht.filled (by decide) (fun h => ht.head?_ne h.2)
        (fun h => ht.getLast?_ne h.1) ht.nonempty]
  · rw [hasAdjacent_around hszero (by decide) (by simp) (by simp) hs.nonempty,
      hasAdjacent_around htzero (by decide) (by simp) (by simp) ht.nonempty]

end Validation

/-! ## What reading sees -/

/-- The parentheses cut the reading in three. -/
theorem Token.ofText_around (p s q : Text) :
    ofText (p ++ '(' :: (s ++ ')' :: q)) = do
      let before ← ofText p
      let inside ← ofText s
      let after ← scan (some ')') [] q
      return before ++ opening :: (inside ++ closing :: after) := by
  have hs : scan (some '(') [] s = scan none [] s :=
    scan_congr (p := some '(') (q := none) rfl [] s
  have hopening : ofChar '(' = pure opening := rfl
  have hclosing : ofChar ')' = pure closing := rfl
  unfold ofText
  rw [scan_append_cons (by decide) (by decide), scan_append_cons (by decide) (by decide), hs,
    hopening, hclosing]
  simp only [bind_assoc, pure_bind]

/-! ## What the reduction sees -/

namespace Reduction

/-- The same reason, after whatever steps. -/
def SameReason (h k : Halt) : Prop := h.reason = k.reason

/-- The same operands, after whatever steps. -/
def SameOperands (w w' : Bench) : Prop := w.operands = w'.operands

/-- The same value, by whatever steps. -/
def SameValue (r r' : Float × List Step) : Prop := r.1 = r'.1

/-- The same markers and the same operands. -/
def SameStacks (s s' : Stacks) : Prop := s.markers = s'.markers ∧ SameOperands s.bench s'.bench

variable {w w' : Bench} {s s' : Stacks}

theorem agree_apply (h : SameOperands w w') (m : Marker) :
    Agree SameReason SameOperands (w.apply m) (w'.apply m) := by
  obtain ⟨operands, steps⟩ := w
  obtain ⟨operands', steps'⟩ := w'
  obtain rfl : operands = operands' := h
  match operands, m with
  | [], _ => exact .error rfl
  | [_], _ => exact .error rfl
  | _ :: _ :: _, .opening => exact .error rfl
  | b :: a :: rest, .operator op =>
    simp only [Bench.apply]
    cases op.compute? a b with
    | none => exact .error rfl
    | some r => exact .ok rfl

theorem agree_unwind (h : SameOperands w w') (p : Marker → Bool) (ms : List Marker) :
    Agree SameReason SameStacks (unwind p ms w) (unwind p ms w') := by
  induction ms generalizing w w' with
  | nil => exact .ok ⟨rfl, h⟩
  | cons m ms ih =>
    by_cases hp : p m = true
    · rw [unwind_of_pos hp, unwind_of_pos hp]
      exact (agree_apply h m).bind fun _ _ h => ih h
    · rw [Bool.not_eq_true] at hp
      rw [unwind_of_neg hp, unwind_of_neg hp]
      exact .ok ⟨rfl, h⟩

theorem agree_step (h : SameStacks s s') (t : Token) :
    Agree SameReason SameStacks (s.step t) (s'.step t) := by
  obtain ⟨ms, w⟩ := s
  obtain ⟨ms', w'⟩ := s'
  obtain ⟨rfl, h⟩ : ms = ms' ∧ SameOperands w w' := h
  cases t with
  | number v => exact .ok ⟨rfl, congrArg (v :: ·) h⟩
  | opening => exact .ok ⟨rfl, h⟩
  | closing => exact (agree_unwind h _ ms).bind fun _ _ h => .ok ⟨congrArg dropOpening h.1, h.2⟩
  | operator op => exact (agree_unwind h _ ms).bind fun _ _ h => .ok ⟨congrArg (_ :: ·) h.1, h.2⟩

theorem agree_run (h : SameStacks s s') (ts : List Token) :
    Agree SameReason SameStacks (s.run ts) (s'.run ts) := by
  induction ts generalizing s s' with
  | nil => exact .ok h
  | cons t ts ih => exact (agree_step h t).bind fun _ _ h => ih h

/-- The steps recorded so far have no influence on the value. -/
theorem agree_finish (h : SameStacks s s') :
    Agree SameReason SameValue s.finish s'.finish := by
  obtain ⟨ms, w⟩ := s
  obtain ⟨ms', w'⟩ := s'
  obtain ⟨rfl, h⟩ : ms = ms' ∧ SameOperands w w' := h
  refine (agree_unwind h _ ms).bind ?_
  rintro ⟨_, operands, done⟩ ⟨_, operands', done'⟩ ⟨-, h⟩
  obtain rfl : operands = operands' := h
  match operands with
  | [] => exact .error rfl
  | [v] => exact .ok rfl
  | _ :: _ :: _ => exact .error rfl

/-- Matched tokens of one value may be exchanged between parentheses. -/
theorem agree_exchange {ts us : List Token} {v : Float} {steps steps' : List Step}
    (hts : Nested 0 ts) (hus : Nested 0 us) (ht : reduce ts = .ok (v, steps))
    (hu : reduce us = .ok (v, steps')) (before after : List Token) :
    Agree SameReason SameValue (reduce (before ++ .opening :: (ts ++ .closing :: after)))
      (reduce (before ++ .opening :: (us ++ .closing :: after))) := by
  have hcut : ∀ xs : List Token, before ++ .opening :: (xs ++ .closing :: after) =
      before ++ (.opening :: (xs ++ [.closing]) ++ after) := by simp
  unfold reduce
  rw [hcut, hcut]
  simp only [run_append _ before, run_append _ _ after, run_parenthesised hts ht,
    run_parenthesised hus hu, bind_assoc]
  refine (Agree.refl (E := SameReason) (fun _ => rfl) _).bind ?_
  intro s s' hs
  subst hs
  have hsame : SameStacks ⟨s.markers, ⟨v :: s.bench.operands, steps.reverse ++ s.bench.steps⟩⟩
      ⟨s.markers, ⟨v :: s.bench.operands, steps'.reverse ++ s.bench.steps⟩⟩ := ⟨rfl, rfl⟩
  exact (agree_run hsame after).bind fun _ _ h => agree_finish h

end Reduction

/-! ## The theorem -/

theorem valueOf_of_fault {s : Text} {reason : Rejection}
    (h : Validation.fault? s.unspaced = some reason) : valueOf s = .error (.rejected reason) := by
  rw [valueOf, (Run.Course.rejected h).evaluate_eq]
  rfl

theorem valueOf_of_tokens_error {s : Text} {reason : Failure}
    (h : Validation.fault? s.unspaced = none) (ht : Token.ofText s.unspaced = .error reason) :
    valueOf s = .error (.failed reason) := by
  rw [valueOf, (Run.Course.unread h ht).evaluate_eq]
  rfl

theorem valueOf_of_tokens {s : Text} {ts : List Token} (h : Validation.fault? s.unspaced = none)
    (ht : Token.ofText s.unspaced = .ok ts) :
    valueOf s = match Reduction.reduce ts with
      | .ok r => .ok r.1
      | .error halt => .error (.failed halt.reason) := by
  cases hreduce : Reduction.reduce ts with
  | error halt =>
    rw [valueOf, (Run.Course.interrupted h ht hreduce).evaluate_eq]
    rfl
  | ok r =>
    rw [valueOf, (Run.Course.finished h ht hreduce).evaluate_eq]
    rfl

theorem valueOf_congr_of_agree {s t : Text} {ts us : List Token}
    (hs : Validation.fault? s.unspaced = none) (ht : Validation.fault? t.unspaced = none)
    (hts : Token.ofText s.unspaced = .ok ts) (hus : Token.ofText t.unspaced = .ok us)
    (h : Agree Reduction.SameReason Reduction.SameValue (Reduction.reduce ts)
      (Reduction.reduce us)) : valueOf s = valueOf t := by
  rw [valueOf_of_tokens hs hts, valueOf_of_tokens ht hus]
  generalize Reduction.reduce ts = x at h
  generalize Reduction.reduce us = y at h
  cases h with
  | error h => exact congrArg (Except.error ∘ Refusal.failed) h
  | ok h => exact congrArg Except.ok h

/-- Texts that are validated alike, and read as tokens of one outcome, have one outcome. -/
theorem valueOf_congr {s t : Text}
    (hfault : Validation.fault? s.unspaced = Validation.fault? t.unspaced)
    (htokens : Agree Eq (fun ts us => Agree Reduction.SameReason Reduction.SameValue
      (Reduction.reduce ts) (Reduction.reduce us)) (Token.ofText s.unspaced)
      (Token.ofText t.unspaced)) : valueOf s = valueOf t := by
  cases hs : Validation.fault? s.unspaced with
  | some reason =>
    rw [valueOf_of_fault hs, valueOf_of_fault (hfault.symm.trans hs)]
  | none =>
    have ht := hfault.symm.trans hs
    generalize hx : Token.ofText s.unspaced = x at htokens
    generalize hy : Token.ofText t.unspaced = y at htokens
    cases htokens with
    | error h => rw [valueOf_of_tokens_error hs hx, valueOf_of_tokens_error ht hy, h]
    | ok h => exact valueOf_congr_of_agree hs ht hx hy h

theorem unspaced_around (p s q : Text) :
    Text.unspaced (p ++ '(' :: (s ++ ')' :: q)) =
      p.unspaced ++ '(' :: (s.unspaced ++ ')' :: q.unspaced) := by
  have hopening : Text.isBlank '(' = false := by decide
  have hclosing : Text.isBlank ')' = false := by decide
  simp [Text.unspaced, hopening, hclosing]

/-- Texts of one value may be exchanged between parentheses. -/
theorem valueOf_exchange {s t : Text} {v : Float} (hs : valueOf s = .ok v)
    (ht : valueOf t = .ok v) (p q : Text) :
    valueOf (p ++ '(' :: (s ++ ')' :: q)) = valueOf (p ++ '(' :: (t ++ ')' :: q)) := by
  obtain ⟨rs, hrs, hvs⟩ := exists_of_valueOf hs
  obtain ⟨rt, hrt, hvt⟩ := exists_of_valueOf ht
  obtain ⟨hfs, -, hts, hreduce⟩ := exists_of_evaluate hrs
  obtain ⟨hft, -, htt, hreduce'⟩ := exists_of_evaluate hrt
  rw [hvs] at hreduce
  rw [hvt] at hreduce'
  apply valueOf_congr
  · rw [unspaced_around, unspaced_around]
    exact Validation.fault?_exchange hfs hft p.unspaced q.unspaced
  · rw [unspaced_around, unspaced_around, Token.ofText_around, Token.ofText_around, hts, htt]
    refine (Agree.refl (E := Eq) (fun _ => rfl) _).bind ?_
    intro before before' hbefore
    subst hbefore
    have hinside : Agree Eq (fun ts us => ts = rs.tokens ∧ us = rt.tokens)
        (Except.ok rs.tokens : Except Failure _) (Except.ok rt.tokens) := .ok ⟨rfl, rfl⟩
    refine hinside.bind ?_
    rintro _ _ ⟨rfl, rfl⟩
    refine (Agree.refl (E := Eq) (fun _ => rfl) _).bind ?_
    intro after after' hafter
    subst hafter
    exact .ok (Reduction.agree_exchange (Reduction.nested_of_accepted hfs hts)
      (Reduction.nested_of_accepted hft htt) hreduce hreduce' before after)

/-- A literal has its own value. -/
theorem valueOf_literal (l : Literal) : valueOf l.text = .ok l.value := by
  have hderives : Derives true .factor l.text (.literal l) := .literal l fun _ => rfl
  have htext := Validation.unspaced_of_derives hderives
  have hzero : Validation.hasAdjacent '/' '0' l.text = false := by
    apply Validation.hasAdjacent_of_not_mem
    intro hc
    rcases l.isBody_or_minus_of_mem_text hc with hc | hc
    · exact absurd hc (by decide)
    · exact absurd hc (by decide)
  have hfault : Validation.fault? l.text = none := by
    rw [Validation.fault?_of_regular (Validation.regular_of_derives hderives), hzero]
    rfl
  have htokens : Token.ofText l.text = .ok [.number l.value] := by
    have hspells : Token.Spells true (l.text ++ []) [.number l.value] :=
      .literal l (fun _ => rfl) Token.endsLiteral_nil .nil
    rw [List.append_nil] at hspells
    exact Token.scan_of_spells hspells none rfl
  rw [valueOf_of_tokens (by rwa [htext]) (by rw [htext]; exact htokens)]
  rfl

/-- A finite value may stand for a text that has it, between parentheses. -/
theorem valueOf_substitute {s : Text} {v : Float} (hs : valueOf s = .ok v)
    (hv : Number.isFinite v = true) (p q : Text) :
    valueOf (p ++ '(' :: (s ++ ')' :: q)) =
      valueOf (p ++ '(' :: (Number.display v ++ ')' :: q)) := by
  obtain ⟨l, hl, hvalue⟩ := Literal.exists_text_of_read? (Number.read?_display hv)
  refine valueOf_exchange hs ?_ p q
  rw [← hl, valueOf_literal, hvalue]

theorem valueOf_substitute_sum :
    valueOf "0.1 + 0.2".toList = .ok 0.30000000000000004 ∧
      Number.isFinite 0.30000000000000004 = true ∧
      valueOf "2 * (0.1 + 0.2) / 3".toList = valueOf "2 * (0.30000000000000004) / 3".toList := by
  have hvalue : valueOf "0.1 + 0.2".toList = .ok 0.30000000000000004 := by decide +kernel
  have hfinite : Number.isFinite 0.30000000000000004 = true := by decide +kernel
  have hdisplay : Number.display 0.30000000000000004 = "0.30000000000000004".toList := by
    decide +kernel
  have := valueOf_substitute hvalue hfinite "2 * ".toList " / 3".toList
  rw [hdisplay] at this
  exact ⟨hvalue, hfinite, this⟩

end Calculator
