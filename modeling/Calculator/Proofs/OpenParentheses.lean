import Calculator.Proofs.Postfix
import Calculator.Proofs.Substitution

/-!
# Open parentheses

**Theorem (`unknownOperator_unreachable`).** No text is refused for an unknown operator, neither
for a character nor for a parenthesis left on the stack of markers.

Three parties know how many parentheses are open. Validation counts characters; the tokens are
matched (`Nested`) because the text that spells them is; the reduction has one marker for each. The
reduction itself does not check that they agree: a closing parenthesis that finds no opening one is
passed over, and an opening one that is left at the end would be taken for an operator. Neither
happens (`KeepsPace`). From empty stacks the number of opening parentheses that wait follows the
tokens read, one by one (`openings_run`), and applying operators in between does not change it
(`openings_applies`).

That the reduction of matched tokens knows two failures only is seen from their postfix form,
whose evaluation has no parentheses to stumble over.
-/

namespace Calculator

/-! ## Characters -/

namespace Token

variable {c : Char} {x pending : Text} {previous : Option Char} {reason : Failure}

theorem ofLiteral_eq_error (h : ofLiteral pending = .error reason) : reason = .badFormat := by
  unfold ofLiteral at h
  split_ifs at h with hnil hminus
  · split at h
    · cases h
    · cases h
  · split at h
    · cases h
    · cases h
      rfl

/-- Every character of the alphabet goes on with a literal or is a token. -/
theorem exists_ofChar (h : Validation.isAllowed c = true)
    (hc : isLiteralChar previous c = false) : ∃ t, ofChar c = .ok t := by
  simp only [isLiteralChar, Bool.or_eq_false_iff] at hc
  obtain ⟨⟨hdigit, hpoint⟩, -⟩ := hc
  have hmem : c = '.' ∨ c = '+' ∨ c = '-' ∨ c = '*' ∨ c = '/' ∨ c = '(' ∨ c = ')' := by
    simpa [Validation.isAllowed, hdigit] using h
  rcases hmem with rfl | rfl | rfl | rfl | rfl | rfl | rfl
  · cases hpoint
  all_goals exact ⟨_, rfl⟩

theorem scan_eq_error (hx : ∀ c ∈ x, Validation.isAllowed c = true)
    (h : scan previous pending x = .error reason) : reason = .badFormat := by
  induction x generalizing previous pending with
  | nil => exact ofLiteral_eq_error h
  | cons c x ih =>
    have hrest : ∀ d ∈ x, Validation.isAllowed d = true := fun d hd => hx d (by simp [hd])
    rw [scan] at h
    split_ifs at h with hc
    · exact ih hrest h
    · obtain ⟨t, ht⟩ := exists_ofChar (hx c (by simp)) (by simpa using hc)
      rcases bind_eq_error h with h | ⟨before, -, h⟩
      · exact ofLiteral_eq_error h
      · rcases bind_eq_error h with h | ⟨token, -, h⟩
        · rw [ht] at h
          cases h
        · rcases bind_eq_error h with h | ⟨after, -, h⟩
          · exact ih hrest h
          · cases h

end Token

/-! ## Markers -/

namespace Reduction

variable {p : Marker → Bool} {s t : Stacks} {ts us : List Token} {d : Nat}

/-- The parentheses opened and not yet closed among tokens. -/
def depth (ts : List Token) : Int := ts.count .opening - ts.count .closing

@[simp] theorem depth_nil : depth [] = 0 := rfl

@[simp] theorem depth_number (v : Float) : depth (.number v :: ts) = depth ts := by
  rw [depth, List.count_cons_of_ne (by simp), List.count_cons_of_ne (by simp), depth]

@[simp] theorem depth_operator (op : Operator) : depth (.operator op :: ts) = depth ts := by
  rw [depth, List.count_cons_of_ne (by simp), List.count_cons_of_ne (by simp), depth]

@[simp] theorem depth_opening : depth (.opening :: ts) = depth ts + 1 := by
  rw [depth, List.count_cons_self, List.count_cons_of_ne (by simp), depth]
  omega

@[simp] theorem depth_closing : depth (.closing :: ts) = depth ts - 1 := by
  rw [depth, List.count_cons_of_ne (by simp), List.count_cons_self, depth]
  omega

/-- `Applies p s t`: applying markers that satisfy `p`, one by one from the top, comes by `t`. -/
inductive Applies (p : Marker → Bool) : Stacks → Stacks → Prop
  | refl (s : Stacks) : Applies p s s
  | apply {m : Marker} {ms : List Marker} {w w' : Bench} {t : Stacks} (hm : p m = true)
      (hw : w.apply m = .ok w') (h : Applies p ⟨ms, w'⟩ t) : Applies p ⟨m :: ms, w⟩ t

theorem openings_applies (hp : p .opening = false) (h : Applies p s t) :
    openings t.markers = openings s.markers := by
  induction h with
  | refl s => rfl
  | @apply m ms _ _ _ hm _ _ ih =>
    have hne : m ≠ .opening := by
      rintro rfl
      rw [hp] at hm
      cases hm
    rw [ih, openings, openings, List.count_cons_of_ne hne]

theorem not_mem_of_applies (h : Applies p s t) (hs : Marker.opening ∉ s.markers) :
    Marker.opening ∉ t.markers := by
  induction h with
  | refl s => exact hs
  | apply _ _ _ ih => exact ih fun hmem => hs (List.mem_cons_of_mem _ hmem)

/-- The reduction of the tokens keeps pace with their parentheses. -/
structure KeepsPace (ts : List Token) : Prop where
  /-- Between two tokens, and between two applications, as many opening parentheses wait as are open
  among the tokens read. -/
  openings_eq : ∀ before after s t, ts = before ++ after → Stacks.empty.run before = .ok s →
    Applies Marker.isOperator s t → openings t.markers = depth before
  /-- A closing parenthesis finds an opening one below the operators that it applies. -/
  closing : ∀ before after s t, ts = before ++ .closing :: after →
    Stacks.empty.run before = .ok s → unwind Marker.isOperator s.markers s.bench = .ok t →
      ∃ rest, t.markers = .opening :: rest
  /-- At the end only operators are left to apply. -/
  finish : ∀ s t, Stacks.empty.run ts = .ok s → Applies (fun _ => true) s t →
    Marker.opening ∉ t.markers

theorem openings_run (hn : Nested d (ts ++ us)) (hs : openings s.markers = d)
    (h : s.run ts = .ok t) :
    Nested (openings t.markers) us ∧ openings t.markers = d + depth ts := by
  induction ts generalizing s d with
  | nil =>
    cases h
    subst hs
    exact ⟨hn, by simp⟩
  | cons u ts ih =>
    obtain ⟨r, hr, hrun⟩ := bind_eq_ok h
    have hstep := openings_step hr
    cases hn with
    | number v hn =>
      rw [depth_number]
      exact ih hn (hstep.trans hs) hrun
    | operator op hn =>
      rw [depth_operator]
      exact ih hn (hstep.trans hs) hrun
    | opening hn =>
      obtain ⟨hrest, heq⟩ := ih hn (hstep.trans (congrArg (· + 1) hs)) hrun
      rw [depth_opening]
      exact ⟨hrest, by omega⟩
    | closing hn =>
      obtain ⟨hrest, heq⟩ := ih hn (hstep.trans (congrArg (· - 1) hs)) hrun
      rw [depth_closing]
      exact ⟨hrest, by omega⟩

theorem keepsPace_of_nested (hn : Nested 0 ts) : KeepsPace ts where
  openings_eq := by
    intro before after s t hts hrun happlies
    rw [hts] at hn
    rw [openings_applies rfl happlies]
    simpa using (openings_run hn rfl hrun).2
  closing := by
    intro before after s t hts hrun hunwind
    rw [hts] at hn
    have hrest := (openings_run hn rfl hrun).1
    generalize hk : openings s.markers = k at hrest
    cases hrest with
    | closing =>
      rw [markers_unwind hunwind]
      exact exists_opening_of_dropWhile (by omega)
  finish := by
    intro s t hrun happlies
    rw [← List.append_nil ts] at hn
    have hrest := (openings_run hn rfl hrun).1
    generalize hk : openings s.markers = k at hrest
    cases hrest with
    | nil => exact not_mem_of_applies happlies (List.count_eq_zero.1 hk)

end Reduction

/-! ## The theorem -/

open Reduction

theorem reason_of_tokens_error {x : Text} {reason : Failure} (hx : Validation.fault? x = none)
    (h : Token.ofText x = .error reason) : reason = .badFormat := by
  obtain ⟨hregular, -⟩ := Validation.regular_of_fault?_eq_none hx
  exact Token.scan_eq_error hregular.allowed h

theorem reason_of_reduce_error {ts : List Token} {halt : Halt} (hn : Nested 0 ts)
    (h : reduce ts = .error halt) : halt.reason = .badFormat ∨ halt.reason = .divisionByZero :=
  Postfix.reason_of_evaluate ((Postfix.run_finish_eq hn rfl ⟨[], []⟩).symm.trans h)

/-- No evaluation fails for an unknown operator, because the reduction of an accepted text keeps
pace with its parentheses. -/
theorem unknownOperator_unreachable :
    (∀ s c, valueOf s ≠ .error (.failed (.unknownOperator c))) ∧
      ∀ x ts, Validation.fault? x = none → Token.ofText x = .ok ts → KeepsPace ts := by
  refine ⟨?_, fun x ts hx hts => keepsPace_of_nested (nested_of_accepted hx hts)⟩
  intro s c h
  cases hfault : Validation.fault? s.unspaced with
  | some reason =>
    rw [valueOf_of_fault hfault] at h
    cases h
  | none =>
    cases hts : Token.ofText s.unspaced with
    | error reason =>
      rw [valueOf_of_tokens_error hfault hts, reason_of_tokens_error hfault hts] at h
      cases h
    | ok ts =>
      rw [valueOf_of_tokens hfault hts] at h
      cases hreduce : reduce ts with
      | ok r =>
        rw [hreduce] at h
        cases h
      | error halt =>
        rw [hreduce] at h
        have hreason := reason_of_reduce_error (nested_of_accepted hfault hts) hreduce
        have hunknown : halt.reason = .unknownOperator c := by simpa using h
        rw [hunknown] at hreason
        rcases hreason with hreason | hreason <;> cases hreason

/-- The sign of nothing is an operator, and the parentheses are nested. -/
theorem unknownOperator_unreachable_nested :
    Validation.fault? "2*(-(3)+4)".toList = none ∧
      Token.ofText "2*(-(3)+4)".toList = .ok [.number 2, .operator .times, .opening,
        .operator .minus, .opening, .number 3, .closing, .operator .plus, .number 4, .closing] ∧
      KeepsPace [.number 2, .operator .times, .opening, .operator .minus, .opening, .number 3,
        .closing, .operator .plus, .number 4, .closing] := by
  have hfault : Validation.fault? "2*(-(3)+4)".toList = none := by decide
  have htokens : Token.ofText "2*(-(3)+4)".toList = .ok [.number 2, .operator .times, .opening,
      .operator .minus, .opening, .number 3, .closing, .operator .plus, .number 4, .closing] := by
    decide +kernel
  exact ⟨hfault, htokens, unknownOperator_unreachable.2 _ _ hfault htokens⟩

end Calculator
