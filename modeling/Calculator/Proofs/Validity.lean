import Calculator.Proofs.Grammar

/-!
# What validation asks of a text

`Regular` collects the checks of validation but the last one, the textual division by zero: a
regular text is rejected for such a division or for nothing (`fault?_of_regular`).

The check of the parentheses only counts. `Matched` says what the count means for a text inside a
longer one: reading the text is like skipping it, at whatever depth one arrives. Texts that pass
the check are matched, and so are the expressions of the grammar. The check for neighbouring
characters splits at any cut (`hasAdjacent_append`). With these two facts every expression is
regular (`regular_of_derives`).
-/

namespace Calculator.Validation

/-! ## Regular texts -/

/-- The alphabet has no blanks. -/
theorem isBlank_of_isAllowed {c : Char} (h : isAllowed c = true) : Text.isBlank c = false := by
  rw [isAllowed, Bool.or_eq_true, List.contains_iff_mem] at h
  rcases h with h | h
  · have hdigit : 48 ≤ c.toNat ∧ c.toNat ≤ 57 := by
      simpa [Char.isDigit, UInt32.le_iff_toNat_le] using h
    simp only [Text.isBlank, Text.blankRanges, List.any_cons, List.any_nil, Bool.or_false,
      Bool.or_eq_false_iff, Bool.and_eq_false_imp, decide_eq_true_eq, decide_eq_false_iff_not]
    omega
  · have hall : ".+-*/()".toList.all (fun c => !Text.isBlank c) = true := by decide
    simpa using List.all_eq_true.1 hall c h

/-- The text passes the checks of its characters, its parentheses and its edges. -/
structure Regular (s : Text) : Prop where
  nonempty : s ≠ []
  allowed : ∀ c ∈ s, isAllowed c = true
  parentheses : parenthesesFault? 0 s = none
  edges : hasOperatorAtEdge s = false
  filled : hasAdjacent '(' ')' s = false

theorem fault?_of_regular {s : Text} (h : Regular s) :
    fault? s = if hasAdjacent '/' '0' s then some .zeroDivisor else none := by
  have hall : s.all isAllowed = true := List.all_eq_true.2 h.allowed
  simp [fault?, h.nonempty, hall, h.parentheses, h.edges, h.filled]

theorem regular_of_fault?_eq_none {s : Text} (h : fault? s = none) :
    Regular s ∧ hasAdjacent '/' '0' s = false := by
  unfold fault? at h
  split_ifs at h with hne hall hedge hfill hzero
  · simp at h
  · simp at h
  · simp at h
  · rw [Option.or_none] at h
    simp only [Bool.not_eq_true, Bool.not_eq_false', List.all_eq_true] at hall hedge hfill hzero
    exact ⟨⟨hne, hall, h, hedge, hfill⟩, hzero⟩

/-- A text that passes validation has no blanks. -/
theorem unspaced_of_fault?_eq_none {s : Text} (h : fault? s = none) : s.unspaced = s :=
  Text.unspaced_of_no_blank fun c hc =>
    isBlank_of_isAllowed ((regular_of_fault?_eq_none h).1.allowed c hc)

/-! ## Matched parentheses -/

/-- Reading the text leaves the check of the parentheses where it was. -/
def Matched (s : Text) : Prop :=
  ∀ (d : Int) (rest : Text), 0 ≤ d → parenthesesFault? d (s ++ rest) = parenthesesFault? d rest

theorem parenthesesFault?_cons_of_ne {c : Char} (ho : c ≠ '(') (hc : c ≠ ')') {d : Int}
    (hd : 0 ≤ d) (s : Text) : parenthesesFault? d (c :: s) = parenthesesFault? d s := by
  have hdepth : depthAfter d c = d := by simp [depthAfter, ho, hc]
  rw [parenthesesFault?, hdepth, if_neg (by omega)]

theorem parenthesesFault?_opening {d : Int} (hd : 0 ≤ d) (s : Text) :
    parenthesesFault? d ('(' :: s) = parenthesesFault? (d + 1) s := by
  have hdepth : depthAfter d '(' = d + 1 := by simp [depthAfter]
  rw [parenthesesFault?, hdepth, if_neg (by omega)]

theorem parenthesesFault?_closing (d : Int) (s : Text) :
    parenthesesFault? d (')' :: s) =
      if d < 1 then some .unmatchedClosing else parenthesesFault? (d - 1) s := by
  have hdepth : depthAfter d ')' = d - 1 := by simp [depthAfter]
  rw [parenthesesFault?, hdepth]
  exact if_congr (by omega) rfl rfl

theorem parenthesesFault?_symbol (op : Operator) {d : Int} (hd : 0 ≤ d) (s : Text) :
    parenthesesFault? d (op.symbol :: s) = parenthesesFault? d s := by
  obtain ⟨ho, hc⟩ := op.symbol_ne_parenthesis
  exact parenthesesFault?_cons_of_ne ho hc hd s

theorem eq_zero_of_parenthesesFault?_nil {d : Nat} (h : parenthesesFault? d [] = none) : d = 0 := by
  by_contra hd
  rw [parenthesesFault?, if_neg (by omega)] at h
  cases h

/-- A closing parenthesis passes the check only where one is open. -/
theorem exists_of_parenthesesFault?_closing {d : Nat} {s : Text}
    (h : parenthesesFault? d (')' :: s) = none) :
    ∃ k, d = k + 1 ∧ parenthesesFault? k s = none := by
  rw [parenthesesFault?_closing] at h
  by_cases hlow : (d : Int) < 1
  · rw [if_pos hlow] at h
    cases h
  · obtain ⟨k, rfl⟩ : ∃ k, d = k + 1 := ⟨d - 1, by omega⟩
    rw [if_neg hlow, Int.natCast_add, Int.natCast_one, Int.add_sub_cancel] at h
    exact ⟨k, rfl, h⟩

theorem Matched.of_no_parenthesis {s : Text} (h : ∀ c ∈ s, c ≠ '(' ∧ c ≠ ')') : Matched s := by
  intro d rest hd
  induction s with
  | nil => rfl
  | cons c s ih =>
    obtain ⟨ho, hc⟩ := h c (by simp)
    rw [List.cons_append, parenthesesFault?_cons_of_ne ho hc hd]
    exact ih fun c hc => h c (by simp [hc])

theorem Matched.append {s t : Text} (hs : Matched s) (ht : Matched t) : Matched (s ++ t) := by
  intro d rest hd
  rw [List.append_assoc, hs d _ hd, ht d _ hd]

theorem Matched.parenthesised {s : Text} (hs : Matched s) : Matched ('(' :: (s ++ [')'])) := by
  intro d rest hd
  rw [List.cons_append, List.append_assoc, parenthesesFault?_opening hd, hs _ _ (by omega),
    List.singleton_append, parenthesesFault?_closing, if_neg (by omega), Int.add_sub_cancel]

theorem Matched.fault?_eq_none {s : Text} (h : Matched s) : parenthesesFault? 0 s = none := by
  have h0 := h 0 [] (Int.le_refl 0)
  rw [List.append_nil] at h0
  rw [h0]
  rfl

/-- A text that is read to depth zero from the depth `k` is read to the depth `d` from `k + d`. -/
theorem parenthesesFault?_add {s : Text} {k : Int} (hk : 0 ≤ k)
    (h : parenthesesFault? k s = none) (d : Int) (rest : Text) (hd : 0 ≤ d) :
    parenthesesFault? (k + d) (s ++ rest) = parenthesesFault? d rest := by
  induction s generalizing k with
  | nil =>
    have hk0 : k = 0 := by
      by_contra hne
      simp [parenthesesFault?, hne] at h
    rw [hk0, Int.zero_add, List.nil_append]
  | cons c s ih =>
    have hadd : depthAfter (k + d) c = depthAfter k c + d := by
      unfold depthAfter
      split_ifs <;> omega
    rw [parenthesesFault?] at h
    split_ifs at h with hneg
    rw [List.cons_append, parenthesesFault?, hadd, if_neg (by omega)]
    exact ih (by omega) h

theorem Matched.of_fault?_eq_none {s : Text} (h : parenthesesFault? 0 s = none) : Matched s := by
  intro d rest hd
  have := parenthesesFault?_add (Int.le_refl 0) h d rest hd
  rwa [Int.zero_add] at this

/-! ## Neighbouring characters -/

theorem hasAdjacent_cons (a b c : Char) (s : Text) :
    hasAdjacent a b (c :: s) =
      ((decide (c = a) && decide (s.head? = some b)) || hasAdjacent a b s) := by
  cases s with
  | nil => simp [hasAdjacent]
  | cons d s => simp [hasAdjacent]

theorem hasAdjacent_append (a b : Char) (s t : Text) :
    hasAdjacent a b (s ++ t) = (hasAdjacent a b s || hasAdjacent a b t ||
      (decide (s.getLast? = some a) && decide (t.head? = some b))) := by
  induction s with
  | nil => simp [hasAdjacent]
  | cons c s ih =>
    rw [List.cons_append, hasAdjacent_cons, hasAdjacent_cons, ih]
    cases s with
    | nil =>
      simp only [List.nil_append, hasAdjacent, Bool.false_or, List.head?_nil, List.getLast?_nil,
        List.getLast?_singleton, Option.some.injEq, reduceCtorEq, decide_false, Bool.false_and,
        Bool.and_false, Bool.or_false]
      exact Bool.or_comm ..
    | cons d s =>
      rw [List.cons_append, List.head?_cons, List.head?_cons, List.getLast?_cons_cons,
        Bool.or_assoc, Bool.or_assoc, Bool.or_assoc]

/-- Two characters stand next to each other if and only if they are a piece of the text. -/
theorem hasAdjacent_iff_infix {a b : Char} {s : Text} :
    hasAdjacent a b s = true ↔ [a, b] <:+: s := by
  induction s with
  | nil => simp [hasAdjacent]
  | cons c s ih =>
    have hb : s.head? = some b ↔ [b] <+: s := by
      cases s <;> simp [List.cons_prefix_cons, eq_comm]
    rw [hasAdjacent_cons, List.infix_cons_iff, ← ih, List.cons_prefix_cons, ← hb, eq_comm (a := a)]
    simp only [Bool.or_eq_true, Bool.and_eq_true, decide_eq_true_eq]

theorem hasAdjacent_of_not_mem {a b : Char} {s : Text} (h : a ∉ s) : hasAdjacent a b s = false := by
  rw [Bool.eq_false_iff, Ne, hasAdjacent_iff_infix]
  intro hpiece
  exact h (hpiece.subset (by simp))

/-! ## Expressions -/

/-- A character that an operand can begin with. -/
def isOperandStart (c : Char) : Bool := Literal.isBody c || c = '-' || c = '('

/-- A character that an operand ends with. -/
def isOperandEnd (c : Char) : Bool := Literal.isBody c || c = ')'

theorem ne_opening_of_isOperandEnd {c : Char} (h : isOperandEnd c = true) : c ≠ '(' := by
  intro hc
  subst hc
  exact absurd h (by decide)

theorem isAllowed_of_derives {signed : Bool} {level : Level} {t : Text} {e : Tree}
    (h : Derives signed level t e) : ∀ c ∈ t, isAllowed c = true := by
  induction h with
  | literal l _ =>
    intro c hc
    rcases l.isBody_or_minus_of_mem_text hc with hc | rfl
    · rcases Literal.isBody_iff.1 hc with hc | rfl
      · simp [isAllowed, hc]
      · decide
    · decide
  | parentheses _ ih =>
    intro c hc
    simp only [List.mem_cons, List.mem_append, List.mem_nil_iff, or_false] at hc
    rcases hc with rfl | hc | rfl
    · decide
    · exact ih c hc
    · decide
  | part _ ih => exact ih
  | @binary _ _ _ _ _ _ op _ _ _ iha ihb =>
    intro c hc
    rcases List.mem_append.1 hc with hc | hc
    · exact iha c hc
    · rcases List.mem_cons.1 hc with rfl | hc
      · cases op <;> decide
      · exact ihb c hc

/-- An expression has no blanks. -/
theorem unspaced_of_derives {signed : Bool} {level : Level} {t : Text} {e : Tree}
    (h : Derives signed level t e) : t.unspaced = t := by
  apply Text.unspaced_of_no_blank
  intro c hc
  exact isBlank_of_isAllowed (isAllowed_of_derives h c hc)

theorem matched_of_derives {signed : Bool} {level : Level} {t : Text} {e : Tree}
    (h : Derives signed level t e) : Matched t := by
  induction h with
  | literal l _ =>
    apply Matched.of_no_parenthesis
    intro c hc
    rcases l.isBody_or_minus_of_mem_text hc with hc | rfl
    · exact Literal.ne_parenthesis_of_isBody hc
    · decide
  | parentheses _ ih => exact ih.parenthesised
  | part _ ih => exact ih
  | @binary _ _ _ _ _ _ op _ _ _ iha ihb =>
    have hop : Matched [op.symbol] := by
      apply Matched.of_no_parenthesis
      intro c hc
      rw [List.mem_singleton.1 hc]
      exact op.symbol_ne_parenthesis
    exact iha.append (hop.append ihb)

/-- An expression begins and ends as an operand does. -/
theorem exists_ends_of_derives {signed : Bool} {level : Level} {t : Text} {e : Tree}
    (h : Derives signed level t e) :
    (∃ c, t.head? = some c ∧ isOperandStart c = true) ∧
      ∃ c, t.getLast? = some c ∧ isOperandEnd c = true := by
  induction h with
  | literal l _ =>
    obtain ⟨c, s, hs, hc, -⟩ := l.exists_text_eq_cons
    obtain ⟨d, hd, hbody⟩ := l.exists_getLast?_text
    refine ⟨⟨c, by rw [hs, List.head?_cons], ?_⟩, d, hd, by simp [isOperandEnd, hbody]⟩
    rcases hc with hc | ⟨-, rfl⟩
    · simp [isOperandStart, hc]
    · decide
  | @parentheses _ s _ _ _ =>
    refine ⟨⟨'(', rfl, by decide⟩, ')', ?_, by decide⟩
    rw [← List.cons_append, List.getLast?_concat]
  | part _ ih => exact ih
  | binary _ _ _ iha ihb =>
    obtain ⟨⟨c, hc, hstart⟩, -⟩ := iha
    obtain ⟨-, d, hd, hend⟩ := ihb
    exact ⟨⟨c, by simp [hc], hstart⟩, d, by simp [hd, List.getLast?_cons], hend⟩

theorem filled_of_derives {signed : Bool} {level : Level} {t : Text} {e : Tree}
    (h : Derives signed level t e) : hasAdjacent '(' ')' t = false := by
  induction h with
  | literal l _ =>
    apply hasAdjacent_of_not_mem
    intro hmem
    rcases l.isBody_or_minus_of_mem_text hmem with h | h
    · exact absurd h (by decide)
    · exact absurd h (by decide)
  | parentheses h ih =>
    obtain ⟨⟨c, hc, hstart⟩, d, hd, hend⟩ := exists_ends_of_derives h
    have hc' : c ≠ ')' := by
      intro hc'
      subst hc'
      exact absurd hstart (by decide)
    have hd' := ne_opening_of_isOperandEnd hend
    rw [hasAdjacent_cons, hasAdjacent_append, ih, hd, List.head?_append, hc]
    simp [hasAdjacent, hc', hd']
  | part _ ih => exact ih
  | @binary _ _ _ _ _ _ op _ ha _ iha ihb =>
    obtain ⟨-, d, hd, hend⟩ := exists_ends_of_derives ha
    have hd' := ne_opening_of_isOperandEnd hend
    have hop := op.symbol_ne_parenthesis.1
    rw [hasAdjacent_append, hasAdjacent_cons, iha, ihb, hd]
    simp [hop, hd']

/-- Every expression passes all checks but perhaps the one for a division by zero. -/
theorem regular_of_derives {signed : Bool} {level : Level} {t : Text} {e : Tree}
    (h : Derives signed level t e) : Regular t := by
  obtain ⟨⟨c, hc, hstart⟩, d, hd, hend⟩ := exists_ends_of_derives h
  refine ⟨?_, isAllowed_of_derives h, (matched_of_derives h).fault?_eq_none, ?_,
    filled_of_derives h⟩
  · intro ht
    simp [ht] at hc
  · have hc' : "+*/".toList.contains c = false := by
      have hops : "+*/".toList.all (fun c => !isOperandStart c) = true := by decide
      rw [Bool.eq_false_iff, Ne, List.contains_iff_mem]
      intro hmem
      simpa [hstart] using List.all_eq_true.1 hops c hmem
    have hd' : "+-*/".toList.contains d = false := by
      have hops : "+-*/".toList.all (fun c => !isOperandEnd c) = true := by decide
      rw [Bool.eq_false_iff, Ne, List.contains_iff_mem]
      intro hmem
      simpa [hend] using List.all_eq_true.1 hops d hmem
    rw [hasOperatorAtEdge, hc, hd, Option.any_some, Option.any_some, hc', hd']
    rfl

end Calculator.Validation
