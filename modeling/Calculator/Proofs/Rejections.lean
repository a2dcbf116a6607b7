import Calculator.Proofs.Validity
import Mathlib.Algebra.Group.Int.Defs
import Mathlib.Algebra.Group.Nat.Defs
import Mathlib.Data.List.Infix

/-!
# What validation rejects, and for which reason

**Theorem (`fault?_decides`).** A text is rejected for the first reason, in a fixed order, that
applies to it (`Applies`), and accepted if none does. The accepted texts are those of a language
that is declared without the checks (`Admissible`): the parentheses among the characters of the text
have to form a word of the grammar

    word ::= ε | ( word ) word

The check of the parentheses is a count that starts at zero and stops when it falls below
(`depths`). Three views of it are brought together. As a function of the text, it compares the
balances of its beginnings with zero (`parenthesesFault?_eq`). As a language, it accepts the words
of the grammar, because a text that is read from the depth `d` to the end is made of words with `d`
closing parentheses between them (`Closes`). And as a number it never leaves the range from minus
one to the number of characters read (`depths_bounds`), so 64 bits hold it (`map_toInt_depths64`).
-/

namespace Calculator.Validation

variable {d : Int} {c : Char} {s t : Text}

/-! ## The declared language -/

/-- The parentheses of a text, in their order. -/
def parentheses (s : Text) : Text := s.filter fun c => c = '(' || c = ')'

/-- The words of matched parentheses. -/
inductive Dyck : Text → Prop
  | nil : Dyck []
  | node {s t : Text} (hs : Dyck s) (ht : Dyck t) : Dyck ('(' :: (s ++ ')' :: t))

/-- The texts that are declared to be accepted. -/
structure Admissible (s : Text) : Prop where
  nonempty : s ≠ []
  alphabet : ∀ c ∈ s, c.isDigit = true ∨ c ∈ ".+-*/()".toList
  parentheses : Dyck (parentheses s)
  start : ∀ c ∈ "+*/".toList, s.head? ≠ some c
  finish : ∀ c ∈ "+-*/".toList, s.getLast? ≠ some c
  filled : ¬"()".toList <:+: s
  divisor : ¬"/0".toList <:+: s

/-! ## The reasons -/

/-- The reason applies to the text. -/
def Applies (s : Text) : Rejection → Prop
  | .empty => s = []
  | .foreignCharacter => ∃ c ∈ s, ¬(c.isDigit = true ∨ c ∈ ".+-*/()".toList)
  | .unmatchedClosing => ∃ p, p <+: s ∧ p.count '(' < p.count ')'
  | .unmatchedOpening => (∀ p, p <+: s → p.count ')' ≤ p.count '(') ∧ s.count ')' < s.count '('
  | .operatorAtEdge =>
    (∃ c ∈ "+*/".toList, s.head? = some c) ∨ ∃ c ∈ "+-*/".toList, s.getLast? = some c
  | .emptyParentheses => "()".toList <:+: s
  | .zeroDivisor => "/0".toList <:+: s

instance (s : Text) (reason : Rejection) : Decidable (Applies s reason) :=
  match reason with
  | .empty => inferInstanceAs (Decidable (s = []))
  | .foreignCharacter => inferInstanceAs (Decidable (∃ c ∈ s, _))
  | .unmatchedClosing =>
    decidable_of_iff (∃ p ∈ s.inits, p.count '(' < p.count ')') (by simp [Applies])
  | .unmatchedOpening =>
    decidable_of_iff ((∀ p ∈ s.inits, p.count ')' ≤ p.count '(') ∧ s.count ')' < s.count '(')
      (by simp [Applies])
  | .operatorAtEdge => inferInstanceAs (Decidable (_ ∨ ∃ c ∈ "+-*/".toList, s.getLast? = some c))
  | .emptyParentheses => inferInstanceAs (Decidable ("()".toList <:+: s))
  | .zeroDivisor => inferInstanceAs (Decidable ("/0".toList <:+: s))

/-- The reasons in the order in which they take precedence. -/
def priority : List Rejection :=
  [.empty, .foreignCharacter, .unmatchedClosing, .unmatchedOpening, .operatorAtEdge,
    .emptyParentheses, .zeroDivisor]

/-! ## The count -/

/-- How many more parentheses the text opens than it closes. -/
def balance (s : Text) : Int := s.count '(' - s.count ')'

@[simp] theorem balance_nil : balance [] = 0 := rfl

theorem depthAfter_eq (d : Int) (c : Char) (s : Text) :
    depthAfter d c + balance s = d + balance (c :: s) := by
  unfold depthAfter balance
  rw [List.count_cons, List.count_cons]
  split_ifs with ho hc <;> simp_all <;> omega

open Classical in
/-- The check compares the depth that each beginning of the text leads to with zero. -/
theorem parenthesesFault?_eq (hd : 0 ≤ d) :
    parenthesesFault? d s =
      if ∃ p, p <+: s ∧ d + balance p < 0 then some .unmatchedClosing
      else if d + balance s = 0 then none else some .unmatchedOpening := by
  induction s generalizing d with
  | nil =>
    have hnone : ¬∃ p : Text, p <+: [] ∧ d + balance p < 0 := by
      rintro ⟨p, hp, hneg⟩
      rw [List.prefix_nil.1 hp, balance_nil] at hneg
      omega
    rw [if_neg hnone, parenthesesFault?, balance_nil, Int.add_zero]
  | cons c s ih =>
    -- A beginning of `c :: s` is empty, or it is `c` and a beginning of `s`.
    have hfirst : (∃ p, p <+: c :: s ∧ d + balance p < 0) ↔
        ∃ p, p <+: s ∧ depthAfter d c + balance p < 0 := by
      constructor
      · rintro ⟨p, hp, hneg⟩
        rcases List.prefix_cons_iff.1 hp with rfl | ⟨q, rfl, hq⟩
        · rw [balance_nil] at hneg
          omega
        · exact ⟨q, hq, by rwa [depthAfter_eq]⟩
      · rintro ⟨p, hp, hneg⟩
        exact ⟨c :: p, List.cons_prefix_cons.2 ⟨rfl, hp⟩, by rwa [← depthAfter_eq]⟩
    rw [parenthesesFault?, if_congr hfirst rfl rfl, ← depthAfter_eq]
    by_cases hneg : depthAfter d c < 0
    · rw [if_pos hneg, if_pos ⟨[], List.nil_prefix, by simpa using hneg⟩]
    · rw [if_neg hneg, ih (by omega)]

open Classical in
/-- The check of the parentheses finds the reasons that are about them. -/
theorem parenthesesFault?_zero (s : Text) :
    parenthesesFault? 0 s =
      if Applies s .unmatchedClosing then some .unmatchedClosing
      else if Applies s .unmatchedOpening then some .unmatchedOpening else none := by
  have hclosing : (∃ p, p <+: s ∧ 0 + balance p < 0) ↔ Applies s .unmatchedClosing := by
    refine exists_congr fun p => and_congr_right fun _ => ?_
    unfold balance
    omega
  rw [parenthesesFault?_eq (Int.le_refl 0), if_congr hclosing rfl rfl]
  by_cases happlies : Applies s .unmatchedClosing
  · rw [if_pos happlies, if_pos happlies]
  rw [if_neg happlies, if_neg happlies]
  -- No beginning of the text closes more than it opens, and the text is one of them.
  have hle : ∀ p, p <+: s → p.count ')' ≤ p.count '(' := by
    intro p hp
    by_contra hlt
    exact happlies ⟨p, hp, by omega⟩
  have hself := hle s (List.prefix_refl s)
  have hopening : 0 + balance s = 0 ↔ ¬Applies s .unmatchedOpening := by
    unfold balance
    constructor
    · rintro hzero ⟨-, hlt⟩
      omega
    · intro hnot
      by_contra hne
      exact hnot ⟨hle, by omega⟩
  rw [if_congr hopening rfl rfl, ite_not]

/-! ## The other checks -/

theorem isAllowed_iff : isAllowed c = true ↔ c.isDigit = true ∨ c ∈ ".+-*/()".toList := by
  rw [isAllowed, Bool.or_eq_true, List.contains_iff_mem]

theorem all_isAllowed_iff : s.all isAllowed = true ↔ ¬Applies s .foreignCharacter := by
  simp only [Applies, List.all_eq_true, isAllowed_iff, not_exists, not_and, not_not]

theorem hasOperatorAtEdge_iff : hasOperatorAtEdge s = true ↔ Applies s .operatorAtEdge := by
  have hany : ∀ (o : Option Char) (cs : List Char),
      o.any (cs.contains ·) = true ↔ ∃ c ∈ cs, o = some c := by
    intro o cs
    cases o <;> simp
  rw [hasOperatorAtEdge, Bool.or_eq_true, hany, hany]
  rfl

/-- A text is rejected for the first reason that applies to it. -/
theorem fault?_eq_find? (s : Text) :
    fault? s = priority.find? fun reason => decide (Applies s reason) := by
  have hfind : ∀ (reason : Rejection) (reasons : List Rejection),
      (reason :: reasons).find? (fun reason => decide (Applies s reason)) =
        if Applies s reason then some reason
        else reasons.find? fun reason => decide (Applies s reason) := by
    intro reason reasons
    by_cases h : Applies s reason <;> simp [h]
  have hall : (!s.all isAllowed) = true ↔ Applies s .foreignCharacter := by
    rw [Bool.not_eq_true', ← Bool.not_eq_true, all_isAllowed_iff, not_not]
  have hfilled : hasAdjacent '(' ')' s = true ↔ Applies s .emptyParentheses := hasAdjacent_iff_infix
  have hzero : hasAdjacent '/' '0' s = true ↔ Applies s .zeroDivisor := hasAdjacent_iff_infix
  simp only [priority, hfind, List.find?_nil]
  rw [fault?, if_congr (show s = [] ↔ Applies s .empty from Iff.rfl) rfl rfl,
    if_congr hall rfl rfl, parenthesesFault?_zero, if_congr hasOperatorAtEdge_iff rfl rfl,
    if_congr hfilled rfl rfl, if_congr hzero rfl rfl]
  split_ifs <;> rfl

/-! ## The grammar of the parentheses -/

theorem parenthesesFault?_parentheses (hd : 0 ≤ d) (s : Text) :
    parenthesesFault? d (parentheses s) = parenthesesFault? d s := by
  induction s generalizing d with
  | nil => rfl
  | cons c s ih =>
    by_cases hc : c = '(' ∨ c = ')'
    · have hkeep : parentheses (c :: s) = c :: parentheses s :=
        List.filter_cons_of_pos (by simpa using hc)
      rw [hkeep, parenthesesFault?, parenthesesFault?]
      split_ifs with hneg
      · rfl
      · exact ih (by omega)
    · have hdrop : parentheses (c :: s) = parentheses s :=
        List.filter_cons_of_neg (by simpa using hc)
      rw [not_or] at hc
      rw [hdrop, ih hd, parenthesesFault?_cons_of_ne hc.1 hc.2 hd]

theorem Dyck.matched (h : Dyck s) : Matched s := by
  induction h with
  | nil => exact fun _ _ _ => rfl
  | @node s t _ _ ihs iht =>
    have hsplit : '(' :: (s ++ ')' :: t) = '(' :: (s ++ [')']) ++ t := by simp
    rw [hsplit]
    exact ihs.parenthesised.append iht

/-- Words with closing parentheses between them, `d` in number. -/
inductive Closes : Nat → Text → Prop
  | last {s : Text} (hs : Dyck s) : Closes 0 s
  | closing {d : Nat} {s t : Text} (hs : Dyck s) (ht : Closes d t) : Closes (d + 1) (s ++ ')' :: t)

/-- What follows an opening parenthesis begins with the word up to the one that closes it. -/
theorem Closes.opening {d : Nat} (h : Closes (d + 1) s) : Closes d ('(' :: s) := by
  cases h with
  | @closing _ s t hs ht =>
    cases ht with
    | last ht => exact .last (.node hs ht)
    | @closing d u v hu hv =>
      have hsplit : '(' :: (s ++ ')' :: (u ++ ')' :: v)) = '(' :: (s ++ ')' :: u) ++ ')' :: v := by
        simp
      rw [hsplit]
      exact .closing (.node hs hu) hv

/-- Parentheses that are read to the end from the depth `d` close it. -/
theorem closes_of_parenthesesFault? {d : Nat} (hs : ∀ c ∈ s, c = '(' ∨ c = ')')
    (h : parenthesesFault? d s = none) : Closes d s := by
  induction s generalizing d with
  | nil =>
    obtain rfl := eq_zero_of_parenthesesFault?_nil h
    exact .last .nil
  | cons c s ih =>
    have hrest : ∀ c ∈ s, c = '(' ∨ c = ')' := fun c hc => hs c (by simp [hc])
    rcases hs c (by simp) with rfl | rfl
    · rw [parenthesesFault?_opening (by omega)] at h
      exact (ih hrest (d := d + 1) h).opening
    · obtain ⟨k, rfl, hk⟩ := exists_of_parenthesesFault?_closing h
      exact .closing .nil (ih hrest hk)

/-- The check of the parentheses accepts the words of the grammar, whatever stands between them. -/
theorem dyck_parentheses_iff : Dyck (parentheses s) ↔ parenthesesFault? 0 s = none := by
  rw [← parenthesesFault?_parentheses (Int.le_refl 0)]
  constructor
  · intro h
    exact h.matched.fault?_eq_none
  · intro h
    have hall : ∀ c ∈ parentheses s, c = '(' ∨ c = ')' := fun c hc => by
      simpa using (List.mem_filter.1 hc).2
    cases closes_of_parenthesesFault? (d := 0) hall h with
    | last hs => exact hs

theorem not_dyck_iff :
    ¬Dyck (parentheses s) ↔ Applies s .unmatchedClosing ∨ Applies s .unmatchedOpening := by
  rw [dyck_parentheses_iff, parenthesesFault?_zero]
  split_ifs with hclosing hopening
  · simp [hclosing]
  · simp [hopening]
  · simp [hclosing, hopening]

/-- The admissible texts are those to which no reason applies. -/
theorem admissible_iff : Admissible s ↔ ∀ reason, ¬Applies s reason := by
  constructor
  · intro h reason
    cases reason with
    | empty => exact h.nonempty
    | foreignCharacter =>
      rintro ⟨c, hc, hforeign⟩
      exact hforeign (h.alphabet c hc)
    | unmatchedClosing => exact fun happlies => not_dyck_iff.2 (Or.inl happlies) h.parentheses
    | unmatchedOpening => exact fun happlies => not_dyck_iff.2 (Or.inr happlies) h.parentheses
    | operatorAtEdge =>
      rintro (⟨c, hc, hstart⟩ | ⟨c, hc, hfinish⟩)
      · exact h.start c hc hstart
      · exact h.finish c hc hfinish
    | emptyParentheses => exact h.filled
    | zeroDivisor => exact h.divisor
  · intro h
    constructor
    · exact h .empty
    · intro c hc
      by_contra hforeign
      exact h .foreignCharacter ⟨c, hc, hforeign⟩
    · by_contra hdyck
      rcases not_dyck_iff.1 hdyck with happlies | happlies
      · exact h _ happlies
      · exact h _ happlies
    · exact fun c hc hstart => h .operatorAtEdge (Or.inl ⟨c, hc, hstart⟩)
    · exact fun c hc hfinish => h .operatorAtEdge (Or.inr ⟨c, hc, hfinish⟩)
    · exact h .emptyParentheses
    · exact h .zeroDivisor

/-! ## The values of the count -/

/-- The values that the count takes, one for each character that is read. -/
def depths (depth : Int) : Text → List Int
  | [] => []
  | c :: s =>
    depthAfter depth c ::
      if depthAfter depth c < 0 then [] else depths (depthAfter depth c) s

/-- What the check concludes from the last value of the count. -/
def conclude (depth : Int) : Option Rejection :=
  if depth < 0 then some .unmatchedClosing
  else if depth = 0 then none else some .unmatchedOpening

/-- The check is the count. -/
theorem parenthesesFault?_eq_conclude (hd : 0 ≤ d) :
    parenthesesFault? d s = conclude ((depths d s).getLastD d) := by
  induction s generalizing d with
  | nil =>
    rw [parenthesesFault?, depths, List.getLastD_nil, conclude, if_neg (show ¬d < 0 by omega)]
  | cons c s ih =>
    rw [parenthesesFault?, depths]
    by_cases hneg : depthAfter d c < 0
    · rw [if_pos hneg, if_pos hneg]
      exact (if_pos hneg).symm
    · rw [if_neg hneg, if_neg hneg, ih (by omega), List.getLastD_cons]

/-- Each value is the balance of the characters read, and it is in range. -/
theorem depths_bounds {i : Nat} {x : Int} (hd : 0 ≤ d) (h : (depths d s)[i]? = some x) :
    x = d + balance (s.take (i + 1)) ∧ -1 ≤ x ∧ x ≤ d + i + 1 := by
  induction s generalizing d i with
  | nil => simp [depths] at h
  | cons c s ih =>
    have hstep : -1 ≤ depthAfter d c ∧ depthAfter d c ≤ d + 1 := by
      unfold depthAfter
      split_ifs <;> omega
    rw [depths] at h
    cases i with
    | zero =>
      obtain rfl : depthAfter d c = x := by simpa using h
      rw [List.take_succ_cons, ← depthAfter_eq, List.take_zero, balance_nil]
      omega
    | succ i =>
      rw [List.getElem?_cons_succ] at h
      split_ifs at h with hneg
      · simp at h
      · obtain ⟨heq, hlow, hhigh⟩ := ih (by omega) h
        rw [List.take_succ_cons, ← depthAfter_eq]
        push_cast
        exact ⟨heq, hlow, by omega⟩

/-- `depthAfter` in machine words. -/
def depthAfter64 (depth : Int64) (c : Char) : Int64 :=
  if c = '(' then depth + 1 else if c = ')' then depth - 1 else depth

/-- `depths` in machine words. -/
def depths64 (depth : Int64) : Text → List Int64
  | [] => []
  | c :: s =>
    depthAfter64 depth c ::
      if depthAfter64 depth c < 0 then [] else depths64 (depthAfter64 depth c) s

theorem toInt_depthAfter64 {depth : Int64} (hlow : 0 ≤ depth.toInt)
    (hhigh : depth.toInt + 1 < 2 ^ 63) :
    (depthAfter64 depth c).toInt = depthAfter depth.toInt c := by
  have hone : (1 : Int64).toInt = 1 := rfl
  unfold depthAfter64 depthAfter
  split_ifs
  · rw [Int64.toInt_add, hone, Int.bmod_eq_of_le (by omega) (by omega)]
  · rw [Int64.toInt_sub, hone, Int.bmod_eq_of_le (by omega) (by omega)]
  · rfl

/-- No value overflows a machine word, as long as the text is not longer than one can count. -/
theorem map_toInt_depths64 {depth : Int64} (hlow : 0 ≤ depth.toInt)
    (hhigh : depth.toInt + s.length < 2 ^ 63) :
    (depths64 depth s).map Int64.toInt = depths depth.toInt s := by
  induction s generalizing depth with
  | nil => rfl
  | cons c s ih =>
    rw [List.length_cons, Int.natCast_add, Int.natCast_one] at hhigh
    have hafter := toInt_depthAfter64 (c := c) hlow (by omega)
    have hstep : depthAfter depth.toInt c ≤ depth.toInt + 1 := by
      unfold depthAfter
      split_ifs <;> omega
    have hneg : depthAfter64 depth c < 0 ↔ depthAfter depth.toInt c < 0 := by
      rw [Int64.lt_iff_toInt_lt, hafter]
      rfl
    rw [depths64, depths, List.map_cons, hafter]
    by_cases hstop : depthAfter depth.toInt c < 0
    · rw [if_pos hstop, if_pos (hneg.2 hstop), List.map_nil]
    · rw [if_neg hstop, if_neg (hstop ∘ hneg.1), ih (by omega) (by omega), hafter]

/-! ## The theorem -/

/-- What validation decides about a text, and how it counts the parentheses. -/
structure Decides (s : Text) : Prop where
  accepts_iff : fault? s = none ↔ Admissible s
  /-- A text is rejected for the first reason that applies. -/
  rejects : fault? s = priority.find? fun reason => decide (Applies s reason)
  /-- Between them, two of the reasons say that the parentheses do not match. -/
  unmatched_iff :
    ¬Dyck (parentheses s) ↔ Applies s .unmatchedClosing ∨ Applies s .unmatchedOpening
  counts : parenthesesFault? 0 s = conclude ((depths 0 s).getLastD 0)
  bounded : ∀ (i : Nat) (x : Int), (depths 0 s)[i]? = some x →
    x = balance (s.take (i + 1)) ∧ -1 ≤ x ∧ x ≤ i + 1
  exact_in_words : s.length < 2 ^ 63 → (depths64 0 s).map Int64.toInt = depths 0 s

/-- Validation decides the declared language, with the declared precedence of the reasons. -/
theorem fault?_decides (s : Text) : Decides s where
  accepts_iff := by
    rw [fault?_eq_find?, List.find?_eq_none, admissible_iff]
    have hall : ∀ reason : Rejection, reason ∈ priority := by
      intro reason
      cases reason <;> decide
    simp [hall]
  rejects := fault?_eq_find? s
  unmatched_iff := not_dyck_iff
  counts := parenthesesFault?_eq_conclude (Int.le_refl 0)
  bounded := by
    intro i x h
    simpa using depths_bounds (Int.le_refl 0) h
  exact_in_words := by
    intro hlen
    have hzero : (0 : Int64).toInt = 0 := rfl
    rw [map_toInt_depths64 (by omega) (by omega), hzero]

/-- Of three reasons that apply, the first in the order is given. -/
example : fault? "()/0+(".toList = some .unmatchedOpening := by decide

end Calculator.Validation
