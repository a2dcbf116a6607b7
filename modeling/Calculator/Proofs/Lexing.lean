import Calculator.Proofs.Grammar
import Calculator.Proofs.Outcome

/-!
# What reading a text comes to

Reading gathers literals in a pending text and looks one character back for signs. `Spells` says
without either what a text spells: a literal up to the end of its digits and points, a minus that
is a sign of nothing, or one character for one token. A minus may be a sign at the start of the
text and behind an opening parenthesis, which is all that the flag `signed` remembers of the
character before.

* `scan_eq_ok_iff`: reading succeeds with the tokens that the text spells.
* `scan_append_cons`: a character that cannot be part of a literal, such as a parenthesis, cuts the
  reading in two.
-/

namespace Calculator.Token

/-! ## Looking back -/

/-- A minus behind this character is a sign. -/
def signed (previous : Option Char) : Bool := previous = none || previous = some '('

theorem isLiteralChar_eq (previous : Option Char) (c : Char) :
    isLiteralChar previous c = (Literal.isBody c || (c = '-' && signed previous)) := rfl

theorem isLiteralChar_of_isBody {c : Char} (h : Literal.isBody c = true)
    (previous : Option Char) : isLiteralChar previous c = true := by
  rw [isLiteralChar_eq, h, Bool.true_or]

/-- No literal begins or goes on with a character that is neither a digit nor a point nor a sign. -/
theorem isLiteralChar_eq_false {c : Char} (hc : Literal.isBody c = false) {previous : Option Char}
    (hm : c = '-' → signed previous = false) : isLiteralChar previous c = false := by
  rw [isLiteralChar_eq, hc, Bool.false_or, Bool.and_eq_false_imp]
  intro h
  exact hm (of_decide_eq_true h)

theorem signed_some_of_isBody {c : Char} (h : Literal.isBody c = true) :
    signed (some c) = false := by
  obtain ⟨hopening, -⟩ := Literal.ne_parenthesis_of_isBody h
  simp [signed, hopening]

theorem signed_some_of_isLiteralChar {p : Option Char} {c : Char}
    (h : isLiteralChar p c = true) : signed (some c) = false := by
  rw [isLiteralChar_eq, Bool.or_eq_true, Bool.and_eq_true] at h
  rcases h with h | ⟨hm, -⟩
  · exact signed_some_of_isBody h
  · rw [of_decide_eq_true hm]
    rfl

/-- Of the character before, reading only sees whether it lets a sign follow. -/
theorem scan_congr {p q : Option Char} (h : signed p = signed q) (pending s : Text) :
    scan p pending s = scan q pending s := by
  cases s with
  | nil => rfl
  | cons c s =>
    have hc : isLiteralChar p c = isLiteralChar q c := by
      rw [isLiteralChar_eq, isLiteralChar_eq, h]
    rw [scan, scan, hc]

/-! ## Gathering literals -/

/-- The text does not go on with a literal. -/
def EndsLiteral (s : Text) : Prop := ∀ c, s.head? = some c → Literal.isBody c = false

theorem endsLiteral_nil : EndsLiteral [] := by
  intro c h
  simp at h

theorem endsLiteral_cons {c : Char} {s : Text} (h : Literal.isBody c = false) :
    EndsLiteral (c :: s) := by
  intro d hd
  rw [List.head?_cons, Option.some.injEq] at hd
  rwa [← hd]

theorem scan_gather {p : Option Char} (hp : signed p = false) {run : Text}
    (hrun : ∀ c ∈ run, Literal.isBody c = true) (pending s : Text) :
    scan p pending (run ++ s) = scan p (pending ++ run) s := by
  induction run generalizing pending with
  | nil => simp
  | cons c run ih =>
    have hc := hrun c (by simp)
    have hsame : signed (some c) = signed p := by rw [signed_some_of_isBody hc, hp]
    rw [List.cons_append, scan, if_pos (isLiteralChar_of_isBody hc p), scan_congr hsame,
      ih fun d hd => hrun d (by simp [hd]), List.append_assoc, List.singleton_append]

theorem scan_flush {p : Option Char} (hp : signed p = false) {s : Text} (hs : EndsLiteral s)
    (pending : Text) :
    scan p pending s = do
      let before ← ofLiteral pending
      let after ← scan p [] s
      return before ++ after := by
  cases s with
  | nil =>
    show ofLiteral pending = ofLiteral pending >>= fun before => pure (before ++ [])
    simp
  | cons c s =>
    have hc : isLiteralChar p c = false := by
      rw [isLiteralChar_eq, hs c rfl, hp, Bool.and_false, Bool.or_false]
    have hnil : ofLiteral [] = pure [] := rfl
    rw [scan, scan, if_neg (by simp [hc]), if_neg (by simp [hc]), hnil, pure_bind]
    simp only [bind_assoc, pure_bind, List.nil_append]

/-- What begins as a literal is gathered up to the end of its digits and points. -/
theorem scan_gathered {p : Option Char} {c : Char} (hc : isLiteralChar p c = true) {run s : Text}
    (hrun : ∀ d ∈ run, Literal.isBody d = true) (hs : EndsLiteral s) :
    scan p [] (c :: (run ++ s)) = do
      let before ← ofLiteral (c :: run)
      let after ← scan (some ')') [] s
      return before ++ after := by
  have hsc := signed_some_of_isLiteralChar hc
  rw [scan, if_pos hc, scan_gather hsc hrun, scan_flush hsc hs, scan_congr (q := some ')') hsc]
  rfl

/-- A stretch that is as long as it can be is read as one literal. -/
theorem scan_stretch {p : Option Char} (r : Stretch) (hr : r.negative = true → signed p = true)
    {s : Text} (hs : EndsLiteral s) :
    scan p [] (r.text ++ s) = do
      let before ← ofLiteral r.text
      let after ← scan (some ')') [] s
      return before ++ after := by
  obtain ⟨c, run, htext, hc, hrun⟩ := r.exists_text_eq_cons
  have hlit : isLiteralChar p c = true := by
    rcases hc with hc | ⟨hn, rfl⟩
    · exact isLiteralChar_of_isBody hc p
    · simp [isLiteralChar_eq, hr hn]
  rw [htext, List.cons_append, scan_gathered hlit hrun hs]

theorem scan_literal {p : Option Char} (l : Literal) (hl : l.negative = true → signed p = true)
    {s : Text} (hs : EndsLiteral s) :
    scan p [] (l.text ++ s) = (scan (some ')') [] s).map (number l.value :: ·) := by
  have hof : ofLiteral l.text = .ok [number l.value] := by
    obtain ⟨c, run, htext, -⟩ := l.exists_text_eq_cons
    have hne : l.text ≠ [] := by simp [htext]
    rw [ofLiteral, if_neg hne, Literal.read?_text]
  rw [← l.text_stretch, scan_stretch l.stretch hl hs, l.text_stretch, hof]
  rfl

/-- A minus that could be a sign, but has neither digit nor point behind it, is an operator. -/
theorem scan_minus {p : Option Char} (hp : signed p = true) {s : Text} (hs : EndsLiteral s) :
    scan p [] ('-' :: s) = (scan (some ')') [] s).map (operator .minus :: ·) := by
  have hlit : isLiteralChar p '-' = true := by simp [isLiteralChar_eq, hp]
  have hnil : ∀ d ∈ ([] : Text), Literal.isBody d = true := by simp
  have hgathered := scan_gathered hlit hnil hs
  rw [List.nil_append] at hgathered
  rw [hgathered]
  rfl

/-- With nothing pending, a character that is part of no literal is a token of its own. -/
theorem scan_single {p : Option Char} {c : Char} (hc : Literal.isBody c = false)
    (hm : c = '-' → signed p = false) (s : Text) :
    scan p [] (c :: s) = do
      let token ← ofChar c
      let after ← scan (some c) [] s
      return token :: after := by
  rw [scan, if_neg (by simp [isLiteralChar_eq_false hc hm])]
  rfl

/-- A character that is part of no literal stands alone, whatever is read on its two sides. -/
theorem scan_append_cons {c : Char} (hc : Literal.isBody c = false) (hm : c ≠ '-')
    (p : Option Char) (pending s rest : Text) :
    scan p pending (s ++ c :: rest) = do
      let before ← scan p pending s
      let token ← ofChar c
      let after ← scan (some c) [] rest
      return before ++ token :: after := by
  induction s generalizing p pending with
  | nil =>
    have hlit : isLiteralChar p c = false := by simp [isLiteralChar_eq, hc, hm]
    show (if isLiteralChar p c = true then _ else _) = _
    rw [if_neg (by simp [hlit])]
    rfl
  | cons d s ih =>
    rw [List.cons_append, scan, scan]
    split_ifs with hd
    · exact ih (some d) (pending ++ [d])
    · simp only [ih (some d) [], bind_assoc, pure_bind, List.append_assoc, List.cons_append]

/-! ## Spelling -/

/-- `Spells signed s ts`: the text `s` spells the tokens `ts`. A minus at its start may be a sign if
`signed` says so. -/
inductive Spells : Bool → Text → List Token → Prop
  | nil {signed : Bool} : Spells signed [] []
  | literal {signed : Bool} {s : Text} {ts : List Token} (l : Literal)
      (hl : l.negative = true → signed = true) (hs : EndsLiteral s) (h : Spells false s ts) :
      Spells signed (l.text ++ s) (number l.value :: ts)
  | minus {s : Text} {ts : List Token} (hs : EndsLiteral s) (h : Spells false s ts) :
      Spells true ('-' :: s) (operator .minus :: ts)
  | single {signed : Bool} {c : Char} {s : Text} {t : Token} {ts : List Token}
      (hc : Literal.isBody c = false) (hm : c = '-' → signed = false) (ht : ofChar c = .ok t)
      (h : Spells (decide (c = '(')) s ts) : Spells signed (c :: s) (t :: ts)

theorem scan_of_spells {sg : Bool} {s : Text} {ts : List Token} (h : Spells sg s ts) :
    ∀ p, signed p = sg → scan p [] s = .ok ts := by
  induction h with
  | nil => intro p _; rfl
  | literal l hl hs _ ih =>
    intro p hp
    rw [scan_literal l (by rwa [hp]) hs, ih (some ')') rfl]
    rfl
  | minus hs _ ih =>
    intro p hp
    rw [scan_minus hp hs, ih (some ')') rfl]
    rfl
  | @single sg c s t ts hc hm ht _ ih =>
    intro p hp
    rw [scan_single hc (by rwa [hp]), ht, ih (some c) (by simp [signed])]
    rfl

theorem ofChar_eq_ok {c : Char} {t : Token} (h : ofChar c = .ok t) :
    (c = '(' ∧ t = opening) ∨ (c = ')' ∧ t = closing) ∨
      ∃ op : Operator, c = op.symbol ∧ t = operator op := by
  unfold ofChar at h
  split_ifs at h with ho hc
  · exact Or.inl ⟨ho, (Except.ok.inj h).symm⟩
  · exact Or.inr (Or.inl ⟨hc, (Except.ok.inj h).symm⟩)
  · split at h
    · next op hop =>
      exact Or.inr (Or.inr ⟨op, Operator.ofChar?_eq_some_iff.1 hop, (Except.ok.inj h).symm⟩)
    · cases h

/-- What a gathered literal is a token of. -/
theorem ofLiteral_eq_ok {pending : Text} {ts : List Token} (hne : pending ≠ [])
    (h : ofLiteral pending = .ok ts) :
    (∃ l : Literal, l.text = pending ∧ ts = [number l.value]) ∨
      pending = ['-'] ∧ ts = [operator .minus] := by
  rw [ofLiteral, if_neg hne] at h
  split at h
  · next v hv =>
    obtain ⟨l, hl, rfl⟩ := Literal.exists_text_of_read? hv
    exact Or.inl ⟨l, hl, by simpa [eq_comm] using h⟩
  · split_ifs at h with hm
    exact Or.inr ⟨hm, by simpa [eq_comm] using h⟩

theorem endsLiteral_dropWhile (s : Text) : EndsLiteral (s.dropWhile Literal.isBody) := by
  intro c hc
  have hhead := List.head?_dropWhile_not Literal.isBody s
  rw [hc] at hhead
  simpa using hhead

theorem scan_of_isLiteralChar {p : Option Char} {c : Char} (h : isLiteralChar p c = true)
    (s : Text) :
    scan p [] (c :: s) = do
      let before ← ofLiteral (c :: s.takeWhile Literal.isBody)
      let after ← scan (some ')') [] (s.dropWhile Literal.isBody)
      return before ++ after := by
  have hrun : ∀ d ∈ s.takeWhile Literal.isBody, Literal.isBody d = true :=
    fun d hd => List.mem_takeWhile_imp hd
  have hgathered := scan_gathered h hrun (endsLiteral_dropWhile s)
  rwa [List.takeWhile_append_dropWhile] at hgathered

/-- A text that begins with a literal, or with a minus that is a sign of nothing. -/
theorem spells_of_isLiteralChar {p : Option Char} {c : Char} {s : Text} {ts : List Token}
    (hc : isLiteralChar p c = true)
    (ih : ∀ r us, r.length ≤ s.length → scan (some ')') [] r = .ok us → Spells false r us)
    (h : scan p [] (c :: s) = .ok ts) : Spells (signed p) (c :: s) ts := by
  have hminus : c = '-' → signed p = true := by
    intro hminus
    subst hminus
    have hbody : Literal.isBody '-' = false := by decide
    simpa [isLiteralChar_eq, hbody] using hc
  rw [scan_of_isLiteralChar hc] at h
  have hends := endsLiteral_dropWhile s
  have hlen : (s.dropWhile Literal.isBody).length ≤ s.length := List.length_dropWhile_le ..
  have hsplit : s.takeWhile Literal.isBody ++ s.dropWhile Literal.isBody = s :=
    List.takeWhile_append_dropWhile
  -- The pending literal is `c` and the digits and points behind it.
  generalize s.takeWhile Literal.isBody = run at h hsplit
  generalize s.dropWhile Literal.isBody = rest at h hends hsplit hlen
  subst hsplit
  obtain ⟨before, hbefore, h⟩ := bind_eq_ok h
  obtain ⟨after, hafter, h⟩ := bind_eq_ok h
  obtain rfl : before ++ after = ts := by simpa [pure, Except.pure] using h
  have hspells := ih rest after hlen hafter
  rcases ofLiteral_eq_ok (List.cons_ne_nil c run) hbefore with ⟨l, hl, rfl⟩ | ⟨hm, rfl⟩
  · have hneg : l.negative = true → signed p = true := by
      intro hn
      refine hminus ?_
      simp only [Literal.text, hn, if_true] at hl
      exact (List.cons.inj hl).1.symm
    have := Spells.literal l hneg hends hspells
    rwa [hl] at this
  · obtain ⟨rfl, rfl⟩ : c = '-' ∧ run = [] := by simpa using hm
    rw [hminus rfl]
    exact Spells.minus hends hspells

/-- Reading succeeds with the tokens that the text spells, and with no others. -/
theorem scan_eq_ok_iff {p : Option Char} {s : Text} {ts : List Token} :
    scan p [] s = .ok ts ↔ Spells (signed p) s ts := by
  refine ⟨?_, fun h => scan_of_spells h p rfl⟩
  intro h
  induction hn : s.length using Nat.strong_induction_on generalizing p s ts with
  | _ n ih =>
    cases s with
    | nil =>
      obtain rfl : [] = ts := by simpa [scan, ofLiteral] using h
      exact Spells.nil
    | cons c s =>
      rw [List.length_cons] at hn
      by_cases hc : isLiteralChar p c = true
      · exact spells_of_isLiteralChar hc
          (fun r us hr h => ih r.length (by omega) h rfl) h
      · rw [isLiteralChar_eq, Bool.not_eq_true, Bool.or_eq_false_iff] at hc
        have hm : c = '-' → signed p = false := fun hm => by simpa [hm] using hc.2
        rw [scan_single hc.1 hm] at h
        obtain ⟨t, ht, h⟩ := bind_eq_ok h
        obtain ⟨after, hafter, h⟩ := bind_eq_ok h
        obtain rfl : t :: after = ts := by simpa [pure, Except.pure] using h
        have hrest : Spells (decide (c = '(')) s after := by
          have := ih s.length (by omega) hafter rfl
          simpa [signed] using this
        exact Spells.single hc.1 hm ht hrest

end Calculator.Token
