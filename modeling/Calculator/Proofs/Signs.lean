import Calculator.Proofs.Lexing
import Calculator.Proofs.Symbols

/-!
# Signs on the keypad and in the reading

**Theorem (`minus_run`).** As long as a user works with the keys of the panel and never types into
the field, the spaces of the entry tell the two kinds of minus apart. A minus that stands at the
start or right behind an opening parenthesis, with no space in between, is one that reading gathers
into a literal, and a minus right behind a space is one that reading takes as an operator.

The keypad looks at the entry without the spaces at its end when a minus is written; reading looks
at one character, in the text without any blanks. What keeps the two in agreement afterwards is that
the entry only ever changes at its end (`KeptByKeys`): a key takes characters off and puts others
on, and what stands in front of a minus is touched no more as long as the minus is there. So the
invariant (`Spaced`) speaks about the text in front of each minus, and holds of every beginning of a
text of which it holds (`Spaced.of_prefix`).

To say what becomes of a single minus, reading is put as a loop over the characters
(`Reading.next`), which is where a minus is either gathered or taken as a token. A minus behind
which there is neither a digit nor a point is gathered too; that it is no sign shows only when the
literal ends.
-/

namespace Calculator

/-! ## Reading character by character -/

namespace Token

/-- How far the reading of a text has come: the character before, the pending literal, and the
tokens in front of it or the first fault among them. -/
structure Reading where
  previous : Option Char
  pending : Text
  tokens : Except Failure (List Token)

namespace Reading

/-- Before the first character. -/
def start : Reading := ⟨none, [], .ok []⟩

/-- The character goes on with the pending literal. -/
def gather (r : Reading) (c : Char) : Reading := ⟨some c, r.pending ++ [c], r.tokens⟩

/-- The character ends the pending literal and is a token of its own. -/
def take (r : Reading) (c : Char) : Reading where
  previous := some c
  pending := []
  tokens := do
    let before ← r.tokens
    let literal ← ofLiteral r.pending
    let token ← ofChar c
    return before ++ literal ++ [token]

/-- Reads one character. -/
def next (r : Reading) (c : Char) : Reading :=
  if isLiteralChar r.previous c then r.gather c else r.take c

/-- Reads a text. -/
def run (r : Reading) (s : Text) : Reading := s.foldl next r

/-- The tokens at the end of the text. -/
def finish (r : Reading) : Except Failure (List Token) := do
  let before ← r.tokens
  let literal ← ofLiteral r.pending
  return before ++ literal

variable {r : Reading} {s t : Text} {c : Char}

theorem run_cons (r : Reading) (c : Char) (s : Text) : r.run (c :: s) = (r.next c).run s := rfl

theorem run_append (r : Reading) (s t : Text) : r.run (s ++ t) = (r.run s).run t :=
  List.foldl_append

/-- The loop reads what is read from the pending literal on. -/
theorem finish_run (r : Reading) (s : Text) :
    (r.run s).finish = do
      let before ← r.tokens
      let after ← scan r.previous r.pending s
      return before ++ after := by
  induction s generalizing r with
  | nil => rfl
  | cons c s ih =>
    rw [run_cons, ih, scan, next]
    split_ifs
    · rfl
    · simp only [take, bind_assoc, pure_bind, List.append_assoc, List.singleton_append]

theorem ofText_eq (s : Text) : ofText s = (start.run s).finish := by
  rw [finish_run, ofText]
  exact (bind_pure _).symm

/-- The character before is the last one read. -/
theorem previous_run (h : r.previous = t.getLast?) (s : Text) :
    (r.run s).previous = (t ++ s).getLast? := by
  induction s generalizing r t with
  | nil => rwa [List.append_nil]
  | cons c s ih =>
    have hnext : (r.next c).previous = (t ++ [c]).getLast? := by
      rw [next, List.getLast?_concat]
      split_ifs <;> rfl
    rw [run_cons, ih hnext, List.append_assoc, List.singleton_append]

/-- The next character, a minus, is gathered into the pending literal. -/
def TakesSign (r : Reading) : Prop := r.next '-' = ⟨some '-', r.pending ++ ['-'], r.tokens⟩

/-- The next character, a minus, ends the pending literal and is the operator behind it. -/
def TakesOperator (r : Reading) : Prop :=
  r.next '-' = ⟨some '-', [], do
    let before ← r.tokens
    let literal ← ofLiteral r.pending
    return before ++ literal ++ [operator .minus]⟩

theorem isLiteralChar_minus (previous : Option Char) :
    isLiteralChar previous '-' = signed previous := by
  have hbody : Literal.isBody '-' = false := by decide
  rw [isLiteralChar_eq, hbody, Bool.false_or, decide_eq_true rfl, Bool.true_and]

theorem takesSign_iff : r.TakesSign ↔ signed r.previous = true := by
  rw [TakesSign, next, isLiteralChar_minus]
  cases hsigned : signed r.previous with
  | true => exact iff_of_true rfl rfl
  | false =>
    refine iff_of_false ?_ (by decide)
    intro h
    have hpending : [] = r.pending ++ ['-'] := congrArg pending h
    simp at hpending

theorem takesOperator_iff : r.TakesOperator ↔ signed r.previous = false := by
  rw [TakesOperator, next, isLiteralChar_minus]
  cases hsigned : signed r.previous with
  | false => exact iff_of_true rfl rfl
  | true =>
    refine iff_of_false ?_ (by decide)
    intro h
    have hpending : r.pending ++ ['-'] = [] := congrArg pending h
    simp at hpending

end Reading

end Token

/-! ## Spacing -/

namespace Entry

open Token

variable {s t front back : Text} {c : Char}

/-- A minus behind this text stands as the keypad puts a sign: at the start, or right behind an
opening parenthesis. -/
def SignPlace (front : Text) : Prop := front = [] ∨ front.getLast? = some '('

/-- A minus behind this text stands as the keypad puts an operator: right behind a space, in front
of which there is something else than an opening parenthesis. -/
def OperatorPlace (front : Text) : Prop :=
  front.getLast? = some ' ' ∧ ∃ c, front.unspaced.getLast? = some c ∧ c ≠ '('

/-- The text has spaces and symbols only, does not begin with a space, and every minus in it stands
in one of the two places. -/
structure Spaced (s : Text) : Prop where
  isSymbolic : IsSymbolic s
  head : s.head? ≠ some ' '
  minus : ∀ front back, s = front ++ '-' :: back → SignPlace front ∨ OperatorPlace front

theorem spaced_nil : Spaced [] where
  isSymbolic := fun _ hc => absurd hc List.not_mem_nil
  head := by simp
  minus := by simp

/-- A beginning of a spaced text is spaced. -/
theorem Spaced.of_prefix (h : Spaced s) (hbegins : t <+: s) : Spaced t := by
  obtain ⟨rest, rfl⟩ := hbegins
  constructor
  · exact h.isSymbolic.mono fun c hc => List.mem_append_left rest hc
  · intro hhead
    refine h.head ?_
    rw [List.head?_append, hhead]
    rfl
  · rintro front back rfl
    exact h.minus front (back ++ rest) (by simp)

/-- A character may be written behind a spaced text, a space not at the start and a minus in one of
the two places. -/
theorem Spaced.push (h : Spaced s) (hc : c = ' ' ∧ s ≠ [] ∨ Validation.isAllowed c = true)
    (hminus : c = '-' → SignPlace s ∨ OperatorPlace s) : Spaced (s ++ [c]) := by
  constructor
  · refine h.isSymbolic.append fun d hd => ?_
    rw [List.mem_singleton.1 hd]
    exact hc.imp_left And.left
  · cases s with
    | nil =>
      rintro hhead
      obtain rfl : c = ' ' := by simpa using hhead
      rcases hc with ⟨-, hne⟩ | hc
      · exact hne rfl
      · exact absurd hc (by decide)
    | cons d s => exact h.head
  · intro front back heq
    rcases List.eq_nil_or_concat back with rfl | ⟨back, d, rfl⟩
    · obtain ⟨rfl, hlast⟩ := List.append_inj' heq rfl
      exact hminus (List.cons.inj hlast).1
    · rw [List.concat_eq_append, ← List.cons_append, ← List.append_assoc] at heq
      obtain ⟨hfront, -⟩ := List.append_inj' heq rfl
      exact h.minus front back hfront

theorem Spaced.push_symbol (h : Spaced s) (hc : Validation.isAllowed c = true) (hne : c ≠ '-') :
    Spaced (s ++ [c]) :=
  h.push (.inr hc) fun hminus => absurd hminus hne

theorem Spaced.push_space (h : Spaced s) (hs : s ≠ []) : Spaced (s ++ [' ']) :=
  h.push (.inl ⟨rfl, hs⟩) fun hminus => absurd hminus (by decide)

/-! ## Keys -/

theorem eq_minus_of_symbol {op : Operator} (h : op.symbol = '-') : op = .minus := by
  have hop := Operator.ofChar?_symbol op
  rw [h] at hop
  exact (Option.some.inj hop).symm

theorem prefix_stripEnd (s : Text) : stripEnd s <+: s := by
  have hsuffix : s.reverse.dropWhile (· = ' ') <:+ s.reverse := List.dropWhile_suffix _
  have hbegins := hsuffix.reverse
  rwa [List.reverse_reverse] at hbegins

theorem spaced_erase (h : Spaced s) : Spaced (erase s) :=
  h.of_prefix <| (prefix_stripEnd _).trans <| (List.dropLast_prefix _).trans (prefix_stripEnd s)

/-- Behind a symbol that is no opening parenthesis, and a space, a minus stands for an operator. -/
theorem operatorPlace_append_space (h : Spaced (t ++ [c])) (hspace : c ≠ ' ') (hopening : c ≠ '(') :
    OperatorPlace (t ++ [c] ++ [' ']) := by
  have hc : Validation.isAllowed c = true := (h.isSymbolic c (by simp)).resolve_left hspace
  refine ⟨List.getLast?_concat, c, ?_, hopening⟩
  have hblank : Text.unspaced [' '] = [] := rfl
  rw [Text.unspaced_append, Text.unspaced_append, unspaced_symbol hc, hblank, List.append_nil,
    List.getLast?_concat]

theorem spaced_operator (h : Spaced s) (op : Operator) : Spaced (appendOperator s op) := by
  have hstrip := h.of_prefix (prefix_stripEnd s)
  have hop := isAllowed_symbol op
  unfold appendOperator
  dsimp only
  split_ifs with hsign hnil
  · exact hstrip.push (.inr hop) fun _ => .inl hsign.2
  · have hne : op.symbol ≠ '-' := fun hminus => hsign ⟨eq_minus_of_symbol hminus, .inl hnil⟩
    exact (spaced_nil.push_symbol hop hne).push_space (by simp)
  · rcases stripEnd_eq_nil_or s with hempty | ⟨t, c, hlast, hspace⟩
    · exact absurd hempty hnil
    · rw [hlast] at hstrip hsign ⊢
      have hplace : op.symbol = '-' → OperatorPlace (t ++ [c] ++ [' ']) := by
        intro hminus
        refine operatorPlace_append_space hstrip hspace ?_
        rintro rfl
        exact hsign ⟨eq_minus_of_symbol hminus, .inr List.getLast?_concat⟩
      have hspaced := ((hstrip.push_space (by simp)).push (.inr hop) fun hminus =>
        .inr (hplace hminus)).push_space (by simp)
      rwa [List.append_assoc, List.append_assoc] at hspaced

theorem spaced_opening (h : Spaced s) : Spaced (appendOpening s) := by
  unfold appendOpening
  split_ifs with hend
  · have hne : s ≠ [] := by
      rintro rfl
      cases hend
    have hspaced := (h.push_space hne).push_symbol (c := '(') rfl (by decide)
    rwa [List.append_assoc] at hspaced
  · exact h.push_symbol rfl (by decide)

theorem spaced_closing (h : Spaced s) : Spaced (appendClosing s) :=
  (h.of_prefix (prefix_stripEnd s)).push_symbol rfl (by decide)

theorem spaced_digit (h : Spaced s) (d : Fin 10) : Spaced (append s (Number.digitChar d)) := by
  have hdigit := Number.isDigit_digitChar d.isLt
  refine h.push_symbol (by rw [Validation.isAllowed, hdigit, Bool.true_or]) ?_
  intro hminus
  rw [hminus] at hdigit
  exact absurd hdigit (by decide)

/-- A spaced text has no blanks at its start, so trimming leaves a beginning of it. -/
theorem spaced_trim (h : Spaced s) : Spaced s.trim := by
  obtain ⟨front, back, hs, hfront, -⟩ := Text.exists_eq_append_trim s
  cases front with
  | nil => exact h.of_prefix ⟨back, hs.symm⟩
  | cons c front =>
    -- The first character would be a blank, so a space.
    exfalso
    have hblank : Text.isBlank c = true := List.all_eq_true.1 hfront c List.mem_cons_self
    have hmem : c ∈ s := by
      rw [hs]
      simp
    rcases h.isSymbolic c hmem with rfl | hc
    · refine h.head ?_
      rw [hs]
      rfl
    · rw [Validation.isBlank_of_isAllowed hc] at hblank
      cases hblank

end Entry

/-! ## Runs without typing -/

/-- Every key keeps the property of the entry, and so does trimming, which a line of the history has
been through that is taken back. -/
structure KeptByKeys (P : Text → Prop) : Prop where
  nil : P []
  erase : ∀ s, P s → P (Entry.erase s)
  digit : ∀ s (d : Fin 10), P s → P (Entry.append s (Number.digitChar d))
  point : ∀ s, P s → P (Entry.append s '.')
  operator : ∀ s op, P s → P (Entry.appendOperator s op)
  opening : ∀ s, P s → P (Entry.appendOpening s)
  closing : ∀ s, P s → P (Entry.appendClosing s)
  trim : ∀ s, P s → P s.trim

namespace Window

variable {P : Text → Prop} {w : Window} {a : Action}

/-- The property holds of the entry and of what may come back into it. -/
structure Keeps (P : Text → Prop) (w : Window) : Prop where
  entry : P w.panel.entry
  lines : ∀ line ∈ w.panel.history, P line.entry

theorem keeps_entry_step (hP : KeptByKeys P) (h : w.Keeps P) (ha : a.isTyping = false) :
    P (w.step a).panel.entry := by
  cases a with
  | type text => cases ha
  | press button =>
    cases button with
    | clearEntry | reset => exact hP.nil
    | clearOutputs => exact h.entry
    | equals =>
      have hentry : (w.step (.press .equals)).panel.entry = w.panel.entry :=
        Panel.entry_evaluate w.panel
      rw [hentry]
      exact h.entry
    | erase => exact hP.erase _ h.entry
    | digit d => exact hP.digit _ d h.entry
    | point => exact hP.point _ h.entry
    | operator op => exact hP.operator _ op h.entry
    | opening => exact hP.opening _ h.entry
    | closing => exact hP.closing _ h.entry
  | key control key =>
    cases key with
    | escape => exact hP.nil
    | other => exact h.entry
    | enter =>
      rw [entry_step_enter]
      exact h.entry
  | toggleHistory => exact h.entry
  | «recall» i =>
    rw [entry_step_recall]
    cases hline : w.recalled? i with
    | none => exact h.entry
    | some line => exact h.lines line (mem_of_recalled? hline)

theorem keeps_run (hP : KeptByKeys P) (h : w.Keeps P) {actions : List Action}
    (hactions : ∀ a ∈ actions, a.isTyping = false) : (w.run actions).Keeps P := by
  induction actions generalizing w with
  | nil => exact h
  | cons a actions ih =>
    have hstep : (w.step a).Keeps P :=
      ⟨keeps_entry_step hP h (hactions a List.mem_cons_self),
        forall_mem_history_step h.lines (hP.trim _ h.entry) a⟩
    exact ih hstep fun b hb => hactions b (List.mem_cons_of_mem _ hb)

end Window

/-! ## The theorem -/

theorem Entry.keptByKeys_spaced : KeptByKeys Entry.Spaced where
  nil := spaced_nil
  erase _ := spaced_erase
  digit _ d h := spaced_digit h d
  point _ h := h.push_symbol rfl (by decide)
  operator _ op h := spaced_operator h op
  opening _ := spaced_opening
  closing _ := spaced_closing
  trim _ := spaced_trim

namespace Entry

open Token

variable {front : Text}

theorem previous_run_start (s : Text) : (Reading.start.run s).previous = s.getLast? :=
  Reading.previous_run (t := []) rfl s

/-- In a sign place reading gathers the minus. -/
theorem takesSign_of_signPlace (h : SignPlace front) :
    (Reading.start.run front.unspaced).TakesSign := by
  rw [Reading.takesSign_iff, previous_run_start]
  rcases h with rfl | hlast
  · rfl
  · obtain ⟨front, rfl⟩ := List.getLast?_eq_some_iff.1 hlast
    have hopening : Text.unspaced ['('] = ['('] := rfl
    rw [Text.unspaced_append, hopening, List.getLast?_concat]
    rfl

/-- In an operator place reading takes the minus as an operator. -/
theorem takesOperator_of_operatorPlace (h : OperatorPlace front) :
    (Reading.start.run front.unspaced).TakesOperator := by
  obtain ⟨-, c, hlast, hc⟩ := h
  rw [Reading.takesOperator_iff, previous_run_start, hlast]
  simp [signed, hc]

theorem SignPlace.getLast?_ne (h : SignPlace front) : front.getLast? ≠ some ' ' := by
  rcases h with rfl | hlast
  · simp
  · simp [hlast]

end Entry

theorem Token.Reading.not_takesSign_and_takesOperator (r : Reading) :
    ¬(r.TakesSign ∧ r.TakesOperator) := by
  rw [takesSign_iff, takesOperator_iff]
  simp

namespace Window

open Token

/-- Without typing, the entry of a new window does not begin with a space at any time. A minus in it
is at the start or right behind an opening parenthesis exactly if reading the text without its
blanks gathers this minus, and right behind a space exactly if it takes it as an operator. -/
theorem minus_run (capacity : Nat) {actions : List Action}
    (hactions : ∀ a ∈ actions, a.isTyping = false) :
    let s := ((new (Panel.new capacity)).run actions).panel.entry
    s.head? ≠ some ' ' ∧
      ∀ front back : Text, s = front ++ '-' :: back →
        let reading := Reading.start.run front.unspaced
        Token.ofText s.unspaced = ((reading.next '-').run back.unspaced).finish ∧
          (front = [] ∨ front.getLast? = some '(' ↔ reading.TakesSign) ∧
          (front.getLast? = some ' ' ↔ reading.TakesOperator) := by
  have hnew : (new (Panel.new capacity)).Keeps Entry.Spaced :=
    ⟨Entry.spaced_nil, fun _ hline => absurd hline List.not_mem_nil⟩
  have hspaced := (keeps_run Entry.keptByKeys_spaced hnew hactions).entry
  intro s
  refine ⟨hspaced.head, ?_⟩
  intro front back hs reading
  have hunspaced : s.unspaced = front.unspaced ++ '-' :: back.unspaced := by
    rw [hs, Text.unspaced_append]
    rfl
  refine ⟨?_, ?_⟩
  · rw [hunspaced, Reading.ofText_eq, Reading.run_append, Reading.run_cons]
  · have hexclusive := Reading.not_takesSign_and_takesOperator reading
    rcases hspaced.minus front back hs with hplace | hplace
    · have hsign : reading.TakesSign := Entry.takesSign_of_signPlace hplace
      exact ⟨iff_of_true hplace hsign,
        iff_of_false hplace.getLast?_ne fun hop => hexclusive ⟨hsign, hop⟩⟩
    · have hop : reading.TakesOperator := Entry.takesOperator_of_operatorPlace hplace
      exact ⟨iff_of_false (fun hsign => absurd hplace.1 (Entry.SignPlace.getLast?_ne hsign))
        fun hsign => hexclusive ⟨hsign, hop⟩, iff_of_true hplace.1 hop⟩

/-- A sum with a sign in it is taken back and goes on with an operator; the sign of the sum is at
the start, and the operator behind a space. -/
theorem minus_run_difference :
    ((new (Panel.new 20)).run [.press (.operator .minus), .press (.digit 4),
        .press (.operator .plus), .press (.digit 7), .press .equals, .press .clearEntry, .recall 0,
        .press (.operator .minus), .press (.digit 2)]).panel.entry = "-4 + 7 - 2".toList ∧
      (Reading.start.run []).TakesSign ∧ (Reading.start.run "-4+7".toList).TakesOperator := by
  have hactions : ∀ a ∈ [Action.press (.operator .minus), .press (.digit 4),
      .press (.operator .plus), .press (.digit 7), .press .equals, .press .clearEntry, .recall 0,
      .press (.operator .minus), .press (.digit 2)], a.isTyping = false := by decide
  have hentry : ((new (Panel.new 20)).run [.press (.operator .minus), .press (.digit 4),
      .press (.operator .plus), .press (.digit 7), .press .equals, .press .clearEntry, .recall 0,
      .press (.operator .minus), .press (.digit 2)]).panel.entry = "-4 + 7 - 2".toList := by
    decide +kernel
  have hminus := (minus_run 20 hactions).2
  rw [hentry] at hminus
  exact ⟨hentry, (hminus [] "4 + 7 - 2".toList rfl).2.1.1 (.inl rfl),
    (hminus "-4 + 7 ".toList " 2".toList rfl).2.2.1 rfl⟩

end Window

end Calculator
