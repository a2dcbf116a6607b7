import Calculator.Proofs.Actions
import Calculator.Proofs.Courses
import Calculator.Proofs.Validity

/-!
# The entry is a stack of symbols

**Theorem (`unspaced_entry_run`).** As long as a user works with the keys of the panel and never
types into the field, the entry without its blanks is what a plain stack of symbols would hold. A
key puts its symbol on top, the erasing key takes one symbol off, the clearing keys empty the stack,
a line of the history that is taken back replaces it, and nothing else changes it. The spaces that
the keypad sets and takes away therefore never cost, add or join a symbol.

Every key but the erasing one would do so in any text. The erasing key takes off one character and
knows spaces as the only blanks: behind another blank it would take that off and no symbol. So the
proof carries along which characters there can be (`Window.Holds`): the entry and the lines of the
history, which come back into the entry, have spaces and symbols and nothing else. For the same
reason no such entry is ever rejected for its characters.
-/

namespace Calculator

/-! ## The plain stack -/

/-- What a button does to a stack of symbols, the top one last. -/
def Button.onSymbols (symbols : Text) : Button → Text
  | clearEntry | reset => []
  | clearOutputs | equals => symbols
  | erase => symbols.dropLast
  | digit d => symbols ++ [Number.digitChar d]
  | point => symbols ++ ['.']
  | operator op => symbols ++ [op.symbol]
  | opening => symbols ++ ['(']
  | closing => symbols ++ [')']

/-- The action types into the field. -/
def Action.isTyping : Action → Bool
  | type _ => true
  | _ => false

namespace Window

/-- The window in which a line is looked for that is to be taken back: the first time, the header
of the history is clicked. -/
def beforeRecall (w : Window) : Window := if w.headerUsed then w else w.clickHeader

/-- The line of the history that is taken back: the one with the index, if the list is open. -/
def recalled? (w : Window) (index : Nat) : Option HistoryLine :=
  if w.beforeRecall.historyIsOpen then w.panel.history[index]? else none

/-- The stack of symbols after another action. -/
def symbolsAfter (w : Window) (symbols : Text) : Action → Text
  | .type text => text.unspaced
  | .press button => button.onSymbols symbols
  | .key _ .escape => []
  | .key _ .enter | .key _ .other | .toggleHistory => symbols
  | .recall index => ((w.recalled? index).map fun line => line.entry.unspaced).getD symbols

/-- The stack of symbols after more actions. -/
def symbols (w : Window) (symbols : Text) : List Action → Text
  | [] => symbols
  | a :: actions => (w.step a).symbols (w.symbolsAfter symbols a) actions

end Window

/-! ## Editing -/

namespace Entry

/-- The text has spaces and symbols only. -/
def IsSymbolic (s : Text) : Prop := ∀ c ∈ s, c = ' ' ∨ Validation.isAllowed c = true

variable {s t : Text}

theorem IsSymbolic.mono (h : IsSymbolic s) (hst : ∀ c ∈ t, c ∈ s) : IsSymbolic t :=
  fun c hc => h c (hst c hc)

theorem IsSymbolic.append (hs : IsSymbolic s) (ht : IsSymbolic t) : IsSymbolic (s ++ t) := by
  intro c hc
  rcases List.mem_append.1 hc with hc | hc
  · exact hs c hc
  · exact ht c hc

theorem IsSymbolic.push {c : Char} (h : IsSymbolic s) (hc : Validation.isAllowed c = true) :
    IsSymbolic (s ++ [c]) := by
  refine h.append fun d hd => Or.inr ?_
  rw [List.mem_singleton.1 hd]
  exact hc

theorem isAllowed_of_isSymbolic (h : IsSymbolic s) : ∀ c ∈ s.unspaced, Validation.isAllowed c := by
  intro c hc
  obtain ⟨hmem, hblank⟩ := List.mem_filter.1 hc
  rcases h c hmem with rfl | hc
  · exact absurd hblank (by decide)
  · exact hc

theorem isSymbolic_trim (h : IsSymbolic s) : IsSymbolic s.trim :=
  h.mono fun _ => Text.mem_of_mem_trim

theorem mem_of_mem_stripEnd {c : Char} (h : c ∈ stripEnd s) : c ∈ s :=
  List.mem_reverse.1 ((List.dropWhile_sublist _).mem (List.mem_reverse.1 h))

theorem isSymbolic_stripEnd (h : IsSymbolic s) : IsSymbolic (stripEnd s) :=
  h.mono fun _ => mem_of_mem_stripEnd

@[simp] theorem unspaced_stripEnd (s : Text) : (stripEnd s).unspaced = s.unspaced := by
  have hdrop : ∀ t : Text, Text.unspaced (t.dropWhile (· = ' ')) = t.unspaced := by
    intro t
    induction t with
    | nil => rfl
    | cons c t ih =>
      rw [List.dropWhile_cons]
      split_ifs with hc
      · rw [ih, of_decide_eq_true hc]
        rfl
      · rfl
  rw [stripEnd, Text.unspaced_reverse, hdrop, Text.unspaced_reverse, List.reverse_reverse]

theorem stripEnd_eq_nil_or (s : Text) :
    stripEnd s = [] ∨ ∃ t c, stripEnd s = t ++ [c] ∧ c ≠ ' ' := by
  have hhead := List.head?_dropWhile_not (fun c : Char => decide (c = ' ')) s.reverse
  unfold stripEnd
  cases hrest : s.reverse.dropWhile (fun c : Char => decide (c = ' ')) with
  | nil => exact Or.inl rfl
  | cons c r =>
    rw [hrest] at hhead
    exact Or.inr ⟨r.reverse, c, List.reverse_cons, by simpa using hhead⟩

/-- The symbols are not blank. -/
theorem unspaced_symbol {c : Char} (h : Validation.isAllowed c = true) :
    Text.unspaced [c] = [c] := by
  apply Text.unspaced_of_no_blank
  intro d hd
  rw [List.mem_singleton.1 hd]
  exact Validation.isBlank_of_isAllowed h

/-- Where there are only spaces and symbols, erasing takes off one symbol. -/
theorem unspaced_erase (h : IsSymbolic s) : (erase s).unspaced = s.unspaced.dropLast := by
  rw [erase, unspaced_stripEnd, ← unspaced_stripEnd s]
  have hs := isSymbolic_stripEnd h
  rcases stripEnd_eq_nil_or s with hnil | ⟨t, c, hlast, hc⟩
  · rw [hnil]
    rfl
  · have hallowed : Validation.isAllowed c = true := (hs c (by simp [hlast])).resolve_left hc
    rw [hlast, List.dropLast_concat, Text.unspaced_append, unspaced_symbol hallowed,
      List.dropLast_concat]

theorem isSymbolic_erase (h : IsSymbolic s) : IsSymbolic (erase s) :=
  h.mono fun _ hc => mem_of_mem_stripEnd (List.dropLast_subset _ (mem_of_mem_stripEnd hc))

theorem isAllowed_symbol (op : Operator) : Validation.isAllowed op.symbol = true := by
  cases op <;> rfl

/-- The text `t` is `s` with the symbol `c` on top. -/
structure Writes (c : Char) (s t : Text) : Prop where
  unspaced_eq : t.unspaced = s.unspaced ++ [c]
  isSymbolic : IsSymbolic t

theorem isSymbolic_space : IsSymbolic [' '] := fun _ hc => Or.inl (List.mem_singleton.1 hc)

theorem Writes.append_space {c : Char} (h : Writes c s t) : Writes c s (t ++ [' ']) where
  unspaced_eq := by
    rw [Text.unspaced_append, h.unspaced_eq]
    exact List.append_nil _
  isSymbolic := h.isSymbolic.append isSymbolic_space

theorem Writes.of_unspaced_eq {c : Char} {r : Text} (h : Writes c s t)
    (hr : s.unspaced = r.unspaced) : Writes c r t where
  unspaced_eq := by rw [h.unspaced_eq, hr]
  isSymbolic := h.isSymbolic

theorem writes_append (h : IsSymbolic s) {c : Char} (hc : Validation.isAllowed c = true) :
    Writes c s (s ++ [c]) where
  unspaced_eq := by rw [Text.unspaced_append, unspaced_symbol hc]
  isSymbolic := h.push hc

theorem writes_space_append (h : IsSymbolic s) {c : Char} (hc : Validation.isAllowed c = true) :
    Writes c s (s ++ [' '] ++ [c]) := by
  refine (writes_append (h.append isSymbolic_space) hc).of_unspaced_eq ?_
  rw [Text.unspaced_append]
  exact List.append_nil _

theorem writes_operator (h : IsSymbolic s) (op : Operator) :
    Writes op.symbol s (appendOperator s op) := by
  have hstrip := isSymbolic_stripEnd h
  have hop := isAllowed_symbol op
  refine Writes.of_unspaced_eq ?_ (unspaced_stripEnd s)
  unfold appendOperator
  dsimp only
  split_ifs with hsign hnil
  · exact writes_append hstrip hop
  · rw [hnil]
    exact (writes_append (hnil ▸ hstrip) hop).append_space
  · have hwrites := (writes_space_append hstrip hop).append_space
    rwa [List.append_assoc, List.append_assoc] at hwrites

theorem writes_opening (h : IsSymbolic s) : Writes '(' s (appendOpening s) := by
  unfold appendOpening
  split_ifs
  · have hwrites := writes_space_append h (c := '(') rfl
    rwa [List.append_assoc] at hwrites
  · exact writes_append h rfl

theorem writes_closing (h : IsSymbolic s) : Writes ')' s (appendClosing s) :=
  (writes_append (isSymbolic_stripEnd h) rfl).of_unspaced_eq (unspaced_stripEnd s)

theorem writes_digit (h : IsSymbolic s) (d : Fin 10) :
    Writes (Number.digitChar d) s (append s (Number.digitChar d)) := by
  refine writes_append h ?_
  rw [Validation.isAllowed, Number.isDigit_digitChar d.isLt, Bool.true_or]

end Entry

/-! ## Actions -/

theorem Validation.fault?_ne_foreignCharacter {s : Text} (h : ∀ c ∈ s, isAllowed c = true) :
    fault? s ≠ some .foreignCharacter := by
  have hparentheses : ∀ (s : Text) (d : Int),
      parenthesesFault? d s ≠ some .foreignCharacter := by
    intro s d
    fun_induction parenthesesFault? d s with
    | case1 => simp
    | case2 => simp
    | case3 => simp
    | case4 d c s hd ih => exact ih
  have hall : s.all isAllowed = true := List.all_eq_true.2 h
  cases hp : parenthesesFault? 0 s with
  | none =>
    simp only [fault?, hall, hp, Option.none_or, Bool.not_true, Bool.false_eq_true, if_false]
    split_ifs <;> simp
  | some reason =>
    have hreason := hparentheses s 0
    rw [hp] at hreason
    simp only [fault?, hall, hp, Option.some_or, Bool.not_true, Bool.false_eq_true, if_false]
    split_ifs
    · simp
    · exact hreason

/-- A text of spaces and symbols is not rejected for its characters. -/
theorem evaluate_ne_foreignCharacter {s : Text} (h : Entry.IsSymbolic s) :
    evaluate s ≠ .error (.rejected .foreignCharacter) := by
  have hfault := Validation.fault?_ne_foreignCharacter (Entry.isAllowed_of_isSymbolic h)
  intro heq
  obtain ⟨run, hcourse⟩ := Run.exists_course s
  rw [hcourse.evaluate_eq] at heq
  cases hcourse with
  | rejected hf =>
    cases heq
    exact hfault hf
  -- What is accepted may fail, but is not rejected any more.
  | unread | interrupted | finished => cases heq

namespace Window

variable {w : Window} {a : Action} {symbols : Text}

/-- The entry of a window holds the symbols of a stack, and nothing else but spaces can come into
it. -/
structure Holds (w : Window) (symbols : Text) : Prop where
  entry : w.panel.entry.unspaced = symbols
  isSymbolic : Entry.IsSymbolic w.panel.entry
  lines : ∀ line ∈ w.panel.history, Entry.IsSymbolic line.entry

theorem holds_press (h : w.Holds symbols) (b : Button) :
    (w.panel.press b).entry.unspaced = b.onSymbols symbols ∧
      Entry.IsSymbolic (w.panel.press b).entry := by
  obtain ⟨rfl, hs, -⟩ := h
  have hwrites : ∀ {c t}, Entry.Writes c w.panel.entry t →
      t.unspaced = w.panel.entry.unspaced ++ [c] ∧ Entry.IsSymbolic t :=
    fun hw => ⟨hw.unspaced_eq, hw.isSymbolic⟩
  have hnil : Entry.IsSymbolic [] := fun c hc => absurd hc List.not_mem_nil
  cases b with
  | clearEntry | reset => exact ⟨rfl, hnil⟩
  | clearOutputs => exact ⟨rfl, hs⟩
  | equals =>
    rw [Panel.press, Panel.entry_evaluate]
    exact ⟨rfl, hs⟩
  | erase => exact ⟨Entry.unspaced_erase hs, Entry.isSymbolic_erase hs⟩
  | digit d => exact hwrites (Entry.writes_digit hs d)
  | point => exact hwrites (Entry.writes_append hs rfl)
  | operator op => exact hwrites (Entry.writes_operator hs op)
  | opening => exact hwrites (Entry.writes_opening hs)
  | closing => exact hwrites (Entry.writes_closing hs)

theorem panel_beforeRecall (w : Window) : w.beforeRecall.panel = w.panel := by
  unfold beforeRecall
  split_ifs <;> rfl

theorem entry_step_recall (w : Window) (i : Nat) :
    (w.step (.recall i)).panel.entry =
      ((w.recalled? i).map HistoryLine.entry).getD w.panel.entry := by
  have hstep : (w.step (.recall i)).panel.entry = (w.beforeRecall.clickLine i).panel.entry := rfl
  have hpanel := panel_beforeRecall w
  rw [hstep, clickLine, recalled?, hpanel]
  split_ifs
  · cases w.panel.history[i]? with
    | none => exact congrArg Panel.entry hpanel
    | some line => rfl
  · exact congrArg Panel.entry hpanel

theorem mem_of_recalled? {i : Nat} {line : HistoryLine} (h : w.recalled? i = some line) :
    line ∈ w.panel.history := by
  unfold recalled? at h
  split_ifs at h
  exact List.mem_of_getElem? h

theorem entry_step_enter (w : Window) (control : Bool) :
    (w.step (.key control .enter)).panel.entry = w.panel.entry := by
  rw [step, act, pressKey, settle]
  split_ifs
  · exact Panel.entry_evaluate w.panel
  · rfl
  · rfl

theorem holds_entry_step (h : w.Holds symbols) (ha : a.isTyping = false) :
    (w.step a).panel.entry.unspaced = w.symbolsAfter symbols a ∧
      Entry.IsSymbolic (w.step a).panel.entry := by
  cases a with
  | type text => cases ha
  | press button => exact holds_press h button
  | key control key =>
    cases key with
    | escape => exact ⟨rfl, fun c hc => absurd hc List.not_mem_nil⟩
    | other => exact ⟨h.entry, h.isSymbolic⟩
    | enter =>
      rw [entry_step_enter]
      exact ⟨h.entry, h.isSymbolic⟩
  | toggleHistory => exact ⟨h.entry, h.isSymbolic⟩
  | «recall» i =>
    rw [entry_step_recall, symbolsAfter]
    cases hline : w.recalled? i with
    | none => exact ⟨h.entry, h.isSymbolic⟩
    | some line => exact ⟨rfl, h.lines line (mem_of_recalled? hline)⟩

theorem holds_step (h : w.Holds symbols) (ha : a.isTyping = false) :
    (w.step a).Holds (w.symbolsAfter symbols a) where
  entry := (holds_entry_step h ha).1
  isSymbolic := (holds_entry_step h ha).2
  lines := forall_mem_history_step h.lines (Entry.isSymbolic_trim h.isSymbolic) a

theorem holds_run (h : w.Holds symbols) {actions : List Action}
    (hactions : ∀ a ∈ actions, a.isTyping = false) :
    (w.run actions).Holds (w.symbols symbols actions) := by
  induction actions generalizing w symbols with
  | nil => exact h
  | cons a actions ih =>
    have ha := hactions a List.mem_cons_self
    exact ih (holds_step h ha) fun b hb => hactions b (List.mem_cons_of_mem _ hb)

theorem holds_new (capacity : Nat) : (new (Panel.new capacity)).Holds [] where
  entry := rfl
  isSymbolic := fun _ hc => absurd hc List.not_mem_nil
  lines := fun _ hline => absurd hline List.not_mem_nil

/-- Without typing, the entry of a new window is at any time the stack of symbols with spaces in
between, the erasing key takes one symbol off it, and it is not rejected for its characters. -/
theorem unspaced_entry_run (capacity : Nat) {actions : List Action}
    (hactions : ∀ a ∈ actions, a.isTyping = false) :
    let w := (new (Panel.new capacity)).run actions
    let symbols := (new (Panel.new capacity)).symbols [] actions
    w.panel.entry.unspaced = symbols ∧
      (w.step (.press .erase)).panel.entry.unspaced = symbols.dropLast ∧
      evaluate w.panel.entry ≠ .error (.rejected .foreignCharacter) := by
  have h := holds_run (holds_new capacity) hactions
  exact ⟨h.entry, (holds_entry_step h (a := .press .erase) rfl).1,
    evaluate_ne_foreignCharacter h.isSymbolic⟩

/-- A sum is evaluated and taken back, its last number is erased, and an opening parenthesis and a
sign are put in the place. -/
theorem unspaced_entry_run_recalled :
    ((new (Panel.new 20)).run [.press (.digit 4), .press (.operator .plus), .press (.digit 7),
        .press .equals, .press .clearEntry, .recall 0, .press .erase, .press .opening,
        .press (.operator .minus)]).panel.entry = "4 +(-".toList ∧
      (new (Panel.new 20)).symbols [] [.press (.digit 4), .press (.operator .plus),
        .press (.digit 7), .press .equals, .press .clearEntry, .recall 0, .press .erase,
        .press .opening, .press (.operator .minus)] = "4+(-".toList := by
  have hactions : ∀ a ∈ [Action.press (.digit 4), .press (.operator .plus), .press (.digit 7),
      .press .equals, .press .clearEntry, .recall 0, .press .erase, .press .opening,
      .press (.operator .minus)], a.isTyping = false := by decide
  have hentry : ((new (Panel.new 20)).run [.press (.digit 4), .press (.operator .plus),
      .press (.digit 7), .press .equals, .press .clearEntry, .recall 0, .press .erase,
      .press .opening, .press (.operator .minus)]).panel.entry = "4 +(-".toList := by
    decide +kernel
  have hsymbols := (unspaced_entry_run 20 hactions).1
  rw [hentry] at hsymbols
  exact ⟨hentry, hsymbols.symm⟩

end Window

end Calculator
