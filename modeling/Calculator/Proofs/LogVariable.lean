import Calculator.CommandLine.Run
import Calculator.Proofs.DirectiveItems
import Mathlib.Data.List.TakeWhile

/-!
# The log directive as an option and as a variable

**Theorem (`run_variable_eq_run_option`).** Take a directive that is not refused as an option. In
the variable it has the same effect exactly if it is kept there (`KeptInVariable`): an accepted one
if the variable reads as a text, and not as a boolean, a number or a list.

So the two ways are not the same. `5` is a level, and `[a]` a span; the variable reads the one as a
number and the other as a list, which no setting has, and the command ends
(`run_variable_ne_run_option_level`).

Where the variable reads as a text, the text is the directive as it stands, or without the blanks at
its ends (`eq_or_eq_trim_of_ofText?`): a directive does not begin with a quote, so the other
spellings of a text are no directives. And an accepted directive may lose the blanks at its ends
(`check_trim`).
-/

namespace Calculator

/-! ## Values -/

namespace Settings

variable {d t : Text} {v : Value} {rest : Text} {n : Nat}

theorem text_of_logOf_ofWord {s : Text} (h : logOf (ofWord s) = .ok t) :
    ofWord s = .text t ∧ t = s := by
  rw [ofWord] at h ⊢
  by_cases hdecimal : isDecimal s = true
  · rw [if_pos hdecimal] at h
    cases h
  rw [if_neg hdecimal] at h ⊢
  cases hunsigned : unsigned? s with
  | some n =>
    rw [hunsigned] at h
    cases h
  | none =>
    cases hsigned : signed? s with
    | some i =>
      rw [hunsigned, hsigned] at h
      cases h
    | none =>
      rw [hunsigned, hsigned] at h
      cases h
      exact ⟨rfl, rfl⟩

/-- What a bracket begins has the value of its kind. -/
theorem eq_of_map_skipItems {o : Except Obstacle Text} {kind : Value} {r : Value × Text}
    (h : o.map (kind, ·) = .ok r) : r.1 = kind := by
  cases o with
  | error e => cases h
  | ok s =>
    cases h
    rfl

/-- A value that gives a directive, and does not begin with a quote or an apostrophe, is a word. -/
theorem word_of_readValue (hread : readValue (n + 1) d = .ok (v, rest)) (hlog : logOf v = .ok t)
    (hquote : ∀ c, (d.dropWhile isGap).head? = some c → c ≠ '"' ∧ c ≠ '\'') :
    v = .text t ∧ t = Text.trim ((d.dropWhile isGap).takeWhile fun c => !isSeparator c) ∧
      rest = ((d.dropWhile isGap).dropWhile fun c => !isSeparator c).dropWhile isGap := by
  rw [readValue] at hread
  split at hread
  · cases hread
    cases hlog
  · split at hread
    · cases hread
      cases hlog
    · split at hread
      · obtain ⟨r, hr, hpure⟩ := bind_eq_ok hread
        cases hpure
        rw [eq_of_map_skipItems hr] at hlog
        cases hlog
      · obtain ⟨r, hr, hpure⟩ := bind_eq_ok hread
        cases hpure
        rw [eq_of_map_skipItems hr] at hlog
        cases hlog
      · next hs => exact absurd rfl (hquote '"' (by rw [hs]; rfl)).1
      · next hs => exact absurd rfl (hquote '\'' (by rw [hs]; rfl)).2
      · cases hread
        obtain ⟨hword, ht⟩ := text_of_logOf_ofWord hlog
        exact ⟨hword, ht, rfl⟩

theorem isBlank_of_isGap {c : Char} (h : isGap c = true) : Text.isBlank c = true := by
  simp only [isGap, Bool.or_eq_true, decide_eq_true_eq] at h
  rcases h with (((rfl | rfl) | rfl) | rfl) | rfl <;> decide

theorem isSeparator_of_isGap {c : Char} (h : isGap c = true) : isSeparator c = false := by
  simp only [isGap, Bool.or_eq_true, decide_eq_true_eq] at h
  rcases h with (((rfl | rfl) | rfl) | rfl) | rfl <;> decide

/-- A word that takes the rest of a variable has no separator in it. -/
theorem isSeparator_of_rest (h : [] = (d.dropWhile fun c => !isSeparator c).dropWhile isGap) :
    ∀ c ∈ d, isSeparator c = false := by
  have hgaps := List.dropWhile_eq_nil_iff.1 h.symm
  have hhead := List.head?_dropWhile_not (fun c => !isSeparator c) d
  cases hdrop : d.dropWhile fun c => !isSeparator c with
  | nil => simpa using List.dropWhile_eq_nil_iff.1 hdrop
  | cons c tail =>
    rw [hdrop] at hhead hgaps
    have hseparator : isSeparator c = true := by simpa using hhead
    rw [isSeparator_of_isGap (hgaps c List.mem_cons_self)] at hseparator
    cases hseparator

/-- A variable that gives a directive, and does not begin with a quote or an apostrophe, gives its
text as it stands, or without the blanks at its ends if it is a word. -/
theorem eq_or_eq_trim_of_ofText? (hvalue : Value.ofText? d = some v) (hlog : logOf v = .ok t)
    (hquote : ∀ c, (d.dropWhile isGap).head? = some c → c ≠ '"' ∧ c ≠ '\'') :
    v = .text t ∧ (t = d ∨ t = Text.trim d ∧ ∀ c ∈ d, isSeparator c = false) := by
  rw [Value.ofText?] at hvalue
  split at hvalue
  · next hread =>
    cases hvalue
    obtain ⟨hv, ht, hrest⟩ := word_of_readValue hread hlog hquote
    have hword := isSeparator_of_rest hrest
    have hall : ∀ c ∈ d, isSeparator c = false := by
      intro c hc
      rw [← List.takeWhile_append_dropWhile (p := isGap) (l := d), List.mem_append] at hc
      rcases hc with hc | hc
      · exact isSeparator_of_isGap (List.all_eq_true.1 List.all_takeWhile c hc)
      · exact hword c hc
    refine ⟨hv, .inr ⟨?_, hall⟩⟩
    rw [ht, List.takeWhile_eq_self_iff.2 (by simpa using hword), Text.trim_dropWhile
      fun _ => isBlank_of_isGap]
  · cases hvalue
    cases hlog
    exact ⟨rfl, .inl rfl⟩
  · cases hvalue
    cases hlog
    exact ⟨rfl, .inl rfl⟩
  · cases hvalue

/-! ## Settings of one variable -/

theorem eq_wrongType_of_logOf {f : Fault} (h : logOf v = .error f) : f = .wrongType .log := by
  cases v with
  | text s | character c => cases h
  | _ =>
    cases h
    rfl

/-- One variable that names a setting says what its value says. -/
theorem load_single {variableName : Text} {path : List Text}
    (hpath : path? variableName = some path) (s : Text) :
    load [(variableName, s)] =
      match Value.ofText? s with
      | none => .error .splitCharacter
      | some v => ofAssignments [⟨path, v⟩] := by
  simp only [load, assignments, assignment?, hpath]
  cases Value.ofText? s <;> rfl

theorem load_log (d : Text) :
    load [("CALC_LOG".toList, d)] =
      match Value.ofText? d with
      | none => .error .splitCharacter
      | some v => (logOf v).map fun t => ⟨t, default.historyLimit⟩ := by
  have hpath : path? "CALC_LOG".toList = some [Key.log.name] := by decide
  rw [load_single hpath]
  cases Value.ofText? d with
  | none => rfl
  | some v =>
    have hlookup : lookup .log [⟨[Key.log.name], v⟩] = some v := rfl
    simp only [ofAssignments, hlookup]
    cases logOf v <;> rfl

end Settings

/-! ## Directives in a variable -/

namespace Log.Directive

open Settings

variable {d t : Text} {v : Value}

/-- The directive does in a variable what it does as an option. If it is accepted, the variable
reads as a text; if it is cut inside a character, the variable reads as the directive as it stands,
or would itself be cut inside a character. -/
def KeptInVariable (d : Text) : Prop :=
  match check d with
  | .ok () => ∃ t, Value.ofText? d = some (.text t)
  | .error _ => ∀ v, Value.ofText? d = some v → v = .text d

/-- A directive that begins with a quote or an apostrophe breaks the grammar. -/
theorem head?_ne_quote (h : check d ≠ .error .malformed) :
    ∀ c, (d.dropWhile isGap).head? = some c → c ≠ '"' ∧ c ≠ '\'' := by
  have hquotes : (['"', '\''].all fun c =>
      !Text.isBlank c && c ≠ ',' && c ≠ '[' && !isTargetStart c) = true := by
    decide +kernel
  intro c hc
  obtain ⟨rest, hrest⟩ := List.head?_eq_some_iff.1 hc
  have hd : d = d.takeWhile isGap ++ c :: rest := by
    rw [← hrest, List.takeWhile_append_dropWhile]
  have hnot : c ∉ ['"', '\''] := by
    intro hmem
    obtain ⟨⟨⟨hblank, hcomma⟩, hbracket⟩, hstart⟩ := by
      simpa only [Bool.and_eq_true, Bool.not_eq_true', decide_eq_true_eq] using
        List.all_eq_true.1 hquotes c hmem
    refine h (check_of_front hd (fun e he => ?_) hblank hcomma hbracket hstart)
    exact isBlank_of_isGap (List.all_eq_true.1 List.all_takeWhile e he)
  simpa using hnot

/-- An accepted directive is accepted when a variable gives it. -/
theorem check_of_ofText? (h : check d = .ok ()) (hvalue : Value.ofText? d = some v)
    (hlog : logOf v = .ok t) : v = .text t ∧ check t = .ok () := by
  obtain ⟨hv, ht⟩ := eq_or_eq_trim_of_ofText? hvalue hlog (head?_ne_quote (by simp [h]))
  refine ⟨hv, ?_⟩
  rcases ht with rfl | ⟨rfl, hword⟩
  · exact h
  · refine check_trim (fun c hc => ⟨?_, ?_⟩) h
    · rintro rfl
      exact absurd (hword _ hc) (by decide)
    · rintro rfl
      exact absurd (hword _ hc) (by decide)

/-- A directive that is cut inside a character is not when a variable gives it, unless the variable
gives it as it stands. -/
theorem eq_of_ofText? (h : check d = .error .splitCharacter) (hvalue : Value.ofText? d = some v)
    (hlog : logOf v = .ok t) (ht : check t = .error .splitCharacter) : v = .text d := by
  obtain ⟨rfl, rfl | ⟨rfl, hword⟩⟩ :=
    eq_or_eq_trim_of_ofText? hvalue hlog (head?_ne_quote (by simp [h]))
  · rfl
  · refine absurd ht (check_trim_ne_splitCharacter fun hc => ?_)
    exact absurd (hword _ hc) (by decide)

end Log.Directive

/-! ## Commands -/

namespace CommandLine

open Log.Directive Settings

/-- What a command does whose directive is checked before its effect. -/
def underDirective (directive : Text) (effect : Effect) : Effect :=
  match check directive with
  | .error .splitCharacter => aborted
  | .error .malformed => unreadable
  | .ok () => effect

/-- What a command does whose directive is the value of a variable. -/
def underVariable (text : Text) (effect : Effect) : Effect :=
  match Value.ofText? text with
  | none => aborted
  | some v =>
    match logOf v with
    | .error _ => unreadable
    | .ok directive => underDirective directive effect

theorem underDirective_of_ok {d : Text} (h : check d = .ok ()) (e : Effect) :
    underDirective d e = e := by
  rw [underDirective, h]

theorem underDirective_of_splitCharacter {d : Text} (h : check d = .error .splitCharacter)
    (e : Effect) : underDirective d e = aborted := by
  rw [underDirective, h]

theorem run_log_option (d x : Text) :
    run ["--log=".toList ++ d, "--eval=".toList ++ x] [] =
      underDirective d (printed (Request.respond ⟨some x⟩)) := by
  rw [run, Arguments.ofList_log_expression]
  rfl

theorem run_log_variable (d x : Text) :
    run ["--eval=".toList ++ x] [("CALC_LOG".toList, d)] =
      underVariable d (printed (Request.respond ⟨some x⟩)) := by
  rw [run, Arguments.ofList_expression]
  simp only [runOptions, load_log, underVariable]
  cases Value.ofText? d with
  | none => rfl
  | some v =>
    cases hlog : logOf v with
    | error f =>
      obtain rfl := eq_wrongType_of_logOf hlog
      simp only [hlog]
      rfl
    | ok t =>
      simp only [hlog]
      rfl

/-- A response is printed with an exit code of its own. -/
theorem printed_ne (r : Response) : printed r ≠ unreadable ∧ printed r ≠ aborted := by
  cases h : r.status with
  | valid | invalid => simp [printed, unreadable, aborted, h]

variable {d x : Text} {e : Effect}

theorem underVariable_of_ok (h : check d = .ok ()) (hunreadable : e ≠ unreadable)
    (haborted : e ≠ aborted) : underVariable d e = e ↔ ∃ t, Value.ofText? d = some (.text t) := by
  cases hvalue : Value.ofText? d with
  | none => simp [underVariable, hvalue, haborted.symm]
  | some v =>
    simp only [underVariable, hvalue, Option.some.injEq]
    cases hlog : logOf v with
    | error f =>
      refine iff_of_false hunreadable.symm ?_
      rintro ⟨t, rfl⟩
      cases hlog
    | ok t =>
      obtain ⟨hv, ht⟩ := check_of_ofText? h hvalue hlog
      exact iff_of_true (underDirective_of_ok ht e) ⟨t, hv⟩

theorem underVariable_of_splitCharacter (h : check d = .error .splitCharacter)
    (haborted : e ≠ aborted) :
    underVariable d e = aborted ↔ ∀ v, Value.ofText? d = some v → v = .text d := by
  cases hvalue : Value.ofText? d with
  | none => simp [underVariable, hvalue]
  | some v =>
    simp only [underVariable, hvalue, Option.some.injEq, forall_eq']
    constructor
    · intro hrun
      cases hlog : logOf v with
      | error f =>
        rw [hlog] at hrun
        cases hrun
      | ok t =>
        rw [hlog] at hrun
        refine eq_of_ofText? h hvalue hlog ?_
        dsimp only [underDirective] at hrun
        split at hrun
        · assumption
        · cases hrun
        · exact absurd hrun haborted
    · rintro rfl
      exact underDirective_of_splitCharacter h e

/-- A directive that is not refused as an option has the same effect in the variable exactly if it
is kept there. -/
theorem run_variable_eq_run_option
    (h : ∀ output, run ["--log=".toList ++ d, "--eval=".toList ++ x] [] ≠ .exit 1 output) :
    run ["--eval=".toList ++ x] [("CALC_LOG".toList, d)] =
        run ["--log=".toList ++ d, "--eval=".toList ++ x] [] ↔
      KeptInVariable d := by
  obtain ⟨hunreadable, haborted⟩ := printed_ne (Request.respond ⟨some x⟩)
  rw [run_log_option] at h ⊢
  rw [run_log_variable, KeptInVariable]
  cases hcheck : check d with
  | ok u =>
    rw [underDirective_of_ok hcheck]
    exact underVariable_of_ok hcheck hunreadable haborted
  | error f =>
    cases f with
    | malformed => exact absurd (by rw [underDirective, hcheck]; rfl) (h [])
    | splitCharacter =>
      rw [underDirective_of_splitCharacter hcheck]
      exact underVariable_of_splitCharacter hcheck haborted

/-- A level for everything and one for a target. -/
theorem run_variable_eq_run_option_target :
    run ["--log=warn,core=debug".toList, "--eval=6*7".toList] [] =
        .exit 0 "\x7b\"status\":\"Valid\",\"result\":42.0,\"error\":null\x7d\n".toList ∧
      run ["--eval=6*7".toList] [("CALC_LOG".toList, "warn,core=debug".toList)] =
        run ["--log=warn,core=debug".toList, "--eval=6*7".toList] [] := by
  have hoption : run ["--log=warn,core=debug".toList, "--eval=6*7".toList] [] =
      .exit 0 "\x7b\"status\":\"Valid\",\"result\":42.0,\"error\":null\x7d\n".toList := by
    decide +kernel
  have hnot : ∀ output,
      run ["--log=warn,core=debug".toList, "--eval=6*7".toList] [] ≠ .exit 1 output := by
    intro output
    rw [hoption]
    simp
  have hkept : KeptInVariable "warn,core=debug".toList := by
    have hcheck : check "warn,core=debug".toList = .ok () := by decide +kernel
    have hvalue : Value.ofText? "warn,core=debug".toList =
        some (.text "warn,core=debug".toList) := by decide +kernel
    rw [KeptInVariable, hcheck]
    exact ⟨_, hvalue⟩
  exact ⟨hoption, (run_variable_eq_run_option hnot).2 hkept⟩

/-- A level given by its number is a directive as an option, and a number in the variable. -/
theorem run_variable_ne_run_option_level :
    run ["--log=5".toList, "--eval=1".toList] [] =
        .exit 0 "\x7b\"status\":\"Valid\",\"result\":1.0,\"error\":null\x7d\n".toList ∧
      run ["--eval=1".toList] [("CALC_LOG".toList, "5".toList)] = .exit 1 [] := by
  decide +kernel

end CommandLine

end Calculator
