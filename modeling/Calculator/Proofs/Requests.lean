import Calculator.CommandLine.Run
import Calculator.Proofs.Records
import Mathlib.Tactic.SplitIfs

/-!
# An expression and the requests for it

**Theorem (`run_request_eq_run_expression`).** A command that is given a request does what it does
when it is given the expression of the request instead, or the empty expression if the request has
none. This is so whatever the environment and the other arguments are, and whichever text the
request was read from. One such text is written for every expression.

Arguments are taken from left to right. One that gives neither an expression nor a request has an
effect that does not depend on what is asked for (`bypasses_of_not_asks`). So the two commands come
to the same end, or to options that differ in the question alone (`SameBesides`).
-/

namespace Calculator

theorem respond_getD_expression (r : Request) :
    Request.respond ⟨some (r.expression.getD [])⟩ = r.respond := by
  obtain ⟨expression⟩ := r
  cases expression with
  | none => rfl
  | some x => rfl

namespace CommandLine

/-! ## Other arguments -/

/-- The argument gives an expression or a request. -/
def Argument.asks : Argument → Bool
  | option .expression _ | option .request _ => true
  | _ => false

/-- No option waits for its value, or the one of the log directive does. -/
def AsksNothing (waiting : Option OptionName) : Prop := waiting = none ∨ waiting = some .log

variable {log : Option Text} {waiting : Option OptionName} {arg : Text} {args : List Text}

/-- What an argument does with a log directive already given, whatever has been asked for: the
arguments come to an end `a`, or the next one is taken, or no other may follow. -/
inductive Bypasses (log : Option Text) (waiting : Option OptionName) (arg : Text) : Prop
  | ends (a : Arguments) (h : ∀ e r args, Arguments.take ⟨e, r, log⟩ waiting (arg :: args) = a)
  | passes (log' : Option Text) (waiting' : Option OptionName) (hwaiting : AsksNothing waiting')
      (h : ∀ e r args, Arguments.take ⟨e, r, log⟩ waiting (arg :: args) =
        .take ⟨e, r, log'⟩ waiting' args)
  | stops (h : ∀ e r args, Arguments.take ⟨e, r, log⟩ waiting (arg :: args) =
        if args = [] then .finish ⟨e, r, log⟩ none else .refused)

/-- The option for the log directive gets a value, unless it has one. -/
theorem set?_log (log : Option Text) (value : Text) :
    (∀ e r, Options.set? ⟨e, r, log⟩ .log value = none) ∨
      ∀ e r, Options.set? ⟨e, r, log⟩ .log value = some ⟨e, r, some value⟩ := by
  cases log with
  | some d => exact Or.inl fun e r => rfl
  | none => exact Or.inr fun e r => rfl

/-- An option that waits for its value takes no argument that looks like an option. -/
theorem take_waiting {o : Options} {name : OptionName} (h : Argument.ofText arg ≠ .word) :
    Arguments.take o (some name) (arg :: args) = .refused := by
  cases hkind : Argument.ofText arg with
  | word => exact absurd hkind h
  | option _ _ | version | help | stop | unknown => simp only [Arguments.take, hkind]

theorem bypasses_of_not_asks (log : Option Text) (hwaiting : AsksNothing waiting)
    (harg : (Argument.ofText arg).asks = false) : Bypasses log waiting arg := by
  rcases hwaiting with rfl | rfl
  · cases hkind : Argument.ofText arg with
    | option name attached =>
      cases name with
      | expression | request =>
        rw [hkind] at harg
        cases harg
      | log =>
        cases attached with
        | none =>
          refine .passes log (some .log) (Or.inr rfl) fun e r args => ?_
          simp only [Arguments.take, hkind]
        | some value =>
          rcases set?_log log value with h | h
          · refine .ends .refused fun e r args => ?_
            simp only [Arguments.take, hkind, h]
          · refine .passes (some value) none (Or.inl rfl) fun e r args => ?_
            simp only [Arguments.take, hkind, h]
    | version =>
      refine .ends .version fun e r args => ?_
      simp only [Arguments.take, hkind]
    | help =>
      refine .ends .help fun e r args => ?_
      simp only [Arguments.take, hkind]
    | stop =>
      refine .stops fun e r args => ?_
      simp only [Arguments.take, hkind]
    | word | unknown =>
      refine .ends .refused fun e r args => ?_
      simp only [Arguments.take, hkind]
  · by_cases hword : Argument.ofText arg = .word
    · rcases set?_log log arg with h | h
      · refine .ends .refused fun e r args => ?_
        simp only [Arguments.take, hword, h]
      · refine .passes (some arg) none (Or.inl rfl) fun e r args => ?_
        simp only [Arguments.take, hword, h]
    · exact .ends .refused fun e r args => take_waiting hword

/-! ## Two ways to ask -/

/-- The arguments ask the same but for the question: one list of them gives the expression, the
other the request, or both come to the same end. -/
inductive SameBesides (x j : Text) : Arguments → Arguments → Prop
  | options (log : Option Text) :
      SameBesides x j (.options ⟨some x, none, log⟩) (.options ⟨none, some j, log⟩)
  | same (a : Arguments) : SameBesides x j a a

variable {x j : Text}

theorem sameBesides_finish (hwaiting : AsksNothing waiting) :
    SameBesides x j (.finish ⟨some x, none, log⟩ waiting)
      (.finish ⟨none, some j, log⟩ waiting) := by
  rcases hwaiting with rfl | rfl
  · exact .options log
  · exact .same .refused

/-- Behind the question. -/
theorem sameBesides_take (hwaiting : AsksNothing waiting)
    (hargs : ∀ a ∈ args, (Argument.ofText a).asks = false) :
    SameBesides x j (.take ⟨some x, none, log⟩ waiting args)
      (.take ⟨none, some j, log⟩ waiting args) := by
  induction args generalizing log waiting with
  | nil => exact sameBesides_finish hwaiting
  | cons arg args ih =>
    have hrest : ∀ a ∈ args, (Argument.ofText a).asks = false :=
      fun a ha => hargs a (List.mem_cons_of_mem _ ha)
    cases bypasses_of_not_asks log hwaiting (hargs arg List.mem_cons_self) with
    | ends a h =>
      rw [h, h]
      exact .same a
    | passes log' waiting' hwaiting' h =>
      rw [h, h]
      exact ih hwaiting' hrest
    | stops h =>
      rw [h, h]
      split_ifs
      · exact sameBesides_finish (Or.inl rfl)
      · exact .same .refused

/-- In front of the question and behind it. -/
theorem sameBesides_take_append {before after : List Text} (hwaiting : AsksNothing waiting)
    (hbefore : ∀ a ∈ before, (Argument.ofText a).asks = false)
    (hafter : ∀ a ∈ after, (Argument.ofText a).asks = false) :
    SameBesides x j
      (.take ⟨none, none, log⟩ waiting (before ++ ("--eval=".toList ++ x) :: after))
      (.take ⟨none, none, log⟩ waiting (before ++ ("--requete=".toList ++ j) :: after)) := by
  induction before generalizing log waiting with
  | nil =>
    rw [List.nil_append, List.nil_append]
    rcases hwaiting with rfl | rfl
    · simp only [Arguments.take, Argument.ofText_expression, Argument.ofText_request]
      exact sameBesides_take (Or.inl rfl) hafter
    · simp only [Arguments.take, Argument.ofText_expression, Argument.ofText_request]
      exact .same .refused
  | cons arg before ih =>
    have hrest : ∀ a ∈ before, (Argument.ofText a).asks = false :=
      fun a ha => hbefore a (List.mem_cons_of_mem _ ha)
    rw [List.cons_append, List.cons_append]
    cases bypasses_of_not_asks log hwaiting (hbefore arg List.mem_cons_self) with
    | ends a h =>
      rw [h, h]
      exact .same a
    | passes log' waiting' hwaiting' h =>
      rw [h, h]
      exact ih hwaiting' hrest
    | stops h =>
      rw [h, h, if_neg (by simp), if_neg (by simp)]
      exact .same .refused

/-- The question decides the answer, not the way it was asked. -/
theorem runOptions_eq_of_parse {request : Request} (hj : Request.parse j = .ok request)
    (hx : x = request.expression.getD []) (log : Option Text) (env : Environment) :
    runOptions ⟨some x, none, log⟩ env = runOptions ⟨none, some j, log⟩ env := by
  have hanswer : ∀ s, answer ⟨some x, none, log⟩ s = answer ⟨none, some j, log⟩ s := by
    intro s
    simp only [answer, hj, hx, respond_getD_expression]
  simp only [runOptions, hanswer]

/-- A command does the same for a request and for its expression, whichever text the request is read
from and whatever else the command is given. A request without an expression counts as one with an
empty expression, and every expression has a text for its request. -/
theorem run_request_eq_run_expression {before after : List Text} {request : Request}
    (hbefore : ∀ a ∈ before, (Argument.ofText a).asks = false)
    (hafter : ∀ a ∈ after, (Argument.ofText a).asks = false)
    (hj : Request.parse j = .ok request) (env : Environment) :
    run (before ++ ("--requete=".toList ++ j) :: after) env =
        run (before ++ ("--eval=".toList ++ request.expression.getD []) :: after) env ∧
      ∀ x, Request.parse (Request.compact ⟨some x⟩) = .ok ⟨some x⟩ := by
  refine ⟨?_, fun x => Request.parse_compact ⟨some x⟩⟩
  have hsame : SameBesides (request.expression.getD []) j
      (.ofList (before ++ ("--eval=".toList ++ request.expression.getD []) :: after))
      (.ofList (before ++ ("--requete=".toList ++ j) :: after)) :=
    sameBesides_take_append (Or.inl rfl) hbefore hafter
  unfold run
  generalize Arguments.ofList (before ++ ("--eval=".toList ++ request.expression.getD []) :: after)
    = asked at hsame
  generalize Arguments.ofList (before ++ ("--requete=".toList ++ j) :: after) = requested at hsame
  cases hsame with
  | options log => exact (runOptions_eq_of_parse hj rfl log env).symm
  | same a => rfl

/-- A request written as a list, with an escape and behind spaces, in an environment that sets the
log directive, and with another log directive behind it. -/
theorem run_request_eq_run_expression_escaped :
    run ["--requete= [\"2\\u002a3\"]".toList, "-l".toList, "debug".toList]
        [("CALC_LOG".toList, "info".toList)] =
      run ["--eval=2*3".toList, "-l".toList, "debug".toList]
        [("CALC_LOG".toList, "info".toList)] := by
  have hj : Request.parse " [\"2\\u002a3\"]".toList = .ok ⟨some "2*3".toList⟩ := by
    decide +kernel
  have hbefore : ∀ a ∈ ([] : List Text), (Argument.ofText a).asks = false := by decide
  have hafter : ∀ a ∈ ["-l".toList, "debug".toList], (Argument.ofText a).asks = false := by
    decide
  exact (run_request_eq_run_expression hbefore hafter hj _).1

end CommandLine

end Calculator
