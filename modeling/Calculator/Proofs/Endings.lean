import Calculator.Proofs.Requests

/-!
# What becomes of a command

**Theorem (`run_of_asks`).** A command that is asked something, by an expression or by a request,
comes to exactly one of five endings, the first one that applies: its arguments are refused, its
settings cannot be read, its log directive is refused, its request cannot be read, or there is a
response. Exit code and output are those of the ending (`Ending.effect`), with nothing on the output
unless there is a response, if and only if no text is cut inside a character while the settings and
the directive are read. A command that cuts one is aborted with code 101, which is the code of no
ending (`effect_ne_aborted`). Once settings and directive are in order they have no part in the
answer: commands that are asked the same answer the same.

That such a command never opens the panel is a fact about its arguments. Each one that is taken
leaves an option that has been given or waits for its value in place (`asked_of_takes`), so that in
the end there is something to answer (`exists_asks_of_take`).
-/

namespace Calculator.CommandLine

/-! ## What is asked -/

/-- The options ask for a request: one that is its own expression, or one that is read from a
text. -/
inductive Options.Asks : Options → Except Json.Fault Request → Prop
  | expression (x : Text) (log : Option Text) : Asks ⟨some x, none, log⟩ (.ok ⟨some x⟩)
  | request {j : Text} {q : Except Json.Fault Request} (log : Option Text)
      (h : Request.parse j = q) : Asks ⟨none, some j, log⟩ q

theorem Options.get?_set (o : Options) (name name' : OptionName) (value : Text) :
    (o.set name value).get? name' = if name' = name then some value else o.get? name' := by
  cases name <;> cases name' <;> rfl

theorem Options.eq_set_of_set? {o o' : Options} {name : OptionName} {value : Text}
    (h : o.set? name value = some o') : o' = o.set name value := by
  unfold set? at h
  split_ifs at h
  exact (Option.some.inj h).symm

variable {o o' : Options} {waiting waiting' : Option OptionName} {arg : Text} {args : List Text}

/-- What one argument does among arguments that are accepted. -/
inductive Takes (o : Options) : Option OptionName → Text → Options → Option OptionName → Prop
  | value {name : OptionName} {arg : Text} {o' : Options} (harg : Argument.ofText arg = .word)
      (h : o.set? name arg = some o') : Takes o (some name) arg o' none
  | attached {name : OptionName} {arg value : Text} {o' : Options}
      (harg : Argument.ofText arg = .option name (some value))
      (h : o.set? name value = some o') : Takes o none arg o' none
  | named {name : OptionName} {arg : Text} (harg : Argument.ofText arg = .option name none) :
      Takes o none arg o (some name)
  | stop {arg : Text} (harg : Argument.ofText arg = .stop) : Takes o none arg o none

theorem exists_takes (h : Arguments.take o waiting (arg :: args) = .options o') :
    ∃ o₁ waiting₁, Takes o waiting arg o₁ waiting₁ ∧
      Arguments.take o₁ waiting₁ args = .options o' := by
  cases waiting with
  | some name =>
    by_cases hword : Argument.ofText arg = .word
    · simp only [Arguments.take, hword] at h
      cases hset : o.set? name arg with
      | none =>
        rw [hset] at h
        cases h
      | some o₁ =>
        rw [hset] at h
        exact ⟨o₁, none, .value hword hset, h⟩
    · rw [take_waiting hword] at h
      cases h
  | none =>
    cases hkind : Argument.ofText arg with
    | option name attached =>
      cases attached with
      | none =>
        simp only [Arguments.take, hkind] at h
        exact ⟨o, some name, .named hkind, h⟩
      | some value =>
        simp only [Arguments.take, hkind] at h
        cases hset : o.set? name value with
        | none =>
          rw [hset] at h
          cases h
        | some o₁ =>
          rw [hset] at h
          exact ⟨o₁, none, .attached hkind hset, h⟩
    | stop =>
      simp only [Arguments.take, hkind] at h
      split_ifs at h with hargs
      rw [hargs]
      exact ⟨o, none, .stop hkind, h⟩
    | version | help | word | unknown =>
      simp only [Arguments.take, hkind] at h
      cases h

/-- The expression or the request has been given, or waits for its value. -/
def Asked (o : Options) (waiting : Option OptionName) : Prop :=
  ∃ name, name ≠ .log ∧ ((o.get? name).isSome = true ∨ waiting = some name)

theorem Asked.set {name : OptionName} {value : Text} (h : Asked o none) :
    Asked (o.set name value) none := by
  obtain ⟨name', hne, hgiven | hwaits⟩ := h
  · refine ⟨name', hne, Or.inl ?_⟩
    rw [Options.get?_set]
    split_ifs
    · rfl
    · exact hgiven
  · cases hwaits

theorem asked_set {name : OptionName} (hne : name ≠ .log) (o : Options) (value : Text) :
    Asked (o.set name value) none :=
  ⟨name, hne, Or.inl (by rw [Options.get?_set, if_pos rfl, Option.isSome_some])⟩

theorem ne_log_of_asks {name : OptionName} {attached : Option Text}
    (h : (Argument.option name attached).asks = true) : name ≠ .log := by
  rintro rfl
  cases h

/-- What has been asked stays asked, and an argument that asks adds to it. -/
theorem asked_of_takes (h : Takes o waiting arg o' waiting')
    (hasked : Asked o waiting ∨ (Argument.ofText arg).asks = true) : Asked o' waiting' := by
  -- An argument that asks is an option, so it is neither a value nor the end of the options.
  cases h with
  | @value name _ _ harg hset =>
    rw [Options.eq_set_of_set? hset]
    rcases hasked with ⟨name', hne, hgiven | hwaits⟩ | hasks
    · exact Asked.set ⟨name', hne, Or.inl hgiven⟩
    · cases hwaits
      exact asked_set hne o arg
    · rw [harg] at hasks
      cases hasks
  | @attached name _ value _ harg hset =>
    rw [Options.eq_set_of_set? hset]
    rcases hasked with hasked | hasks
    · exact hasked.set
    · rw [harg] at hasks
      exact asked_set (ne_log_of_asks hasks) o value
  | @named name _ harg =>
    rcases hasked with ⟨name', hne, hgiven | hwaits⟩ | hasks
    · exact ⟨name', hne, Or.inl hgiven⟩
    · cases hwaits
    · rw [harg] at hasks
      exact ⟨name, ne_log_of_asks hasks, Or.inr rfl⟩
  | stop harg =>
    rcases hasked with hasked | hasks
    · exact hasked
    · rw [harg] at hasks
      cases hasks

/-- Options that were asked something and are accepted have one thing to answer. -/
theorem exists_asks_of_finish (h : Arguments.finish o waiting = .options o')
    (hasked : Asked o waiting) : ∃ q, o'.Asks q := by
  unfold Arguments.finish at h
  split_ifs at h with hrefused
  cases h
  rw [not_or, Option.not_isSome_iff_eq_none] at hrefused
  obtain ⟨rfl, hboth⟩ := hrefused
  obtain ⟨name, hne, hgiven | hwaits⟩ := hasked
  · obtain ⟨expression, request, log⟩ := o
    cases expression with
    | some x =>
      cases request with
      | some j => exact absurd ⟨rfl, rfl⟩ hboth
      | none => exact ⟨_, .expression x log⟩
    | none =>
      cases request with
      | some j => exact ⟨_, .request log rfl⟩
      | none =>
        cases name with
        | expression | request => cases hgiven
        | log => exact absurd rfl hne
  · cases hwaits

theorem exists_asks_of_take (h : Arguments.take o waiting args = .options o')
    (hasked : Asked o waiting ∨ ∃ a ∈ args, (Argument.ofText a).asks = true) :
    ∃ q, o'.Asks q := by
  induction args generalizing o waiting with
  | nil =>
    rcases hasked with hasked | ⟨a, ha, -⟩
    · exact exists_asks_of_finish h hasked
    · cases ha
  | cons arg args ih =>
    obtain ⟨o₁, waiting₁, htakes, hrest⟩ := exists_takes h
    refine ih hrest ?_
    rcases hasked with hasked | ⟨a, ha, hasks⟩
    · exact Or.inl (asked_of_takes htakes (Or.inl hasked))
    · rcases List.mem_cons.1 ha with rfl | ha
      · exact Or.inl (asked_of_takes htakes (Or.inr hasks))
      · exact Or.inr ⟨a, ha, hasks⟩

/-! ## Endings -/

/-- What becomes of a command that is asked something. -/
inductive Ending
  | refusedArguments
  | unreadSettings
  | refusedDirective
  | unreadRequest
  | answered (response : Response)

/-- The effect that tells an ending to the caller. -/
def Ending.effect : Ending → Effect
  | refusedArguments => .exit 2 []
  | unreadSettings | refusedDirective | unreadRequest => .exit 1 []
  | answered r => .exit (if r.status = .valid then 0 else 2) (r.compact ++ ['\n'])

/-- The ending of what is asked, when settings and directive are in order. -/
def Ending.ofRequest : Except Json.Fault Request → Ending
  | .ok request => answered request.respond
  | .error _ => unreadRequest

variable {args' : List Text} {env env' : Environment} {s s' : Settings} {e e' : Ending}
  {q : Except Json.Fault Request}

/-- Arguments, settings and log directive are in order. The directive of the arguments goes before
the one of the settings. -/
structure Passes (args : List Text) (env : Environment) (o : Options) (s : Settings) : Prop where
  arguments : Arguments.ofList args = .options o
  settings : Settings.load env = .ok s
  directive : Log.Directive.check (o.log.getD s.log) = .ok ()

/-- The first ending that applies. -/
inductive EndsIn (args : List Text) (env : Environment) : Ending → Prop
  | refusedArguments (h : Arguments.ofList args = .refused) : EndsIn args env .refusedArguments
  | unreadSettings {o : Options} {fault : Settings.Fault} (ho : Arguments.ofList args = .options o)
      (h : Settings.load env = .error fault) : EndsIn args env .unreadSettings
  | refusedDirective {o : Options} {s : Settings} {fault : Log.Directive.Fault}
      (ho : Arguments.ofList args = .options o) (hs : Settings.load env = .ok s)
      (h : Log.Directive.check (o.log.getD s.log) = .error fault) :
      EndsIn args env .refusedDirective
  | asked {o : Options} {s : Settings} {q : Except Json.Fault Request} (h : Passes args env o s)
      (hq : o.Asks q) : EndsIn args env (.ofRequest q)

/-- A text is cut inside a character while the settings or the directive are read. -/
inductive CutsCharacter (args : List Text) (env : Environment) : Prop
  | settings {o : Options} (ho : Arguments.ofList args = .options o)
      (h : Settings.load env = .error .splitCharacter)
  | directive {o : Options} {s : Settings} (ho : Arguments.ofList args = .options o)
      (hs : Settings.load env = .ok s)
      (h : Log.Directive.check (o.log.getD s.log) = .error .splitCharacter)

theorem exists_endsIn (hasks : ∃ a ∈ args, (Argument.ofText a).asks = true)
    (hversion : Arguments.ofList args ≠ .version) (hhelp : Arguments.ofList args ≠ .help)
    (env : Environment) : ∃ e, EndsIn args env e := by
  cases ho : Arguments.ofList args with
  | version => exact absurd ho hversion
  | help => exact absurd ho hhelp
  | refused => exact ⟨_, .refusedArguments ho⟩
  | options o =>
    cases hs : Settings.load env with
    | error fault => exact ⟨_, .unreadSettings ho hs⟩
    | ok s =>
      cases hd : Log.Directive.check (o.log.getD s.log) with
      | error fault => exact ⟨_, .refusedDirective ho hs hd⟩
      | ok _ =>
        obtain ⟨q, hq⟩ := exists_asks_of_take ho (Or.inr hasks)
        exact ⟨_, .asked ⟨ho, hs, hd⟩ hq⟩

theorem Options.Asks.unique {q' : Except Json.Fault Request} (h : o.Asks q) (h' : o.Asks q') :
    q = q' := by
  cases h with
  | expression x log =>
    cases h'
    rfl
  | request log h =>
    cases h' with
    | request _ h' => rw [← h, ← h']

/-- Of two endings the premises disagree, if they are not one. -/
theorem endsIn_unique (h : EndsIn args env e) (h' : EndsIn args env e') : e = e' := by
  cases h with
  | refusedArguments h => cases h' <;> grind [Passes]
  | unreadSettings ho h => cases h' <;> grind [Passes]
  | refusedDirective ho hs h => cases h' <;> grind [Passes]
  | asked h hq => cases h' <;> grind [Passes, Options.Asks.unique]

/-! ## The effect of an ending -/

theorem printed_eq_effect (r : Response) : printed r = (Ending.answered r).effect := by
  obtain ⟨status, result, error⟩ := r
  cases status <;> rfl

theorem run_of_passes (h : Passes args env o s) (hq : o.Asks q) :
    run args env = (Ending.ofRequest q).effect := by
  have hrun : run args env = answer o s := by
    simp only [run, h.arguments, runOptions, h.settings, h.directive]
  rw [hrun]
  cases hq with
  | expression x log => exact printed_eq_effect _
  | @request j q log hj =>
    simp only [answer, hj]
    cases q with
    | ok request => exact printed_eq_effect _
    | error fault => rfl

/-- A command that gets to its answer cuts nothing on the way. -/
theorem not_cutsCharacter_of_passes (h : Passes args env o s) : ¬CutsCharacter args env := by
  grind [Passes, CutsCharacter]

theorem run_of_cutsCharacter (h : CutsCharacter args env) : run args env = .exit 101 [] := by
  cases h with
  | settings ho h => simp only [run, ho, runOptions, h, aborted]
  | directive ho hs h => simp only [run, ho, runOptions, hs, h, aborted]

theorem effect_ne_aborted (e : Ending) : e.effect ≠ .exit 101 [] := by
  intro h
  cases e with
  | refusedArguments | unreadSettings | refusedDirective | unreadRequest => cases h
  | answered r =>
    obtain ⟨hcode, -⟩ := Effect.exit.inj h
    split_ifs at hcode
    contradiction

/-- A command has the effect of its ending, unless it is aborted. -/
theorem run_eq_effect_iff (h : EndsIn args env e) :
    run args env = e.effect ↔ ¬CutsCharacter args env := by
  constructor
  · intro hrun hcuts
    rw [run_of_cutsCharacter hcuts] at hrun
    exact effect_ne_aborted e hrun.symm
  · intro hcuts
    -- A cut is one of the faults of the settings, and one of those of the directive.
    cases h with
    | refusedArguments h => simp only [run, h, misused, Ending.effect]
    | @unreadSettings o fault ho h =>
      cases fault with
      | splitCharacter => exact absurd (.settings ho h) hcuts
      | wrongType | wrongValue => simp only [run, ho, runOptions, h, unreadable, Ending.effect]
    | @refusedDirective o s fault ho hs h =>
      cases fault with
      | splitCharacter => exact absurd (.directive ho hs h) hcuts
      | malformed => simp only [run, ho, runOptions, hs, h, unreadable, Ending.effect]
    | asked h hq => exact run_of_passes h hq

/-- Commands that are asked the same, and are in order, do the same. -/
theorem run_eq_of_passes (h : Passes args env o s) (h' : Passes args' env' o' s') (hq : o.Asks q)
    (hexpression : o.expression = o'.expression) (hrequest : o.request = o'.request) :
    run args env = run args' env' := by
  have hq' : o'.Asks q := by
    obtain ⟨expression, request, log⟩ := o'
    subst hexpression hrequest
    cases hq with
    | expression x _ => exact .expression x log
    | request _ hj => exact .request log hj
  rw [run_of_passes h hq, run_of_passes h' hq']

/-! ## The theorem -/

/-- A command that is asked something comes to exactly one ending, and has its effect unless a text
is cut inside a character. The answer depends on what is asked alone. -/
theorem run_of_asks (hasks : ∃ a ∈ args, (Argument.ofText a).asks = true)
    (hversion : Arguments.ofList args ≠ .version) (hhelp : Arguments.ofList args ≠ .help)
    (env : Environment) :
    (∃! e, EndsIn args env e) ∧
      (∀ e, EndsIn args env e → (run args env = e.effect ↔ ¬CutsCharacter args env)) ∧
      (CutsCharacter args env → run args env = .exit 101 []) ∧
      ∀ o s args' env' o' s', Passes args env o s → Passes args' env' o' s' →
        o.expression = o'.expression → o.request = o'.request → run args env = run args' env' := by
  refine ⟨?_, fun e => run_eq_effect_iff, run_of_cutsCharacter, ?_⟩
  · obtain ⟨e, he⟩ := exists_endsIn hasks hversion hhelp env
    exact ⟨e, he, fun e' he' => endsIn_unique he' he⟩
  · intro o s args' env' o' s' h h' hexpression hrequest
    obtain ⟨q, hq⟩ := exists_asks_of_take h.arguments (Or.inr hasks)
    exact run_eq_of_passes h h' hq hexpression hrequest

/-- A division by zero, with a directive in the environment and another one in the arguments, and
with neither of them. -/
theorem run_of_asks_quotient :
    run ["--log=debug".toList, "--eval=1/(1-1)".toList] [("CALC_LOG".toList, "warn".toList)] =
        .exit 2 ("\x7b\"status\":\"Invalid\",\"result\":null," ++
          "\"error\":\"Invalid expression: Division by zero\"\x7d\n").toList ∧
      run ["--log=debug".toList, "--eval=1/(1-1)".toList] [("CALC_LOG".toList, "warn".toList)] =
        run ["-e".toList, "1/(1-1)".toList] [] := by
  have hasks : ∃ a ∈ ["--log=debug".toList, "--eval=1/(1-1)".toList],
      (Argument.ofText a).asks = true := by
    decide
  have harguments : Arguments.ofList ["--log=debug".toList, "--eval=1/(1-1)".toList] =
      .options ⟨some "1/(1-1)".toList, none, some "debug".toList⟩ := by
    decide +kernel
  have hpasses : Passes ["--log=debug".toList, "--eval=1/(1-1)".toList]
      [("CALC_LOG".toList, "warn".toList)] ⟨some "1/(1-1)".toList, none, some "debug".toList⟩
      ⟨"warn".toList, 20⟩ :=
    ⟨harguments, by decide +kernel, by decide +kernel⟩
  have hpasses' : Passes ["-e".toList, "1/(1-1)".toList] [] ⟨some "1/(1-1)".toList, none, none⟩
      ⟨"info".toList, 20⟩ :=
    ⟨by decide +kernel, by decide +kernel, by decide +kernel⟩
  have hversion : Arguments.ofList ["--log=debug".toList, "--eval=1/(1-1)".toList] ≠ .version := by
    rw [harguments]
    nofun
  have hhelp : Arguments.ofList ["--log=debug".toList, "--eval=1/(1-1)".toList] ≠ .help := by
    rw [harguments]
    nofun
  obtain ⟨-, heffect, -, hsame⟩ :=
    run_of_asks hasks hversion hhelp [("CALC_LOG".toList, "warn".toList)]
  refine ⟨?_, hsame _ _ _ _ _ _ hpasses hpasses' rfl rfl⟩
  rw [(heffect _ (.asked hpasses (.expression _ _))).2 (not_cutsCharacter_of_passes hpasses)]
  decide +kernel

/-- In front of the item stands a blank of three bytes, and the piece before its equals sign is cut
off in the middle of it. -/
theorem run_of_asks_cut :
    EndsIn ["-e".toList, "1".toList, "--log".toList, "\u3000a=info".toList] [] .refusedDirective ∧
      run ["-e".toList, "1".toList, "--log".toList, "\u3000a=info".toList] [] = .exit 101 [] ∧
      Ending.refusedDirective.effect = .exit 1 [] := by
  have harguments : Arguments.ofList
      ["-e".toList, "1".toList, "--log".toList, "\u3000a=info".toList] =
        .options ⟨some "1".toList, none, some "\u3000a=info".toList⟩ := by
    decide +kernel
  have hsettings : Settings.load [] = .ok ⟨"info".toList, 20⟩ := by decide +kernel
  have hcheck : Log.Directive.check "\u3000a=info".toList = .error .splitCharacter := by
    decide +kernel
  exact ⟨.refusedDirective harguments hsettings hcheck,
    run_of_cutsCharacter (.directive harguments hsettings hcheck), rfl⟩

end Calculator.CommandLine
