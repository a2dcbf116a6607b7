import Calculator.Text.Blank

/-!
# Command line arguments

Three options take a value: the expression, the request, the log directive. A value is attached to
its option, behind an equals sign or, for the one-letter form, directly; or it is the next
argument, which then must not look like an option. Two flags, for the version and for help, take
effect at once where they stand. Nothing else is accepted: no other option, no abbreviation, no
option twice, no argument without an option, and not an expression together with a request.

Arguments are taken from left to right and the first fault counts, except that the expression and
the request are compared at the end.
-/

namespace Calculator.CommandLine

/-- An option with a value. -/
inductive OptionName
  | expression
  | request
  | log
  deriving DecidableEq, Repr

/-- The options that were given. -/
structure Options where
  expression : Option Text
  request : Option Text
  log : Option Text
  deriving DecidableEq, Repr

/-- What the arguments ask for. -/
inductive Arguments
  | options (options : Options)
  | version
  | help
  | refused
  deriving DecidableEq, Repr

/-! ## Options -/

namespace Options

/-- No option at all. -/
def empty : Options := ⟨none, none, none⟩

/-- The value of an option. -/
def get? (o : Options) : OptionName → Option Text
  | .expression => o.expression
  | .request => o.request
  | .log => o.log

/-- The options with a value for one more. -/
def set (o : Options) (name : OptionName) (value : Text) : Options :=
  match name with
  | .expression => { o with expression := value }
  | .request => { o with request := value }
  | .log => { o with log := value }

end Options

/-! ## Single arguments -/

/-- What an argument is. -/
inductive Argument
  | option (name : OptionName) (attached : Option Text)
  | version
  | help
  | stop
  | word
  | unknown
  deriving DecidableEq, Repr

/-- The option of a long name. -/
def longName? (s : Text) : Option OptionName :=
  if s = "eval".toList then some .expression
  else if s = "requete".toList then some .request
  else if s = "log".toList then some .log
  else none

/-- The option of a letter. -/
def letter? (c : Char) : Option OptionName :=
  if c = 'e' then some .expression
  else if c = 'r' then some .request
  else if c = 'l' then some .log
  else none

/-- What follows an equals sign at the front of a text, if there is one. -/
def afterEquals : Text → Option Text
  | '=' :: s => some s
  | _ => none

/-- The argument behind two hyphens. -/
def ofLong (s : Text) : Argument :=
  let name := s.takeWhile (· ≠ '=')
  let attached := afterEquals (s.dropWhile (· ≠ '='))
  match longName? name with
  | some option => .option option attached
  | none =>
    if attached.isSome then .unknown
    else if name = "version".toList then .version
    else if name = "help".toList then .help
    else .unknown

/-- The argument behind one hyphen. -/
def ofLetters (c : Char) (s : Text) : Argument :=
  match letter? c with
  | some option => .option option (if s = [] then none else some ((afterEquals s).getD s))
  | none => if c = 'V' then .version else if c = 'h' then .help else .unknown

/-- What an argument is. A hyphen alone is a word. -/
def Argument.ofText : Text → Argument
  | ['-', '-'] => .stop
  | '-' :: '-' :: s => ofLong s
  | '-' :: c :: s => ofLetters c s
  | _ => .word

theorem Argument.ofText_expression (x : Text) :
    ofText ("--eval=".toList ++ x) = .option .expression (some x) := rfl

theorem Argument.ofText_request (j : Text) :
    ofText ("--requete=".toList ++ j) = .option .request (some j) := rfl

theorem Argument.ofText_log (d : Text) :
    ofText ("--log=".toList ++ d) = .option .log (some d) := rfl

/-! ## All arguments -/

/-- What is asked for when no argument is left. -/
def Arguments.finish (o : Options) (waiting : Option OptionName) : Arguments :=
  if waiting.isSome ∨ o.expression.isSome ∧ o.request.isSome then refused else options o

/-- Gives an option its value, unless it has one. -/
def Options.set? (o : Options) (name : OptionName) (value : Text) : Option Options :=
  if (o.get? name).isSome then none else some (o.set name value)

/-- Takes arguments from left to right, with the option that waits for its value. -/
def Arguments.take (o : Options) (waiting : Option OptionName) : List Text → Arguments
  | [] => finish o waiting
  | arg :: args =>
    match waiting, Argument.ofText arg with
    | some name, .word =>
      match o.set? name arg with
      | some o => take o none args
      | none => refused
    | some _, _ => refused
    | none, .option name (some value) =>
      match o.set? name value with
      | some o => take o none args
      | none => refused
    | none, .option name none => take o (some name) args
    | none, .version => version
    | none, .help => help
    | none, .stop => if args = [] then finish o none else refused
    | none, .word => refused
    | none, .unknown => refused

/-- What a list of arguments asks for. -/
def Arguments.ofList (args : List Text) : Arguments := take .empty none args

theorem Arguments.ofList_expression (x : Text) :
    ofList ["--eval=".toList ++ x] = .options ⟨some x, none, none⟩ := by
  simp only [ofList, take, Argument.ofText_expression]
  rfl

theorem Arguments.ofList_log_expression (d x : Text) :
    ofList ["--log=".toList ++ d, "--eval=".toList ++ x] = .options ⟨some x, none, some d⟩ := by
  simp only [ofList, take, Argument.ofText_log, Argument.ofText_expression]
  rfl

end Calculator.CommandLine
