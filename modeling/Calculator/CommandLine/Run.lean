import Calculator.CommandLine.Arguments
import Calculator.Envelope.Reader
import Calculator.Log.Directive
import Calculator.Settings.Basic

/-!
# The command line

A command with an expression or a request prints one response and ends. What can go wrong before
that is tried in a fixed order: the arguments, the settings, the log directive (the one of the
arguments if there is one, else the one of the settings), the request. Nothing is printed then; the
exit code tells misuse from what cannot be read, and both from a text that would be cut inside a
character. A response that was printed has an exit code of its own if it announces a refusal, so a
caller need not read the text.

Settings decide whether the command runs. They have no part in the answer.
-/

namespace Calculator.CommandLine

/-- What a command does. -/
inductive Effect
  | exit (code : Nat) (output : Text)
  | openPanel (historyLimit : Nat)
  deriving DecidableEq, Repr

/-- The exit code of a command whose settings, directive or request cannot be read. -/
def unreadable : Effect := .exit 1 []

/-- The exit code of a command whose arguments are refused. -/
def misused : Effect := .exit 2 []

/-- The exit code of a command that would cut a text inside a character. -/
def aborted : Effect := .exit 101 []

/-- The line that names the program and its version. -/
def versionLine : Text := "calculatrice_valide 0.1.0\n".toList

/-- The description of the arguments. -/
def helpText : Text :=
  ("Évaluateur d’expressions arithmétiques validant (+ - * / parenthèses, moins unaire)\n\n" ++
    "Usage: calculatrice-valide [OPTIONS]\n\nOptions:\n" ++
    "  -e, --eval <EVAL>        Évalue une expression, imprime l’enveloppe JSON et quitte\n" ++
    "  -r, --requete <REQUETE>  Traite une requête JSON \x7b\"expression\": ...\x7d et quitte\n" ++
    "  -l, --log <LOG>          Directive de journalisation (remplace CALC_LOG)\n" ++
    "  -h, --help               Print help\n" ++
    "  -V, --version            Print version\n").toList

/-- Prints a response. -/
def printed (r : Response) : Effect :=
  let code := match r.status with
    | .valid => 0
    | .invalid => 2
  .exit code (r.compact ++ ['\n'])

/-- What the options ask for when settings and directive are in order. -/
def answer (o : Options) (s : Settings) : Effect :=
  match o.expression, o.request with
  | some expression, _ => printed (Request.respond ⟨some expression⟩)
  | none, some json =>
    match Request.parse json with
    | .ok request => printed request.respond
    | .error _ => unreadable
  | none, none => .openPanel s.historyLimit

/-- What the options ask for. -/
def runOptions (o : Options) (env : Environment) : Effect :=
  match Settings.load env with
  | .error .splitCharacter => aborted
  | .error _ => unreadable
  | .ok s =>
    match Log.Directive.check (o.log.getD s.log) with
    | .error .splitCharacter => aborted
    | .error .malformed => unreadable
    | .ok () => answer o s

/-- What a command does. -/
def run (args : List Text) (env : Environment) : Effect :=
  match Arguments.ofList args with
  | .refused => misused
  | .version => .exit 0 versionLine
  | .help => .exit 0 helpText
  | .options o => runOptions o env

end Calculator.CommandLine
