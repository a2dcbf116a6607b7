import Calculator.Expression.Evaluation

/-!
# The log of an evaluation

An evaluation tells what it does: the text it starts from, a rejection if there is one, each
applied operator, and at the end the value or the failure. An event has a level, a message and
named fields; numbers stay numbers in the fields.

The events are read off the run that also gives the answer. An evaluation that writes them on its
way writes the same ones (`Calculator.Proofs.Emission`).
-/

namespace Calculator

namespace Log

/-- How important an event is. -/
inductive Level
  | debug
  | trace
  deriving DecidableEq, Repr

/-- The value of a field. -/
inductive Field
  | number (value : Float)
  | text (value : Text)
  deriving DecidableEq

/-- Something that happened during an evaluation. -/
inductive Event
  | started (text : Text)
  | rejected (reason : Rejection)
  | reduced (step : Step)
  | failed (reason : Failure)
  | finished (value : Float)
  deriving DecidableEq

namespace Event

/-- The level of an event. -/
def level : Event → Level
  | reduced _ => .trace
  | _ => .debug

/-- The message of an event. -/
def message : Event → Text
  | started _ => "évaluation".toList
  | rejected _ => "expression rejetée à la validation".toList
  | reduced _ => "réduction".toList
  | failed _ => "échec pendant l’évaluation".toList
  | finished _ => "expression évaluée".toList

/-- The named fields of an event. -/
def fields : Event → List (Text × Field)
  | started text => [("expression".toList, .text text)]
  | rejected reason => [("raison".toList, .text reason.message)]
  | reduced s =>
    [("a".toList, .number s.left), ("b".toList, .number s.right),
      ("op".toList, .text [s.op.symbol]), ("r".toList, .number s.value)]
  | failed reason => [("raison".toList, .text reason.message)]
  | finished value => [("valeur".toList, .number value)]

end Event

end Log

/-- The events of a run, in order. -/
def Run.events : Run → List Log.Event
  | rejected text reason => [.started text, .rejected reason]
  | failed text reason steps => .started text :: (steps.map .reduced ++ [.failed reason])
  | finished e => .started e.text :: (e.steps.map .reduced ++ [.finished e.value])

end Calculator
