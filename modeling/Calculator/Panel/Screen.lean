import Calculator.Panel.Window

/-!
# The screen

The texts that a window shows, from top to bottom: the buttons, the error if there is one, the
outputs, and the lines of the history if its list is open.
-/

namespace Calculator

/-- The two texts of a history line: its entry and what came of it. -/
def HistoryLine.texts (line : HistoryLine) : List Text :=
  let outcome := match line.outcome with
    | .ok v => "= ".toList ++ Number.display v
    | .error message => "✗ ".toList ++ message
  [line.entry, outcome]

namespace Window

/-- The header of the history. -/
def header (w : Window) : Text :=
  "Historique (".toList ++ Number.digits w.panel.history.length ++ [')']

/-- The texts of the buttons, the empty places of the keypad included. -/
def buttonTexts : List Text :=
  Button.actions.map Button.label ++
    Button.keypad.flatten.map fun button => (button.map Button.label).getD []

/-- The texts of the outputs, each behind its title. -/
def outputTexts (p : Panel) : List Text :=
  ["Résultat :".toList, p.result, "Enveloppe :".toList, p.envelope, "Démarche".toList,
    "Nettoyée :".toList, p.working.cleaned, "Jetons :".toList, p.working.tokens,
    "Étapes :".toList, p.working.steps]

/-- The texts of the window. -/
def screen (w : Window) : List Text :=
  ["Calculatrice validante".toList, "Entrée :".toList] ++ buttonTexts ++
    (if w.panel.error = [] then [] else [w.panel.error]) ++ outputTexts w.panel ++
    [w.header] ++ if w.historyIsOpen then w.panel.history.flatMap HistoryLine.texts else []

end Window

end Calculator
