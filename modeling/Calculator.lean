import Calculator.Log.Event
import Calculator.Main
import Calculator.Panel.Screen
import Calculator.Proofs.Grammar
import Calculator.Proofs.Validity
import Calculator.Proofs.Lexing
import Calculator.Proofs.Precedence
import Calculator.Proofs.Acceptance
import Calculator.Proofs.Bits
import Calculator.Proofs.ReadBack
import Calculator.Proofs.Nesting
import Calculator.Proofs.Substitution
import Calculator.Proofs.JsonText
import Calculator.Proofs.Envelope
import Calculator.Proofs.Postfix
import Calculator.Proofs.OpenParentheses
import Calculator.Proofs.Actions
import Calculator.Proofs.Outputs
import Calculator.Proofs.Replay
import Calculator.Proofs.Symbols
import Calculator.Proofs.Layouts
import Calculator.Proofs.Requests
import Calculator.Proofs.FrontEnds
import Calculator.Proofs.DirectiveItems
import Calculator.Proofs.LogVariable
import Calculator.Proofs.History
import Calculator.Proofs.Conservation
import Calculator.Proofs.Endings
import Calculator.Proofs.TokenLine
import Calculator.Proofs.Enclosure
import Calculator.Proofs.Rejections
import Calculator.Proofs.HistoryLimit
import Calculator.Proofs.EnterKey
import Calculator.Proofs.Signs
import Calculator.Proofs.Journal
