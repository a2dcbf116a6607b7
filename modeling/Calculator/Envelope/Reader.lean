import Calculator.Envelope.Message
import Calculator.Json.Record

/-!
# Reading requests and responses

Both are records. A request without an expression is the same as one whose expression is `null`. A
response must have its status; its result and its error may be missing from an object, but not from
a list. A status is the name of one, alone or as the only member of an object whose value is
`null`.
-/

namespace Calculator

/-! ## Requests -/

namespace Request

/-- The one field of a request; in a draft it is missing as long as it has not been read. -/
def expressionField : Json.RecordField (Option (Option Text)) where
  name := "expression".toList
  isSet := Option.isSome
  read _ s := (Json.optional Json.stringValue s).map fun (v, rest) => (some v, rest)
  mayBeLeftOut := true

/-- How a request is read. -/
def reader : Json.RecordReader (Option (Option Text)) Request where
  fields := [expressionField]
  blank := none
  complete draft := .ok ⟨draft.join⟩

/-- The request that a JSON text holds. -/
def parse (s : Text) : Except Json.Fault Request := reader.parse s

end Request

/-! ## Statuses -/

namespace Status

/-- The status of a name. -/
def ofName (name : Text) : Except Json.Fault Status :=
  if name = valid.name then .ok valid
  else if name = invalid.name then .ok invalid
  else .error .mistyped

/-- Passes over the closing bracket of an object. -/
def closeObject (s : Text) : Except Json.Fault Text :=
  match Json.skipSpace s with
  | [] => .error .truncated
  | c :: r => if c = '}' then .ok r else .error .malformed

/-- Reads a status. -/
def read (s : Text) : Except Json.Fault (Status × Text) :=
  match Json.skipSpace s with
  | [] => .error .truncated
  | c :: r =>
    if c = '"' then do
      let (name, r) ← Json.readString r
      return (← ofName name, r)
    else if c = '{' then do
      let (name, r) ← Json.memberName r
      let status ← ofName name
      let r ← Json.nullValue (← Json.colon r)
      return (status, ← closeObject r)
    else .error .malformed

end Status

/-! ## Responses -/

namespace Response

/-- A response that is being read. -/
structure Draft where
  status : Option Status
  result : Option (Option Float)
  error : Option (Option Text)

/-- The field of the status. -/
def statusField : Json.RecordField Draft where
  name := "status".toList
  isSet d := d.status.isSome
  read d s := (Status.read s).map fun (v, rest) => ({ d with status := some v }, rest)
  mayBeLeftOut := false

/-- The field of the result. -/
def resultField : Json.RecordField Draft where
  name := "result".toList
  isSet d := d.result.isSome
  read d s :=
    (Json.optional Json.numberValue s).map fun (v, rest) => ({ d with result := some v }, rest)
  mayBeLeftOut := false

/-- The field of the error. -/
def errorField : Json.RecordField Draft where
  name := "error".toList
  isSet d := d.error.isSome
  read d s :=
    (Json.optional Json.stringValue s).map fun (v, rest) => ({ d with error := some v }, rest)
  mayBeLeftOut := false

/-- How a response is read. -/
def reader : Json.RecordReader Draft Response where
  fields := [statusField, resultField, errorField]
  blank := ⟨none, none, none⟩
  complete d :=
    match d.status with
    | some status => .ok ⟨status, d.result.join, d.error.join⟩
    | none => .error .mistyped

/-- The response that a JSON text holds. -/
def parse (s : Text) : Except Json.Fault Response := reader.parse s

end Response

end Calculator
