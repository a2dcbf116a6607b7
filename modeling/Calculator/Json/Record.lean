import Calculator.Json.Value

/-!
# JSON: records

A record is a value with named fields. It is read from an object, whose members may come in any
order and may have names that the record does not know, or from a list, which has the fields in
the order of the record. A field that an object names twice is an error as soon as its name is
read for the second time.

The fields are gathered in a draft. What a field that is missing from an object means is decided
when the draft is completed; an element that is missing from a list is an error unless the field
says otherwise.
-/

namespace Calculator.Json

/-- A field of a record with drafts of type `δ`. -/
structure RecordField (δ : Type) where
  name : Text
  /-- The draft has the field already. -/
  isSet : δ → Bool
  /-- Reads the value of the field into the draft. -/
  read : δ → Text → Except Fault (δ × Text)
  /-- A list may end before the field. -/
  mayBeLeftOut : Bool

/-- The fields of a record, in order, the draft without any of them, and how a draft becomes a
value. -/
structure RecordReader (δ α : Type) where
  fields : List (RecordField δ)
  blank : δ
  complete : δ → Except Fault α

namespace RecordReader

variable {δ α : Type}

/-! ## From an object -/

/-- Reads one member. -/
def readMember (fields : List (RecordField δ)) (draft : δ) (s : Text) :
    Except Fault (δ × Text) := do
  let (name, s) ← memberName s
  match fields.find? (·.name = name) with
  | some field =>
    if field.isSet draft then throw .mistyped
    else do field.read draft (← colon s)
  | none => return (draft, ← skipValue (← colon s))

/-- Reads the members up to the closing bracket. Each takes a character at least, so the length of
the text is fuel enough. -/
def readMembers (fields : List (RecordField δ)) (first : Bool) :
    Nat → δ → Text → Except Fault (δ × Text)
  | 0, _, _ => .error .truncated
  | fuel + 1, draft, s =>
    match skipSpace s with
    | [] => .error .truncated
    | c :: r =>
      if c = '}' then .ok (draft, r)
      else do
        let named ← if first then .ok (c :: r) else if c = ',' then .ok r else .error .malformed
        let (draft, rest) ← readMember fields draft named
        readMembers fields false fuel draft rest

/-! ## From a list -/

/-- Goes to the next element of a list; none if the list ends before it. -/
def nextElement (first : Bool) (s : Text) : Except Fault (Option Text) :=
  match skipSpace s with
  | [] => .error .truncated
  | c :: r =>
    if c = ']' then .ok none
    else if first then .ok (some (c :: r))
    else if c = ',' then
      match skipSpace r with
      | [] => .error .truncated
      | d :: r => if d = ']' then .error .malformed else .ok (some (d :: r))
    else .error .malformed

/-- Reads the elements of a list into the fields. -/
def readElements (draft : δ) (first : Bool) : List (RecordField δ) → Text → Except Fault (δ × Text)
  | [], s => .ok (draft, s)
  | field :: fields, s => do
    match ← nextElement first s with
    | some s =>
      let (draft, s) ← field.read draft s
      readElements draft false fields s
    | none => if field.mayBeLeftOut then readElements draft first fields s else throw .mistyped

/-- Passes over the end of a list that has no more elements. -/
def closeList (s : Text) : Except Fault Text :=
  match skipSpace s with
  | [] => .error .truncated
  | c :: r => if c = ']' then .ok r else .error .malformed

/-! ## The whole text -/

/-- Reads a record from the front of a text. -/
def readValue (record : RecordReader δ α) (s : Text) : Except Fault (α × Text) :=
  match skipSpace s with
  | [] => .error .truncated
  | c :: r =>
    if c = '[' then do
      let (draft, r) ← readElements record.blank true record.fields r
      let value ← record.complete draft
      return (value, ← closeList r)
    else if c = '{' then do
      let (draft, r) ← readMembers record.fields true (r.length + 1) record.blank r
      return (← record.complete draft, r)
    else .error (unexpected (c :: r))

/-- Reads a text that holds a record and nothing else. -/
def parse (record : RecordReader δ α) (s : Text) : Except Fault α := do
  let (value, rest) ← record.readValue s
  if skipSpace rest = [] then return value else throw .malformed

end RecordReader

end Calculator.Json
