import Calculator.Envelope.Reader
import Calculator.Proofs.JsonText
import Mathlib.Data.List.DropRight

/-!
# Records read back

A record is written on one line or with one member a line. The two texts differ in their spaces
only, and so both are one text with a `Layout`.

**Theorem (`parse_object`).** Whatever the layout, a reader of records finds in the text what its
fields read in the members one after the other (`Fills`).

A field that holds a string or nothing is read wherever it stands, because the text of a string ends
with its own quote. So a request comes back from its text (`Request.parse_compact`), and so does a
response without a value (`Response.parse_object`).

**Theorem (`parse_written`).** Every request survives its text, and every response without a value
survives both of its texts, the one that a command prints and the one that the panel shows.
-/

namespace Calculator.Json

/-! ## Layouts -/

/-- The spaces in front of a member, between its name and its value, and behind the last member. -/
structure Layout where
  before : Text
  between : Text
  closing : Text
  isSpace_before : ∀ c ∈ before, isSpace c = true
  isSpace_between : ∀ c ∈ between, isSpace c = true
  isSpace_closing : ∀ c ∈ closing, isSpace c = true

namespace Layout

/-- No space at all. -/
def line : Layout := ⟨[], [], [], by simp, by simp, by simp⟩

/-- One member a line. -/
def indented : Layout :=
  ⟨"\n  ".toList, [' '], ['\n'], by simp [isSpace], by simp [isSpace], by simp [isSpace]⟩

variable (l : Layout)

/-- The text of a member. -/
def member (m : Text × Scalar) : Text :=
  l.before ++ (quote m.1 ++ ':' :: (l.between ++ m.2.write))

/-- The text from behind a member on, when the given ones follow it. -/
def further : List (Text × Scalar) → Text
  | [] => l.closing ++ ['\x7d']
  | m :: members => ',' :: (l.member m ++ further members)

/-- The text of an object. -/
def object : List (Text × Scalar) → Text
  | [] => '\x7b' :: l.further []
  | m :: members => '\x7b' :: (l.member m ++ l.further members)

theorem intercalate_member (m : Text × Scalar) (members : List (Text × Scalar)) :
    [','].intercalate ((m :: members).map l.member) ++ (l.closing ++ ['\x7d']) =
      l.member m ++ l.further members := by
  induction members generalizing m with
  | nil =>
    rw [List.map_singleton, List.intercalate_singleton]
    rfl
  | cons n members ih =>
    have ih := ih n
    rw [List.map_cons] at ih
    rw [List.map_cons, List.map_cons, List.intercalate_cons_cons, List.append_assoc,
      List.append_assoc, ih]
    rfl

/-- A record is written on one line, or one member a line. -/
theorem object_eq (members : List (Text × Scalar)) :
    l.object members =
      '\x7b' :: ([','].intercalate (members.map l.member) ++ (l.closing ++ ['\x7d'])) := by
  cases members with
  | nil => rfl
  | cons m members => rw [intercalate_member, object]

end Layout

theorem compact_eq (members : List (Text × Scalar)) :
    compact members = Layout.line.object members := by
  rw [Layout.object_eq]
  rfl

theorem pretty_eq (members : List (Text × Scalar)) :
    pretty members = Layout.indented.object members := by
  have hmember : (fun m : Text × Scalar =>
      "\n  ".toList ++ quote m.1 ++ ": ".toList ++ m.2.write) = Layout.indented.member := by
    funext m
    simp [Layout.member, Layout.indented]
  rw [Layout.object_eq, pretty, ← hmember]
  rfl

/-! ## Reading back -/

variable {δ α : Type}

theorem skipSpace_append {gap : Text} (h : ∀ c ∈ gap, isSpace c = true) (s : Text) :
    skipSpace (gap ++ s) = skipSpace s :=
  List.dropWhile_append_of_pos h

theorem skipSpace_cons {c : Char} (h : isSpace c = false) (s : Text) :
    skipSpace (c :: s) = c :: s :=
  List.dropWhile_cons_of_neg (by simp [h])

/-- The reader finds `a` wherever the scalar is written, behind spaces or not. -/
def ReadsAs (read : Text → Except Fault (α × Text)) (value : Scalar) (a : α) : Prop :=
  ∀ gap rest, (∀ c ∈ gap, isSpace c = true) → read (gap ++ (value.write ++ rest)) = .ok (a, rest)

theorem readsAs_null (read : Text → Except Fault (α × Text)) :
    ReadsAs (optional read) .null none := by
  intro gap rest hgap
  have hskip : skipSpace (gap ++ (Scalar.null.write ++ rest)) = 'n' :: ("ull".toList ++ rest) := by
    rw [skipSpace_append hgap]
    exact skipSpace_cons rfl _
  rw [optional, hskip]
  rfl

theorem readString_quote_append (s rest : Text) :
    ∃ r, quote s ++ rest = '"' :: r ∧ readString r = .ok (s, rest) := by
  refine ⟨s.flatMap escape ++ '"' :: rest, ?_, readString_flatMap_escape s rest⟩
  rw [quote, List.cons_append, List.append_assoc, List.singleton_append]

theorem readsAs_string (s : Text) : ReadsAs (optional stringValue) (.string s) (some s) := by
  intro gap rest hgap
  obtain ⟨r, hr, hread⟩ := readString_quote_append s rest
  have hskip : skipSpace (gap ++ ((Scalar.string s).write ++ rest)) = '"' :: r := by
    rw [skipSpace_append hgap, Scalar.write, hr]
    exact skipSpace_cons rfl _
  have hvalue : stringValue ('"' :: r) = .ok (s, rest) := by
    rw [stringValue, skipSpace_cons rfl]
    exact hread
  rw [optional, hskip]
  dsimp only
  rw [if_neg (by decide), hvalue]
  rfl

theorem readsAs_ofOption_string (v : Option Text) :
    ReadsAs (optional stringValue) (.ofOption .string v) v := by
  cases v with
  | none => exact readsAs_null stringValue
  | some s => exact readsAs_string s

/-- Reading the members one after the other takes one draft to another. -/
inductive Fills (fields : List (RecordField δ)) : δ → List (Text × Scalar) → δ → Prop
  | nil (d : δ) : Fills fields d [] d
  | cons {d d' d'' : δ} {m : Text × Scalar} {members : List (Text × Scalar)}
      (field : RecordField δ) (hfind : fields.find? (·.name = m.1) = some field)
      (hset : field.isSet d = false) (hread : ReadsAs (field.read d) m.2 d')
      (h : Fills fields d' members d'') : Fills fields d (m :: members) d''

namespace RecordReader

variable {fields : List (RecordField δ)} {d d' : δ} {members : List (Text × Scalar)}

theorem memberName_quote {gap : Text} (hgap : ∀ c ∈ gap, isSpace c = true) (name rest : Text) :
    memberName (gap ++ (quote name ++ rest)) = .ok (name, rest) := by
  obtain ⟨r, hr, hread⟩ := readString_quote_append name rest
  rw [memberName, skipSpace_append hgap, hr, skipSpace_cons rfl]
  exact hread

theorem readMember_member (l : Layout) {m : Text × Scalar} {field : RecordField δ}
    (hfind : fields.find? (·.name = m.1) = some field) (hset : field.isSet d = false)
    (hread : ReadsAs (field.read d) m.2 d') (rest : Text) :
    readMember fields d (l.member m ++ rest) = .ok (d', rest) := by
  have hname : memberName (l.member m ++ rest) =
      .ok (m.1, ':' :: (l.between ++ (m.2.write ++ rest))) := by
    rw [← memberName_quote l.isSpace_before, Layout.member]
    simp only [List.append_assoc, List.cons_append]
  have hcolon : colon (':' :: (l.between ++ (m.2.write ++ rest))) =
      .ok (l.between ++ (m.2.write ++ rest)) := by
    rw [colon, skipSpace_cons rfl]
    rfl
  have hvalue := hread l.between rest l.isSpace_between
  simp only [readMember, hname, bind, Except.bind, hfind, hset, Bool.false_eq_true, if_false,
    hcolon, hvalue]

/-- The text of a member begins, behind its spaces, with neither a bracket nor a comma. -/
theorem skipSpace_member (l : Layout) (m : Text × Scalar) (rest : Text) :
    ∃ r, skipSpace (l.member m ++ rest) = '"' :: r := by
  obtain ⟨r, hr, -⟩ := readString_quote_append m.1 (':' :: (l.between ++ m.2.write) ++ rest)
  refine ⟨r, ?_⟩
  have hquote : l.member m ++ rest = l.before ++ '"' :: r := by
    rw [← hr, Layout.member]
    simp only [List.append_assoc, List.cons_append]
  rw [hquote, skipSpace_append l.isSpace_before, skipSpace_cons rfl]

theorem readMembers_further (l : Layout) (h : Fills fields d members d') {fuel : Nat}
    (hfuel : members.length < fuel) (rest : Text) :
    readMembers fields false fuel d (l.further members ++ rest) = .ok (d', rest) := by
  induction h generalizing fuel with
  | nil d =>
    obtain ⟨fuel, rfl⟩ : ∃ n, fuel = n + 1 := ⟨fuel - 1, by omega⟩
    have hskip : skipSpace (l.further [] ++ rest) = '\x7d' :: rest := by
      rw [Layout.further, List.append_assoc, skipSpace_append l.isSpace_closing]
      exact skipSpace_cons rfl _
    rw [readMembers, hskip]
    rfl
  | @cons d d₁ d' m members field hfind hset hread h ih =>
    rw [List.length_cons] at hfuel
    obtain ⟨fuel, rfl⟩ : ∃ n, fuel = n + 1 := ⟨fuel - 1, by omega⟩
    have hmember := readMember_member l hfind hset hread (l.further members ++ rest)
    have hskip : skipSpace (l.further (m :: members) ++ rest) =
        ',' :: (l.member m ++ (l.further members ++ rest)) := by
      rw [Layout.further, List.cons_append, List.append_assoc]
      exact skipSpace_cons rfl _
    rw [readMembers, hskip]
    dsimp only
    rw [if_neg (by decide), if_neg (by decide), if_pos rfl]
    simp only [bind, Except.bind, hmember]
    exact ih (by omega)

/-- A member is read behind its spaces just as well. -/
theorem readMember_skipSpace (s : Text) :
    readMember fields d (skipSpace s) = readMember fields d s := by
  have hskip : skipSpace (skipSpace s) = skipSpace s := List.dropWhile_idempotent ..
  have hname : memberName (skipSpace s) = memberName s := by
    rw [memberName, hskip, memberName]
  rw [readMember, readMember, hname]

theorem readMembers_member (l : Layout) {m : Text × Scalar}
    (h : Fills fields d (m :: members) d') {fuel : Nat} (hfuel : members.length < fuel)
    (rest : Text) :
    readMembers fields true (fuel + 1) d (l.member m ++ (l.further members ++ rest)) =
      .ok (d', rest) := by
  cases h with
  | @cons _ d₁ _ _ _ field hfind hset hread h =>
    have hmember := readMember_member l hfind hset hread (l.further members ++ rest)
    obtain ⟨r, hr⟩ := skipSpace_member l m (l.further members ++ rest)
    rw [← readMember_skipSpace, hr] at hmember
    rw [readMembers, hr]
    dsimp only
    rw [if_neg (by decide), if_pos rfl]
    simp only [bind, Except.bind, hmember]
    exact readMembers_further l h hfuel rest

/-- The text is long enough to serve as fuel. -/
theorem length_lt_member (l : Layout) (m : Text × Scalar) (members : List (Text × Scalar)) :
    members.length < (l.member m ++ l.further members).length := by
  have hfurther : members.length ≤ (l.further members).length := by
    induction members with
    | nil => exact Nat.zero_le _
    | cons m members ih =>
      rw [Layout.further, List.length_cons, List.length_cons, List.length_append]
      omega
  simp only [Layout.member, List.length_append, List.length_cons]
  omega

/-- A record that was written, in whatever layout, is read back from what its members fill in. -/
theorem parse_object {record : RecordReader δ α} (l : Layout) {m : Text × Scalar} {d : δ} {a : α}
    (h : Fills record.fields record.blank (m :: members) d) (ha : record.complete d = .ok a) :
    record.parse (l.object (m :: members)) = .ok a := by
  have hmembers := readMembers_member l h (length_lt_member l m members) []
  rw [List.append_nil] at hmembers
  have hvalue : record.readValue (l.object (m :: members)) = .ok (a, []) := by
    rw [readValue, Layout.object, skipSpace_cons rfl]
    dsimp only
    rw [if_neg (by decide), if_pos rfl, hmembers]
    simp only [bind, Except.bind, ha, pure, Except.pure]
  rw [parse, hvalue]
  rfl

end RecordReader

end Calculator.Json

namespace Calculator

/-! ## Requests and responses -/

open Json

theorem Request.parse_compact (r : Request) : Request.parse r.compact = .ok r := by
  have hfills : Fills Request.reader.fields Request.reader.blank
      [("expression".toList, .ofOption .string r.expression)] (some r.expression) := by
    refine .cons expressionField rfl rfl ?_ (.nil _)
    intro gap rest hgap
    show (optional stringValue _).map _ = _
    rw [readsAs_ofOption_string r.expression gap rest hgap]
    rfl
  rw [Request.compact, compact_eq]
  exact RecordReader.parse_object Layout.line hfills rfl

theorem readsAs_status (s : Status) : ReadsAs Status.read (.string s.name) s := by
  intro gap rest hgap
  obtain ⟨r, hr, hread⟩ := readString_quote_append s.name rest
  have hname : Status.ofName s.name = .ok s := by
    cases s <;> rfl
  rw [Status.read, skipSpace_append hgap, Scalar.write, hr, skipSpace_cons rfl]
  dsimp only
  rw [if_pos rfl, hread]
  simp only [bind, Except.bind, hname, pure, Except.pure]

/-- A response without a value is read back from its text. -/
theorem Response.parse_object (l : Layout) {r : Response} (hr : r.result = none) :
    Response.parse (l.object r.members) = .ok r := by
  obtain ⟨status, result, error⟩ := r
  cases hr
  have hfills : Fills Response.reader.fields Response.reader.blank
      (Response.members ⟨status, none, error⟩) ⟨some status, some none, some error⟩ := by
    have hstatus : ReadsAs (statusField.read ⟨none, none, none⟩) (.string status.name)
        ⟨some status, none, none⟩ := by
      intro gap rest hgap
      show (Status.read _).map _ = _
      rw [readsAs_status status gap rest hgap]
      rfl
    have hresult : ReadsAs (resultField.read ⟨some status, none, none⟩) .null
        ⟨some status, some none, none⟩ := by
      intro gap rest hgap
      show (optional numberValue _).map _ = _
      rw [readsAs_null numberValue gap rest hgap]
      rfl
    have herror : ReadsAs (errorField.read ⟨some status, some none, none⟩)
        (.ofOption .string error) ⟨some status, some none, some error⟩ := by
      intro gap rest hgap
      show (optional stringValue _).map _ = _
      rw [readsAs_ofOption_string error gap rest hgap]
      rfl
    exact .cons statusField rfl rfl hstatus
      (.cons resultField rfl rfl hresult (.cons errorField rfl rfl herror (.nil _)))
  exact RecordReader.parse_object l hfills rfl

theorem Response.parse_compact {r : Response} (hr : r.result = none) :
    Response.parse r.compact = .ok r := by
  rw [Response.compact, Json.compact_eq]
  exact Response.parse_object Layout.line hr

theorem Response.parse_pretty {r : Response} (hr : r.result = none) :
    Response.parse r.pretty = .ok r := by
  rw [Response.pretty, Json.pretty_eq]
  exact Response.parse_object Layout.indented hr

/-- What is written is read back: every request, with any text or none, and every response without a
value, on one line or with one member a line. Its code comes back with it. -/
theorem parse_written :
    (∀ request : Request, Request.parse request.compact = .ok request) ∧
      ∀ (status : Status) (error : Option Text),
        let r : Response := ⟨status, none, error⟩
        Response.parse r.compact = .ok r ∧ Response.parse r.pretty = .ok r ∧
          (Response.parse r.compact).map Response.code = .ok r.code ∧
          (Response.parse r.pretty).map Response.code = .ok r.code := by
  refine ⟨Request.parse_compact, fun status error => ?_⟩
  intro r
  have hcompact : Response.parse r.compact = .ok r := Response.parse_compact rfl
  have hpretty : Response.parse r.pretty = .ok r := Response.parse_pretty rfl
  refine ⟨hcompact, hpretty, ?_, ?_⟩
  · rw [hcompact]
    rfl
  · rw [hpretty]
    rfl

end Calculator
