import Calculator.Text.Code

/-!
# JSON: blanks, words and strings

The readers of this folder take the front of a text and give back what they read and the rest. A
reader that fails says which of three things is wrong: the text breaks the grammar, it has a value
of another kind than the one asked for, or it ends too early. The first fault from the left is the
one reported.

A string that is read for its value must be well formed to the last character: no raw control
characters, no unknown escapes, and surrogates only in pairs. `skipString` passes over a string
whose value nobody asks for; it checks the form of each escape, not what the escape stands for.
-/

namespace Calculator.Json

/-- What is wrong with a JSON text. -/
inductive Fault
  | malformed
  | mistyped
  | truncated
  deriving DecidableEq, Repr

/-! ## Blanks and words -/

/-- The four characters that may stand between the pieces of a JSON text. -/
def isSpace (c : Char) : Bool := c = ' ' || c = '\t' || c = '\n' || c = '\r'

/-- The text from its first character that is no space. -/
def skipSpace (s : Text) : Text := s.dropWhile isSpace

/-- Reads the characters of `word`. -/
def expect : Text → Text → Except Fault Text
  | [], s => .ok s
  | _ :: _, [] => .error .truncated
  | w :: word, c :: s => if c = w then expect word s else .error .malformed

/-! ## Escapes -/

/-- Reads four hexadecimal digits. They are four bytes of the text: a rest that is shorter in bytes
is truncated, one that is not has something else among them. -/
def readUnit : Text → Except Fault (Nat × Text)
  | a :: b :: c :: d :: s =>
    match Text.hexadecimal? [a, b, c, d] with
    | some u => .ok (u, s)
    | none => .error .malformed
  | s => if Text.byteSize s < 4 then .error .truncated else .error .malformed

/-- The unit is the first half of a surrogate pair. -/
def isHighSurrogate (u : Nat) : Bool := 0xD800 ≤ u && u ≤ 0xDBFF

/-- The unit is the second half of a surrogate pair. -/
def isLowSurrogate (u : Nat) : Bool := 0xDC00 ≤ u && u ≤ 0xDFFF

/-- Reads the second half of a surrogate pair, an escape of its own. -/
def readLowSurrogate : Text → Except Fault (Nat × Text)
  | [] => .error .truncated
  | c :: s =>
    if c = '\\' then
      match s with
      | [] => .error .truncated
      | 'u' :: s =>
        match readUnit s with
        | .error e => .error e
        | .ok (u, s) => if isLowSurrogate u then .ok (u, s) else .error .malformed
      | _ => .error .malformed
    else .error .malformed

/-- Reads the character of an escape from behind its backslash and `u`. -/
def readCodePoint (s : Text) : Except Fault (Char × Text) :=
  match readUnit s with
  | .error e => .error e
  | .ok (u, s) =>
    if isLowSurrogate u then .error .malformed
    else if isHighSurrogate u then
      match readLowSurrogate s with
      | .error e => .error e
      | .ok (v, s) => .ok (Char.ofNat ((u - 0xD800) * 0x400 + (v - 0xDC00) + 0x10000), s)
    else .ok (Char.ofNat u, s)

/-- The character that a one-letter escape stands for. -/
def shortEscape? (c : Char) : Option Char :=
  if c = '"' ∨ c = '\\' ∨ c = '/' then some c
  else if c = 'b' then some '\x08'
  else if c = 'f' then some '\x0c'
  else if c = 'n' then some '\n'
  else if c = 'r' then some '\r'
  else if c = 't' then some '\t'
  else none

/-- Reads an escape from behind its backslash. -/
def readEscape : Text → Except Fault (Char × Text)
  | [] => .error .truncated
  | c :: s =>
    if c = 'u' then readCodePoint s
    else
      match shortEscape? c with
      | some d => .ok (d, s)
      | none => .error .malformed

theorem length_lt_of_readUnit {s r : Text} {u : Nat} (h : readUnit s = .ok (u, r)) :
    r.length < s.length := by
  unfold readUnit at h
  split at h
  · split at h
    · simp only [Except.ok.injEq, Prod.mk.injEq] at h
      simp only [List.length_cons, ← h.2]
      omega
    · simp at h
  · split at h <;> simp at h

theorem length_lt_of_readLowSurrogate {s r : Text} {u : Nat}
    (h : readLowSurrogate s = .ok (u, r)) : r.length < s.length := by
  unfold readLowSurrogate at h
  grind [→ length_lt_of_readUnit]

theorem length_lt_of_readCodePoint {s r : Text} {c : Char} (h : readCodePoint s = .ok (c, r)) :
    r.length < s.length := by
  unfold readCodePoint at h
  grind [→ length_lt_of_readUnit, → length_lt_of_readLowSurrogate]

theorem length_lt_of_readEscape {s r : Text} {c : Char} (h : readEscape s = .ok (c, r)) :
    r.length < s.length := by
  unfold readEscape at h
  grind [→ length_lt_of_readCodePoint]

/-! ## Strings -/

/-- A control character, which a string may hold as an escape only. -/
def isControl (c : Char) : Bool := c.toNat < 0x20

/-- Reads a string from behind its opening quote to its closing one. -/
def readString (s : Text) : Except Fault (Text × Text) :=
  match s with
  | [] => .error .truncated
  | c :: s =>
    if c = '"' then .ok ([], s)
    else if c = '\\' then
      match _h : readEscape s with
      | .error e => .error e
      | .ok (d, r) => (readString r).map fun (t, rest) => (d :: t, rest)
    else if isControl c then .error .malformed
    else (readString s).map fun (t, rest) => (c :: t, rest)
termination_by s.length
decreasing_by
  all_goals simp only [List.length_cons]
  · have := length_lt_of_readEscape _h
    omega
  · omega

theorem exists_of_map_eq_ok {α β ε : Type} {f : α → β} {x : Except ε α} {b : β}
    (h : x.map f = .ok b) : ∃ a, x = .ok a ∧ f a = b := by
  cases x with
  | error e => simp [Except.map] at h
  | ok a => exact ⟨a, rfl, by simpa [Except.map] using h⟩

/-- Passes over an escape from behind its backslash. -/
def skipEscape : Text → Except Fault Text
  | [] => .error .truncated
  | c :: s =>
    if c = 'u' then (readUnit s).map Prod.snd
    else if (shortEscape? c).isSome then .ok s
    else .error .malformed

theorem length_lt_of_skipEscape {s r : Text} (h : skipEscape s = .ok r) :
    r.length < s.length := by
  unfold skipEscape at h
  split at h
  · simp at h
  · split at h
    · obtain ⟨⟨u, t⟩, hu, rfl⟩ := exists_of_map_eq_ok h
      have := length_lt_of_readUnit hu
      simp only [List.length_cons]
      omega
    · split at h <;> simp_all

/-- Passes over a string from behind its opening quote. -/
def skipString (s : Text) : Except Fault Text :=
  match s with
  | [] => .error .truncated
  | c :: s =>
    if c = '"' then .ok s
    else if c = '\\' then
      match _h : skipEscape s with
      | .error e => .error e
      | .ok r => skipString r
    else if isControl c then .error .malformed
    else skipString s
termination_by s.length
decreasing_by
  all_goals simp only [List.length_cons]
  · have := length_lt_of_skipEscape _h
    omega
  · omega

end Calculator.Json
