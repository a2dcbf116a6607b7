import Calculator.Text.Blank

/-!
# Codes and bytes of characters

A character may be named by its code in hexadecimal digits of either case.

In UTF-8 the code of a character takes one to four bytes. A cut of a text is given by the number of
bytes in front of it, and there is none inside a character or behind the end of the text.

* `splitBytes?_byteSize`: the cut at the size of a first part gives back the two parts.
* `eq_append_of_splitBytes?`: a cut loses nothing, and its first part has the wanted size.
* `slice?_append`: the piece between the sizes of two first parts is what the second one adds.
-/

namespace Calculator.Text

/-! ## Hexadecimal digits -/

/-- The value of a hexadecimal digit of either case. -/
def hexValue? (c : Char) : Option Nat :=
  if '0' ≤ c ∧ c ≤ '9' then some (c.toNat - 48)
  else if 'a' ≤ c ∧ c ≤ 'f' then some (c.toNat - 87)
  else if 'A' ≤ c ∧ c ≤ 'F' then some (c.toNat - 55)
  else none

/-- The number that hexadecimal digits write; none if one of the characters is no digit. -/
def hexadecimal? (digits : Text) : Option Nat :=
  (digits.mapM hexValue?).map fun values => values.foldl (fun n d => 16 * n + d) 0

/-- The character whose code is a hexadecimal number. -/
def codePoint? (digits : Text) : Option Char := do
  let code ← hexadecimal? digits
  if code.isValidChar then some (Char.ofNat code) else none

/-! ## Bytes -/

/-- The number of bytes of a text. -/
def byteSize : Text → Nat
  | [] => 0
  | c :: s => c.utf8Size + byteSize s

@[simp] theorem byteSize_nil : byteSize [] = 0 := rfl

@[simp] theorem byteSize_cons (c : Char) (s : Text) :
    byteSize (c :: s) = c.utf8Size + byteSize s := rfl

@[simp] theorem byteSize_append (s t : Text) : byteSize (s ++ t) = byteSize s + byteSize t := by
  induction s with
  | nil => simp
  | cons c s ih => simp only [List.cons_append, byteSize_cons, ih, Nat.add_assoc]

@[simp] theorem byteSize_eq_zero {s : Text} : byteSize s = 0 ↔ s = [] := by
  cases s with
  | nil => simp
  | cons c s =>
    have hpos := c.utf8Size_pos
    simp only [byteSize_cons, reduceCtorEq, iff_false]
    omega

/-- The two parts of a text that is cut behind its first `n` bytes. -/
def splitBytes? : Nat → Text → Option (Text × Text)
  | 0, s => some ([], s)
  | _ + 1, [] => none
  | n + 1, c :: s =>
    if c.utf8Size ≤ n + 1 then
      (splitBytes? (n + 1 - c.utf8Size) s).map fun (front, rest) => (c :: front, rest)
    else none

theorem splitBytes?_byteSize (s t : Text) : splitBytes? (byteSize s) (s ++ t) = some (s, t) := by
  induction s with
  | nil => simp [splitBytes?]
  | cons c s ih =>
    obtain ⟨n, hn⟩ : ∃ n, byteSize (c :: s) = n + 1 :=
      ⟨_, (Nat.succ_pred_eq_of_pos (by have := c.utf8Size_pos; simp; omega)).symm⟩
    rw [hn, List.cons_append, splitBytes?, ← hn, if_pos (by simp), byteSize_cons,
      Nat.add_sub_cancel_left, ih]
    rfl

theorem eq_append_of_splitBytes? {n : Nat} {s front rest : Text}
    (h : splitBytes? n s = some (front, rest)) : s = front ++ rest ∧ byteSize front = n := by
  fun_induction splitBytes? n s generalizing front rest with
  | case1 s =>
    obtain ⟨rfl, rfl⟩ := by simpa using h
    simp
  | case2 => simp at h
  | case3 n c s hc ih =>
    obtain ⟨⟨u, v⟩, huv, he⟩ := Option.map_eq_some_iff.1 h
    obtain ⟨rfl, rfl⟩ := by simpa using he
    obtain ⟨rfl, hu⟩ := ih huv
    simp only [List.cons_append, byteSize_cons, hu, true_and]
    omega
  | case4 => simp at h

/-- The piece of a text between two cuts. -/
def slice? (start stop : Nat) (s : Text) : Option Text := do
  let (front, _) ← splitBytes? stop s
  let (_, piece) ← splitBytes? start front
  return piece

theorem slice?_append (s t u : Text) :
    slice? (byteSize s) (byteSize (s ++ t)) (s ++ t ++ u) = some t := by
  simp only [slice?, splitBytes?_byteSize, bind, Option.bind, pure]

/-- A piece up to the end is what a cut leaves. -/
theorem eq_append_of_slice? {n : Nat} {s t : Text} (h : slice? n (byteSize s) s = some t) :
    ∃ front, s = front ++ t ∧ byteSize front = n := by
  have hwhole : splitBytes? (byteSize s) s = some (s, []) := by
    simpa using splitBytes?_byteSize s []
  simp only [slice?, hwhole, bind, Option.bind, pure] at h
  cases hcut : splitBytes? n s with
  | none => simp [hcut] at h
  | some parts =>
    obtain ⟨front, rest⟩ := parts
    obtain rfl : rest = t := by simpa [hcut] using h
    exact ⟨front, eq_append_of_splitBytes? hcut⟩

end Calculator.Text
