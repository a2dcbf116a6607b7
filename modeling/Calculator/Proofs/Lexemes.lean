import Calculator.Proofs.Lexing

/-!
# Lexemes

**Theorem (`exists_cut_lexed`).** Every text falls into lexemes in exactly one way, and is
read lexeme by lexeme: as their tokens if each of them is one, and otherwise with the fault of the
first that is none.

A lexeme is as long as it can be. Digits and points make one *stretch*, together with a minus in
front that stands at the start of the text or behind an opening parenthesis. A minus that stands
there with no digit or point behind it is a lexeme of its own, and so is every other character.
`Cut` is this rule as a relation between a text and its lexemes; it knows nothing of pending
literals. What a lexeme has to look like to be a token (`Lexeme.WellFormed`), which token it is
(`Lexeme.Reads`) and what is wrong with it otherwise (`Lexeme.fault`) is decided by the lexeme
alone.

The numbers of a text come from its stretches, and two stretches never touch. So no two numbers are
next to each other, and the reader of numbers sees stretches and the lone minus only: it may be
replaced by any other that treats these alike (`scanWith_eq`).
-/

namespace Calculator

open Token (EndsLiteral)

/-! ## The cut -/

/-- A piece that a text is cut into. -/
inductive Lexeme
  | stretch (r : Stretch)
  | loneMinus
  | single (c : Char)

/-- The text of a lexeme. -/
def Lexeme.text : Lexeme → Text
  | stretch r => r.text
  | loneMinus => ['-']
  | single c => [c]

/-- `Cut signed s ls`: the text `s` falls into the lexemes `ls`. A minus at its start may be a sign
if `signed` says so. -/
inductive Cut : Bool → Text → List Lexeme → Prop
  | nil {signed : Bool} : Cut signed [] []
  | stretch {signed : Bool} {s : Text} {ls : List Lexeme} (r : Stretch)
      (hr : r.negative = true → signed = true) (hs : EndsLiteral s) (h : Cut false s ls) :
      Cut signed (r.text ++ s) (.stretch r :: ls)
  | loneMinus {s : Text} {ls : List Lexeme} (hs : EndsLiteral s) (h : Cut false s ls) :
      Cut true ('-' :: s) (.loneMinus :: ls)
  | single {signed : Bool} {c : Char} {s : Text} {ls : List Lexeme}
      (hc : Literal.isBody c = false) (hm : c = '-' → signed = false)
      (h : Cut (decide (c = '(')) s ls) : Cut signed (c :: s) (.single c :: ls)

variable {signed : Bool} {s : Text} {ls : List Lexeme} {l : Lexeme} {r q : Stretch}

theorem Cut.flatMap_text (h : Cut signed s ls) : ls.flatMap Lexeme.text = s := by
  induction h with
  | nil => rfl
  | stretch r _ _ _ ih => rw [List.flatMap_cons, ih]; rfl
  | loneMinus _ _ ih => rw [List.flatMap_cons, ih]; rfl
  | single _ _ _ ih => rw [List.flatMap_cons, ih]; rfl

/-- Digits and points are taken up to where they end. -/
theorem takeWhile_body {body : Text} (hbody : ∀ c ∈ body, Literal.isBody c = true)
    (hs : EndsLiteral s) :
    (body ++ s).takeWhile Literal.isBody = body ∧ (body ++ s).dropWhile Literal.isBody = s := by
  rw [List.takeWhile_append_of_pos hbody, List.dropWhile_append_of_pos hbody]
  cases s with
  | nil => simp
  | cons c s => simp [hs c rfl]

/-- The stretch that a text begins with, behind a minus or not. -/
def stretchOf (negative : Bool) (s : Text) (h : s.takeWhile Literal.isBody ≠ []) : Stretch :=
  ⟨negative, s.takeWhile Literal.isBody, h, fun _ => List.mem_takeWhile_imp⟩

theorem stretchOf_append (negative : Bool) (h : s.takeWhile Literal.isBody ≠ []) :
    (stretchOf negative s h).text ++ s.dropWhile Literal.isBody =
      if negative then '-' :: s else s := by
  have hsplit : s.takeWhile Literal.isBody ++ s.dropWhile Literal.isBody = s :=
    List.takeWhile_append_dropWhile
  cases negative with
  | false => exact hsplit
  | true => exact congrArg ('-' :: ·) hsplit

/-- The lexemes of a text. -/
def lexemes (signed : Bool) : Text → List Lexeme
  | [] => []
  | c :: s =>
    if hc : Literal.isBody c = true then
      .stretch (stretchOf false (c :: s) (by simp [List.takeWhile_cons_of_pos hc])) ::
        lexemes false (s.dropWhile Literal.isBody)
    else if c = '-' ∧ signed = true then
      if h : s.takeWhile Literal.isBody = [] then .loneMinus :: lexemes false s
      else .stretch (stretchOf true s h) :: lexemes false (s.dropWhile Literal.isBody)
    else .single c :: lexemes (decide (c = '(')) s
termination_by s => s.length
decreasing_by
  all_goals
    have := List.length_dropWhile_le Literal.isBody s
    simp only [List.length_cons]
    omega

/-- Every text can be cut. -/
theorem cut_lexemes (signed : Bool) (s : Text) : Cut signed s (lexemes signed s) := by
  fun_induction lexemes signed s with
  | case1 => exact .nil
  | case2 signed c s hc ih =>
    rw [← List.dropWhile_cons_of_pos hc] at ih
    have hcut : Cut signed _ _ := .stretch
      (stretchOf false (c :: s) (by simp [List.takeWhile_cons_of_pos hc])) (by simp [stretchOf])
      (Token.endsLiteral_dropWhile (c :: s)) ih
    rwa [stretchOf_append, List.dropWhile_cons_of_pos hc] at hcut
  | case3 signed c s _ hsign hbody ih =>
    obtain ⟨rfl, rfl⟩ := hsign
    have hends := Token.endsLiteral_dropWhile s
    rw [← List.takeWhile_append_dropWhile (p := Literal.isBody) (l := s), hbody] at ih ⊢
    exact .loneMinus hends ih
  | case4 signed c s _ hsign hbody ih =>
    obtain ⟨rfl, rfl⟩ := hsign
    have hcut := Cut.stretch (stretchOf true s hbody) (fun _ => rfl)
      (Token.endsLiteral_dropWhile s) ih
    rwa [stretchOf_append] at hcut
  | case5 signed c s hc hsign ih =>
    exact .single (by simpa using hc) (fun hm => by simpa [hm] using hsign) ih

/-- A stretch that is as long as it can be is the first lexeme. -/
theorem lexemes_stretch (r : Stretch) (hr : r.negative = true → signed = true)
    (hs : EndsLiteral s) : lexemes signed (r.text ++ s) = .stretch r :: lexemes false s := by
  obtain ⟨negative, body, hne, hbody⟩ := r
  obtain ⟨htake, hdrop⟩ := takeWhile_body hbody hs
  have hfront : (body ++ s).takeWhile Literal.isBody ≠ [] := by rwa [htake]
  cases negative with
  | true =>
    show lexemes signed ('-' :: (body ++ s)) = _
    rw [lexemes, dif_neg (by decide), if_pos ⟨rfl, hr rfl⟩, dif_neg hfront, hdrop]
    simp only [stretchOf, htake]
  | false =>
    obtain ⟨c, body, rfl⟩ := List.exists_cons_of_ne_nil hne
    have hc := hbody c (by simp)
    show lexemes signed (c :: (body ++ s)) = _
    rw [List.cons_append] at htake
    rw [List.cons_append, List.dropWhile_cons_of_pos hc] at hdrop
    rw [lexemes, dif_pos hc, hdrop]
    simp only [stretchOf, htake]

/-- A text can be cut in one way only. -/
theorem Cut.eq_lexemes (h : Cut signed s ls) : ls = lexemes signed s := by
  induction h with
  | nil => rw [lexemes]
  | stretch r hr hs _ ih => rw [lexemes_stretch r hr hs, ih]
  | @loneMinus s ls hs _ ih =>
    have hnil : ∀ c ∈ ([] : Text), Literal.isBody c = true := by simp
    have htake : s.takeWhile Literal.isBody = [] := (takeWhile_body hnil hs).1
    rw [lexemes, dif_neg (by decide), if_pos ⟨rfl, rfl⟩, dif_pos htake, ih]
  | @single signed c s ls hc hm _ ih =>
    have hsign : ¬(c = '-' ∧ signed = true) := by
      rintro ⟨hminus, hsigned⟩
      simp [hm hminus] at hsigned
    rw [lexemes, dif_neg (by simp [hc]), if_neg hsign, ih]

theorem lexemes_text (r : Stretch) : lexemes true r.text = [.stretch r] := by
  have h : lexemes true (r.text ++ []) = _ :=
    lexemes_stretch r (fun _ => rfl) Token.endsLiteral_nil
  rwa [List.append_nil, lexemes] at h

theorem Stretch.text_inj (h : r.text = q.text) : r = q := by
  have hr := lexemes_text r
  rw [h, lexemes_text] at hr
  exact (Lexeme.stretch.inj (List.cons.inj hr).1).symm

theorem Stretch.text_ne_nil (r : Stretch) : r.text ≠ [] := by
  intro h
  have hr := lexemes_text r
  rw [h, lexemes] at hr
  cases hr

theorem Stretch.text_ne_minus (r : Stretch) : r.text ≠ ['-'] := by
  intro h
  have hr := lexemes_text r
  rw [h, ← Cut.eq_lexemes (.loneMinus Token.endsLiteral_nil .nil)] at hr
  cases hr

/-! ## What a lexeme reads as -/

/-- The lexeme is a token: a stretch with one point at most and a digit, or the character of an
operator or of a parenthesis. -/
def Lexeme.WellFormed : Lexeme → Prop
  | stretch r => Literal.IsUnsigned r.body
  | loneMinus => True
  | single c => c ∈ "+-*/()".toList

instance (l : Lexeme) : Decidable l.WellFormed :=
  match l with
  | .stretch r => inferInstanceAs (Decidable (Literal.IsUnsigned r.body))
  | .loneMinus => inferInstanceAs (Decidable True)
  | .single c => inferInstanceAs (Decidable (c ∈ "+-*/()".toList))

/-- `Reads l t`: the lexeme `l` is the token `t`. -/
inductive Lexeme.Reads : Lexeme → Token → Prop
  | literal (l : Literal) : Reads (.stretch l.stretch) (.number l.value)
  | loneMinus : Reads .loneMinus (.operator .minus)
  | operator (op : Operator) : Reads (.single op.symbol) (.operator op)
  | opening : Reads (.single '(') .opening
  | closing : Reads (.single ')') .closing

/-- What is wrong with a lexeme that is no token. -/
def Lexeme.fault : Lexeme → Failure
  | stretch _ | loneMinus => .badFormat
  | single c => .unknownOperator c

/-- The reading of a lexeme. -/
def Lexeme.token : Lexeme → Except Failure Token
  | stretch r =>
    match Literal.read? r.text with
    | some v => .ok (.number v)
    | none => .error .badFormat
  | loneMinus => .ok (.operator .minus)
  | single c => Token.ofChar c

/-- The literals are the stretches that are tokens. -/
theorem Stretch.exists_literal_iff :
    (∃ l : Literal, l.stretch = r) ↔ Literal.IsUnsigned r.body := by
  constructor
  · rintro ⟨l, rfl⟩
    exact l.isUnsigned
  · intro h
    exact ⟨⟨r.negative, r.body, h⟩, rfl⟩

theorem Lexeme.token_eq_ok_iff {t : Token} : l.token = .ok t ↔ l.Reads t := by
  constructor
  · intro h
    cases l with
    | stretch r =>
      simp only [token] at h
      split at h
      · next v hv =>
        obtain ⟨l, hl, rfl⟩ := Literal.exists_text_of_read? hv
        obtain rfl : l.stretch = r := Stretch.text_inj hl
        cases h
        exact .literal l
      · cases h
    | loneMinus =>
      cases h
      exact .loneMinus
    | single c =>
      rcases Token.ofChar_eq_ok h with ⟨rfl, rfl⟩ | ⟨rfl, rfl⟩ | ⟨op, rfl, rfl⟩
      · exact .opening
      · exact .closing
      · exact .operator op
  · intro h
    cases h with
    | literal l => simp only [token, l.text_stretch, l.read?_text]
    | operator op => cases op <;> rfl
    | loneMinus | opening | closing => rfl

theorem Lexeme.exists_reads_iff : (∃ t, l.Reads t) ↔ l.WellFormed := by
  constructor
  · rintro ⟨t, h⟩
    cases h with
    | literal l => exact l.isUnsigned
    | loneMinus => trivial
    | operator op => cases op <;> decide
    | opening | closing => decide
  · intro h
    cases l with
    | stretch r =>
      obtain ⟨l, rfl⟩ := Stretch.exists_literal_iff.2 h
      exact ⟨_, .literal l⟩
    | loneMinus => exact ⟨_, .loneMinus⟩
    | single c =>
      have hc : c = '+' ∨ c = '-' ∨ c = '*' ∨ c = '/' ∨ c = '(' ∨ c = ')' := by
        simpa [WellFormed] using h
      rcases hc with rfl | rfl | rfl | rfl | rfl | rfl
      · exact ⟨_, .operator .plus⟩
      · exact ⟨_, .operator .minus⟩
      · exact ⟨_, .operator .times⟩
      · exact ⟨_, .operator .divide⟩
      · exact ⟨_, .opening⟩
      · exact ⟨_, .closing⟩

theorem Lexeme.token_eq_error_iff {reason : Failure} :
    l.token = .error reason ↔ ¬l.WellFormed ∧ reason = l.fault := by
  have hok : (∃ t, l.token = .ok t) ↔ l.WellFormed := by
    simp only [token_eq_ok_iff, exists_reads_iff]
  have hfault : ∀ reason, l.token = .error reason → reason = l.fault := by
    intro reason h
    cases l with
    | stretch r =>
      simp only [token] at h
      split at h <;> cases h
      rfl
    | loneMinus => cases h
    | single c =>
      simp only [token, Token.ofChar] at h
      split_ifs at h
      split at h <;> cases h
      rfl
  rw [← hok]
  cases ht : l.token with
  | ok t => simp
  | error e => simp [hfault e ht, eq_comm]

/-- If each of these lexemes is a token, together they are a list of tokens, and conversely. -/
theorem exists_forall₂_reads_iff :
    (∃ ts, List.Forall₂ Lexeme.Reads ls ts) ↔ ∀ l ∈ ls, l.WellFormed := by
  induction ls with
  | nil => simp
  | cons l ls ih =>
    rw [List.forall_mem_cons, ← ih, ← Lexeme.exists_reads_iff]
    constructor
    · rintro ⟨_, _ | ⟨ht, hts⟩⟩
      exact ⟨⟨_, ht⟩, _, hts⟩
    · rintro ⟨⟨t, ht⟩, ts, hts⟩
      exact ⟨t :: ts, .cons ht hts⟩

/-! ## Reading lexeme by lexeme -/

theorem Token.scan_of_cut (h : Cut signed s ls) :
    ∀ p, Token.signed p = signed → scan p [] s = ls.mapM Lexeme.token := by
  induction h with
  | nil => intro p _; rfl
  | stretch r hr hs _ ih =>
    intro p hp
    have hof : ofLiteral r.text = (Lexeme.stretch r).token.map ([·]) := by
      rw [ofLiteral, if_neg r.text_ne_nil, if_neg r.text_ne_minus]
      simp only [Lexeme.token]
      cases Literal.read? r.text <;> rfl
    rw [scan_stretch r (by rwa [hp]) hs, hof, ih (some ')') rfl, List.mapM_cons]
    cases (Lexeme.stretch r).token <;> rfl
  | loneMinus hs _ ih =>
    intro p hp
    rw [scan_minus hp hs, ih (some ')') rfl, List.mapM_cons]
    rfl
  | @single signed c s ls hc hm _ ih =>
    intro p hp
    rw [scan_single hc (by rwa [hp]), ih (some c) (by simp [Token.signed]), List.mapM_cons]
    rfl

/-! ## Numbers stay apart -/

namespace Token

variable {ts : List Token}

/-- Where a literal has just ended, no number comes next. -/
theorem head?_ne_number (h : Spells false s ts) (hs : EndsLiteral s) (v : Float) :
    ts.head? ≠ some (number v) := by
  cases h with
  | nil => simp
  | literal l hl =>
    obtain ⟨c, run, htext, hc, -⟩ := l.exists_text_eq_cons
    have hends := hs c (by rw [htext, List.cons_append, List.head?_cons])
    rcases hc with hc | ⟨hn, -⟩
    · simp [hc] at hends
    · exact absurd (hl hn) (by decide)
  | single _ _ ht =>
    rcases ofChar_eq_ok ht with ⟨-, rfl⟩ | ⟨-, rfl⟩ | ⟨op, -, rfl⟩ <;> simp

/-- No two numbers are next to each other. -/
theorem not_infix_of_spells (h : Spells signed s ts) (a b : Float) :
    ¬[number a, number b] <:+: ts := by
  induction h with
  | nil => simp
  | literal l hl hs hspells ih =>
    rw [List.infix_cons_iff, not_or]
    refine ⟨?_, ih⟩
    intro hprefix
    obtain ⟨-, ts, rfl⟩ := List.cons_prefix_cons.1 hprefix
    exact head?_ne_number hspells hs b rfl
  | minus _ _ ih =>
    rw [List.infix_cons_iff, not_or]
    exact ⟨fun hprefix => absurd (List.cons_prefix_cons.1 hprefix).1 (by simp), ih⟩
  | single _ _ ht _ ih =>
    rw [List.infix_cons_iff, not_or]
    refine ⟨?_, ih⟩
    intro hprefix
    have hnumber := (List.cons_prefix_cons.1 hprefix).1
    rcases ofChar_eq_ok ht with ⟨-, rfl⟩ | ⟨-, rfl⟩ | ⟨op, -, rfl⟩ <;> cases hnumber

/-! ## The reader of numbers -/

/-- Digits and points, behind a minus or not: no other character, and no sign inside. -/
def IsPlain (pending : Text) : Prop :=
  ∃ body, (pending = body ∨ pending = '-' :: body) ∧ ∀ c ∈ body, Literal.isBody c = true

/-- The tokens of a gathered literal, its numbers being read by `read`. -/
def ofLiteralWith (read : Text → Option Float) (pending : Text) : Except Failure (List Token) :=
  if pending = [] then .ok []
  else
    match read pending with
    | some v => .ok [number v]
    | none => if pending = ['-'] then .ok [operator .minus] else .error .badFormat

/-- The tokens of a text behind `previous` and a pending literal, its numbers being read by
`read`. -/
def scanWith (read : Text → Option Float) (previous : Option Char) (pending : Text) :
    Text → Except Failure (List Token)
  | [] => ofLiteralWith read pending
  | c :: s =>
    if isLiteralChar previous c then scanWith read (some c) (pending ++ [c]) s
    else do
      let before ← ofLiteralWith read pending
      let token ← ofChar c
      let after ← scanWith read (some c) [] s
      return before ++ token :: after

variable {read : Text → Option Float} {previous : Option Char} {pending : Text} {c : Char}

theorem ofLiteralWith_eq (hread : ∀ x, x ≠ [] → IsPlain x → read x = Literal.read? x)
    (h : IsPlain pending) : ofLiteralWith read pending = ofLiteral pending := by
  by_cases hnil : pending = []
  · rw [ofLiteralWith, ofLiteral, if_pos hnil, if_pos hnil]
  · have hpending : read pending = Literal.read? pending := hread pending hnil h
    cases hvalue : Literal.read? pending <;>
      simp [ofLiteralWith, ofLiteral, hnil, hpending, hvalue]

/-- A pending literal stays plain: a sign is only taken where nothing is pending. -/
theorem isPlain_concat (hc : isLiteralChar previous c = true) (h : IsPlain pending)
    (hsigned : Token.signed previous = true → pending = []) : IsPlain (pending ++ [c]) := by
  rw [isLiteralChar_eq, Bool.or_eq_true, Bool.and_eq_true, decide_eq_true_eq] at hc
  rcases hc with hc | ⟨rfl, hprevious⟩
  · obtain ⟨body, hpending, hbody⟩ := h
    refine ⟨body ++ [c], ?_, ?_⟩
    · rcases hpending with rfl | rfl
      · exact Or.inl rfl
      · exact Or.inr rfl
    · intro d hd
      rcases List.mem_append.1 hd with hd | hd
      · exact hbody d hd
      · rwa [List.mem_singleton.1 hd]
  · rw [hsigned hprevious]
    exact ⟨[], Or.inr rfl, by simp⟩

/-- Reading depends on the reader of numbers for plain texts only. -/
theorem scanWith_eq (hread : ∀ x, x ≠ [] → IsPlain x → read x = Literal.read? x)
    (h : IsPlain pending) (hsigned : Token.signed previous = true → pending = []) (s : Text) :
    scanWith read previous pending s = scan previous pending s := by
  induction s generalizing previous pending with
  | nil => exact ofLiteralWith_eq hread h
  | cons c s ih =>
    rw [scanWith, scan]
    split_ifs with hc
    · refine ih (isPlain_concat hc h hsigned) ?_
      rw [signed_some_of_isLiteralChar hc]
      exact fun h => absurd h (by decide)
    · rw [ofLiteralWith_eq hread h, ih ⟨[], Or.inl rfl, by simp⟩ fun _ => rfl]

end Token

/-! ## The theorem -/

/-- The text `s` is read lexeme by lexeme. -/
structure Lexed (s : Text) (ls : List Lexeme) : Prop where
  text_eq : ls.flatMap Lexeme.text = s
  isOk_iff : (∃ ts, Token.ofText s = .ok ts) ↔ ∀ l ∈ ls, l.WellFormed
  ok_iff : ∀ ts, Token.ofText s = .ok ts ↔ List.Forall₂ Lexeme.Reads ls ts
  /-- The first lexeme that is no token decides what is wrong. -/
  error_iff : ∀ reason, Token.ofText s = .error reason ↔ ∃ before l after,
    ls = before ++ l :: after ∧ (∀ k ∈ before, k.WellFormed) ∧ ¬l.WellFormed ∧ reason = l.fault
  apart : ∀ ts, Token.ofText s = .ok ts → ∀ a b : Float, ¬[Token.number a, .number b] <:+: ts
  /-- The reader of numbers is only asked for plain texts. -/
  plain : ∀ read : Text → Option Float,
    (∀ x, x ≠ [] → Token.IsPlain x → read x = Literal.read? x) →
      Token.scanWith read none [] s = Token.ofText s

theorem lexed_of_cut (h : Cut true s ls) : Lexed s ls := by
  have hmapM : Token.ofText s = ls.mapM Lexeme.token := Token.scan_of_cut h none rfl
  have hok : ∀ ts, Token.ofText s = .ok ts ↔ List.Forall₂ Lexeme.Reads ls ts := by
    intro ts
    simp only [hmapM, mapM_eq_ok_iff, Lexeme.token_eq_ok_iff]
  constructor
  · exact h.flatMap_text
  · simp only [hok, exists_forall₂_reads_iff]
  · exact hok
  · intro reason
    simp only [hmapM, mapM_eq_error_iff, Lexeme.token_eq_error_iff, Lexeme.token_eq_ok_iff,
      Lexeme.exists_reads_iff]
  · intro ts hts
    exact Token.not_infix_of_spells (Token.scan_eq_ok_iff.1 hts)
  · intro read hread
    exact Token.scanWith_eq hread ⟨[], Or.inl rfl, by simp⟩ (fun _ => rfl) s

/-- Every text falls into lexemes in exactly one way, and is read lexeme by lexeme. -/
theorem exists_cut_lexed (s : Text) : ∃ ls, (∀ ms, Cut true s ms ↔ ms = ls) ∧ Lexed s ls := by
  refine ⟨lexemes true s, ?_, lexed_of_cut (cut_lexemes true s)⟩
  intro ms
  constructor
  · exact Cut.eq_lexemes
  · rintro rfl
    exact cut_lexemes true s

/-- The stretch is no literal, and what is wrong behind it is not looked at. -/
example : Token.ofText "1.2.3a".toList = .error .badFormat := by decide

end Calculator
