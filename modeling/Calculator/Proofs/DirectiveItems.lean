import Calculator.Log.Directive
import Calculator.Proofs.Outcome
import Calculator.Text.Blank
import Mathlib.Tactic.SplitIfs

/-!
# How an item of a log directive is cut

The scan of an item passes over the blanks in front, and the pieces are cut as if there were none.
Two consequences, and the place where a directive goes wrong at once:

* `checkItem_ne_splitCharacter`: without blanks at its ends an item is cut between characters only.
  The scan keeps an invariant: the open piece begins between two characters of what has been
  scanned (`bounds_next`, `bounds_scan`).
* `trim_eq_self_of_checkItem`: an accepted item with an equals sign and without a span has no blanks
  at its ends. The piece that is read as its level would have one of them in it, or the equals sign,
  and a level has neither.
* `check_of_front`: a directive breaks the grammar if it begins with something else than a target, a
  span or a comma.

So trimming an accepted directive of one item without a span does no harm (`check_trim`).
-/

namespace Calculator.Log.Directive

variable {item d : Text} {p : Place} {i : Nat}

/-! ## Cuts -/

/-- There is a cut of the text behind its first `n` bytes. -/
def IsCut (s : Text) (n : Nat) : Prop :=
  ∃ front inside, s = front ++ inside ∧ Text.byteSize front = n

/-- A character of one byte has a cut behind it. -/
theorem isCut_append (s : Text) {c : Char} (hc : c.utf8Size = 1) :
    IsCut (s ++ [c]) (Text.byteSize s + 1) :=
  ⟨s ++ [c], [], by simp, by simp [hc]⟩

theorem IsCut.append {s : Text} {n : Nat} (h : IsCut s n) (c : Char) : IsCut (s ++ [c]) n := by
  obtain ⟨front, inside, rfl, hfront⟩ := h
  exact ⟨front, inside ++ [c], by simp, hfront⟩

/-- The open piece begins between two characters of what has been scanned. -/
def Place.Bounds (scanned : Text) : Place → Prop
  | span opened | field opened | level opened => IsCut scanned opened
  | _ => True

theorem piece_append (front inside rest : Text) :
    piece (front ++ inside ++ rest) (Text.byteSize front) (Text.byteSize (front ++ inside)) =
      .ok inside := by
  rw [piece, Text.slice?_append]

theorem piece_front (front rest : Text) :
    piece (front ++ rest) 0 (Text.byteSize front) = .ok front :=
  piece_append [] front rest

/-- A character of an item is malformed, or the open piece begins between two characters again. -/
theorem bounds_next {scanned rest : Text} {c : Char} (hitem : item = scanned ++ c :: rest)
    (hp : p.Bounds scanned) :
    p.next item (Text.byteSize scanned) c = .error .malformed ∨
      ∃ q, p.next item (Text.byteSize scanned) c = .ok q ∧ q.Bounds (scanned ++ [c]) := by
  subst hitem
  cases p with
  | start =>
    simp only [Place.next]
    split
    · next h =>
      subst h
      exact .inr ⟨_, rfl, isCut_append scanned rfl⟩
    · split
      · exact .inr ⟨_, rfl, trivial⟩
      · exact .inl rfl
  | word =>
    simp only [Place.next, piece_front, bind, Except.bind]
    split
    · next h =>
      subst h
      exact .inr ⟨_, rfl, isCut_append scanned rfl⟩
    · split
      · next h =>
        subst h
        exact .inr ⟨_, rfl, isCut_append scanned rfl⟩
      · exact .inr ⟨_, rfl, trivial⟩
  | span opened =>
    obtain ⟨front, inside, rfl, rfl⟩ := hp
    simp only [Place.next, piece_append, bind, Except.bind]
    split
    · exact .inr ⟨_, rfl, trivial⟩
    · split
      · next h =>
        subst h
        exact .inr ⟨_, rfl, isCut_append _ rfl⟩
      · exact .inr ⟨_, rfl, IsCut.append ⟨front, inside, rfl, rfl⟩ c⟩
  | field opened =>
    obtain ⟨front, inside, rfl, rfl⟩ := hp
    simp only [Place.next, piece_append, bind, Except.bind, require]
    split
    · cases isField inside with
      | true => exact .inr ⟨_, rfl, trivial⟩
      | false => exact .inl rfl
    · exact .inr ⟨_, rfl, IsCut.append ⟨front, inside, rfl, rfl⟩ c⟩
  | behindField =>
    simp only [Place.next]
    split
    · exact .inr ⟨_, rfl, trivial⟩
    · exact .inl rfl
  | behindSpan =>
    simp only [Place.next]
    split
    · next h =>
      subst h
      exact .inr ⟨_, rfl, isCut_append scanned rfl⟩
    · exact .inl rfl
  | level opened => exact .inr ⟨_, rfl, IsCut.append hp c⟩

theorem bounds_scan {scanned rest : Text} (hitem : item = scanned ++ rest)
    (hp : p.Bounds scanned) :
    p.scan item (Text.byteSize scanned) rest = .error .malformed ∨
      ∃ q, p.scan item (Text.byteSize scanned) rest = .ok q ∧ q.Bounds item := by
  induction rest generalizing p scanned with
  | nil =>
    rw [List.append_nil] at hitem
    exact .inr ⟨p, rfl, hitem ▸ hp⟩
  | cons c rest ih =>
    rw [Place.scan]
    rcases bounds_next hitem hp with h | ⟨q, h, hq⟩
    · exact .inl (by rw [h]; rfl)
    · have hrest : item = scanned ++ [c] ++ rest := by rw [hitem, List.append_assoc]; rfl
      have hsize : Text.byteSize (scanned ++ [c]) = Text.byteSize scanned + c.utf8Size := by simp
      have hscan := ih hrest hq
      rw [hsize] at hscan
      simpa only [h, bind, Except.bind] using hscan

theorem finish_ne_splitCharacter (hp : p.Bounds item) :
    p.finish item ≠ .error .splitCharacter := by
  cases p with
  | start | word | span opened | field opened | behindField | behindSpan => simp [Place.finish]
  | level opened =>
    obtain ⟨front, inside, rfl, rfl⟩ := hp
    have hpiece := piece_append front inside []
    rw [List.append_nil] at hpiece
    simp only [Place.finish, hpiece, bind, Except.bind, require]
    split <;> simp

/-- An item without blanks at its ends is cut between characters only. -/
theorem checkItem_ne_splitCharacter (hitem : Text.trim item = item) :
    checkItem item ≠ .error .splitCharacter := by
  rw [checkItem, hitem]
  have hscan : Place.scan item .start 0 item = .error .malformed ∨
      ∃ q, Place.scan item .start 0 item = .ok q ∧ q.Bounds item :=
    bounds_scan (List.nil_append item).symm trivial
  rcases hscan with h | ⟨q, h, hq⟩
  · simp [h, bind, Except.bind]
  · simpa only [h, bind, Except.bind] using finish_ne_splitCharacter hq

/-! ## Levels -/

theorem isAlpha_of_isAlpha_toLower {c : Char} (h : c.toLower.isAlpha = true) :
    c.isAlpha = true := by
  by_cases hupper : c.isUpper = true
  · change (c.isUpper || c.isLower) = true
    rw [hupper, Bool.true_or]
  · have hsame : c.toLower = c := dif_neg fun hrange => hupper (decide_eq_true hrange)
    rwa [hsame] at h

/-- A level has letters, digits and a plus. -/
theorem isAlphanum_of_isLevel {s : Text} (h : isLevel s = true) :
    ∀ c ∈ s, c = '+' ∨ c.isAlphanum = true := by
  rw [isLevel, Bool.or_eq_true] at h
  intro c hc
  rcases h with h | h
  · unfold isLevelNumber at h
    dsimp only at h
    split at h
    · next r =>
      simp only [Bool.and_eq_true, List.all_eq_true] at h
      rcases List.mem_cons.1 hc with rfl | hc
      · exact .inl rfl
      · exact .inr (by simp [Char.isAlphanum, h.1.2 c hc])
    · simp only [Bool.and_eq_true, List.all_eq_true] at h
      exact .inr (by simp [Char.isAlphanum, h.1.2 c hc])
  · have hname : c.toLower.isAlpha = true := by
      have hletters : (levelNames.all fun name => name.all Char.isAlpha) = true := by
        decide +kernel
      have hmem : s.map Char.toLower ∈ levelNames := by simpa [isLevelName] using h
      exact List.all_eq_true.1 (List.all_eq_true.1 hletters _ hmem) _ (List.mem_map_of_mem hc)
    exact .inr (by simp [Char.isAlphanum, isAlpha_of_isAlpha_toLower hname])

/-- A level has neither an equals sign nor a blank. -/
theorem not_mem_of_isLevel {s : Text} (h : isLevel s = true) {c : Char}
    (hc : c = '=' ∨ Text.isBlank c = true) : c ∉ s := by
  intro hmem
  rcases isAlphanum_of_isLevel h c hmem with rfl | halnum
  · exact absurd hc (by decide)
  · rcases hc with rfl | hblank
    · exact absurd halnum (by decide)
    · rw [Text.isBlank_of_isAlphanum halnum] at hblank
      cases hblank

/-! ## Directives of one item -/

theorem check_of_no_comma (hd : ',' ∉ d) :
    check d = if d = [] then .ok () else checkItem d := by
  rw [check, List.splitOn_eq_singleton hd]
  split_ifs with h
  · subst h
    rfl
  · rw [List.filter_cons_of_pos (by simpa using h), List.filter_nil, List.forM_eq_forM,
      List.forM_cons]
    cases checkItem d with
    | ok u => rfl
    | error f => rfl

theorem splitOn_comma (d : Text) : ∃ rest, d.splitOn ',' = d.takeWhile (· ≠ ',') :: rest := by
  have hcomma : ',' ∉ d.takeWhile (· ≠ ',') := fun hmem => by
    simpa using List.all_eq_true.1 List.all_takeWhile _ hmem
  have hsplit : d = d.takeWhile (· ≠ ',') ++ d.dropWhile (· ≠ ',') :=
    List.takeWhile_append_dropWhile.symm
  cases hdrop : d.dropWhile (· ≠ ',') with
  | nil =>
    rw [hdrop, List.append_nil] at hsplit
    rw [← hsplit] at hcomma ⊢
    exact ⟨[], List.splitOn_eq_singleton hcomma⟩
  | cons c rest =>
    have hc := List.head?_dropWhile_not (· ≠ ',') d
    rw [hdrop] at hc hsplit
    obtain rfl : c = ',' := by simpa using hc
    exact ⟨rest.splitOn ',', (congrArg (List.splitOn ',') hsplit).trans
      (List.splitOn_append_cons_self_of_not_mem hcomma rest)⟩

/-- What stands in front of the first comma is checked first. -/
theorem check_eq_error_of_first {f : Fault} (hne : d.takeWhile (· ≠ ',') ≠ [])
    (h : checkItem (d.takeWhile (· ≠ ',')) = .error f) : check d = .error f := by
  obtain ⟨rest, hrest⟩ := splitOn_comma d
  rw [check, hrest, List.filter_cons_of_pos (by simpa using hne), List.forM_eq_forM,
    List.forM_cons, h]
  rfl

/-! ## Items without a span -/

theorem scan_word {a : Text} (rest : Text) (ha : ∀ c ∈ a, c ≠ '=' ∧ c ≠ '[') :
    Place.scan item .word i (a ++ rest) = Place.scan item .word (i + Text.byteSize a) rest := by
  induction a generalizing i with
  | nil => rfl
  | cons c a ih =>
    obtain ⟨hequals, hbracket⟩ := ha c List.mem_cons_self
    rw [List.cons_append, Place.scan, Place.next, if_neg hequals, if_neg hbracket,
      Text.byteSize_cons, ← Nat.add_assoc]
    exact ih fun e he => ha e (List.mem_cons_of_mem _ he)

theorem scan_level (opened : Nat) (s : Text) :
    Place.scan item (.level opened) i s = .ok (.level opened) := by
  induction s generalizing i with
  | nil => rfl
  | cons c s ih => exact ih

/-- Behind its first character a target is passed over. -/
theorem checkItem_cons {c : Char} {a rest : Text} (hitem : Text.trim item = c :: a ++ rest)
    (ha : ∀ e ∈ c :: a, e ≠ '=' ∧ e ≠ '[') :
    checkItem item =
      if isTargetStart c then
        Place.scan item .word (Text.byteSize (c :: a)) rest >>= Place.finish item
      else .error .malformed := by
  have hbracket := (ha c List.mem_cons_self).2
  rw [checkItem, hitem, List.cons_append, Place.scan, Place.next, if_neg hbracket]
  by_cases hstart : isTargetStart c = true
  · rw [if_pos hstart, if_pos hstart, Text.byteSize_cons]
    simp only [bind, Except.bind, scan_word rest fun e he => ha e (List.mem_cons_of_mem _ he),
      Nat.zero_add]
  · rw [if_neg hstart, if_neg hstart]
    rfl

/-- A target alone is checked by its first character. -/
theorem checkItem_target {c : Char} {a : Text} (hitem : Text.trim item = c :: a)
    (ha : ∀ e ∈ c :: a, e ≠ '=' ∧ e ≠ '[') :
    checkItem item = if isTargetStart c then .ok () else .error .malformed := by
  rw [checkItem_cons (hitem.trans (List.append_nil _).symm) ha]
  rfl

theorem slice?_of_piece {start stop : Nat} {s : Text} (h : piece item start stop = .ok s) :
    Text.slice? start stop item = some s := by
  rw [piece] at h
  split at h
  · next t ht =>
    obtain rfl : t = s := by simpa using h
    exact ht
  · cases h

/-- Behind a target and an equals sign stands a level, or nothing. -/
theorem piece_of_checkItem {v b : Text} (hitem : Text.trim item = v ++ '=' :: b)
    (hv : ∀ e ∈ v, e ≠ '=' ∧ e ≠ '[') (h : checkItem item = .ok ()) :
    ∃ s, piece item (Text.byteSize v + 1) (Text.byteSize item) = .ok s ∧
      (s = [] ∨ isLevel s = true) := by
  cases v with
  | nil =>
    rw [checkItem, hitem, List.nil_append, Place.scan, Place.next, if_neg (by decide),
      if_neg (by decide +kernel)] at h
    cases h
  | cons c a =>
    rw [checkItem_cons hitem hv] at h
    split_ifs at h
    obtain ⟨last, hscan, hfinish⟩ := bind_eq_ok h
    rw [Place.scan, Place.next, if_pos rfl] at hscan
    obtain ⟨p, hnext, hrest⟩ := bind_eq_ok hscan
    obtain ⟨front, -, hp⟩ := bind_eq_ok hnext
    cases hp
    rw [scan_level] at hrest
    cases hrest
    obtain ⟨s, hpiece, hlevel⟩ := bind_eq_ok hfinish
    rw [require] at hlevel
    split_ifs at hlevel with hs
    exact ⟨s, hpiece, by simpa using hs⟩

/-- A cut that is meant for a place behind `c` and made `front` too early leaves `c`, if there is
anything in `front`. -/
theorem mem_or_eq_of_cut {cut s front v rest : Text} {c : Char} (hc : c.utf8Size = 1)
    (h : cut ++ s = (front ++ v) ++ c :: rest)
    (hsize : Text.byteSize cut = Text.byteSize v + 1) : c ∈ s ∨ front = [] ∧ s = rest := by
  rcases List.append_eq_append_iff.1 h with ⟨x, hx, rfl⟩ | ⟨x, rfl, hrest⟩
  · exact .inl (by simp)
  · cases x with
    | nil =>
      rw [List.nil_append] at hrest
      exact .inl (by simp [← hrest])
    | cons e x =>
      rw [List.cons_append, List.cons.injEq] at hrest
      obtain ⟨rfl, rfl⟩ := hrest
      simp only [Text.byteSize_append, Text.byteSize_cons, hc] at hsize
      have hfront : front = [] := Text.byteSize_eq_zero.1 (by omega)
      have hx : x = [] := Text.byteSize_eq_zero.1 (by omega)
      exact .inr ⟨hfront, by rw [hx, List.nil_append]⟩

/-- An accepted item with an equals sign and no span has no blanks at its ends: the piece that is
read as its level would have one of them in it, or the equals sign. -/
theorem trim_eq_self_of_checkItem {v b : Text} (hitem : Text.trim item = v ++ '=' :: b)
    (hv : ∀ e ∈ v, e ≠ '=' ∧ e ≠ '[') (h : checkItem item = .ok ()) : Text.trim item = item := by
  obtain ⟨s, hpiece, hs⟩ := piece_of_checkItem hitem hv h
  have hnot : ∀ c ∈ s, c ≠ '=' ∧ Text.isBlank c = false := by
    intro c hc
    rcases hs with rfl | hs
    · cases hc
    · refine ⟨?_, Bool.eq_false_iff.2 ?_⟩
      · rintro rfl
        exact not_mem_of_isLevel hs (.inl rfl) hc
      · exact fun hblank => not_mem_of_isLevel hs (.inr hblank) hc
  obtain ⟨cut, hcut, hsize⟩ := Text.eq_append_of_slice? (slice?_of_piece hpiece)
  obtain ⟨front, back, hwhole, -, hback⟩ := Text.exists_eq_append_trim item
  have hparts : cut ++ s = (front ++ v) ++ '=' :: (b ++ back) := by
    rw [← hcut, hwhole, hitem]
    simp
  rcases mem_or_eq_of_cut rfl hparts hsize with hequals | ⟨rfl, rfl⟩
  · exact absurd rfl (hnot '=' hequals).1
  · have hnil : back = [] := List.eq_nil_iff_forall_not_mem.2 fun c hc => by
      have hblank := (hnot c (List.mem_append_right b hc)).2
      rw [List.all_eq_true.1 hback c hc] at hblank
      cases hblank
    rw [hnil, List.append_nil, List.nil_append] at hwhole
    exact hwhole.symm

/-- The blanks at the ends of an accepted directive of one item without a span have no part in
it. -/
theorem check_trim (hd : ∀ c ∈ d, c ≠ ',' ∧ c ≠ '[') (h : check d = .ok ()) :
    check (Text.trim d) = .ok () := by
  have hcomma : ',' ∉ Text.trim d := fun hc => (hd ',' (Text.mem_of_mem_trim hc)).1 rfl
  have hbracket : ∀ c ∈ Text.trim d, c ≠ '[' := fun c hc => (hd c (Text.mem_of_mem_trim hc)).2
  rw [check_of_no_comma hcomma]
  split_ifs with hnil
  · rfl
  · have hitem : checkItem d = .ok () := by
      rw [check_of_no_comma fun hc => (hd ',' hc).1 rfl] at h
      split_ifs at h with hd
      · exact absurd (by rw [hd]; rfl) hnil
      · exact h
    by_cases hequals : '=' ∈ Text.trim d
    · obtain ⟨v, b, hsplit, hv⟩ := List.eq_append_cons_of_mem hequals
      rwa [trim_eq_self_of_checkItem hsplit (fun e he => ⟨fun h => hv (h ▸ he),
        hbracket e (by simp [hsplit, he])⟩) hitem]
    · obtain ⟨c, a, htrim⟩ := List.exists_cons_of_ne_nil hnil
      have htarget : ∀ e ∈ c :: a, e ≠ '=' ∧ e ≠ '[' := by
        rw [← htrim]
        exact fun e he => ⟨fun h => hequals (h ▸ he), hbracket e he⟩
      rw [checkItem_target ((Text.trim_trim d).trans htrim) htarget,
        ← checkItem_target htrim htarget]
      exact hitem

/-- Without blanks at its ends, a directive of one item is cut between characters only. -/
theorem check_trim_ne_splitCharacter (hd : ',' ∉ d) :
    check (Text.trim d) ≠ .error .splitCharacter := by
  rw [check_of_no_comma fun hc => hd (Text.mem_of_mem_trim hc)]
  split_ifs
  · simp
  · exact checkItem_ne_splitCharacter (Text.trim_trim d)

/-- A directive breaks the grammar if it begins with something else than a target, a span or a
comma. -/
theorem check_of_front {front rest : Text} {c : Char} (hd : d = front ++ c :: rest)
    (hfront : ∀ e ∈ front, Text.isBlank e = true) (hblank : Text.isBlank c = false)
    (hcomma : c ≠ ',') (hbracket : c ≠ '[') (hstart : isTargetStart c = false) :
    check d = .error .malformed := by
  have hfirst : d.takeWhile (· ≠ ',') = front ++ c :: rest.takeWhile (· ≠ ',') := by
    rw [hd, List.takeWhile_append_of_pos, List.takeWhile_cons_of_pos (by simpa using hcomma)]
    intro e he
    refine decide_eq_true ?_
    rintro rfl
    exact absurd (hfront ',' he) (by decide)
  have hhead : (Text.trim (d.takeWhile (· ≠ ','))).head? = some c := by
    rw [Text.head?_trim, hfirst, List.dropWhile_append_of_pos hfront,
      List.dropWhile_cons_of_neg (by simp [hblank])]
    rfl
  obtain ⟨tail, htrim⟩ : ∃ tail, Text.trim (d.takeWhile (· ≠ ',')) = c :: tail :=
    List.head?_eq_some_iff.1 hhead
  refine check_eq_error_of_first (by rw [hfirst]; simp) ?_
  rw [checkItem, htrim, Place.scan, Place.next, if_neg hbracket, if_neg (by simp [hstart])]
  rfl

end Calculator.Log.Directive
