import Calculator.Envelope.Message
import Calculator.Proofs.JsonText

/-!
# What a response tells its reader

The contract of the envelope knows two shapes of a response: a value and no message, or a message
and no value (`Follows`). A response that follows it tells its reader everything: two outcomes that
are told by one text are the same (`Follows.value_eq`).

**Theorem (`follows_iff`).** The response to a request follows the contract, and tells the value, if
and only if the value is finite or there is none. An evaluation can succeed with an infinity or a
NaN, by a literal beyond the range of doubles or by an operation that leaves it. Such a value has no
number in JSON, and the response says that the text is valid and that there is no value
(`compact_of_not_isFinite`).
-/

namespace Calculator

/-! ## The contract -/

/-- What stands before the value in a response that announces one. -/
def successHead : Text := "\x7b\"status\":\"Valid\",\"result\":".toList

/-- What stands before the message in a response that announces one. -/
def refusalHead : Text := "\x7b\"status\":\"Invalid\",\"result\":null,\"error\":".toList

/-- The response that announces a value, written as `n`. -/
def successText (n : Text) : Text := successHead ++ (n ++ ",\"error\":null\x7d".toList)

/-- The response that announces a message, written as `q`. -/
def refusalText (q : Text) : Text := refusalHead ++ (q ++ "\x7d".toList)

/-- The text announces the outcome in one of the two shapes of the contract. -/
inductive Follows : Except Refusal Float → Text → Prop
  | success (n : Json.Numeral) : Follows (.ok n.value) (successText n.text)
  | refusal {reason : Refusal} {q : Text} (h : Json.IsString q reason.message) :
      Follows (.error reason) (refusalText q)

theorem successText_inj {m n : Text} (h : successText m = successText n) : m = n :=
  List.append_cancel_right (List.append_cancel_left h)

/-- A reader finds the value in a response that follows the contract. -/
theorem Follows.value_eq {v : Float} {t n : Text} (h : Follows (.ok v) t)
    (ht : t = successText n) : v = Json.decode n := by
  cases h with
  | success m =>
    rw [← successText_inj ht, m.decode_text]

/-! ## Responses -/

theorem Response.compact_eq (r : Response) :
    r.compact = '\x7b' :: (Json.quote "status".toList ++ ':' :: (Json.quote r.status.name ++
      ',' :: (Json.quote "result".toList ++ ':' ::
        ((Json.Scalar.ofOption Json.Scalar.number r.result).write ++
      ',' :: (Json.quote "error".toList ++ ':' ::
        ((Json.Scalar.ofOption Json.Scalar.string r.error).write ++ ['\x7d'])))))) := by
  have hstring : ∀ s, (Json.Scalar.string s).write = Json.quote s := fun _ => rfl
  simp only [compact, members, Json.compact, List.map, List.intercalate, List.intersperse,
    List.flatten_cons, List.flatten_nil, hstring, List.append_assoc, List.cons_append,
    List.nil_append, List.append_nil]

theorem compact_ofOutcome_ok (v : Float) :
    (Response.ofOutcome (.ok v)).compact = successText (Json.Scalar.number v).write := by
  have hhead : '\x7b' :: (Json.quote "status".toList ++ ':' :: (Json.quote Status.valid.name ++
      ',' :: (Json.quote "result".toList ++ [':']))) = successHead := by decide
  have htail : ',' :: (Json.quote "error".toList ++ ':' :: (Json.Scalar.null.write ++ ['\x7d'])) =
      ",\"error\":null\x7d".toList := by decide
  rw [Response.compact_eq, successText, ← hhead, ← htail]
  simp only [Response.ofOutcome, Json.Scalar.ofOption, List.append_assoc, List.cons_append,
    List.nil_append]

theorem compact_ofOutcome_error (reason : Refusal) :
    (Response.ofOutcome (.error reason)).compact = refusalText (Json.quote reason.message) := by
  have hhead : '\x7b' :: (Json.quote "status".toList ++ ':' :: (Json.quote Status.invalid.name ++
      ',' :: (Json.quote "result".toList ++ ':' :: (Json.Scalar.null.write ++
      ',' :: (Json.quote "error".toList ++ [':']))))) = refusalHead := by decide
  have htail : ['\x7d'] = "\x7d".toList := by decide
  have hstring : ∀ s, (Json.Scalar.string s).write = Json.quote s := fun _ => rfl
  rw [Response.compact_eq, refusalText, ← hhead, ← htail]
  simp only [Response.ofOutcome, Json.Scalar.ofOption, hstring, List.append_assoc,
    List.cons_append, List.nil_append]

/-- A value that is not finite is announced as valid and missing. -/
theorem compact_of_not_isFinite {v : Float} (h : Number.isFinite v = false) :
    (Response.ofOutcome (.ok v)).compact = successText "null".toList := by
  rw [compact_ofOutcome_ok, Json.Scalar.write, h, if_neg Bool.false_ne_true]

theorem isFinite_of_follows {v : Float}
    (h : Follows (.ok v) (Response.ofOutcome (.ok v)).compact) : Number.isFinite v = true := by
  by_contra hv
  rw [compact_of_not_isFinite (by simpa using hv)] at h
  generalize ht : successText "null".toList = t at h
  cases h with
  | success n => exact n.text_ne_null (successText_inj ht).symm

theorem follows_of_isFinite {v : Float} (h : Number.isFinite v = true) :
    Follows (.ok v) (Response.ofOutcome (.ok v)).compact := by
  obtain ⟨n, htext, rfl⟩ := Json.exists_numeral h
  rw [compact_ofOutcome_ok, Json.Scalar.write, if_pos h, ← htext]
  exact .success n

theorem follows_error (reason : Refusal) :
    Follows (.error reason) (Response.ofOutcome (.error reason)).compact := by
  rw [compact_ofOutcome_error]
  exact .refusal (Json.isString_quote _)

/-- A response follows the contract, and tells no other value than the one found, if and only if
the value is finite or there is none. -/
theorem follows_iff (r : Request) :
    (Follows (valueOf? r.expression) r.respond.compact ∧
      ∀ v w, valueOf? r.expression = .ok v → Follows (.ok w) r.respond.compact → w = v) ↔
      ∀ v, valueOf? r.expression = .ok v → Number.isFinite v = true := by
  unfold Request.respond
  cases ho : valueOf? r.expression with
  | error reason =>
    constructor
    · intro _ v hv
      cases hv
    · intro _
      refine ⟨follows_error reason, ?_⟩
      intro v w hv
      cases hv
  | ok v =>
    constructor
    · intro h w hw
      obtain ⟨h, -⟩ := h
      rw [← Except.ok.inj hw]
      exact isFinite_of_follows h
    · intro h
      have hv := h v rfl
      have hfollows := follows_of_isFinite hv
      refine ⟨hfollows, ?_⟩
      intro u w hu hw
      have ht := compact_ofOutcome_ok v
      rw [← Except.ok.inj hu]
      exact (hw.value_eq ht).trans (hfollows.value_eq ht).symm

/-- A literal beyond the range of doubles is accepted, and announced as a value that is missing. -/
theorem not_follows_beyond_range :
    ∃ v, valueOf? (some (List.replicate 309 '9')) = .ok v ∧
      (Request.respond ⟨some (List.replicate 309 '9')⟩).compact = successText "null".toList ∧
      ¬Follows (.ok v) (Request.respond ⟨some (List.replicate 309 '9')⟩).compact := by
  have hvalue : valueOf? (some (List.replicate 309 '9')) = .ok (1.0 / 0.0) := by decide +kernel
  have hfinite : Number.isFinite (1.0 / 0.0) = false := by decide +kernel
  have hresponse : (Request.respond ⟨some (List.replicate 309 '9')⟩) =
      Response.ofOutcome (.ok (1.0 / 0.0)) := congrArg Response.ofOutcome hvalue
  refine ⟨1.0 / 0.0, hvalue, ?_, ?_⟩
  · rw [hresponse, compact_of_not_isFinite hfinite]
  · intro h
    rw [hresponse] at h
    rw [isFinite_of_follows h] at hfinite
    cases hfinite

end Calculator
