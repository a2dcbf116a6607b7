import Mathlib.Data.List.Forall2

/-!
# Computations that may fail

Reading and reduction are chains of computations that may fail. Two things are said about chains.
One that succeeds is made of computations that succeed (`bind_eq_ok`, and `mapM_eq_ok_iff` for a
list of them), and one that fails does so at one of its links (`bind_eq_error`), for a list at the
first that fails (`mapM_eq_error_iff`). And two chains agree if their links do (`Agree.bind`):
either both fail, with related errors, or both succeed, with related results.
-/

namespace Calculator

variable {α β γ δ ε ζ : Type}

theorem bind_eq_ok {x : Except ε α} {f : α → Except ε β} {b : β} (h : (x >>= f) = .ok b) :
    ∃ a, x = .ok a ∧ f a = .ok b := by
  cases x with
  | error e => cases h
  | ok a => exact ⟨a, rfl, h⟩

theorem bind_eq_error {x : Except ε α} {f : α → Except ε β} {e : ε} (h : (x >>= f) = .error e) :
    x = .error e ∨ ∃ a, x = .ok a ∧ f a = .error e := by
  cases x with
  | error e' =>
    cases h
    exact Or.inl rfl
  | ok a => exact Or.inr ⟨a, rfl, h⟩

theorem mapM_eq_ok_iff {f : α → Except ε β} {as : List α} {bs : List β} :
    as.mapM f = .ok bs ↔ List.Forall₂ (fun a b => f a = .ok b) as bs := by
  induction as generalizing bs with
  | nil =>
    rw [List.forall₂_nil_left_iff, List.mapM_nil]
    simp [pure, Except.pure, eq_comm]
  | cons a as ih =>
    rw [List.mapM_cons]
    constructor
    · intro h
      obtain ⟨b, hb, h⟩ := bind_eq_ok h
      obtain ⟨bs', hbs, h⟩ := bind_eq_ok h
      cases h
      exact .cons hb (ih.1 hbs)
    · rintro (_ | ⟨hb, hbs⟩)
      rw [hb, ih.2 hbs]
      rfl

theorem mapM_eq_error_iff {f : α → Except ε β} {as : List α} {e : ε} :
    as.mapM f = .error e ↔ ∃ before a after, as = before ++ a :: after ∧
      (∀ c ∈ before, ∃ b, f c = .ok b) ∧ f a = .error e := by
  induction as with
  | nil => simp [pure, Except.pure]
  | cons a as ih =>
    rw [List.mapM_cons]
    constructor
    · intro h
      rcases bind_eq_error h with h | ⟨b, hb, h⟩
      · exact ⟨[], a, as, rfl, by simp, h⟩
      · rcases bind_eq_error h with h | ⟨bs, -, h⟩
        · obtain ⟨before, c, after, rfl, hbefore, hc⟩ := ih.1 h
          exact ⟨a :: before, c, after, rfl, by simpa using ⟨⟨b, hb⟩, hbefore⟩, hc⟩
        · cases h
    · rintro ⟨before, c, after, has, hbefore, hc⟩
      cases before with
      | nil =>
        obtain ⟨rfl, rfl⟩ := List.cons.inj has
        rw [hc]
        rfl
      | cons d before =>
        obtain ⟨rfl, rfl⟩ := List.cons.inj has
        obtain ⟨b, hb⟩ := hbefore a (by simp)
        rw [hb, ih.2 ⟨before, c, after, rfl, fun c h => hbefore c (by simp [h]), hc⟩]
        rfl

/-- Both fail, with errors related by `E`, or both succeed, with results related by `R`. -/
inductive Agree (E : ε → ζ → Prop) (R : α → β → Prop) : Except ε α → Except ζ β → Prop
  | error {e : ε} {e' : ζ} (h : E e e') : Agree E R (.error e) (.error e')
  | ok {a : α} {b : β} (h : R a b) : Agree E R (.ok a) (.ok b)

variable {E : ε → ζ → Prop} {R : α → β → Prop} {S : γ → δ → Prop}

theorem Agree.bind {x : Except ε α} {y : Except ζ β} {f : α → Except ε γ} {g : β → Except ζ δ}
    (h : Agree E R x y) (hf : ∀ a b, R a b → Agree E S (f a) (g b)) :
    Agree E S (x >>= f) (y >>= g) := by
  cases h with
  | error h => exact .error h
  | ok h => exact hf _ _ h

theorem Agree.refl {E : ε → ε → Prop} (hE : ∀ e, E e e) (x : Except ε α) : Agree E Eq x x := by
  cases x with
  | error e => exact .error (hE e)
  | ok a => exact .ok rfl

end Calculator
