import Mathlib

namespace RealtimeVoice.Base

variable {ε α β : Type} {P : ε → Prop} {x : Except ε α} {f : α → Except ε β} {e : ε} {a : α}

/-- Whatever the computation raises is of a kind. -/
def Raises (P : ε → Prop) (x : Except ε α) : Prop := ∀ e, x = .error e → P e

@[simp]
theorem raises_ok : Raises P (.ok a : Except ε α) := by
  intro e h
  cases h

@[simp]
theorem raises_pure : Raises P (pure a : Except ε α) := raises_ok

@[simp]
theorem raises_error : Raises P (.error e : Except ε α) ↔ P e := by
  constructor
  · intro h
    exact h e rfl
  · rintro h e' ⟨⟩
    exact h

@[simp]
theorem raises_throw : Raises P (throw e : Except ε α) ↔ P e := raises_error

/-- Each step raises the kind if the steps before it go through. -/
theorem raises_bind : Raises P (x >>= f) ↔ Raises P x ∧ ∀ a, x = .ok a → Raises P (f a) := by
  cases x with
  | error e =>
    rw [show ((.error e : Except ε α) >>= f) = .error e from rfl, raises_error, raises_error]
    refine ⟨fun h => ⟨h, ?_⟩, And.left⟩
    rintro a ⟨⟩
  | ok a =>
    rw [show ((.ok a : Except ε α) >>= f) = f a from rfl]
    refine ⟨fun h => ⟨raises_ok, ?_⟩, fun h => h.2 a rfl⟩
    rintro a' ⟨⟩
    exact h

theorem raises_map {g : α → β} : Raises P (x.map g) ↔ Raises P x := by
  cases x with
  | error e => exact raises_error.trans raises_error.symm
  | ok a => exact iff_of_true raises_ok raises_ok

@[simp]
theorem raises_fmap {g : α → β} : Raises P (g <$> x) ↔ Raises P x := raises_map

/-- One branch is taken. -/
theorem raises_ite {p : Prop} [Decidable p] {y : Except ε α} :
    Raises P (if p then x else y) ↔ (p → Raises P x) ∧ (¬p → Raises P y) := by
  split <;> simp [*]

theorem toOption_eq_some : x.toOption = some a ↔ x = .ok a := by
  cases x with
  | error e =>
    constructor
    · rintro ⟨⟩
    · rintro ⟨⟩
  | ok a' => rw [Except.toOption, Option.some_inj, Except.ok.injEq]

/-- A check that raises where a condition holds. -/
def refuseIf (p : Prop) [Decidable p] (e : ε) : Except ε Unit := if p then .error e else .ok ()

theorem refuseIf_ok {p : Prop} [Decidable p] {u : Unit} : refuseIf p e = .ok u ↔ ¬p := by
  rw [refuseIf]
  split <;> simp [*]

theorem ite_error_ok {p : Prop} [Decidable p] {y : Except ε α} :
    (if p then .error e else y) = .ok a ↔ ¬p ∧ y = .ok a := by
  split <;> simp [*]

/-- A check goes through with what comes behind it. -/
theorem check_bind_ok {x : Except ε Unit} {f : Unit → Except ε α} :
    x >>= f = .ok a ↔ x = .ok () ∧ f () = .ok a := by
  cases x with
  | error e =>
    constructor
    · rintro ⟨⟩
    · rintro ⟨⟨⟩, -⟩
  | ok u => exact (and_iff_right rfl).symm

end RealtimeVoice.Base
