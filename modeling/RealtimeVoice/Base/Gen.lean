import Mathlib

namespace RealtimeVoice.Base

variable {ω ε α β : Type}

/-- A generator: the items it yields, and then its result or the error it raises. -/
@[ext]
structure Gen (ω ε α : Type) where
  yields : List ω
  ending : Except ε α
deriving DecidableEq

namespace Gen

/-- Raises before it yields an item. -/
def raise (e : ε) : Gen ω ε α := ⟨[], .error e⟩

def yield (w : ω) : Gen ω ε Unit := ⟨[w], .ok ()⟩

/-- The items of the first part come first; after its error there is nothing. -/
def andThen (x : Gen ω ε α) (f : α → Gen ω ε β) : Gen ω ε β :=
  match x.ending with
  | .ok a => ⟨x.yields ++ (f a).yields, (f a).ending⟩
  | .error e => ⟨x.yields, .error e⟩

instance : Monad (Gen ω ε) where
  pure a := ⟨[], .ok a⟩
  bind := andThen

/-- A computation that yields nothing. -/
def ofExcept (x : Except ε α) : Gen ω ε α := ⟨[], x⟩

variable {x : Gen ω ε α} {f g : α → Gen ω ε β} {a : α} {e : ε}

theorem bind_ok (h : x.ending = .ok a) : x >>= f = ⟨x.yields ++ (f a).yields, (f a).ending⟩ := by
  change andThen x f = _
  rw [andThen, h]

theorem bind_error (h : x.ending = .error e) : x >>= f = ⟨x.yields, .error e⟩ := by
  change andThen x f = _
  rw [andThen, h]

instance : LawfulMonad (Gen ω ε) := by
  refine LawfulMonad.mk' (Gen ω ε) ?_ ?_ ?_
  · intro α x
    change andThen x _ = x
    rcases x with ⟨yields, _ | a⟩
    · rfl
    · simp [andThen, Function.comp]
  · intro α β a f
    rfl
  · intro α β γ x f g
    change andThen (andThen x f) g = andThen x fun a => andThen (f a) g
    rcases x with ⟨yields, _ | a⟩
    · rfl
    · rcases h : f a with ⟨more, _ | b⟩ <;> simp [andThen, h]

@[simp]
theorem raise_bind : (raise e : Gen ω ε α) >>= f = raise e := rfl

/-- Two ways on that agree wherever the first part gets to. -/
theorem bind_congr (h : ∀ a, x.ending = .ok a → f a = g a) : x >>= f = x >>= g := by
  cases ha : x.ending with
  | error e => rw [bind_error ha, bind_error ha]
  | ok a => rw [bind_ok ha, bind_ok ha, h a ha]

theorem bind_ending_error (h : (x >>= f).ending = .error e) :
    x.ending = .error e ∨ ∃ a, x.ending = .ok a ∧ (f a).ending = .error e := by
  cases ha : x.ending with
  | error e' =>
    rw [bind_error ha] at h
    obtain rfl := Except.error.inj h
    exact .inl rfl
  | ok a =>
    rw [bind_ok ha] at h
    exact .inr ⟨a, rfl, h⟩

/-- After the same first part, the rest decides. -/
theorem bind_inj {y z : Gen ω ε β} (h : x.ending = .ok a) (hyz : (x >>= fun _ => y) = x >>= fun _ => z) : y = z := by
  rw [bind_ok h, bind_ok h] at hyz
  obtain ⟨hyields, hending⟩ := Gen.mk.inj hyz
  exact Gen.ext (List.append_cancel_left hyields) hending

end Gen

end RealtimeVoice.Base
