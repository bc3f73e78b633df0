import Mathlib

namespace RealtimeVoice.Base.Numbering

variable {α : Type} {number : α → Nat} {sent : List α} {x : α}

/-- A numbered stream: every item is one that was sent before, or its number is above
all numbers so far. -/
inductive Numbered (number : α → Nat) : List α → Prop
  | nil : Numbered number []
  | snoc {sent : List α} {x : α} : Numbered number sent → (x ∈ sent ∨ ∀ y ∈ sent, number y < number x) →
    Numbered number (sent ++ [x])

/-- A number stands for one item only. -/
theorem Numbered.eq_of_number (h : Numbered number sent) {x y : α} (hx : x ∈ sent) (hy : y ∈ sent)
    (heq : number x = number y) : x = y := by
  induction h with
  | nil => cases hx
  | @snoc sent z hsent hz ih =>
    rw [List.mem_append, List.mem_singleton] at hx hy
    obtain hz | hz := hz
    · -- a repeated item adds nothing
      have hmem : ∀ w, w ∈ sent ∨ w = z → w ∈ sent := by
        rintro w (hw | rfl)
        · exact hw
        · exact hz
      exact ih (hmem x hx) (hmem y hy)
    · obtain hx | rfl := hx
      · obtain hy | rfl := hy
        · exact ih hx hy
        · have hlt := hz x hx
          omega
      · obtain hy | rfl := hy
        · have hlt := hz y hy
          omega
        · rfl

/-- A counter above all numbers numbers the next item. -/
theorem Numbered.fresh (h : Numbered number sent) (hbelow : ∀ y ∈ sent, number y < number x) :
    Numbered number (sent ++ [x]) :=
  .snoc h (.inr hbelow)

theorem Numbered.repeated (h : Numbered number sent) (hx : x ∈ sent) : Numbered number (sent ++ [x]) :=
  .snoc h (.inl hx)

theorem Numbered.toList (h : Numbered number sent) {o : Option α}
    (ho : ∀ x ∈ o, x ∈ sent ∨ ∀ y ∈ sent, number y < number x) : Numbered number (sent ++ o.toList) := by
  cases o with
  | none => simpa using h
  | some x => exact .snoc h (ho x rfl)

end RealtimeVoice.Base.Numbering
