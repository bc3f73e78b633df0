import Mathlib

namespace RealtimeVoice.Base

variable {α : Type}

/-- A stream in segments: those that are closed, and the one that goes on. -/
@[ext]
structure Segments (α : Type) where
  closed : List (List α) := []
  current : List α := []
deriving DecidableEq

namespace Segments

def add (p : Segments α) (items : List α) : Segments α := { p with current := p.current ++ items }

def close (p : Segments α) : Segments α := { closed := p.closed ++ [p.current] }

/-- The second stream begins with the first one: its segments are the closed ones of the first
and then one that begins with what the first one has of it. -/
def Begins (p q : Segments α) : Prop :=
  ∃ more rest, q.closed ++ [q.current] = p.closed ++ (p.current ++ more) :: rest

variable {p q r : Segments α}

@[simp]
theorem add_nil : p.add [] = p := by simp [add]

theorem add_add (a b : List α) : (p.add a).add b = p.add (a ++ b) := by simp [add]

theorem Begins.refl (p : Segments α) : p.Begins p := ⟨[], [], by rw [List.append_nil]⟩

theorem begins_add (p : Segments α) (items : List α) : p.Begins (p.add items) := ⟨items, [], rfl⟩

theorem begins_close (p : Segments α) : p.Begins p.close := ⟨[], [[]], by simp [close]⟩

theorem Begins.trans (hpq : p.Begins q) (hqr : q.Begins r) : p.Begins r := by
  obtain ⟨more, rest, hq⟩ := hpq
  obtain ⟨more', rest', hr⟩ := hqr
  rcases List.eq_nil_or_concat rest with rfl | ⟨front, last, rfl⟩
  · obtain ⟨hclosed, hcurrent⟩ := List.append_inj' hq rfl
    refine ⟨more ++ more', rest', ?_⟩
    rw [hr, hclosed, List.singleton_inj.mp hcurrent, List.append_assoc]
  · have hsplit : q.closed ++ [q.current] = (p.closed ++ (p.current ++ more) :: front) ++ [last] := by
      rw [hq, List.concat_eq_append, List.append_assoc]
      rfl
    obtain ⟨hclosed, -⟩ := List.append_inj' hsplit rfl
    refine ⟨more, front ++ (q.current ++ more') :: rest', ?_⟩
    rw [hr, hclosed, List.append_assoc]
    rfl

end Segments

end RealtimeVoice.Base
