import Mathlib

namespace RealtimeVoice.Base.Bucket

variable {cost rate limit since last now debt : ℚ} {n : Nat}

/-- The debt of a bucket that drains at `rate` and never below zero, after one more unit. -/
def charge (cost rate debt elapsed : ℚ) : ℚ := max 0 (debt + cost - rate * elapsed)

/-- What the units taken after the time `since` have cost: what drained until the
last of them, and what is still owed, of which no more than the limit counts. -/
def Owes (cost rate limit since last debt : ℚ) (n : Nat) : Prop := n * cost ≤ rate * (last - since) + min debt limit

theorem Owes.start (hdebt : 0 ≤ debt) (hlimit : 0 ≤ limit) : Owes cost rate limit last last debt 0 := by
  rw [Owes, sub_self, mul_zero, zero_add, Nat.cast_zero, zero_mul]
  exact le_min hdebt hlimit

/-- A unit is taken: what it costs is owed, or has drained. -/
theorem Owes.take (h : Owes cost rate limit since last debt n) (hwithin : charge cost rate debt (now - last) ≤ limit) :
    Owes cost rate limit since now (charge cost rate debt (now - last)) (n + 1) := by
  have hcharge : debt + cost - rate * (now - last) ≤ charge cost rate debt (now - last) := le_max_right _ _
  have hdebt := min_le_left debt limit
  rw [Owes] at h ⊢
  rw [min_eq_left hwithin]
  push_cast
  linarith

theorem Owes.wait (h : Owes cost rate limit since last debt n) (hrate : 0 ≤ rate) (hnow : last ≤ now) :
    Owes cost rate limit since now debt n := by
  rw [Owes] at h ⊢
  have := mul_le_mul_of_nonneg_left (sub_le_sub_right hnow since) hrate
  linarith

/-- A unit is refused: the debt stays above the limit. -/
theorem Owes.refuse (h : Owes cost rate limit since last debt n) {debt' : ℚ} (hover : limit < debt') :
    Owes cost rate limit since last debt' n := by
  rw [Owes] at h ⊢
  rw [min_eq_right hover.le]
  exact h.trans (add_le_add_right (min_le_right _ _) _)

theorem Owes.bound (h : Owes cost rate limit since last debt n) : n * cost ≤ rate * (last - since) + limit :=
  le_trans h (add_le_add_right (min_le_right _ _) _)

end RealtimeVoice.Base.Bucket
