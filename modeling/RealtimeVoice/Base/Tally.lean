import Mathlib

namespace RealtimeVoice.Base.Tally

/-- A part of an amount, and whether a counter has taken it. -/
structure Portion where
  amount : Nat
  counted : Bool
deriving DecidableEq, Repr

def total (portions : List Portion) : Nat := (portions.map Portion.amount).sum

def counted (portions : List Portion) : Nat := total (portions.filter Portion.counted)

def uncounted (portions : List Portion) : Nat := total (portions.filter fun p => !p.counted)

/-- A part that was not counted may still grow. -/
def Portion.grow (p : Portion) (f : Nat → Nat) : Portion := if p.counted then p else { p with amount := f p.amount }

variable {portions : List Portion} {p : Portion}

theorem total_cons (p : Portion) (portions : List Portion) : total (p :: portions) = p.amount + total portions := by
  rw [total, List.map_cons, List.sum_cons, total]

theorem counted_cons (p : Portion) (portions : List Portion) :
    counted (p :: portions) = (if p.counted then p.amount else 0) + counted portions := by
  rw [counted, counted, List.filter_cons]
  split_ifs
  · exact total_cons p _
  · exact (Nat.zero_add _).symm

theorem uncounted_cons (p : Portion) (portions : List Portion) :
    uncounted (p :: portions) = (if p.counted then 0 else p.amount) + uncounted portions := by
  rw [uncounted, uncounted, List.filter_cons]
  cases p.counted with
  | true => exact (Nat.zero_add _).symm
  | false => exact total_cons p _

theorem total_eq (portions : List Portion) : total portions = counted portions + uncounted portions := by
  induction portions with
  | nil => rfl
  | cons p portions ih =>
    rw [total_cons, counted_cons, uncounted_cons, ih]
    split_ifs
    · omega
    · omega

theorem counted_snoc (portions : List Portion) (p : Portion) :
    counted (portions ++ [p]) = counted portions + if p.counted then p.amount else 0 := by
  induction portions with
  | nil =>
    rw [List.nil_append, counted_cons]
    exact Nat.add_comm _ _
  | cons q portions ih => rw [List.cons_append, counted_cons, counted_cons, ih, Nat.add_assoc]

theorem uncounted_snoc (portions : List Portion) (p : Portion) :
    uncounted (portions ++ [p]) = uncounted portions + if p.counted then 0 else p.amount := by
  induction portions with
  | nil =>
    rw [List.nil_append, uncounted_cons]
    exact Nat.add_comm _ _
  | cons q portions ih => rw [List.cons_append, uncounted_cons, uncounted_cons, ih, Nat.add_assoc]

/-- Where nothing is uncounted, a part that grows leaves it so exactly if it grows to nothing. -/
theorem uncounted_grow_iff (portions : List Portion) (i : Nat) (f : Nat → Nat) (h : uncounted portions = 0) :
    uncounted (portions.modify i fun p => p.grow f) = 0 ↔
      ∀ p, portions[i]? = some p → p.counted = true ∨ f 0 = 0 := by
  induction portions generalizing i with
  | nil => simp [uncounted, total]
  | cons p portions ih =>
    rw [uncounted_cons, Nat.add_eq_zero_iff] at h
    cases i with
    | zero =>
      rw [List.modify_zero_cons, uncounted_cons, h.2, Portion.grow]
      cases hcounted : p.counted with
      | true => simp [hcounted]
      | false =>
        have hzero : p.amount = 0 := by simpa [hcounted] using h.1
        simp [hcounted, hzero]
    | succ i =>
      rw [List.modify_succ_cons, uncounted_cons, h.1, Nat.zero_add, ih i h.2]
      rfl

/-- What is uncounted stays so while parts grow. -/
theorem uncounted_grow_ne (portions : List Portion) (i : Nat) (f : Nat → Nat) (hf : ∀ n, n ≠ 0 → f n ≠ 0)
    (h : uncounted portions ≠ 0) : uncounted (portions.modify i fun p => p.grow f) ≠ 0 := by
  induction portions generalizing i with
  | nil => exact absurd rfl h
  | cons p portions ih =>
    rw [uncounted_cons] at h
    cases i with
    | zero =>
      rw [List.modify_zero_cons, uncounted_cons, Portion.grow]
      cases hcounted : p.counted with
      | true => simpa [hcounted] using h
      | false =>
        simp only [hcounted, Bool.false_eq_true, if_false] at h ⊢
        intro hsum
        obtain ⟨hamount, hrest⟩ := Nat.add_eq_zero_iff.mp hsum
        rw [hrest, Nat.add_zero] at h
        exact hf p.amount h hamount
    | succ i =>
      rw [List.modify_succ_cons, uncounted_cons]
      intro hsum
      obtain ⟨hamount, hrest⟩ := Nat.add_eq_zero_iff.mp hsum
      rw [hamount, Nat.zero_add] at h
      exact ih i h hrest

theorem counted_grow (portions : List Portion) (i : Nat) (f : Nat → Nat) :
    counted (portions.modify i fun p => p.grow f) = counted portions := by
  induction portions generalizing i with
  | nil => rw [List.modify_nil]
  | cons p portions ih =>
    cases i with
    | zero =>
      rw [List.modify_zero_cons, counted_cons, counted_cons, Portion.grow]
      split_ifs with hcounted
      · rfl
      · rfl
    | succ i => rw [List.modify_succ_cons, counted_cons, counted_cons, ih]

end RealtimeVoice.Base.Tally
