import Mathlib

namespace RealtimeVoice.Base

/-- A queue in the places of a fixed array: the `size` places from `head` on, wrapping around. -/
structure Ring (α : Type) (n : Nat) where
  items : Vector α n
  head : Nat
  size : Nat
  head_lt : 0 < n → head < n
  size_le : size ≤ n
deriving DecidableEq

namespace Ring

variable {α : Type} {n : Nat}

theorem place_lt {head size : Nat} (hsize : size ≤ n) {i : Nat} (h : i < size) : (head + i) % n < n :=
  Nat.mod_lt _ (by omega)

/-- Two places of the queue differ, since it does not go round. -/
theorem place_ne {head i j : Nat} (hij : i < j) (hj : j < n + i) : (head + i) % n ≠ (head + j) % n := by
  intro h
  have hdvd : n ∣ j - i := by
    have hmod := (Nat.modEq_iff_dvd' (by omega)).mp h
    rwa [Nat.add_sub_add_left] at hmod
  obtain ⟨k, hk⟩ := hdvd
  rcases k with - | k
  · omega
  · rw [Nat.mul_succ] at hk
    omega

def empty (blank : α) : Ring α n := ⟨Vector.replicate n blank, 0, 0, id, Nat.zero_le n⟩

def get (r : Ring α n) (i : Fin r.size) : α := r.items.get ⟨(r.head + i) % n, place_lt r.size_le i.isLt⟩

/-- What is queued, the oldest first. -/
def toList (r : Ring α n) : List α := List.ofFn r.get

def front (r : Ring α n) (h : 0 < r.size) : α := r.items.get ⟨r.head, r.head_lt (h.trans_le r.size_le)⟩

def last (r : Ring α n) (h : 0 < r.size) : α := r.get ⟨r.size - 1, Nat.sub_one_lt_of_lt h⟩

def pushBack (r : Ring α n) (x : α) (h : r.size < n) : Ring α n :=
  { items := r.items.set ((r.head + r.size) % n) x (Nat.mod_lt _ (Nat.zero_lt_of_lt h))
    head := r.head
    size := r.size + 1
    head_lt := r.head_lt
    size_le := h }

/-- Takes the oldest item out and leaves a blank in its place. -/
def popFront (r : Ring α n) (blank : α) (h : 0 < r.size) : Ring α n :=
  { items := r.items.set r.head blank (r.head_lt (h.trans_le r.size_le))
    head := (r.head + 1) % n
    size := r.size - 1
    head_lt := Nat.mod_lt _
    size_le := (Nat.sub_le _ _).trans r.size_le }

/-- Replaces the newest item. -/
def setLast (r : Ring α n) (x : α) (h : 0 < r.size) : Ring α n :=
  { r with items := r.items.set ((r.head + (r.size - 1)) % n) x (place_lt r.size_le (Nat.sub_one_lt_of_lt h)) }

variable {r : Ring α n}

@[simp]
theorem size_pushBack (x : α) (h : r.size < n) : (r.pushBack x h).size = r.size + 1 := rfl

@[simp]
theorem size_popFront (blank : α) (h : 0 < r.size) : (r.popFront blank h).size = r.size - 1 := rfl

@[simp]
theorem toList_empty (blank : α) : (empty blank : Ring α n).toList = [] := rfl

@[simp]
theorem length_toList : r.toList.length = r.size := List.length_ofFn

theorem getElem_toList {i : Nat} (h : i < r.toList.length) (hplace : (r.head + i) % n < n) :
    r.toList[i] = r.items[(r.head + i) % n] := List.getElem_ofFn h

theorem toList_pushBack (x : α) (h : r.size < n) : (r.pushBack x h).toList = r.toList ++ [x] := by
  have hn : ∀ i, (r.head + i) % n < n := fun i => Nat.mod_lt _ (Nat.zero_lt_of_lt h)
  apply List.ext_getElem
  · simp [pushBack]
  · intro i hi hi'
    rw [getElem_toList hi (hn i)]
    rw [length_toList] at hi
    obtain hlt | rfl := Nat.lt_succ_iff_lt_or_eq.mp hi
    · rw [List.getElem_append_left (by simpa using hlt), getElem_toList _ (hn i)]
      exact Vector.getElem_set_ne (hn r.size) (hn i) (place_ne hlt (by omega)).symm
    · rw [List.getElem_append_right (by simp)]
      simp [pushBack]

theorem toList_popFront (blank : α) (h : 0 < r.size) : r.toList = r.front h :: (r.popFront blank h).toList := by
  have hsize := r.size_le
  have hhead : r.head < n := r.head_lt (h.trans_le hsize)
  have hn : ∀ i, (r.head + i) % n < n := fun i => Nat.mod_lt _ (h.trans_le hsize)
  apply List.ext_getElem
  · simp [popFront]
    omega
  · intro i hi hi'
    rw [getElem_toList hi (hn i)]
    rw [length_toList] at hi
    cases i with
    | zero => simp [front, Nat.mod_eq_of_lt hhead, Vector.get]
    | succ i =>
      have hnext : ((r.head + 1) % n + i) % n = (r.head + (i + 1)) % n := by
        rw [Nat.mod_add_mod, Nat.add_assoc, Nat.add_comm 1]
      have hne : (r.head + 0) % n ≠ (r.head + (i + 1)) % n := place_ne (by omega) (by omega)
      rw [Nat.add_zero, Nat.mod_eq_of_lt hhead] at hne
      have hplace : ((r.popFront blank h).head + i) % n < n := by
        rw [popFront, hnext]
        exact hn (i + 1)
      rw [List.getElem_cons_succ, getElem_toList _ hplace]
      simp only [popFront, hnext]
      exact (Vector.getElem_set_ne hhead (hn (i + 1)) hne).symm

/-- The newest item is the last one, and only it is replaced. -/
theorem toList_setLast (h : 0 < r.size) :
    ∃ before, r.toList = before ++ [r.last h] ∧ ∀ x, (r.setLast x h).toList = before ++ [x] := by
  have hsize := r.size_le
  have hn : ∀ i, (r.head + i) % n < n := fun i => Nat.mod_lt _ (h.trans_le hsize)
  have hlt : r.size - 1 < r.toList.length := by
    rw [length_toList]
    omega
  have hlast : r.last h = r.toList[r.size - 1] := (getElem_toList hlt (hn (r.size - 1))).symm
  refine ⟨r.toList.take (r.size - 1), ?_, ?_⟩
  · rw [hlast, ← List.take_succ_eq_append_getElem, Nat.sub_one_add_one h.ne', List.take_of_length_le (by simp)]
  · intro x
    apply List.ext_getElem
    · simp [setLast]
      omega
    · intro i hi hi'
      rw [getElem_toList hi (hn i)]
      rw [length_toList] at hi
      change i < r.size at hi
      by_cases hbefore : i < r.size - 1
      · rw [List.getElem_append_left (by simp; omega), List.getElem_take, getElem_toList _ (hn i)]
        exact Vector.getElem_set_ne (hn (r.size - 1)) (hn i) (place_ne hbefore (by omega)).symm
      · obtain rfl : i = r.size - 1 := by omega
        rw [List.getElem_append_right (by simp)]
        simp [setLast]

end Ring

end RealtimeVoice.Base
