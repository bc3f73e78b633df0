import Mathlib

namespace RealtimeVoice.Base.Scan

variable {α : Type}

/-- `find` of a character with a property, from a position on. -/
def findFrom (p : α → Bool) (start : Nat) (s : List α) : Option Nat := ((s.drop start).findIdx? p).map (· + start)

/-- `find` of a text. -/
def findText [BEq α] (text : List α) : List α → Option Nat
  | [] => if text.isPrefixOf [] then some 0 else none
  | c :: s => if text.isPrefixOf (c :: s) then some 0 else (findText text s).map (· + 1)

/-- `substr`, nothing where it is out of range. -/
def substr (s : List α) (position count : Nat) : Option (List α) :=
  if position ≤ s.length then some ((s.drop position).take count) else none

variable {p : α → Bool} {s before rest text : List α} {start i : Nat}

theorem substr_eq (before rest : List α) (count : Nat) :
    substr (before ++ rest) before.length count = some (rest.take count) := by
  rw [substr, if_pos (by simp), List.drop_left]

theorem substr_before (before rest : List α) : substr (before ++ rest) 0 before.length = some before := by
  rw [substr, if_pos (Nat.zero_le _), List.drop_zero, List.take_left]

theorem substr_rest (before rest : List α) (count : Nat) (h : rest.length ≤ count) :
    substr (before ++ rest) before.length count = some rest := by
  rw [substr_eq, List.take_of_length_le h]

theorem findFrom_eq_none : findFrom p start s = none ↔ ∀ c ∈ s.drop start, p c = false := by
  rw [findFrom, Option.map_eq_none_iff, List.findIdx?_eq_none_iff]

theorem findFrom_eq_some :
    findFrom p start s = some i ↔ ∃ before c rest, s.drop start = before ++ c :: rest ∧ p c = true ∧
      (∀ x ∈ before, p x = false) ∧ i = before.length + start := by
  rw [findFrom, Option.map_eq_some_iff]
  constructor
  · rintro ⟨j, hj, rfl⟩
    obtain ⟨hlt, hp, hbefore⟩ := List.findIdx?_eq_some_iff_getElem.mp hj
    refine ⟨(s.drop start).take j, (s.drop start)[j], (s.drop start).drop (j + 1), ?_, hp, ?_, ?_⟩
    · rw [← List.drop_eq_getElem_cons hlt, List.take_append_drop]
    · intro x hx
      obtain ⟨k, hk, rfl⟩ := List.mem_iff_getElem.mp hx
      rw [List.length_take] at hk
      rw [List.getElem_take]
      simpa using hbefore k (by omega)
    · rw [List.length_take, Nat.min_eq_left hlt.le]
  · rintro ⟨before, c, rest, hdrop, hc, hbefore, rfl⟩
    refine ⟨before.length, ?_, rfl⟩
    rw [hdrop, List.findIdx?_append, List.findIdx?_eq_none_iff.mpr hbefore]
    simp [List.findIdx?_cons, hc]

variable [BEq α] [LawfulBEq α]

theorem findFrom_char {c : α} (h : c ∉ before) (rest : List α) :
    findFrom (· == c) 0 (before ++ c :: rest) = some before.length := by
  rw [findFrom_eq_some]
  refine ⟨before, c, rest, rfl, beq_self_eq_true c, ?_, rfl⟩
  intro x hx
  rw [beq_eq_false_iff_ne]
  rintro rfl
  exact h hx

theorem findFrom_char_none {c : α} : findFrom (· == c) start s = none ↔ c ∉ s.drop start := by
  rw [findFrom_eq_none]
  simp only [beq_eq_false_iff_ne]
  exact ⟨fun h hc => h c hc rfl, fun h x hx hxc => h (hxc ▸ hx)⟩

theorem findFrom_char_isSome {c : α} : (findFrom (· == c) start s).isSome = true ↔ c ∈ s.drop start := by
  rw [Option.isSome_iff_ne_none, ne_eq, findFrom_char_none, not_not]

theorem findText_some (h : findText text s = some i) : ∃ before rest, s = before ++ text ++ rest ∧ before.length = i := by
  induction s generalizing i with
  | nil =>
    rw [findText] at h
    split_ifs at h with hprefix
    obtain ⟨rest, hrest⟩ := List.isPrefixOf_iff_prefix.mp hprefix
    exact ⟨[], rest, hrest.symm, Option.some.inj h⟩
  | cons c s ih =>
    rw [findText] at h
    split_ifs at h with hprefix
    · obtain ⟨rest, hrest⟩ := List.isPrefixOf_iff_prefix.mp hprefix
      exact ⟨[], rest, hrest.symm, Option.some.inj h⟩
    · obtain ⟨j, hj, rfl⟩ := Option.map_eq_some_iff.mp h
      obtain ⟨before, rest, rfl, rfl⟩ := ih hj
      exact ⟨c :: before, rest, rfl, rfl⟩

/-- A text is found where it stands, if nothing before it has its first character. -/
theorem findText_append {t : α} (hbefore : t ∉ before) (text rest : List α) :
    findText (t :: text) (before ++ (t :: text) ++ rest) = some before.length := by
  induction before with
  | nil => simp [findText, List.isPrefixOf]
  | cons c before ih =>
    rw [List.mem_cons, not_or] at hbefore
    have hfirst : (t == c) = false := beq_false_of_ne hbefore.1
    simp only [List.cons_append, findText, List.isPrefixOf, hfirst, Bool.false_and, Bool.false_eq_true, if_false]
    rw [ih hbefore.2]
    rfl

/-- What stands before the first occurrence of a character is determined, and so is the rest. -/
theorem append_char_inj {c : α} {before' rest' : List α} (h : c ∉ before) (h' : c ∉ before')
    (heq : before ++ c :: rest = before' ++ c :: rest') : before = before' ∧ rest = rest' := by
  have hlength : before.length = before'.length := by
    have hfirst := findFrom_char h rest
    rw [heq, findFrom_char h' rest'] at hfirst
    exact (Option.some.inj hfirst).symm
  obtain ⟨hbefore, hrest⟩ := List.append_inj heq hlength
  exact ⟨hbefore, (List.cons.inj hrest).2⟩

end RealtimeVoice.Base.Scan
