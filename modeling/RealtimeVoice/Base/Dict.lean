import Mathlib

namespace RealtimeVoice.Base

variable {K V : Type} [DecidableEq K]

theorem nodup_keys_nil {K V : Type} : (([] : List (K × V)).map Prod.fst).Nodup := by simp

/-- A dictionary that remembers the order in which its keys were first inserted. -/
structure Dict (K V : Type) where
  entries : List (K × V) := []
  nodup : (entries.map Prod.fst).Nodup := by first | exact nodup_keys_nil | simp
deriving DecidableEq

namespace Dict

instance : Inhabited (Dict K V) := ⟨{}⟩

def get? (d : Dict K V) (k : K) : Option V := d.entries.lookup k

def values (d : Dict K V) : List V := d.entries.map Prod.snd

def size (d : Dict K V) : Nat := d.entries.length

/-- Drop the entries that do not satisfy the predicate. -/
def filter (d : Dict K V) (p : K → V → Bool) : Dict K V where
  entries := d.entries.filter (fun e => p e.1 e.2)
  nodup := (List.filter_sublist.map Prod.fst).nodup d.nodup

def erase (d : Dict K V) (k : K) : Dict K V := d.filter (fun k' _ => k' ≠ k)

/-- Assign a key: an existing key keeps its place, a new one goes to the end. -/
def set (d : Dict K V) (k : K) (v : V) : Dict K V :=
  if h : k ∈ d.entries.map Prod.fst then
    { entries := d.entries.map (fun e => if e.1 = k then (k, v) else e)
      nodup := by
        have hkeys : (d.entries.map (fun e => if e.1 = k then (k, v) else e)).map Prod.fst =
            d.entries.map Prod.fst := by
          rw [List.map_map]
          refine List.map_congr_left (fun e _ => ?_)
          by_cases he : e.1 = k <;> simp [he]
        rw [hkeys]
        exact d.nodup }
  else
    { entries := d.entries ++ [(k, v)]
      nodup := by
        rw [List.map_append]
        exact List.nodup_append.mpr ⟨d.nodup, by simp, fun a ha b hb => by
          simp only [List.map_cons, List.map_nil, List.mem_singleton] at hb
          subst hb
          rintro rfl
          exact h ha⟩ }

theorem mem_entries_iff (d : Dict K V) (k : K) (v : V) : (k, v) ∈ d.entries ↔ d.get? k = some v := by
  obtain ⟨entries, nodup⟩ := d
  simp only [get?]
  induction entries with
  | nil => simp
  | cons e es ih =>
    obtain ⟨k', v'⟩ := e
    rw [List.map_cons, List.nodup_cons] at nodup
    rw [List.mem_cons, List.lookup_cons]
    by_cases hk : k = k'
    · subst hk
      have hnot : (k, v) ∉ es := fun hm => nodup.1 (List.mem_map.mpr ⟨(k, v), hm, rfl⟩)
      simp [hnot, eq_comm]
    · have hne : (k == k') = false := beq_eq_false_iff_ne.mpr hk
      simp [hk, hne, ih nodup.2]

theorem mem_values_iff (d : Dict K V) (v : V) : v ∈ d.values ↔ ∃ k, d.get? k = some v := by
  simp only [values, List.mem_map, ← mem_entries_iff]
  constructor
  · rintro ⟨⟨k, v'⟩, hm, rfl⟩
    exact ⟨k, hm⟩
  · rintro ⟨k, hm⟩
    exact ⟨(k, v), hm, rfl⟩

theorem key_mem_iff (d : Dict K V) (k : K) : k ∈ d.entries.map Prod.fst ↔ (d.get? k).isSome := by
  rw [Option.isSome_iff_exists, List.mem_map]
  constructor
  · rintro ⟨⟨k', v⟩, hm, rfl⟩
    exact ⟨v, (mem_entries_iff d _ v).mp hm⟩
  · rintro ⟨v, hv⟩
    exact ⟨(k, v), (mem_entries_iff d k v).mpr hv, rfl⟩

@[simp]
theorem get?_empty (k : K) : ({} : Dict K V).get? k = none := rfl

theorem get?_filter (d : Dict K V) (p : K → V → Bool) (k : K) :
    (d.filter p).get? k = (d.get? k).filter (p k) := by
  ext v
  rw [← mem_entries_iff, Option.filter_eq_some_iff, ← mem_entries_iff]
  simp [filter]

@[simp]
theorem get?_erase_self (d : Dict K V) (k : K) : (d.erase k).get? k = none := by
  rw [erase, get?_filter]
  cases d.get? k <;> simp

theorem get?_erase_ne (d : Dict K V) {k k' : K} (h : k' ≠ k) : (d.erase k).get? k' = d.get? k' := by
  rw [erase, get?_filter]
  cases d.get? k' <;> simp [h]

theorem get?_of_size_zero {d : Dict K V} (h : d.size = 0) (k : K) : d.get? k = none := by
  rw [get?, List.eq_nil_of_length_eq_zero h]
  rfl

theorem size_erase_lt (d : Dict K V) {k : K} {v : V} (h : d.get? k = some v) : (d.erase k).size < d.size := by
  rw [← mem_entries_iff] at h
  exact List.length_filter_lt_length_iff_exists.mpr ⟨(k, v), h, by simp⟩

theorem get?_set (d : Dict K V) (k k' : K) (v : V) :
    (d.set k v).get? k' = if k' = k then some v else d.get? k' := by
  ext w
  rw [← mem_entries_iff]
  by_cases hm : k ∈ d.entries.map Prod.fst
  · rw [set, dif_pos hm, List.mem_map]
    by_cases hk : k' = k
    · subst hk
      rw [if_pos rfl]
      constructor
      · rintro ⟨e, -, he⟩
        by_cases hek : e.1 = k'
        · rw [if_pos hek] at he
          simpa using congrArg Prod.snd he
        · rw [if_neg hek] at he
          exact absurd (congrArg Prod.fst he) hek
      · intro hw
        obtain ⟨e, he, hek⟩ := List.mem_map.mp hm
        refine ⟨e, he, ?_⟩
        rw [if_pos hek, Option.some.inj hw]
    · rw [if_neg hk, ← mem_entries_iff]
      constructor
      · rintro ⟨e, hmem, he⟩
        by_cases hek : e.1 = k
        · rw [if_pos hek] at he
          exact absurd (congrArg Prod.fst he).symm hk
        · rw [if_neg hek] at he
          rwa [← he]
      · intro hmem
        exact ⟨(k', w), hmem, if_neg hk⟩
  · rw [set, dif_neg hm, List.mem_append, mem_entries_iff, List.mem_singleton, Prod.mk.injEq]
    have hnone : d.get? k = none := by
      rw [key_mem_iff] at hm
      simpa using hm
    by_cases hk : k' = k
    · subst hk
      simp [hnone, eq_comm]
    · simp [hk]

@[simp]
theorem get?_set_self (d : Dict K V) (k : K) (v : V) : (d.set k v).get? k = some v := by
  rw [get?_set, if_pos rfl]

theorem get?_set_ne (d : Dict K V) {k k' : K} (v : V) (h : k' ≠ k) : (d.set k v).get? k' = d.get? k' := by
  rw [get?_set, if_neg h]

theorem entries_set_of_none (d : Dict K V) {k : K} (v : V) (h : d.get? k = none) :
    (d.set k v).entries = d.entries ++ [(k, v)] := by
  have hm : k ∉ d.entries.map Prod.fst := by
    rw [key_mem_iff, h]
    simp
  rw [set, dif_neg hm]

theorem values_set_of_none (d : Dict K V) {k : K} (v : V) (h : d.get? k = none) :
    (d.set k v).values = d.values ++ [v] := by
  rw [values, values, entries_set_of_none d v h, List.map_append]
  rfl

theorem size_set_le (d : Dict K V) (k : K) (v : V) : (d.set k v).size ≤ d.size + 1 := by
  rw [set]
  split_ifs
  · rw [size, List.length_map]
    exact Nat.le_succ _
  · rw [size, List.length_append, List.length_singleton]
    exact le_rfl

/-- A key that carries one property has at most one value that carries it. -/
theorem countP_values_le_one (d : Dict K V) (k : K) (p : V → Bool)
    (h : ∀ k' v, d.get? k' = some v → p v = true → k' = k) : d.values.countP p ≤ 1 := by
  obtain ⟨entries, nodup⟩ := d
  rw [values, List.countP_map]
  have hkey : ∀ e ∈ entries, p e.2 = true → e.1 = k := by
    intro e he hp
    exact h e.1 e.2 ((mem_entries_iff ⟨entries, nodup⟩ e.1 e.2).mp he) hp
  clear h
  induction entries with
  | nil => simp
  | cons e es ih =>
    rw [List.map_cons, List.nodup_cons] at nodup
    rw [List.countP_cons]
    have htail := ih nodup.2 (fun e' he' => hkey e' (List.mem_cons_of_mem _ he'))
    by_cases hp : p e.2 = true
    · have hzero : es.countP (p ∘ Prod.snd) = 0 := by
        rw [List.countP_eq_zero]
        intro e' he' hp'
        refine nodup.1 (List.mem_map.mpr ⟨e', he', ?_⟩)
        rw [hkey e' (List.mem_cons_of_mem _ he') hp', hkey e List.mem_cons_self hp]
      simp [hzero, hp]
    · simpa [hp] using htail

omit [DecidableEq K] in
theorem size_filter (d : Dict K V) (p : V → Bool) : (d.filter (fun _ v => p v)).size = d.values.countP p := by
  rw [size, filter, values, List.countP_map, List.countP_eq_length_filter]
  rfl

/-- Two dictionaries that have the same keys with marked values have as many of these. -/
theorem countP_values_eq {W : Type} (d : Dict K V) (d' : Dict K W) (p : V → Bool) (q : W → Bool)
    (h : ∀ k, (∃ v, d.get? k = some v ∧ p v = true) ↔ ∃ w, d'.get? k = some w ∧ q w = true) :
    d.values.countP p = d'.values.countP q := by
  have hmem : ∀ {V : Type} (d : Dict K V) (p : V → Bool) (k : K),
      k ∈ (d.filter (fun _ v => p v)).entries.map Prod.fst ↔ ∃ v, d.get? k = some v ∧ p v = true := by
    intro V d p k
    rw [key_mem_iff, get?_filter, Option.isSome_iff_exists]
    simp only [Option.filter_eq_some_iff]
  have hperm : ((d.filter (fun _ v => p v)).entries.map Prod.fst).Perm
      ((d'.filter (fun _ v => q v)).entries.map Prod.fst) := by
    refine (List.perm_ext_iff_of_nodup (d.filter _).nodup (d'.filter _).nodup).mpr (fun k => ?_)
    rw [hmem, hmem, h]
  have hlength := hperm.length_eq
  rw [List.length_map, List.length_map] at hlength
  rw [← size_filter, ← size_filter]
  exact hlength

end Dict

end RealtimeVoice.Base
