import RealtimeVoice.Worker.Registry

namespace RealtimeVoice.Worker

open RealtimeVoice.Base RealtimeVoice.Contracts

/-- One process-wide bound on the sessions. A token is a fresh `uuid4`, here the
number of tokens drawn before it. -/
structure SharedSessionAdmission where
  maxSessions : Nat
  reservations : Dict Nat Principal := {}
  principals : Finset Principal := ∅
  draining : Bool := false
  drawn : Nat := 0
deriving DecidableEq

namespace SharedSessionAdmission

def reserve (a : SharedSessionAdmission) (p : Principal) : SharedSessionAdmission × Option Nat :=
  if a.draining ∨ a.maxSessions ≤ a.reservations.size ∨ p ∈ a.principals then (a, none)
  else
    ({ a with
        reservations := a.reservations.set a.drawn p
        principals := insert p a.principals
        drawn := a.drawn + 1 }, some a.drawn)

def release (a : SharedSessionAdmission) (token : Nat) : SharedSessionAdmission :=
  match a.reservations.get? token with
  | none => a
  | some p => { a with reservations := a.reservations.erase token, principals := a.principals.erase p }

def activeCount (a : SharedSessionAdmission) : Nat := a.reservations.size

def setDraining (a : SharedSessionAdmission) (value : Bool) : SharedSessionAdmission := { a with draining := value }

/-- The set of principals is the image of the reservations, each held under one
token, and there are never more of these than sessions. -/
structure Consistent (a : SharedSessionAdmission) : Prop where
  bounded : a.reservations.size ≤ a.maxSessions
  principals : ∀ p, p ∈ a.principals ↔ ∃ token, a.reservations.get? token = some p
  unique : ∀ token token' p, a.reservations.get? token = some p → a.reservations.get? token' = some p → token = token'
  drawn : ∀ token p, a.reservations.get? token = some p → token < a.drawn

variable {a : SharedSessionAdmission} {p : Principal} {token token' : Nat}

theorem consistent_init (maxSessions : Nat) : Consistent { maxSessions := maxSessions } where
  bounded := Nat.zero_le _
  principals p := by simp
  unique token token' p h := by simp at h
  drawn token p h := by simp at h

theorem Consistent.setDraining (h : a.Consistent) (value : Bool) : (a.setDraining value).Consistent :=
  ⟨h.bounded, h.principals, h.unique, h.drawn⟩

theorem Consistent.fresh (h : a.Consistent) : a.reservations.get? a.drawn = none := by
  by_contra hsome
  obtain ⟨p, hp⟩ := Option.ne_none_iff_exists'.mp hsome
  exact absurd (h.drawn _ _ hp) (Nat.lt_irrefl _)

/-- A reservation that is granted adds one fresh token for the principal. -/
theorem reserve_some (h : (a.reserve p).2 = some token) :
    token = a.drawn ∧ p ∉ a.principals ∧ a.reservations.size < a.maxSessions ∧ (a.reserve p).1 =
      { a with
        reservations := a.reservations.set a.drawn p
        principals := insert p a.principals
        drawn := a.drawn + 1 } := by
  rw [reserve] at h ⊢
  split at h
  · exact absurd h (by simp)
  · rename_i hfree
    rw [if_neg hfree]
    push Not at hfree
    exact ⟨(Option.some.inj h).symm, hfree.2.2, hfree.2.1, rfl⟩

theorem reserve_none (h : (a.reserve p).2 = none) : (a.reserve p).1 = a := by
  rw [reserve] at h ⊢
  split at h
  · rename_i hfull
    rw [if_pos hfull]
  · exact absurd h (by simp)

theorem reserve_get? (h : (a.reserve p).2 = some token) (token' : Nat) :
    (a.reserve p).1.reservations.get? token' = if token' = token then some p else a.reservations.get? token' := by
  obtain ⟨rfl, -, -, hstate⟩ := reserve_some h
  rw [hstate, Dict.get?_set]

theorem release_get? (a : SharedSessionAdmission) (token token' : Nat) :
    (a.release token).reservations.get? token' =
      if token' = token then none else a.reservations.get? token' := by
  rw [release]
  by_cases hsame : token' = token
  · subst hsame
    rw [if_pos rfl]
    split
    · assumption
    · exact Dict.get?_erase_self _ _
  · rw [if_neg hsame]
    split
    · rfl
    · exact Dict.get?_erase_ne _ hsame

@[simp]
theorem release_maxSessions (a : SharedSessionAdmission) (token : Nat) :
    (a.release token).maxSessions = a.maxSessions := by
  rw [release]
  split <;> rfl

@[simp]
theorem release_drawn (a : SharedSessionAdmission) (token : Nat) : (a.release token).drawn = a.drawn := by
  rw [release]
  split <;> rfl

theorem Consistent.reserve (h : a.Consistent) (hsome : (a.reserve p).2 = some token) : (a.reserve p).1.Consistent := by
  have hget := reserve_get? hsome
  obtain ⟨rfl, hfree, hroom, hstate⟩ := reserve_some hsome
  have hnew : ∀ token, a.reservations.get? token ≠ some p :=
    fun token htoken => hfree ((h.principals p).mpr ⟨token, htoken⟩)
  constructor
  · rw [hstate, Dict.size, Dict.entries_set_of_none _ _ h.fresh, List.length_append]
    exact hroom
  · intro q
    simp only [hget]
    rw [hstate, Finset.mem_insert, h.principals]
    by_cases hq : q = p
    · subst hq
      exact ⟨fun _ => ⟨a.drawn, if_pos rfl⟩, fun _ => .inl rfl⟩
    · refine ⟨fun hold => ?_, ?_⟩
      · obtain ⟨token, htoken⟩ := hold.resolve_left hq
        refine ⟨token, ?_⟩
        rw [if_neg (Nat.ne_of_lt (h.drawn _ _ htoken)), htoken]
      · rintro ⟨token, htoken⟩
        split at htoken
        · exact absurd (Option.some.inj htoken).symm hq
        · exact .inr ⟨token, htoken⟩
  · intro token token' q htoken htoken'
    rw [hget] at htoken htoken'
    split at htoken <;> split at htoken'
    · omega
    · rw [← Option.some.inj htoken] at htoken'
      exact absurd htoken' (hnew _)
    · rw [← Option.some.inj htoken'] at htoken
      exact absurd htoken (hnew _)
    · exact h.unique _ _ _ htoken htoken'
  · intro token q htoken
    rw [hget] at htoken
    rw [hstate]
    change token < a.drawn + 1
    split at htoken
    · omega
    · exact Nat.lt_succ_of_lt (h.drawn _ _ htoken)

theorem Consistent.release (h : a.Consistent) (token : Nat) : (a.release token).Consistent := by
  have hkept : ∀ {token' p}, (a.release token).reservations.get? token' = some p →
      a.reservations.get? token' = some p := by
    intro token' p hp
    rw [release_get?] at hp
    split at hp
    · exact absurd hp (by simp)
    · exact hp
  constructor
  · rw [release_maxSessions, SharedSessionAdmission.release]
    split
    · exact h.bounded
    · rename_i p hp
      exact Nat.le_of_lt (Nat.lt_of_lt_of_le (Dict.size_erase_lt _ hp) h.bounded)
  · intro q
    simp only [release_get?]
    cases hp : a.reservations.get? token with
    | none =>
      simp only [SharedSessionAdmission.release, hp, h.principals]
      refine exists_congr (fun token' => ?_)
      by_cases hsame : token' = token <;> simp [hsame, hp]
    | some p =>
      simp only [SharedSessionAdmission.release, hp, Finset.mem_erase, h.principals]
      constructor
      · rintro ⟨hne, token', htoken'⟩
        refine ⟨token', ?_⟩
        rw [if_neg, htoken']
        rintro rfl
        exact hne (Option.some.inj (htoken'.symm.trans hp))
      · rintro ⟨token', htoken'⟩
        split at htoken'
        · exact absurd htoken' (by simp)
        · rename_i hne
          refine ⟨?_, token', htoken'⟩
          rintro rfl
          exact hne (h.unique _ _ _ htoken' hp)
  · exact fun _ _ _ htoken htoken' => h.unique _ _ _ (hkept htoken) (hkept htoken')
  · intro token' p hp
    rw [release_drawn]
    exact h.drawn _ _ (hkept hp)

end SharedSessionAdmission

end RealtimeVoice.Worker
