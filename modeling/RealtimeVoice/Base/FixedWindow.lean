import RealtimeVoice.Base.Runs

namespace RealtimeVoice.Base

open Runs

variable {τ : Type} [AddCommGroup τ] [LinearOrder τ]

/-- A limiter that counts the claims since the start of a window. A claim starts a new window
where the last one has lasted longer than its width, and is granted while no more than the
limit are counted. -/
structure FixedWindow (τ : Type) where
  startedAt : Option τ := none
  count : Nat := 0
deriving DecidableEq

namespace FixedWindow

def expired (width : τ) (w : FixedWindow τ) (now : τ) : Bool :=
  match w.startedAt with
  | none => true
  | some start => decide (width < now - start)

def claim (width : τ) (limit : Nat) (w : FixedWindow τ) (now : τ) : FixedWindow τ × Bool :=
  let w : FixedWindow τ := if w.expired width now then { startedAt := some now } else w
  let w := { w with count := w.count + 1 }
  (w, decide (w.count ≤ limit))

/-- The grants from one time to another. -/
def grants (es : List (τ × Bool)) (first last : τ) : Nat := es.countP fun e => e.2 && decide (first ≤ e.1 ∧ e.1 ≤ last)

variable {width start now first last : τ} {limit : Nat} {w t u : FixedWindow τ} {es : List (τ × Bool)} {e : τ × Bool}

omit [AddCommGroup τ] in
theorem grants_snoc : grants (es ++ [e]) first last = grants es first last + grants [e] first last := List.countP_append

omit [AddCommGroup τ] in
theorem grants_cons : grants (e :: es) first last = grants [e] first last + grants es first last := by
  rw [← List.singleton_append, grants, List.countP_append]
  rfl

omit [AddCommGroup τ] in
theorem grants_single_le (e : τ × Bool) (first last : τ) : grants [e] first last ≤ if e.2 then 1 else 0 := by
  rw [grants, List.countP_singleton]
  cases e.2
  · simp
  · rw [if_pos rfl]
    split_ifs <;> simp

omit [AddCommGroup τ] in
theorem grants_eq_zero (h : ∀ e ∈ es, e.1 < first ∨ last < e.1) : grants es first last = 0 := by
  rw [grants, List.countP_eq_zero]
  intro e he hin
  obtain ⟨hfirst, hlast⟩ := of_decide_eq_true (Bool.and_eq_true_iff.mp hin).2
  rcases h e he with hbefore | hafter
  · exact not_lt.mpr hfirst hbefore
  · exact not_lt.mpr hlast hafter

theorem claim_expired (h : w.expired width now = true) :
    claim width limit w now = (⟨some now, 1⟩, decide (1 ≤ limit)) := by
  rw [claim, if_pos h]

theorem claim_kept (h : w.expired width now = false) :
    claim width limit w now = ({ w with count := w.count + 1 }, decide (w.count + 1 ≤ limit)) := by
  rw [claim, if_neg (Bool.not_eq_true _ ▸ h)]

omit [AddCommGroup τ] in
/-- What a claim adds to the grants, where it is the last one that its window counts. -/
theorem grants_claimed (first last : τ) {count : Nat} (h : e.2 = decide (count + 1 ≤ limit)) :
    grants [e] first last + min count limit ≤ min (count + 1) limit := by
  have hle := grants_single_le e first last
  simp only [h, decide_eq_true_eq] at hle
  split_ifs at hle <;> omega

section Steps

variable [IsOrderedAddMonoid τ]

theorem expired_some (h : w.startedAt = some start) : w.expired width now = true ↔ width + start < now := by
  rw [expired, h, decide_eq_true_iff, lt_sub_iff_add_lt]

/-- A claim starts a window, or counts in the one there is. -/
theorem step_cases (h : Answers (claim width limit) w e u) :
    ((∀ start, w.startedAt = some start → width + start < e.1) ∧ u = ⟨some e.1, 1⟩ ∧ e.2 = decide (1 ≤ limit)) ∨
      ∃ start, w.startedAt = some start ∧ e.1 ≤ width + start ∧ u = { w with count := w.count + 1 } ∧
        e.2 = decide (w.count + 1 ≤ limit) := by
  rw [Answers] at h
  cases hexpired : w.expired width e.1 with
  | true =>
    rw [claim_expired hexpired] at h
    obtain ⟨rfl, hgrant⟩ := Prod.mk.inj h
    exact .inl ⟨fun start hstart => (expired_some hstart).mp hexpired, rfl, hgrant.symm⟩
  | false =>
    rw [claim_kept hexpired] at h
    obtain ⟨rfl, hgrant⟩ := Prod.mk.inj h
    cases hstart : w.startedAt with
    | none =>
      rw [expired, hstart] at hexpired
      cases hexpired
    | some start =>
      refine .inr ⟨start, rfl, not_lt.mp fun hlt => ?_, rfl, hgrant.symm⟩
      rw [(expired_some hstart).mpr hlt] at hexpired
      cases hexpired

/-- Where the window in force stands to an interval of its width, and the grants in the interval
so far. A window that started before the interval has spent its first grant before it. -/
inductive Phase (width first : τ) (limit : Nat) (start : τ) (count granted : Nat) : Prop
  | before (hstart : start < first) (hgranted : granted + 1 ≤ min count limit)
  | inside (hfirst : first ≤ start) (hlast : start ≤ first + width) (hgranted : granted + 1 ≤ limit + min count limit)
  | after (hstart : first + width < start) (hgranted : granted + 1 ≤ 2 * limit)

omit [IsOrderedAddMonoid τ] in
theorem Phase.bound {count granted : Nat} (h : Phase width first limit start count granted) : granted + 1 ≤ 2 * limit := by
  cases h with
  | before _ hgranted => omega
  | inside _ _ hgranted => omega
  | after _ hgranted => exact hgranted

omit [IsOrderedAddMonoid τ] in
theorem Phase.kept {count : Nat} (h : Phase width first limit start count (grants es first (first + width)))
    (hle : start ≤ e.1) (hgrant : e.2 = decide (count + 1 ≤ limit)) :
    Phase width first limit start (count + 1) (grants (es ++ [e]) first (first + width)) := by
  have hclaimed := grants_claimed first (first + width) hgrant
  rw [grants_snoc]
  cases h with
  | before hstart hgranted => exact .before hstart (by omega)
  | inside hfirst hlast hgranted => exact .inside hfirst hlast (by omega)
  | after hstart hgranted =>
    have hnone : grants [e] first (first + width) = 0 :=
      grants_eq_zero fun f hf => .inr (List.mem_singleton.mp hf ▸ lt_of_lt_of_le hstart hle)
    rw [hnone]
    exact .after hstart hgranted

/-- A claim that starts a window, after one that has expired or as the first of all. -/
theorem phase_started (hlimit : 1 ≤ limit) (hwidth : 0 ≤ width) (hclock : ∀ f ∈ es, f.1 ≤ e.1)
    (hbefore : es = [] ∨ ∃ start count, width + start < e.1 ∧
      Phase width first limit start count (grants es first (first + width)))
    (hgrant : e.2 = decide (0 + 1 ≤ limit)) :
    Phase width first limit e.1 1 (grants (es ++ [e]) first (first + width)) := by
  have hclaimed := grants_claimed first (first + width) hgrant
  rw [grants_snoc]
  rcases lt_or_ge e.1 first with hearly | hfirst
  · have hnone : grants es first (first + width) = 0 := grants_eq_zero fun f hf => .inl (lt_of_le_of_lt (hclock f hf) hearly)
    have hnone' : grants [e] first (first + width) = 0 :=
      grants_eq_zero fun f hf => .inl (List.mem_singleton.mp hf ▸ hearly)
    exact .before hearly (by omega)
  · rcases le_or_gt e.1 (first + width) with hlast | hlate
    · refine .inside hfirst hlast ?_
      have hspent : grants es first (first + width) + 1 ≤ limit := by
        rcases hbefore with rfl | ⟨start, count, helapsed, hphase⟩
        · exact hlimit
        · have hstart : start < first := by
            have hlt := lt_of_lt_of_le helapsed hlast
            rw [add_comm first] at hlt
            exact lt_of_add_lt_add_left hlt
          cases hphase with
          | before _ hgranted => omega
          | inside hfirst' _ _ => exact absurd hstart (not_lt.mpr hfirst')
          | after hafter _ => exact absurd (hafter.trans hstart) (not_lt.mpr (le_add_of_nonneg_right hwidth))
      omega
    · have hnone : grants [e] first (first + width) = 0 :=
        grants_eq_zero fun f hf => .inr (List.mem_singleton.mp hf ▸ hlate)
      refine .after hlate ?_
      rcases hbefore with rfl | ⟨start, count, -, hphase⟩
      · rw [hnone]
        change 0 + 0 + 1 ≤ 2 * limit
        omega
      · have hbound := hphase.bound
        omega

/-- In no interval of the width are more granted than all of one window and all but the first of
the window before. -/
theorem grants_add_one_le (h : Run (Answers (claim width limit)) {} es w) (hclock : (es.map Prod.fst).Pairwise (· ≤ ·))
    (hlimit : 1 ≤ limit) (hwidth : 0 ≤ width) (first : τ) : grants es first (first + width) + 1 ≤ 2 * limit := by
  have hphase : (es = [] ∧ w.startedAt = none) ∨ ∃ start, w.startedAt = some start ∧ start ∈ es.map Prod.fst ∧
      Phase width first limit start w.count (grants es first (first + width)) := by
    refine h.invariant (R := fun es w => (es.map Prod.fst).Pairwise (· ≤ ·) → (es = [] ∧ w.startedAt = none) ∨
      ∃ start, w.startedAt = some start ∧ start ∈ es.map Prod.fst ∧
        Phase width first limit start w.count (grants es first (first + width))) (fun _ => .inl ⟨rfl, rfl⟩) ?_ hclock
    intro es t e u _ ih hstep hclock
    rw [List.map_append, List.pairwise_append] at hclock
    obtain ⟨hclock, -, hlast⟩ := hclock
    have hle : ∀ start ∈ es.map Prod.fst, start ≤ e.1 := fun start hs => hlast start hs e.1 List.mem_cons_self
    obtain ⟨helapsed, rfl, hgrant⟩ | ⟨start, hstart, -, rfl, hgrant⟩ := step_cases hstep
    · refine .inr ⟨e.1, rfl, by simp, ?_⟩
      refine phase_started hlimit hwidth (fun f hf => hle f.1 (List.mem_map_of_mem hf)) ?_ hgrant
      rcases ih hclock with ⟨rfl, -⟩ | ⟨start, hstart, -, hphase⟩
      · exact .inl rfl
      · exact .inr ⟨start, t.count, helapsed start hstart, hphase⟩
    · rcases ih hclock with ⟨-, hnone⟩ | ⟨start', hstart', hmem, hphase⟩
      · cases hnone.symm.trans hstart
      · obtain rfl := Option.some.inj (hstart.symm.trans hstart')
        refine .inr ⟨start, hstart, ?_, hphase.kept (hle start hmem) hgrant⟩
        rw [List.map_append]
        exact List.mem_append_left _ hmem
  rcases hphase with ⟨rfl, -⟩ | ⟨start, -, -, hphase⟩
  · change 0 + 1 ≤ 2 * limit
    omega
  · exact hphase.bound

/-- Of the claims that follow in a window, no more than its limit leaves are granted. -/
theorem grants_window (h : Run (Answers (claim width limit)) t es w) (hclock : (es.map Prod.fst).Pairwise (· ≤ ·))
    (hwidth : 0 ≤ width) (hstart : t.startedAt = some start) (hcount : 1 ≤ t.count) :
    grants es start (start + width) + min t.count limit ≤ limit := by
  have hinv : ∃ begun, w.startedAt = some begun ∧
      (begun = start ∧ 1 ≤ w.count ∧ grants es start (start + width) + min t.count limit ≤ min w.count limit ∨
        start + width < begun ∧ begun ∈ es.map Prod.fst ∧
          grants es start (start + width) + min t.count limit ≤ limit) := by
    refine h.invariant (R := fun es w => (es.map Prod.fst).Pairwise (· ≤ ·) → ∃ begun, w.startedAt = some begun ∧
      (begun = start ∧ 1 ≤ w.count ∧ grants es start (start + width) + min t.count limit ≤ min w.count limit ∨
        start + width < begun ∧ begun ∈ es.map Prod.fst ∧
          grants es start (start + width) + min t.count limit ≤ limit))
      (fun _ => ⟨start, hstart, .inl ⟨rfl, hcount, (Nat.zero_add _).le⟩⟩) ?_ hclock
    intro es v e u _ ih hstep hclock
    rw [List.map_append, List.pairwise_append] at hclock
    obtain ⟨hclock, -, hlast⟩ := hclock
    obtain ⟨begun, hbegun, hphase⟩ := ih hclock
    have hnone (hlate : start + width < e.1) : grants [e] start (start + width) = 0 :=
      grants_eq_zero fun f hf => .inr (List.mem_singleton.mp hf ▸ hlate)
    rw [grants_snoc]
    obtain ⟨helapsed, rfl, -⟩ | ⟨begun', hbegun', -, rfl, hgrant⟩ := step_cases hstep
    · refine ⟨e.1, rfl, .inr ?_⟩
      have hlate : start + width < e.1 := by
        have hlt := helapsed begun hbegun
        rw [add_comm] at hlt
        rcases hphase with ⟨rfl, -⟩ | ⟨hpast, -⟩
        · exact hlt
        · exact hpast.trans_le ((le_add_of_nonneg_right hwidth).trans hlt.le)
      rw [hnone hlate]
      refine ⟨hlate, by simp, ?_⟩
      rcases hphase with ⟨-, -, hle⟩ | ⟨-, -, hle⟩ <;> omega
    · refine ⟨begun, hbegun, ?_⟩
      rcases hphase with ⟨rfl, hpos, hle⟩ | ⟨hpast, hmem, hle⟩
      · have hclaimed := grants_claimed begun (begun + width) hgrant
        refine .inl ⟨rfl, Nat.le_add_left 1 v.count, ?_⟩
        change _ ≤ min (v.count + 1) limit
        omega
      · rw [hnone (hpast.trans_le (hlast begun hmem e.1 List.mem_cons_self))]
        refine .inr ⟨hpast, ?_, hle⟩
        rw [List.map_append]
        exact List.mem_append_left _ hmem
  obtain ⟨begun, -, ⟨-, -, hle⟩ | ⟨-, -, hle⟩⟩ := hinv
  · exact hle.trans (min_le_right _ _)
  · exact hle

/-- No more than the limit are granted from a claim that starts a window until its end. -/
theorem grants_started (h : Run (Answers (claim width limit)) t (e :: es) w)
    (hclock : ((e :: es).map Prod.fst).Pairwise (· ≤ ·)) (hlimit : 1 ≤ limit) (hwidth : 0 ≤ width)
    (hexpired : t.expired width e.1 = true) : grants (e :: es) e.1 (e.1 + width) ≤ limit := by
  obtain ⟨u, hfirst, hlater⟩ := Run.cons_iff.mp h
  rw [Answers, claim_expired hexpired] at hfirst
  obtain ⟨rfl, -⟩ := Prod.mk.inj hfirst
  have hle := grants_window hlater (List.pairwise_cons.mp hclock).2 hwidth rfl le_rfl
  have hone : grants [e] e.1 (e.1 + width) ≤ 1 := (grants_single_le _ _ _).trans (by split_ifs <;> omega)
  rw [grants_cons]
  rw [Nat.min_eq_left hlimit] at hle
  omega

end Steps

end FixedWindow

end RealtimeVoice.Base
