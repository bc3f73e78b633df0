import RealtimeVoice.Base.FixedWindow
import RealtimeVoice.Rva.AudioQueue

namespace RealtimeVoice.Rva.Recovery

open RealtimeVoice.Base RealtimeVoice.Base.Runs RealtimeVoice.Contracts

/-- The window of the recoveries, as a limiter. -/
def window (r : Recovery) : FixedWindow Time := ⟨r.staleRecoveryWindowStartedAt, r.staleRecoveryCount⟩

/-- A call at this time starts a window. -/
def Starts (r : Recovery) (now : Time) : Prop := r.window.expired uplinkStaleRecoveryWindowSeconds now = true

instance (r : Recovery) (now : Time) : Decidable (r.Starts now) := inferInstanceAs (Decidable (_ = true))

/-- The calls between two times that were granted. -/
abbrev granted (es : List (Time × Bool)) (first last : Time) : Nat := FixedWindow.grants es first last

variable {r s : Recovery} {es : List (Time × Bool)}

theorem claim_window (r : Recovery) (now : Time) :
    r.window.claim uplinkStaleRecoveryWindowSeconds uplinkMaxRecoverableStaleDrops now =
      ((r.claimUplinkFreshnessRecovery now).1.window, (r.claimUplinkFreshnessRecovery now).2) := by
  obtain ⟨_ | startedAt, count⟩ := r
  · rfl
  · rw [FixedWindow.claim, FixedWindow.expired, claimUplinkFreshnessRecovery, window]
    dsimp only
    split_ifs <;> rfl

theorem run_window (h : Run (Answers claimUplinkFreshnessRecovery) r es s) :
    Run (Answers (FixedWindow.claim uplinkStaleRecoveryWindowSeconds uplinkMaxRecoverableStaleDrops)) r.window es
      s.window := by
  induction h with
  | nil => exact .nil
  | snoc hr hs ih =>
    refine ih.snoc ?_
    rw [Answers] at hs ⊢
    rw [claim_window, hs]

/-- In every interval of the window's length fewer than twice the limit are recovered, and
after a call that starts a window, not more than the limit. -/
theorem recovery_rate (h : Run (Answers claimUplinkFreshnessRecovery) {} es r)
    (hclock : (es.map Prod.fst).Pairwise (· ≤ ·)) :
    (∀ first, granted es first (first + uplinkStaleRecoveryWindowSeconds) ≤ 2 * uplinkMaxRecoverableStaleDrops - 1) ∧
      ∀ before now result later m, es = before ++ (now, result) :: later →
        Run (Answers claimUplinkFreshnessRecovery) {} before m → m.Starts now →
        granted ((now, result) :: later) now (now + uplinkStaleRecoveryWindowSeconds) ≤
          uplinkMaxRecoverableStaleDrops := by
  have hwidth : 0 ≤ uplinkStaleRecoveryWindowSeconds := by decide +kernel
  constructor
  · intro first
    exact Nat.le_sub_of_add_le (FixedWindow.grants_add_one_le (run_window h) hclock (by decide) hwidth first)
  · rintro before now result later m rfl hm hstarts
    obtain ⟨m', hm', hrest⟩ := h.split
    obtain rfl : m = m' := hm.unique (fun _ _ _ _ hu hv => (Prod.mk.inj (hu.symm.trans hv)).1) hm'
    rw [List.map_append, List.pairwise_append] at hclock
    exact FixedWindow.grants_started (run_window hrest) hclock.2.1 (by decide) hwidth hstarts

/-- Calls at these times. -/
def demoTimes : List Time := [0, 9, 11, 12]

theorem recovery_rate_straddling :
    granted (history claimUplinkFreshnessRecovery {} demoTimes) 9 (9 + uplinkStaleRecoveryWindowSeconds) ≤ 3 ∧
      granted [(11, true), (12, true)] 11 (11 + uplinkStaleRecoveryWindowSeconds) ≤ 2 := by
  obtain ⟨hevery, hwindow⟩ := recovery_rate (run_history claimUplinkFreshnessRecovery {} demoTimes) (by decide +kernel)
  refine ⟨hevery 9, hwindow [(0, true), (9, true)] 11 true [(12, true)] (after claimUplinkFreshnessRecovery {} [0, 9])
    (by decide +kernel) (run_of_history _ [0, 9] (by decide +kernel)) (by decide +kernel)⟩

/-- Three of them are recovered in less than the window's length. -/
theorem three_recovered :
    let es := history claimUplinkFreshnessRecovery {} demoTimes
    (es.map Prod.fst).Pairwise (· ≤ ·) ∧
      ¬∀ first, granted es first (first + uplinkStaleRecoveryWindowSeconds) ≤ uplinkMaxRecoverableStaleDrops := by
  refine ⟨by decide +kernel, fun h => ?_⟩
  have hthree := h 9
  revert hthree
  decide +kernel

end RealtimeVoice.Rva.Recovery
