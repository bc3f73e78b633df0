import RealtimeVoice.Desktop.Rendering
import RealtimeVoice.Firmware.RunPlayback
import Mathlib

namespace RealtimeVoice.Rva

open RealtimeVoice.Base.Runs RealtimeVoice.Base.Tally RealtimeVoice.Firmware RealtimeVoice.Firmware.PlaybackState
  RealtimeVoice.Firmware.VoiceRuntime RealtimeVoice.Firmware.VoiceRuntime.PlaybackTask RealtimeVoice.Desktop

def sampleRate : Nat := 16000
def outputSampleRateHz : Nat := 24000
def maximumExactJsonInteger : Nat := 2 ^ 53 - 1

/-- `EncodePlaybackEnded`: the number that stands in the message, absent where it fails. -/
def encodePlaybackEnded (fact : PlaybackFact) : Option Nat :=
  if fact.playedSamples > maximumExactJsonInteger ∨
      (fact.outcome = .completed ∧ fact.lastMediaSequence = none) ∨
      (fact.outcome ≠ .completed ∧ fact.playedSamples = 0 ∧ fact.lastMediaSequence.isSome) then none
  else some fact.playedSamples

/-- `_require_uint53`; absent where it raises. -/
def requireUint53 (value : Nat) : Option Nat := if value ≤ 2 ^ 53 - 1 then some value else none

/-- The position that `_apply_control_effect` passes to `playback_finished`, in seconds. -/
def playbackPosition (playedSamples : Nat) : ℚ := playedSamples / sampleRate

/-- Samples at the output rate of the firmware as samples of the wire, a frame being 960
of these, and what they last. -/
def wireSamples (crossed : Nat) : ℚ := crossed * decodedSamplesPerFrame / nominalResampledSamplesPerFrame

def outputDuration (crossed : Nat) : ℚ := crossed / outputSampleRateHz

theorem position_eq_iff (n crossed : Nat) :
    playbackPosition n = outputDuration crossed ↔ (n : ℚ) = wireSamples crossed := by
  have hn : playbackPosition n = n / 16000 := rfl
  have hc : outputDuration crossed = crossed / 24000 := rfl
  have hw : wireSamples crossed = crossed * 960 / 1440 := rfl
  rw [hn, hc, hw]
  constructor
  · intro h
    linarith
  · intro h
    linarith

/-- The samples at the output rate that got through to the codec. -/
def crossed (writes : List Write) : Nat := (writes.map Write.through).sum

/-- The writes after which a count of whole slices at the output rate is right at the rate of the
wire: none, or up to three of which the last one failed and let 120 samples through for each one
before it. -/
def MakesUp : List Write → Prop
  | [] => True
  | [w] => w.failed ≠ none ∧ w.through = 0
  | [_, w] => w.failed ≠ none ∧ w.through = 120
  | [_, _, w] => w.failed ≠ none ∧ w.through = 240
  | _ => False

theorem crossed_replicate (n : Nat) : crossed (List.replicate n whole) = 240 * n := by
  rw [crossed, List.map_replicate, List.sum_replicate, smul_eq_mul, Nat.mul_comm]
  rfl

theorem crossed_snoc (writes : List Write) (w : Write) : crossed (writes ++ [w]) = crossed writes + w.through := by
  rw [crossed, List.map_append, List.sum_append]
  rfl

theorem makesUp_replicate (n : Nat) : MakesUp (List.replicate n whole) ↔ n = 0 := by
  rcases n with _ | _ | _ | _ | n
  · exact iff_of_true trivial rfl
  · simp [MakesUp, List.replicate, whole]
  · simp [MakesUp, List.replicate, whole]
  · simp [MakesUp, List.replicate, whole]
  · exact iff_of_false id (Nat.succ_ne_zero _)

theorem makesUp_failed (n : Nat) {w : Write} (hfailed : w.failed ≠ none) (hle : w.through ≤ 240) :
    MakesUp (List.replicate n whole ++ [w]) ↔ w.through = 120 * n := by
  rcases n with _ | _ | _ | _ | n
  · simp [MakesUp, List.replicate, hfailed]
  · simp [MakesUp, List.replicate, hfailed]
  · simp [MakesUp, List.replicate, hfailed]
  · exact iff_of_false id (by omega)
  · exact iff_of_false id (by omega)

theorem matches_wire_iff {n : Nat} {writes : List Write} (h : Matches n writes) :
    (n : ℚ) = wireSamples (crossed writes) ↔ MakesUp writes := by
  have hw : wireSamples (crossed writes) = (crossed writes : Nat) * 960 / 1440 := rfl
  have hunit : (n : ℚ) = wireSamples (crossed writes) ↔ 3 * n = 2 * crossed writes := by
    rw [hw]
    constructor
    · intro heq
      have hrat : (3 * n : ℚ) = 2 * (crossed writes : Nat) := by linarith
      exact_mod_cast hrat
    · intro heq
      have hrat : (3 * n : ℚ) = 2 * (crossed writes : Nat) := by exact_mod_cast heq
      linarith
  rw [hunit]
  cases h with
  | written n =>
    rw [crossed_replicate, makesUp_replicate]
    omega
  | failed n part =>
    have hle : Write.through { count := 240, failed := some part } ≤ 240 := Nat.min_le_right _ _
    rw [crossed_snoc, crossed_replicate, makesUp_failed n (by simp) hle]
    omega
  | refused n hwhy =>
    rw [crossed_replicate, makesUp_replicate]
    simp only [uint64Max] at hwhy
    omega

theorem encodePlaybackEnded_eq {fact : PlaybackFact} {n : Nat} (h : encodePlaybackEnded fact = some n) :
    n = fact.playedSamples ∧ requireUint53 n = some n := by
  rw [encodePlaybackEnded, Option.ite_none_left_eq_some, not_or, Nat.not_lt] at h
  obtain ⟨⟨hle, -⟩, hn⟩ := h
  obtain rfl := Option.some.inj hn
  exact ⟨rfl, if_pos hle⟩

/-- What the firmware reports for a playback is what has crossed in samples of the wire,
and its position on the server what was heard, exactly if the last write makes up for the rate
of the others. What the desktop client reports is, exactly if every step of the playback was
timely. -/
theorem played_samples_agree_iff {es : List (Reads × List Report)} {s : PlaybackTask}
    (hrun : Run (Answers PlaybackTask.runPlayback) {} es s) (actions : List Rendering.Action) :
    (∀ e ∈ es, ∀ report ∈ e.2, report.fact.type = .ended → ∀ n, encodePlaybackEnded report.fact = some n →
      requireUint53 n = some n ∧
      ((n : ℚ) = wireSamples (crossed report.writes) ↔ MakesUp report.writes) ∧
      (playbackPosition n = outputDuration (crossed report.writes) ↔ MakesUp report.writes)) ∧
    (∀ n, (actions.foldl Rendering.act {}).reported = some n →
      (n = total (actions.foldl Rendering.act {}).rendered ↔ Along Rendering.Timely Rendering.step {} actions) ∧
      (playbackPosition n = total (actions.foldl Rendering.act {}).rendered / sampleRate ↔
        Along Rendering.Timely Rendering.step {} actions)) := by
  refine ⟨?_, ?_⟩
  · intro e he report hreport hended n hn
    obtain ⟨rfl, huint⟩ := encodePlaybackEnded_eq hn
    have hwire := matches_wire_iff (reports_told hrun e he report hreport hended)
    rw [position_eq_iff]
    exact ⟨huint, hwire, hwire⟩
  · intro n hreported
    have htimely := Rendering.reported_total_iff actions hreported
    refine ⟨htimely, ?_⟩
    rw [← htimely, playbackPosition, div_left_inj' (by norm_num [sampleRate])]
    exact Nat.cast_inj

def demoTarget : ResponseTarget := { responseId := "response-1", generation := 2 }

/-- A playback of one frame, and one that is stopped before its first sample. -/
def oneFrame : List Reads :=
  [{ commands := [.begin demoTarget true, .complete demoTarget 0 0 true], media := .frame 2 0 }]

def stoppedBefore : List Reads :=
  [{ commands := [.begin demoTarget true, .stop demoTarget 3 true true], media := .none 0 }]

/-- The frame of 60 ms is reported as 1440 samples, and counts as 90 ms. -/
theorem one_frame_overreported :
    ∃ report ∈ (history PlaybackTask.runPlayback {} oneFrame).flatMap Prod.snd, report.fact.type = .ended ∧
      encodePlaybackEnded report.fact = some 1440 ∧ wireSamples (crossed report.writes) = 960 ∧
      playbackPosition 1440 ≠ outputDuration (crossed report.writes) := by
  refine ⟨{ fact := { type := .ended, target := demoTarget, outcome := .completed, playedSamples := 1440,
                      lastMediaSequence := some 0 },
            writes := List.replicate 6 whole }, by decide +kernel, rfl, by decide +kernel,
    by decide +kernel, by decide +kernel⟩

/-- A playback that is stopped before its first sample is reported right. -/
theorem played_samples_agree_iff_silent :
    ∃ report ∈ (history PlaybackTask.runPlayback {} stoppedBefore).flatMap Prod.snd,
      encodePlaybackEnded report.fact = some 0 ∧ ((0 : Nat) : ℚ) = wireSamples (crossed report.writes) := by
  have hrun := run_history PlaybackTask.runPlayback {} stoppedBefore
  refine ⟨{ fact := { type := .ended, target := demoTarget, outcome := .stopped }, writes := [] }, by decide +kernel,
    by decide +kernel, ?_⟩
  obtain ⟨-, hsamples, -⟩ := (played_samples_agree_iff hrun []).1 _ (List.mem_singleton.mpr rfl)
    { fact := { type := .ended, target := demoTarget, outcome := .stopped }, writes := [] } (by decide +kernel) rfl 0
    (by decide +kernel)
  exact hsamples.mpr trivial

end RealtimeVoice.Rva
