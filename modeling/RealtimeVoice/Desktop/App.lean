import RealtimeVoice.Desktop.SessionState

namespace RealtimeVoice.Desktop

open RealtimeVoice.Base RealtimeVoice.Rva

/-- The playback as the app sees it, beside the one of the session state. -/
structure AppPlayback where
  target : PlaybackTarget
  started : Bool := false
  ended : Bool := false
  playedSamples : Nat := 0
  lastMediaSequence : Option Nat := none
  lastMediaTimestamp : Option Nat := none
  finalMediaSequence : Option Nat := none
deriving DecidableEq

/-- `DesktopApp` with the session it drives. The heap holds every playback object the
app has made: a suspended handler keeps its object when the dictionary forgets it. -/
structure App where
  session : SessionState
  heap : List AppPlayback := []
  playbacks : Dict Nat Nat := {}
  sinkOwner : Option PlaybackTarget := none
  fenceGeneration : Nat := 1

namespace App

/-- `_end_playback` up to the write to the socket: the local playback is over before the
session is asked, whatever the session answers. -/
def endPlayback (a : App) (r : Nat) (outcome : PlaybackOutcome) : App × Except SessionFailure (Option PlaybackFact) :=
  match a.heap[r]? with
  | none => (a, .ok none)
  | some playback =>
    if playback.ended then (a, .ok none)
    else
      let a := { a with
        heap := a.heap.modify r fun p => { p with ended := true }
        sinkOwner := if a.sinkOwner = some playback.target then none else a.sinkOwner }
      match a.session.playbackEnded playback.target outcome playback.playedSamples playback.lastMediaSequence with
      | .error e => (a, .error e)
      | .ok (session, fact) => ({ a with session := session }, .ok (some fact))

/-- `_stop_playback` before the sink is reset: the playback to stop, if there is one. -/
def stopPlayback (a : App) (target : PlaybackTarget) (fence : Nat) : App × Option Nat :=
  let a := { a with fenceGeneration := max a.fenceGeneration fence }
  match a.playbacks.get? target.generation with
  | none => (a, none)
  | some r =>
    match a.heap[r]? with
    | none => (a, none)
    | some playback => if playback.target ≠ target ∨ playback.ended then (a, none) else (a, some r)

/-- `_stop_playback` from there on. Other tasks may have run while the sink was reset. -/
def stopAfterReset (a : App) (r : Nat) (owner : Bool) : App × Except SessionFailure (Option PlaybackFact) :=
  { a with sinkOwner := if owner then none else a.sinkOwner }.endPlayback r .stopped

/-- A stop is answered exactly if the two copies of the playback's evidence agree; then
with the app's numbers. -/
theorem stopAfterReset_iff {a : App} {r : Nat} {playback : AppPlayback} (hp : a.heap[r]? = some playback)
    (hplaying : playback.ended = false) (owner : Bool) (fact : PlaybackFact) :
    (a.stopAfterReset r owner).2 = .ok (some fact) ↔
      fact = .ended playback.target .stopped playback.playedSamples playback.lastMediaSequence ∧
        ∃ known, a.session.findPlayback playback.target.generation = some known ∧ known.target = playback.target ∧
          SessionState.Evidence known playback.playedSamples playback.lastMediaSequence := by
  simp only [stopAfterReset, endPlayback, hp, hplaying, Bool.false_eq_true, if_false, SessionState.playbackEnded]
  cases hended : a.session.endedPlayback playback.target .stopped playback.playedSamples
      playback.lastMediaSequence with
  | error e =>
    simp only [bind, Except.bind, reduceCtorEq, false_iff, not_and, not_exists]
    intro hfact known hfound htarget hevidence
    rw [SessionState.endedPlayback_stopped.mpr ⟨hfound, htarget, hevidence⟩] at hended
    cases hended
  | ok known =>
    simp only [bind, Except.bind, pure, Except.pure, Except.ok.injEq, Option.some.injEq]
    exact ⟨fun h => ⟨h.symm, known, SessionState.endedPlayback_stopped.mp hended⟩, fun h => h.1.symm⟩

end App

end RealtimeVoice.Desktop
