import RealtimeVoice.Base.Runs

namespace RealtimeVoice.Firmware.PlaybackState

open RealtimeVoice.Base.Runs

@[ext]
structure ResponseTarget where
  responseId : String := ""
  generation : Nat := 0
deriving DecidableEq, Repr

inductive PlaybackEndedOutcome
  | completed | stopped | failed
deriving DecidableEq, Repr

inductive PlaybackFactType
  | started | ended
deriving DecidableEq, Repr

structure PlaybackFact where
  type : PlaybackFactType := .started
  target : ResponseTarget
  outcome : PlaybackEndedOutcome := .completed
  playedSamples : Nat := 0
  firstMediaSequence : Nat := 0
  lastMediaSequence : Option Nat := none
deriving DecidableEq, Repr

def uint32Max : Nat := 2 ^ 32 - 1
def uint64Max : Nat := 2 ^ 64 - 1
def int64Max : Int := 2 ^ 63 - 1

def drainDeadlineUs : Int := 1500000

structure State where
  target : ResponseTarget := {}
  fenceGeneration : Nat := 0
  lastStopFenceGeneration : Nat := 0
  finalMediaSequence : Option Nat := none
  lastSampleSequence : Option Nat := none
  lastCompletedSequence : Option Nat := none
  playedSamples : Nat := 0
  drainDeadline : Int := 0
  active : Bool := false
  started : Bool := false
  stopRecorded : Bool := false
  degraded : Bool := false
  finalPlcRequested : Bool := false
deriving DecidableEq, Repr

/-- What a call returns: its Boolean result, the fact it wrote through its
`fact` pointer and the number it wrote through `media_sequence`. -/
structure Reply where
  ok : Bool
  fact : Option PlaybackFact := none
  mediaSequence : Option Nat := none
deriving DecidableEq, Repr

/-- The calls of the playback task. The flag `out` says that the caller passed
a pointer for the result; a null pointer is refused by every operation. -/
inductive Call
  | begin (target : ResponseTarget)
  | setFinalMediaSequence (target : ResponseTarget) (finalMediaSequence : Nat) (nowUs : Int) (out : Bool)
  | stop (target : ResponseTarget) (fenceGeneration : Nat) (out : Bool)
  | fail (out : Bool)
  | markDegraded
  | requestFinalPlc (nowUs : Int) (out : Bool)
  | expireDrain (nowUs : Int) (out : Bool)
  | recordWritten (mediaSequence samples : Nat) (out : Bool)
  | finishFrame (mediaSequence : Nat) (out : Bool)
deriving DecidableEq, Repr

def targetMatches (s : State) (target : ResponseTarget) : Bool :=
  target.responseId == s.target.responseId && target.generation == s.target.generation

/-- Close the current playback: the terminal fact and the cleared state. Only a
stop keeps the target, so that a repeated stop can still be recognised. -/
def «end» (s : State) (outcome : PlaybackEndedOutcome) : State × PlaybackFact :=
  ({ s with
      fenceGeneration := if outcome = .stopped then s.fenceGeneration else s.target.generation
      target := if outcome = .stopped then s.target else {}
      finalMediaSequence := none
      lastSampleSequence := none
      lastCompletedSequence := none
      playedSamples := 0
      drainDeadline := 0
      active := false
      started := false
      degraded := false
      finalPlcRequested := false },
    { type := .ended
      target := s.target
      outcome := outcome
      playedSamples := s.playedSamples
      lastMediaSequence := if s.started then s.lastSampleSequence else none })

def begin (s : State) (target : ResponseTarget) : State × Reply :=
  if s.active || target.responseId == "" || target.generation == 0 ||
      target.generation ≤ s.fenceGeneration then
    (s, { ok := false })
  else
    ({ s with
        target := target
        finalMediaSequence := none
        lastSampleSequence := none
        lastCompletedSequence := none
        playedSamples := 0
        drainDeadline := 0
        active := true
        started := false
        lastStopFenceGeneration := 0
        stopRecorded := false
        degraded := false
        finalPlcRequested := false },
      { ok := true })

/-- The terminal fact of a playback whose final frame has been played. -/
def endPlayed (s : State) : State × Reply :=
  let (s', fact) := «end» s (if s.degraded then .failed else .completed)
  (s', { ok := true, fact := some fact })

def setFinalMediaSequence (s : State) (target : ResponseTarget) (finalMediaSequence : Nat)
    (nowUs : Int) (out : Bool) : State × Reply :=
  if !out || nowUs < 0 || !s.active || !targetMatches s target || s.finalMediaSequence.isSome ||
      s.lastSampleSequence.any (finalMediaSequence < ·) ||
      s.lastCompletedSequence.any (finalMediaSequence < ·) then
    (s, { ok := false })
  else
    let s' := { s with
      finalMediaSequence := some finalMediaSequence
      drainDeadline :=
        if nowUs > int64Max - drainDeadlineUs then int64Max else nowUs + drainDeadlineUs }
    if s'.lastCompletedSequence = s'.finalMediaSequence then endPlayed s'
    else (s', { ok := true })

def stop (s : State) (target : ResponseTarget) (fenceGeneration : Nat) (out : Bool) : State × Reply :=
  if !out then (s, { ok := false })
  else if s.stopRecorded && targetMatches s target then
    (s, { ok := fenceGeneration == s.lastStopFenceGeneration })
  else if !s.active || !targetMatches s target || fenceGeneration ≤ s.target.generation ||
      fenceGeneration ≤ s.fenceGeneration then
    (s, { ok := false })
  else
    let (s', fact) := «end»
      { s with
        lastStopFenceGeneration := fenceGeneration
        stopRecorded := true
        fenceGeneration := fenceGeneration } .stopped
    (s', { ok := true, fact := some fact })

def fail (s : State) (out : Bool) : State × Reply :=
  if !out || !s.active then (s, { ok := false })
  else
    let (s', fact) := «end» s .failed
    (s', { ok := true, fact := some fact })

def markDegraded (s : State) : State × Reply :=
  if !s.active then (s, { ok := false })
  else ({ s with degraded := true }, { ok := true })

/-- The final frame is the only one missing: the last completed frame is the
one before it. The guard against `UINT32_MAX` keeps the increment in range. -/
def onlyFinalMissing (s : State) : Bool :=
  match s.lastCompletedSequence, s.finalMediaSequence with
  | some completed, some last => completed != uint32Max && completed + 1 == last
  | _, _ => false

def requestFinalPlc (s : State) (nowUs : Int) (out : Bool) : State × Reply :=
  if !out || !s.active || !s.started || !s.finalMediaSequence.isSome || s.drainDeadline == 0 ||
      nowUs < s.drainDeadline || s.finalPlcRequested || !onlyFinalMissing s then
    (s, { ok := false })
  else
    ({ s with finalPlcRequested := true }, { ok := true, mediaSequence := s.finalMediaSequence })

def expireDrain (s : State) (nowUs : Int) (out : Bool) : State × Reply :=
  if !out || !s.active || !s.finalMediaSequence.isSome || s.drainDeadline == 0 ||
      nowUs < s.drainDeadline then
    (s, { ok := false })
  else if s.started && onlyFinalMissing s && !s.finalPlcRequested then
    (s, { ok := false })
  else
    let (s', fact) := «end» s .failed
    (s', { ok := true, fact := some fact })

def canPlay (s : State) (generation : Nat) : Bool :=
  s.active && generation == s.target.generation && generation > s.fenceGeneration

def recordWritten (s : State) (mediaSequence samples : Nat) (out : Bool) : State × Reply :=
  if !out || !s.active || samples == 0 || samples > uint64Max - s.playedSamples ||
      s.finalMediaSequence.any (· < mediaSequence) ||
      s.lastSampleSequence.any (mediaSequence < ·) then
    (s, { ok := false })
  else
    let s' := { s with
      playedSamples := s.playedSamples + samples
      lastSampleSequence := some mediaSequence
      started := true }
    if s.started then (s', { ok := true })
    else
      (s', { ok := true
             fact := some { type := .started
                            target := s.target
                            playedSamples := s'.playedSamples
                            firstMediaSequence := mediaSequence } })

def finishFrame (s : State) (mediaSequence : Nat) (out : Bool) : State × Reply :=
  if !out || !s.active || !s.started || s.lastSampleSequence != some mediaSequence ||
      s.lastCompletedSequence.any (mediaSequence ≤ ·) ||
      s.finalMediaSequence.any (· < mediaSequence) then
    (s, { ok := false })
  else
    let s' := { s with lastCompletedSequence := some mediaSequence }
    if s'.finalMediaSequence = s'.lastCompletedSequence then endPlayed s'
    else (s', { ok := true })

def call (s : State) : Call → State × Reply
  | .begin target => begin s target
  | .setFinalMediaSequence target sequence nowUs out => setFinalMediaSequence s target sequence nowUs out
  | .stop target fence out => stop s target fence out
  | .fail out => fail s out
  | .markDegraded => markDegraded s
  | .requestFinalPlc nowUs out => requestFinalPlc s nowUs out
  | .expireDrain nowUs out => expireDrain s nowUs out
  | .recordWritten sequence samples out => recordWritten s sequence samples out
  | .finishFrame sequence out => finishFrame s sequence out

abbrev Event := Call × Reply

/-- One call of the playback task with its reply. -/
abbrev Step : State → Event → State → Prop := Answers call

end RealtimeVoice.Firmware.PlaybackState
