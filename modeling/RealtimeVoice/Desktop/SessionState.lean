import RealtimeVoice.Base.Dict
import RealtimeVoice.Base.Runs
import RealtimeVoice.Rva.Response
import RealtimeVoice.Desktop.UdpUplink

namespace RealtimeVoice.Desktop

open RealtimeVoice.Base RealtimeVoice.Base.Runs RealtimeVoice.Contracts RealtimeVoice.Rva

structure PlaybackTarget where
  responseId : String
  generation : Nat
deriving DecidableEq

structure Playback where
  target : PlaybackTarget
  started : Bool := false
  ended : Bool := false
  stopped : Bool := false
  finalMediaSequence : Option Nat := none
  responseTerminal : Bool := false
  stopFence : Option Nat := none
  stopCause : Option StopCause := none
  firstMediaSequence : Option Nat := none
  lastMediaSequence : Option Nat := none
deriving DecidableEq

/-- What the endpoint reads of the `session.opened` message. -/
structure SessionOpened where
  sessionId : String
  sessionEpoch : String
  mediaId : List UInt8
  mediaEpoch : Nat
  selectedProfile : TransportProfile
deriving DecidableEq

/-- `SessionClosed`, and `ProtocolError(code)`. -/
inductive SessionFailure
  | sessionClosed
  | protocol (code : String)
deriving DecidableEq

inductive SessionEvent
  | control (message : ServerEvent) (target : Option PlaybackTarget)
  | audio (target : PlaybackTarget) (media : MediaFrame)

/-- `playback.started` and `playback.ended` as they are handed to the socket. -/
inductive PlaybackFact
  | started (target : PlaybackTarget) (firstMediaSequence : Nat)
  | ended (target : PlaybackTarget) (outcome : PlaybackOutcome) (playedSamples : Nat)
      (lastMediaSequence : Option Nat)
deriving DecidableEq

structure SessionState where
  opened : SessionOpened
  closed : Bool := false
  fenceGeneration : Nat := 1
  highestGeneration : Nat := 0
  currentPlayback : Option PlaybackTarget := none
  playbacks : Dict Nat Playback := {}
  playbackTombstones : List Playback := []
  transcriptSequences : Dict String Nat := {}
  finalTranscripts : List String := []
  responseTextSequence : Dict Nat Nat := {}
  lastMediaTimestamp : Dict Nat Nat := {}
  nextDownlinkSequence : Nat

namespace SessionState

def tombstoneLimit : Nat := 64

def init (opened : SessionOpened) : SessionState :=
  { opened := opened, nextDownlinkSequence := if opened.selectedProfile = .wssOpus then 0 else 1 }

def raise (p : Prop) [Decidable p] (code : String) : Except SessionFailure Unit :=
  if p then .error (.protocol code) else .ok ()

def findPlayback (s : SessionState) (generation : Nat) : Option Playback :=
  match s.playbacks.get? generation with
  | some playback => some playback
  | none => s.playbackTombstones.reverse.find? (fun p => p.target.generation == generation)

def requireKnown (s : SessionState) (target : PlaybackTarget) : Except SessionFailure Playback :=
  match s.findPlayback target.generation with
  | none => .error (.protocol "playback_target_mismatch")
  | some playback =>
    if playback.target = target then .ok playback else .error (.protocol "playback_target_mismatch")

def requireCurrent (s : SessionState) (target : PlaybackTarget) : Except SessionFailure Playback := do
  raise (s.currentPlayback ≠ some target) "response_target_mismatch"
  s.requireKnown target

/-- Change the playback object that `_find_playback` returns, where it stands. -/
def modifyPlayback (s : SessionState) (generation : Nat) (f : Playback → Playback) : SessionState :=
  match s.playbacks.get? generation with
  | some playback => { s with playbacks := s.playbacks.set generation (f playback) }
  | none =>
    let latest := s.playbackTombstones.reverse
    { s with playbackTombstones :=
        (latest.modify (latest.findIdx fun p => p.target.generation == generation) f).reverse }

def advanceSequence {K : Type} [DecidableEq K] (ledger : Dict K Nat) (scope : K) (sequence : Nat) :
    Except SessionFailure (Dict K Nat) := do
  raise (sequence ≠ (ledger.get? scope).getD 0) "invalid_sequence"
  return ledger.set scope (sequence + 1)

/-- The set of final transcripts and the order in which they expire are one list. -/
def rememberFinalTranscript (finals : List String) (utteranceId : String) : List String :=
  (if finals.length ≥ tombstoneLimit then finals.tail else finals) ++ [utteranceId]

def acceptTranscript (s : SessionState) (utteranceId : String) (sequence : Nat) (final : Bool) :
    Except SessionFailure SessionState := do
  raise (utteranceId ∈ s.finalTranscripts) "transcript_already_final"
  let sequences ← advanceSequence s.transcriptSequences utteranceId sequence
  if final then
    return { s with transcriptSequences := sequences.erase utteranceId
                    finalTranscripts := rememberFinalTranscript s.finalTranscripts utteranceId }
  return { s with transcriptSequences := sequences }

def acceptBegin (s : SessionState) (target : PlaybackTarget) : Except SessionFailure SessionState := do
  raise (target.generation ≤ s.highestGeneration ∨ target.generation < s.fenceGeneration) "stale_generation"
  raise (s.currentPlayback ≠ none) "playback_already_active"
  return { s with
    highestGeneration := target.generation
    currentPlayback := some target
    playbacks := s.playbacks.set target.generation { target }
    responseTextSequence := s.responseTextSequence.set target.generation 0 }

def acceptText (s : SessionState) (target : PlaybackTarget) (sequence : Nat) : Except SessionFailure SessionState := do
  let _ ← s.requireCurrent target
  let sequences ← advanceSequence s.responseTextSequence target.generation sequence
  return { s with responseTextSequence := sequences }

def acceptEnd (s : SessionState) (target : PlaybackTarget) (outcome : ResponseOutcome)
    (finalMediaSequence : Option Nat) : Except SessionFailure SessionState := do
  let playback ← s.requireKnown target
  raise (playback.responseTerminal = true) "response_already_terminal"
  return s.modifyPlayback target.generation fun p =>
    { p with
      finalMediaSequence := if outcome = .completed then finalMediaSequence else p.finalMediaSequence
      responseTerminal := true }

/-- A repeated stop is taken without an event. -/
def acceptStop (s : SessionState) (target : PlaybackTarget) (fence : Nat) (cause : StopCause) :
    Except SessionFailure (SessionState × Bool) := do
  let playback ← s.requireKnown target
  raise (playback.ended = true) "playback_already_ended"
  match playback.stopFence with
  | some previous =>
    raise (previous ≠ fence ∨ playback.stopCause ≠ some cause) "playback_stop_conflict"
    return (s, false)
  | none =>
    raise (fence ≤ target.generation ∨ fence ≤ s.fenceGeneration) "stale_generation"
    let s' := { s with fenceGeneration := fence }
    return (s'.modifyPlayback target.generation fun p =>
      { p with stopped := true, stopFence := some fence, stopCause := some cause }, true)

/-- `accept_control` for a message that `validate_server_message` lets through. -/
def acceptControl (s : SessionState) (sessionId sessionEpoch : String) (message : ServerEvent) :
    Except SessionFailure (SessionState × Option SessionEvent) :=
  if s.closed then .error .sessionClosed
  else
    match message with
    | .sessionOpened .. => .error (.protocol "duplicate_session_opened")
    | message => do
      raise (sessionId ≠ s.opened.sessionId ∨ sessionEpoch ≠ s.opened.sessionEpoch) "stale_session"
      match message with
      | .transcriptDelta utteranceId sequence _ =>
        let s' ← s.acceptTranscript utteranceId sequence false
        return (s', some (.control message none))
      | .transcriptFinal utteranceId sequence _ =>
        let s' ← s.acceptTranscript utteranceId sequence true
        return (s', some (.control message none))
      | .responseBegin responseId generation =>
        let s' ← s.acceptBegin { responseId, generation }
        return (s', some (.control message (some { responseId, generation })))
      | .responseText responseId generation sequence _ =>
        let s' ← s.acceptText { responseId, generation } sequence
        return (s', some (.control message (some { responseId, generation })))
      | .responseEnd responseId generation outcome _ finalMediaSequence =>
        let s' ← s.acceptEnd { responseId, generation } outcome finalMediaSequence
        return (s', some (.control message (some { responseId, generation })))
      | .playbackStop responseId generation fence cause =>
        let (s', first) ← s.acceptStop { responseId, generation } fence cause
        return (s', if first then some (.control message (some { responseId, generation })) else none)
      | .sessionClose _ => return ({ s with closed := true }, some (.control message none))
      | _ => return (s, some (.control message none))

/-- Check identity and exact target before the transport commits the packet. -/
def validateMediaAdmission (s : SessionState) (frame : MediaFrame) : Except SessionFailure Bool := do
  raise (frame.mediaId ≠ s.opened.mediaId ∨ frame.mediaEpoch ≠ s.opened.mediaEpoch) "stale_media_identity"
  raise (frame.flags ≠ .audio) "invalid_media_flags"
  match s.findPlayback frame.generation with
  | none => throw (.protocol "unknown_media_generation")
  | some playback =>
    if frame.generation < s.fenceGeneration ∨ playback.stopped = true ∨ playback.ended = true then return false
    raise (s.currentPlayback ≠ some playback.target) "playback_target_mismatch"
    match s.lastMediaTimestamp.get? frame.generation with
    | none => return true
    | some previous =>
      let delta := ((frame.timestamp : Int) - previous) % 2 ^ 32
      if s.opened.selectedProfile = .wssOpus then raise (delta ≠ 960) "invalid_media_timestamp"
      else raise (delta = 0 ∨ delta % 960 ≠ 0) "invalid_media_timestamp"
      return true

/-- The end of `accept_media`, once the number of the frame is taken. -/
def takeMedia (s : SessionState) (frame : MediaFrame) (admitted : Bool) : SessionState × Option SessionEvent :=
  match admitted, s.findPlayback frame.generation with
  | true, some playback =>
    let s := { s with lastMediaTimestamp := s.lastMediaTimestamp.set frame.generation frame.timestamp }
    (s.modifyPlayback frame.generation fun p =>
      { p with
        firstMediaSequence := some (p.firstMediaSequence.getD frame.sequence)
        lastMediaSequence := some frame.sequence }, some (.audio playback.target frame))
  | _, _ => (s, none)

def acceptMedia (s : SessionState) (frame : MediaFrame) :
    Except SessionFailure (SessionState × Option SessionEvent) :=
  if s.closed then .error .sessionClosed
  else do
    let admitted ← s.validateMediaAdmission frame
    if s.opened.selectedProfile = .wssOpus then
      raise (frame.sequence ≠ s.nextDownlinkSequence) "invalid_media_sequence"
    else raise (frame.sequence < s.nextDownlinkSequence) "invalid_media_sequence"
    return { s with nextDownlinkSequence := frame.sequence + 1 }.takeMedia frame admitted

def playbackStarted (s : SessionState) (target : PlaybackTarget) (firstMediaSequence : Nat) :
    Except SessionFailure (SessionState × PlaybackFact) := do
  let playback ← s.requireKnown target
  raise (playback.started = true) "playback_already_started"
  raise (playback.ended = true) "playback_already_ended"
  raise (firstMediaSequence > 0xFFFFFFFF) "invalid_first_media_sequence"
  raise (playback.stopped = true ∨ playback.firstMediaSequence ≠ some firstMediaSequence) "playback_evidence_mismatch"
  return (s.modifyPlayback target.generation fun p => { p with started := true }, .started target firstMediaSequence)

def requireLast (playback : Playback) (playedSamples : Nat) : Option Nat → Except SessionFailure Unit
  | some sequence => do
    raise (sequence > 0xFFFFFFFF) "invalid_last_media_sequence"
    raise (playback.started = false ∨ playback.lastMediaSequence ≠ some sequence) "playback_evidence_mismatch"
  | none => raise (playedSamples ≠ 0) "playback_evidence_mismatch"

/-- The checks of `playback_ended` before it changes anything. -/
def endedPlayback (s : SessionState) (target : PlaybackTarget) (outcome : PlaybackOutcome) (playedSamples : Nat)
    (lastMediaSequence : Option Nat) : Except SessionFailure Playback := do
  let playback ← s.requireKnown target
  raise (playback.ended = true) "playback_already_ended"
  raise (playedSamples > 0xFFFFFFFFFFFFFFFF) "invalid_played_samples"
  raise (playedSamples = 0 ∧ lastMediaSequence ≠ none) "playback_evidence_mismatch"
  requireLast playback playedSamples lastMediaSequence
  raise (playback.started = true ∧ playedSamples = 0) "playback_evidence_mismatch"
  raise (outcome = .completed ∧ (playback.started = false ∨ playback.responseTerminal = false ∨
    playback.finalMediaSequence = none ∨ playedSamples = 0 ∨ lastMediaSequence ≠ playback.finalMediaSequence))
    "playback_evidence_mismatch"
  return playback

/-- A deque of bounded length forgets its oldest item. -/
def appendTombstone (tombstones : List Playback) (playback : Playback) : List Playback :=
  (tombstones ++ [playback]).drop ((tombstones ++ [playback]).length - tombstoneLimit)

def playbackEnded (s : SessionState) (target : PlaybackTarget) (outcome : PlaybackOutcome) (playedSamples : Nat)
    (lastMediaSequence : Option Nat) : Except SessionFailure (SessionState × PlaybackFact) := do
  let playback ← s.endedPlayback target outcome playedSamples lastMediaSequence
  return ({ s with
      currentPlayback := if s.currentPlayback = some target then none else s.currentPlayback
      playbacks := s.playbacks.erase target.generation
      responseTextSequence := s.responseTextSequence.erase target.generation
      lastMediaTimestamp := s.lastMediaTimestamp.erase target.generation
      playbackTombstones := appendTombstone s.playbackTombstones { playback with ended := true } },
    .ended target outcome playedSamples lastMediaSequence)

section

variable {α : Type} {p : Prop} [Decidable p]

theorem bind_ok {β : Type} {x : Except SessionFailure α} {f : α → Except SessionFailure β} {y : β} :
    (x >>= f) = .ok y ↔ ∃ a, x = .ok a ∧ f a = .ok y := by
  cases x with
  | error e => simp [bind, Except.bind]
  | ok a => simp [bind, Except.bind]

theorem map_ok {β : Type} {x : Except SessionFailure α} {f : α → β} {y : β} :
    x.map f = .ok y ↔ ∃ a, x = .ok a ∧ f a = y := by
  cases x with
  | error e => simp [Except.map]
  | ok a => simp [Except.map]

theorem raise_ok {code : String} {u : Unit} : raise p code = .ok u ↔ ¬p := by
  rw [raise]
  by_cases hp : p <;> simp [hp]

end

theorem requireKnown_ok {s : SessionState} {target : PlaybackTarget} {playback : Playback} :
    s.requireKnown target = .ok playback ↔ s.findPlayback target.generation = some playback ∧ playback.target = target := by
  rw [requireKnown]
  cases s.findPlayback target.generation with
  | none => simp
  | some found =>
    by_cases htarget : found.target = target
    · simp only [if_pos htarget, Except.ok.injEq, Option.some.injEq]
      exact ⟨fun h => ⟨h, h ▸ htarget⟩, fun h => h.1⟩
    · simp only [if_neg htarget, reduceCtorEq, Option.some.injEq, false_iff, not_and]
      rintro rfl
      exact htarget

/-- The evidence of a stopped playback that the session accepts: samples were played
exactly if the playback had started, and then up to the last frame it was sent. -/
structure Evidence (playback : Playback) (playedSamples : Nat) (last : Option Nat) : Prop where
  unended : playback.ended = false
  samples : playedSamples ≤ 0xFFFFFFFFFFFFFFFF
  started : playback.started = true ↔ playedSamples ≠ 0
  silent : playedSamples = 0 → last = none
  played : playedSamples ≠ 0 → last = playback.lastMediaSequence ∧ ∃ n, last = some n ∧ n ≤ 0xFFFFFFFF

theorem requireLast_ok {playback : Playback} {playedSamples : Nat} {last : Option Nat} {u : Unit} :
    requireLast playback playedSamples last = .ok u ↔
      (last = none → playedSamples = 0) ∧ ∀ n, last = some n →
        n ≤ 0xFFFFFFFF ∧ playback.started = true ∧ playback.lastMediaSequence = some n := by
  cases last with
  | none => simp [requireLast, raise_ok]
  | some n => simp [requireLast, raise_ok, bind_ok]

theorem endedPlayback_stopped {s : SessionState} {target : PlaybackTarget} {playedSamples : Nat} {last : Option Nat}
    {playback : Playback} :
    s.endedPlayback target .stopped playedSamples last = .ok playback ↔
      s.findPlayback target.generation = some playback ∧ playback.target = target ∧
        Evidence playback playedSamples last := by
  simp only [endedPlayback, bind_ok, raise_ok, requireKnown_ok, requireLast_ok]
  refine ⟨?_, ?_⟩
  · rintro ⟨found, ⟨hfound, htarget⟩, -, hended, -, hsamples, -, hsilent, -, ⟨hnone, hsome⟩, -, hstarted, -, -, heq⟩
    obtain rfl : found = playback := Except.ok.inj heq
    have hempty : playedSamples = 0 → last = none := by
      intro hzero
      by_contra hlast
      exact hsilent ⟨hzero, hlast⟩
    have hlast : playedSamples ≠ 0 → ∃ n, last = some n :=
      fun hplayed => Option.ne_none_iff_exists'.mp (fun h => hplayed (hnone h))
    refine ⟨hfound, htarget, by simpa using hended, by omega, ?_, hempty, ?_⟩
    · refine ⟨fun h hzero => hstarted ⟨h, hzero⟩, fun hplayed => ?_⟩
      obtain ⟨n, hn⟩ := hlast hplayed
      exact (hsome n hn).2.1
    · intro hplayed
      obtain ⟨n, hn⟩ := hlast hplayed
      exact ⟨hn.trans (hsome n hn).2.2.symm, n, hn, (hsome n hn).1⟩
  · rintro ⟨hfound, htarget, hevidence⟩
    refine ⟨playback, ⟨hfound, htarget⟩, (), by simp [hevidence.unended], (), by simpa using hevidence.samples, (),
      ?_, (), ⟨?_, ?_⟩, (), ?_, (), by simp, rfl⟩
    · exact fun h => h.2 (hevidence.silent h.1)
    · intro hnone
      by_contra hplayed
      obtain ⟨-, n, hn, -⟩ := hevidence.played hplayed
      rw [hnone] at hn
      cases hn
    · intro n hn
      have hplayed : playedSamples ≠ 0 := by
        intro hzero
        rw [hevidence.silent hzero] at hn
        cases hn
      obtain ⟨hlast, m, hm, hle⟩ := hevidence.played hplayed
      obtain rfl := Option.some.inj (hn.symm.trans hm)
      exact ⟨hle, hevidence.started.mpr hplayed, hlast.symm.trans hn⟩
    · exact fun h => hevidence.started.mp h.1 h.2

/-- One call of the session, by the reader of the socket or by the player. -/
inductive Call
  | acceptControl (sessionId sessionEpoch : String) (message : ServerEvent)
  | acceptMedia (frame : MediaFrame)
  | playbackStarted (target : PlaybackTarget) (firstMediaSequence : Nat)
  | playbackEnded (target : PlaybackTarget) (outcome : PlaybackOutcome) (playedSamples : Nat)
      (lastMediaSequence : Option Nat)

def call (s : SessionState) : Call → Except SessionFailure (SessionState × Option SessionEvent)
  | .acceptControl sessionId sessionEpoch message => s.acceptControl sessionId sessionEpoch message
  | .acceptMedia frame => s.acceptMedia frame
  | .playbackStarted target firstMediaSequence =>
    (s.playbackStarted target firstMediaSequence).map fun r => (r.1, none)
  | .playbackEnded target outcome playedSamples lastMediaSequence =>
    (s.playbackEnded target outcome playedSamples lastMediaSequence).map fun r => (r.1, none)

/-- A call that the session takes, with the event it yields. -/
abbrev Taken := Call × Option SessionEvent

def Step (s : SessionState) (e : Taken) (s' : SessionState) : Prop := s.call e.1 = .ok (s', e.2)

/-- No call takes back the fence, the last response or the next number of the media. -/
structure Forward (s s' : SessionState) : Prop where
  opened : s'.opened = s.opened
  fence : s.fenceGeneration ≤ s'.fenceGeneration
  highest : s.highestGeneration ≤ s'.highestGeneration
  downlink : s.nextDownlinkSequence ≤ s'.nextDownlinkSequence

theorem Forward.trans {s t u : SessionState} (h : Forward s t) (h' : Forward t u) : Forward s u :=
  ⟨h'.opened.trans h.opened, h.fence.trans h'.fence, h.highest.trans h'.highest, h.downlink.trans h'.downlink⟩

theorem Forward.refl (s : SessionState) : Forward s s := ⟨rfl, le_refl _, le_refl _, le_refl _⟩

theorem forward_modifyPlayback (s : SessionState) (generation : Nat) (f : Playback → Playback) :
    Forward s (s.modifyPlayback generation f) := by
  rw [modifyPlayback]
  split <;> exact ⟨rfl, le_refl _, le_refl _, le_refl _⟩

section Taken

variable {s s' t : SessionState} {event : Option SessionEvent} {target : PlaybackTarget}

theorem acceptTranscript_forward {utteranceId : String} {sequence : Nat} {final : Bool}
    (h : s.acceptTranscript utteranceId sequence final = .ok s') : Forward s s' := by
  simp only [acceptTranscript, bind_ok] at h
  obtain ⟨-, -, sequences, -, h⟩ := h
  split at h
  · obtain rfl := Except.ok.inj h
    exact ⟨rfl, le_refl _, le_refl _, le_refl _⟩
  · obtain rfl := Except.ok.inj h
    exact ⟨rfl, le_refl _, le_refl _, le_refl _⟩

theorem acceptBegin_forward (h : s.acceptBegin target = .ok s') :
    Forward s s' ∧ s.highestGeneration < target.generation ∧ s'.highestGeneration = target.generation := by
  simp only [acceptBegin, bind_ok, raise_ok, not_or, not_le, not_lt] at h
  obtain ⟨-, ⟨hhighest, -⟩, -, -, h⟩ := h
  obtain rfl := Except.ok.inj h
  exact ⟨⟨rfl, le_refl _, hhighest.le, le_refl _⟩, hhighest, rfl⟩

theorem acceptText_forward {sequence : Nat} (h : s.acceptText target sequence = .ok s') :
    Forward s s' := by
  simp only [acceptText, bind_ok] at h
  obtain ⟨playback, -, sequences, -, h⟩ := h
  obtain rfl := Except.ok.inj h
  exact ⟨rfl, le_refl _, le_refl _, le_refl _⟩

theorem acceptEnd_forward {outcome : ResponseOutcome} {last : Option Nat}
    (h : s.acceptEnd target outcome last = .ok s') : Forward s s' := by
  simp only [acceptEnd, bind_ok] at h
  obtain ⟨playback, -, -, -, h⟩ := h
  obtain rfl := Except.ok.inj h
  exact forward_modifyPlayback s _ _

/-- The first stop of a playback raises the fence to its own; the stop repeated changes nothing. -/
theorem acceptStop_forward {fence : Nat} {cause : StopCause} {first : Bool}
    (h : s.acceptStop target fence cause = .ok (s', first)) :
    Forward s s' ∧ (first = true → s'.fenceGeneration = fence ∧ target.generation < fence) ∧
      (first = false → s' = s) := by
  simp only [acceptStop, bind_ok, raise_ok] at h
  obtain ⟨playback, -, -, -, h⟩ := h
  cases hstop : playback.stopFence with
  | some previous =>
    rw [hstop] at h
    simp only [bind_ok] at h
    obtain ⟨-, -, h⟩ := h
    obtain ⟨rfl, rfl⟩ := Prod.mk.inj (Except.ok.inj h)
    exact ⟨.refl s, by simp, fun _ => rfl⟩
  | none =>
    rw [hstop] at h
    simp only [bind_ok, raise_ok, not_or, not_le] at h
    obtain ⟨-, ⟨htarget, hfence⟩, h⟩ := h
    obtain ⟨rfl, rfl⟩ := Prod.mk.inj (Except.ok.inj h)
    have hraised : Forward s { s with fenceGeneration := fence } := ⟨rfl, hfence.le, le_refl _, le_refl _⟩
    refine ⟨hraised.trans (forward_modifyPlayback _ _ _), fun _ => ⟨?_, htarget⟩, by simp⟩
    rw [modifyPlayback]
    split <;> rfl

/-- A message yields no audio, a response begins above the ones before it, and the first stop of a
playback leaves its own fence. -/
structure Controlled (s : SessionState) (message : ServerEvent) (s' : SessionState) (event : Option SessionEvent) :
    Prop where
  forward : Forward s s'
  silent : ∀ target media, event ≠ some (.audio target media)
  begun : ∀ responseId generation, message = .responseBegin responseId generation →
    s.highestGeneration < generation ∧ s'.highestGeneration = generation
  stopped : ∀ responseId generation fence cause, message = .playbackStop responseId generation fence cause →
    event.isSome = true → s'.fenceGeneration = fence

theorem acceptControl_controlled {sessionId sessionEpoch : String} {message : ServerEvent}
    (h : s.acceptControl sessionId sessionEpoch message = .ok (s', event)) : Controlled s message s' event := by
  have hopen : s.closed = false := by
    rw [← Bool.not_eq_true]
    intro hclosed
    rw [acceptControl.eq_def, if_pos hclosed] at h
    cases h
  cases message <;> simp only [acceptControl, hopen, Bool.false_eq_true, if_false, bind_ok] at h
  case sessionOpened => cases h
  case playbackStop responseId generation fence cause =>
    obtain ⟨-, -, ⟨t, first⟩, hstop, h⟩ := h
    obtain ⟨rfl, rfl⟩ := Prod.mk.inj (Except.ok.inj h)
    obtain ⟨hforward, hfirst, -⟩ := acceptStop_forward hstop
    refine ⟨hforward, ?_, by simp, ?_⟩
    · intro target media hevent
      split at hevent <;> cases hevent
    · rintro _ _ _ _ ⟨⟩ hevent
      split at hevent
      · rename_i hfirst'
        exact (hfirst hfirst').1
      · cases hevent
  case transcriptDelta | transcriptFinal =>
    obtain ⟨-, -, t, ht, h⟩ := h
    obtain ⟨rfl, rfl⟩ := Prod.mk.inj (Except.ok.inj h)
    exact ⟨acceptTranscript_forward ht, by simp, by simp, by simp⟩
  case responseBegin =>
    obtain ⟨-, -, t, ht, h⟩ := h
    obtain ⟨rfl, rfl⟩ := Prod.mk.inj (Except.ok.inj h)
    obtain ⟨hforward, hbegun⟩ := acceptBegin_forward ht
    refine ⟨hforward, by simp, ?_, by simp⟩
    rintro _ _ ⟨⟩
    exact hbegun
  case responseText =>
    obtain ⟨-, -, t, ht, h⟩ := h
    obtain ⟨rfl, rfl⟩ := Prod.mk.inj (Except.ok.inj h)
    exact ⟨acceptText_forward ht, by simp, by simp, by simp⟩
  case responseEnd =>
    obtain ⟨-, -, t, ht, h⟩ := h
    obtain ⟨rfl, rfl⟩ := Prod.mk.inj (Except.ok.inj h)
    exact ⟨acceptEnd_forward ht, by simp, by simp, by simp⟩
  case sessionClose | sessionError =>
    obtain ⟨-, -, h⟩ := h
    obtain ⟨rfl, rfl⟩ := Prod.mk.inj (Except.ok.inj h)
    exact ⟨⟨rfl, le_refl _, le_refl _, le_refl _⟩, by simp, by simp, by simp⟩

/-- A frame that is heard is at or above the fence and between the old and the new number. -/
structure Heard (s : SessionState) (frame : MediaFrame) (s' : SessionState) : Prop where
  fence : s.fenceGeneration ≤ frame.generation
  sequence : s.nextDownlinkSequence ≤ frame.sequence ∧ frame.sequence < s'.nextDownlinkSequence

theorem validateMediaAdmission_fence {frame : MediaFrame} (h : s.validateMediaAdmission frame = .ok true) :
    s.fenceGeneration ≤ frame.generation := by
  simp only [validateMediaAdmission, bind_ok] at h
  obtain ⟨-, -, -, -, h⟩ := h
  split at h
  · cases h
  split at h
  · cases h
  rename_i hopen
  simp only [not_or, not_lt] at hopen
  exact hopen.1

theorem takeMedia_forward (s : SessionState) (frame : MediaFrame) (admitted : Bool) :
    Forward s (s.takeMedia frame admitted).1 ∧ (s.takeMedia frame admitted).1.nextDownlinkSequence = s.nextDownlinkSequence ∧
      ∀ target media, (s.takeMedia frame admitted).2 = some (.audio target media) → media = frame ∧ admitted = true := by
  rw [takeMedia.eq_def]
  split
  · have hstamped : Forward s
        { s with lastMediaTimestamp := s.lastMediaTimestamp.set frame.generation frame.timestamp } :=
      ⟨rfl, le_refl _, le_refl _, le_refl _⟩
    dsimp only
    refine ⟨hstamped.trans (forward_modifyPlayback _ _ _), ?_, ?_⟩
    · rw [modifyPlayback]
      split <;> rfl
    · rintro target media ⟨⟩
      exact ⟨rfl, rfl⟩
  · exact ⟨.refl s, rfl, by simp⟩

theorem acceptMedia_heard {frame : MediaFrame} (h : s.acceptMedia frame = .ok (s', event)) :
    Forward s s' ∧ ∀ target media, event = some (.audio target media) → media = frame ∧ Heard s frame s' := by
  rw [acceptMedia] at h
  split at h
  · cases h
  simp only [bind_ok] at h
  obtain ⟨admitted, hadmitted, h⟩ := h
  have htaken : s.nextDownlinkSequence ≤ frame.sequence ∧
      (s', event) = { s with nextDownlinkSequence := frame.sequence + 1 }.takeMedia frame admitted := by
    split at h
    · simp only [bind_ok, raise_ok, not_not] at h
      obtain ⟨-, hsequence, h⟩ := h
      exact ⟨hsequence.ge, (Except.ok.inj h).symm⟩
    · simp only [bind_ok, raise_ok, not_lt] at h
      obtain ⟨-, hsequence, h⟩ := h
      exact ⟨hsequence, (Except.ok.inj h).symm⟩
  obtain ⟨hsequence, hend⟩ := htaken
  obtain ⟨hforward, hnext, hevent⟩ := takeMedia_forward { s with nextDownlinkSequence := frame.sequence + 1 } frame admitted
  rw [← hend] at hforward hnext hevent
  have hdone : s'.nextDownlinkSequence = frame.sequence + 1 := hnext
  refine ⟨⟨hforward.opened, hforward.fence, hforward.highest, by omega⟩, ?_⟩
  intro target media haudio
  obtain ⟨rfl, rfl⟩ := hevent target media haudio
  exact ⟨rfl, validateMediaAdmission_fence hadmitted, hsequence, by omega⟩

theorem playbackStarted_forward {first : Nat} {fact : PlaybackFact} (h : s.playbackStarted target first = .ok (s', fact)) :
    Forward s s' := by
  simp only [playbackStarted, bind_ok] at h
  obtain ⟨playback, -, -, -, -, -, -, -, -, -, h⟩ := h
  obtain ⟨rfl, -⟩ := Prod.mk.inj (Except.ok.inj h)
  exact forward_modifyPlayback _ _ _

theorem playbackEnded_forward {outcome : PlaybackOutcome} {playedSamples : Nat} {last : Option Nat} {fact : PlaybackFact}
    (h : s.playbackEnded target outcome playedSamples last = .ok (s', fact)) : Forward s s' := by
  simp only [playbackEnded, bind_ok] at h
  obtain ⟨playback, -, h⟩ := h
  obtain ⟨rfl, -⟩ := Prod.mk.inj (Except.ok.inj h)
  exact ⟨rfl, le_refl _, le_refl _, le_refl _⟩

end Taken

/-- The frame that the player is handed. -/
def Taken.heard (e : Taken) : Option MediaFrame :=
  match e.2 with
  | some (.audio _ frame) => some frame
  | _ => none

/-- The generation of a response that begins. -/
def Taken.begun (e : Taken) : Option Nat :=
  match e.1 with
  | .acceptControl _ _ (.responseBegin _ generation) => some generation
  | _ => none

/-- The fence of a stop taken for the first time. -/
def Taken.fence (e : Taken) : Option Nat :=
  match e with
  | (.acceptControl _ _ (.playbackStop _ _ fence _), some _) => some fence
  | _ => none

/-- What one call does to the fence, the last response and the next number. -/
structure Advanced (s : SessionState) (e : Taken) (s' : SessionState) : Prop where
  forward : Forward s s'
  heard : ∀ frame, e.heard = some frame → Heard s frame s'
  begun : ∀ generation, e.begun = some generation → s.highestGeneration < generation ∧ s'.highestGeneration = generation
  fence : ∀ fence, e.fence = some fence → s'.fenceGeneration = fence

theorem step_advanced {s s' : SessionState} {e : Taken} (h : Step s e s') : Advanced s e s' := by
  obtain ⟨c, event⟩ := e
  cases c with
  | acceptControl sessionId sessionEpoch message =>
    have hdone := acceptControl_controlled (h : s.acceptControl sessionId sessionEpoch message = _)
    refine ⟨hdone.forward, ?_, ?_, ?_⟩
    · intro frame hheard
      simp only [Taken.heard] at hheard
      split at hheard
      · exact absurd rfl (hdone.silent _ _)
      · cases hheard
    · intro generation hbegun
      cases message with
      | responseBegin responseId generation' =>
        obtain rfl := Option.some.inj hbegun
        exact hdone.begun _ _ rfl
      | _ => cases hbegun
    · intro fence hfence
      simp only [Taken.fence] at hfence
      split at hfence
      · rename_i heq
        obtain ⟨hcall, rfl⟩ := Prod.mk.inj heq
        obtain ⟨rfl, rfl, rfl⟩ := Call.acceptControl.inj hcall
        obtain rfl := Option.some.inj hfence
        exact hdone.stopped _ _ _ _ rfl rfl
      · cases hfence
  | acceptMedia frame =>
    obtain ⟨hforward, hheard⟩ := acceptMedia_heard (h : s.acceptMedia frame = _)
    refine ⟨hforward, ?_, by simp [Taken.begun], by simp [Taken.fence]⟩
    intro media hmedia
    simp only [Taken.heard] at hmedia
    split at hmedia
    · obtain rfl := Option.some.inj hmedia
      obtain ⟨rfl, hdone⟩ := hheard _ _ rfl
      exact hdone
    · cases hmedia
  | playbackStarted target first =>
    obtain ⟨r, hr, hevent⟩ := map_ok.mp h
    obtain ⟨rfl, rfl⟩ := Prod.mk.inj hevent
    exact ⟨playbackStarted_forward hr, by simp [Taken.heard], by simp [Taken.begun], by simp [Taken.fence]⟩
  | playbackEnded target outcome playedSamples last =>
    obtain ⟨r, hr, hevent⟩ := map_ok.mp h
    obtain ⟨rfl, rfl⟩ := Prod.mk.inj hevent
    exact ⟨playbackEnded_forward hr, by simp [Taken.heard], by simp [Taken.begun], by simp [Taken.fence]⟩

/-- Frames are heard with rising numbers, responses begin with rising generations, and nothing is
heard from below the fence of a stop. -/
structure InOrder (e f : Taken) : Prop where
  heard : ∀ earlier frame, e.heard = some earlier → f.heard = some frame → earlier.sequence < frame.sequence
  begun : ∀ earlier generation, e.begun = some earlier → f.begun = some generation → earlier < generation
  fence : ∀ fence frame, e.fence = some fence → f.heard = some frame → fence ≤ frame.generation

/-- What a state has left behind of a call. -/
structure Behind (s : SessionState) (e : Taken) : Prop where
  heard : ∀ frame, e.heard = some frame → frame.sequence < s.nextDownlinkSequence
  begun : ∀ generation, e.begun = some generation → generation ≤ s.highestGeneration
  fence : ∀ fence, e.fence = some fence → fence ≤ s.fenceGeneration

theorem Behind.later {s s' : SessionState} {e : Taken} (h : Behind s e) (hforward : Forward s s') : Behind s' e where
  heard frame hheard := (h.heard frame hheard).trans_le hforward.downlink
  begun generation hbegun := (h.begun generation hbegun).trans hforward.highest
  fence fence hfence := (h.fence fence hfence).trans hforward.fence

theorem Behind.inOrder {s s' : SessionState} {e f : Taken} (h : Behind s e) (hf : Advanced s f s') : InOrder e f where
  heard earlier frame hearlier hframe := (h.heard earlier hearlier).trans_le (hf.heard frame hframe).sequence.1
  begun earlier generation hearlier hbegun := (h.begun earlier hearlier).trans_lt (hf.begun generation hbegun).1
  fence fence frame hfence hframe := (h.fence fence hfence).trans (hf.heard frame hframe).fence

/-- In every run of a session what the calls yield is in order. -/
theorem run_inOrder {opened : SessionOpened} {es : List Taken} {s : SessionState} (h : Run Step (.init opened) es s) :
    es.Pairwise InOrder := by
  have hall : es.Pairwise InOrder ∧ ∀ e ∈ es, Behind s e := by
    refine h.invariant (R := fun es s => es.Pairwise InOrder ∧ ∀ e ∈ es, Behind s e) ⟨.nil, by simp⟩ ?_
    rintro es s e t - ⟨hpair, hbefore⟩ hstep
    have hdone := step_advanced hstep
    refine ⟨?_, ?_⟩
    · rw [List.pairwise_append]
      refine ⟨hpair, List.pairwise_singleton _ _, ?_⟩
      intro f hf g hg
      obtain rfl := List.mem_singleton.mp hg
      exact (hbefore f hf).inOrder hdone
    · intro f hf
      obtain hf | hf := List.mem_append.mp hf
      · exact (hbefore f hf).later hdone.forward
      · obtain rfl := List.mem_singleton.mp hf
        exact ⟨fun frame hheard => (hdone.heard frame hheard).sequence.2,
          fun generation hbegun => (hdone.begun generation hbegun).2.ge, fun fence hfence => (hdone.fence fence hfence).ge⟩
  exact hall.1

end SessionState

end RealtimeVoice.Desktop
