import RealtimeVoice.Base.Dict
import RealtimeVoice.Rva.Protocol

namespace RealtimeVoice.Rva

open RealtimeVoice.Base

structure PlaybackRef where
  connectionEpoch : String
  generation : Nat
deriving DecidableEq

inductive CancelDisposition
  | applied | staleTarget | sessionClosed
deriving DecidableEq

/-- `VoiceSessionState`: who may play, and the generation counter. Its transition
lock is never held across a suspension, so every operation is one step. -/
structure VoiceSession where
  connectionEpoch : String
  generation : Nat := 0
  activePlayback : Option PlaybackRef := none
  closed : Bool := false
deriving DecidableEq

namespace VoiceSession

def beginPlayback (v : VoiceSession) : Except RvaError (VoiceSession × PlaybackRef) :=
  if v.closed then .error .sessionClosed
  else if v.activePlayback.isSome then .error .playbackAlreadyActive
  else
    let playback : PlaybackRef := { connectionEpoch := v.connectionEpoch, generation := v.generation + 1 }
    .ok ({ v with generation := v.generation + 1, activePlayback := some playback }, playback)

def acceptsCallback (v : VoiceSession) (playback : PlaybackRef) : Bool :=
  !v.closed && v.activePlayback == some playback

def finishPlayback (v : VoiceSession) (target : PlaybackRef) : VoiceSession × Bool :=
  if v.closed || v.activePlayback != some target then (v, false)
  else ({ v with activePlayback := none }, true)

def cancelPlayback (v : VoiceSession) (target : PlaybackRef) : VoiceSession × CancelDisposition :=
  if v.closed then (v, .sessionClosed)
  else if v.activePlayback ≠ some target then (v, .staleTarget)
  else ({ v with generation := v.generation + 1, activePlayback := none }, .applied)

def close (v : VoiceSession) : VoiceSession :=
  if v.closed then v
  else if v.activePlayback.isSome then
    { v with closed := true, generation := v.generation + 1, activePlayback := none }
  else { v with closed := true }

end VoiceSession

inductive PlaybackOutcome
  | completed | stopped | failed
deriving DecidableEq, Repr

structure ResponseRecord where
  responseId : String
  target : PlaybackRef
  producerEpoch : Int
  firstMediaSequence : Option Nat := none
  lastMediaSequence : Option Nat := none
  outcome : Option ResponseOutcome := none
  errorCode : Option String := none
  stopSent : Bool := false
  playbackStarted : Bool := false
  playbackEnded : Bool := false
deriving DecidableEq

abbrev Key := String × Nat

def ResponseRecord.key (r : ResponseRecord) : Key := (r.responseId, r.target.generation)

/-- A record object; the code compares records by identity. -/
abbrev Ref := Nat

structure PlaybackEndedFact where
  record : Ref
  outcome : PlaybackOutcome
  playedSamples : Nat
  lastMediaSequence : Option Nat
deriving DecidableEq

/-- `ResponseCoordinator`. The heap holds every record created so far, at the
index that is its reference. -/
structure Coordinator where
  session : VoiceSession
  heap : List ResponseRecord := []
  active : Option Ref := none
  playback : Option Ref := none
  records : Dict Key Ref := {}
  terminalOrder : List Key := []
deriving DecidableEq

namespace Coordinator

def update (c : Coordinator) (r : Ref) (f : ResponseRecord → ResponseRecord) : Coordinator :=
  { c with heap := c.heap.modify r f }

def begin (c : Coordinator) (responseId : String) (producerEpoch : Int) :
    Except RvaError (Coordinator × Ref × Bool) :=
  match c.active with
  | some r =>
    if (c.heap[r]?).any (·.producerEpoch == producerEpoch) then .ok (c, r, false)
    else .error (.binding "response_already_active")
  | none =>
    if c.playback.isSome then .error (.binding "playback_already_active")
    else
      match c.session.beginPlayback with
      | .error e => .error e
      | .ok (session, target) =>
        let r := c.heap.length
        .ok ({ c with
                session := session
                heap := c.heap ++ [{ responseId, target, producerEpoch }]
                active := some r
                playback := some r
                records := c.records.set (responseId, target.generation) r }, r, true)

def accepts (c : Coordinator) (r : Ref) : Bool :=
  c.active == some r && (c.heap[r]?).any (c.session.acceptsCallback ·.target)

def noteMedia (c : Coordinator) (r : Ref) (sequence : Nat) : Except RvaError Coordinator :=
  if !c.accepts r then .error (.binding "stale_generation")
  else
    .ok (c.update r fun rec =>
      { rec with
        firstMediaSequence := some (rec.firstMediaSequence.getD sequence)
        lastMediaSequence := some sequence })

/-- Pop the oldest terminal keys beyond the limit. A record is forgotten only if
its playback has ended. -/
def evict (heap : List ResponseRecord) : List Key → Dict Key Ref → List Key × Dict Key Ref
  | [], records => ([], records)
  | old :: order, records =>
    if (old :: order).length > 32 then
      let ended := ((records.get? old).bind (heap[·]?)).any (·.playbackEnded)
      evict heap order (if ended then records.erase old else records)
    else (old :: order, records)

def rememberTerminal (c : Coordinator) (key : Key) : Coordinator :=
  let (order, records) := evict c.heap (c.terminalOrder ++ [key]) c.records
  { c with terminalOrder := order, records := records }

def complete (c : Coordinator) (r : Ref) : Except RvaError Coordinator :=
  match c.heap[r]? with
  | none => .error (.binding "stale_generation")
  | some rec =>
    if rec.firstMediaSequence.isNone || rec.lastMediaSequence.isNone then
      .error (.binding "response_has_no_media")
    else if c.active ≠ some r ∨ c.playback ≠ some r then .error (.binding "stale_generation")
    else
      .ok (({ c with active := none }.update r fun rec =>
        { rec with outcome := some .completed }).rememberTerminal rec.key)

/-- Fence the current playback: the new coordinator and the fence generation. -/
def fence (c : Coordinator) (r : Ref) (outcome : ResponseOutcome) (errorCode : Option String) :
    Except RvaError (Coordinator × Nat) :=
  match c.heap[r]? with
  | none => .error (.binding "stale_generation")
  | some rec =>
    if c.playback ≠ some r ∨ rec.stopSent then .error (.binding "stale_generation")
    else
      match c.session.cancelPlayback rec.target with
      | (session, .applied) =>
        let active := c.active == some r
        let c := { c with session := session, active := if active then none else c.active }
        .ok ((c.update r fun rec =>
          { rec with
            outcome := if active then some outcome else rec.outcome
            errorCode := if active then errorCode else rec.errorCode
            stopSent := true }).rememberTerminal rec.key, session.generation)
      | _ => .error (.binding "stale_generation")

def record (c : Coordinator) (responseId : String) (generation : Nat) : Except RvaError (Ref × ResponseRecord) :=
  match c.records.get? (responseId, generation) with
  | none => .error (.binding "stale_generation")
  | some r =>
    match c.heap[r]? with
    | none => .error (.binding "stale_generation")
    | some rec => .ok (r, rec)

def playbackStarted (c : Coordinator) (responseId : String) (generation firstMediaSequence : Nat) :
    Except RvaError (Coordinator × Ref) :=
  match c.record responseId generation with
  | .error e => .error e
  | .ok (r, rec) =>
    if rec.playbackStarted || rec.playbackEnded then .error (.binding "duplicate_playback_started")
    else if !rec.firstMediaSequence.any (· ≤ firstMediaSequence) ||
        !rec.lastMediaSequence.any (firstMediaSequence ≤ ·) then
      .error (.binding "invalid_playback_sequence")
    else .ok (c.update r fun rec => { rec with playbackStarted := true }, r)

def expectedOutcomes (rec : ResponseRecord) : List PlaybackOutcome :=
  match rec.outcome with
  | none => []
  | some .cancelled => [.stopped]
  | some .failed => [.failed]
  | some .completed => if rec.stopSent then [.stopped] else [.completed, .failed]

/-- The checks of `playback_ended` before it changes anything. -/
def endedRecord (c : Coordinator) (responseId : String) (generation : Nat) (outcome : PlaybackOutcome)
    (playedSamples : Nat) (lastMediaSequence : Option Nat) : Except RvaError (Ref × ResponseRecord) :=
  match c.record responseId generation with
  | .error e => .error e
  | .ok (r, rec) =>
    if rec.playbackEnded then .error (.binding "duplicate_playback_ended")
    else if c.playback ≠ some r then .error (.binding "stale_generation")
    else if outcome ∉ expectedOutcomes rec then .error (.binding "invalid_playback_outcome")
    else if outcome = .completed ∧ playedSamples = 0 then .error (.binding "playback_evidence_mismatch")
    else if outcome = .completed ∧ lastMediaSequence ≠ rec.lastMediaSequence then
      .error (.binding "invalid_playback_sequence")
    else if outcome ≠ .completed ∧ lastMediaSequence.any (fun last =>
        playedSamples == 0 || !rec.lastMediaSequence.any (last ≤ ·)) then
      .error (.binding "invalid_playback_sequence")
    else .ok (r, rec)

/-- A completed and unfenced response still holds the session's playback. -/
def needsFinish (rec : ResponseRecord) : Bool := rec.outcome == some .completed && !rec.stopSent

def playbackEnded (c : Coordinator) (responseId : String) (generation : Nat) (outcome : PlaybackOutcome)
    (playedSamples : Nat) (lastMediaSequence : Option Nat) :
    Coordinator × Except RvaError PlaybackEndedFact :=
  match c.endedRecord responseId generation outcome playedSamples lastMediaSequence with
  | .error e => (c, .error e)
  | .ok (r, rec) =>
    let c := c.update r fun rec => { rec with playbackEnded := true }
    let fact : PlaybackEndedFact := { record := r, outcome, playedSamples, lastMediaSequence }
    if needsFinish rec then
      match c.session.finishPlayback rec.target with
      | (_, false) => (c, .error (.binding "stale_generation"))
      | (session, true) => ({ c with session := session, playback := none }, .ok fact)
    else ({ c with playback := none }, .ok fact)

def close (c : Coordinator) : Coordinator := { c with session := c.session.close }

end Coordinator

end RealtimeVoice.Rva
