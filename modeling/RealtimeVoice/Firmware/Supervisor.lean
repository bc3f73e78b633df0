import RealtimeVoice.Base.Deliveries
import RealtimeVoice.Firmware.Session
import RealtimeVoice.Firmware.WssSession

namespace RealtimeVoice.Firmware

open RealtimeVoice.Base RealtimeVoice.Base.Runs RealtimeVoice.Udp RealtimeVoice.Contracts
open RealtimeVoice.Firmware.Session (SessionGate MediaOwner)
open RealtimeVoice.Firmware.Control hiding fields valid

/-- What the supervisor task of the voice runtime hands on: failures and texts to the application,
commands and packets to the playback task. The playback queue gives up its oldest packet where that is
discarded. -/
inductive RuntimeEvent
  | failure (reason : String)
  | mediaProfile (owner : MediaOwner)
  | transcript (text : String) (final : Bool)
  | responseText (text : String)
  | begin (target : ResponseTarget)
  | complete (target : ResponseTarget) (finalMediaSequence : Nat)
  | stop (target : ResponseTarget) (fenceGeneration : Nat)
  | media (sequence generation : Nat) (payload : Bytes)
  | discarded
deriving DecidableEq

/-- The part of `VoiceRuntime` that its supervisor task owns. -/
structure Supervisor where
  session : WssSession
  gate : SessionGate
  expectedSessionEpoch : String
  mediaOwner : MediaOwner := .none
  opened : Option SessionOpened := none
  sessionOpened : Bool := false
  fallbackToWss : Bool := false
  wssPlaybackQueueDropped : Nat := 0
  running : Bool := true
deriving DecidableEq

/-- What the runtime's other parts answer: whether the UDP session could be made, the media tasks could be
started and the command queue took the command; whether the playback queue took the packet, and where not,
whether it gave up its oldest one and then took it. -/
structure SupervisorReads where
  configuresUdp : Bool := true
  startsMedia : Bool := true
  queued : Bool := true
  sent : Bool := true
  received : Bool := true
  resent : Bool := true

/-- Nothing fails. The playback queue may be full all the same. -/
structure SupervisorReads.Ready (r : SupervisorReads) : Prop where
  configuresUdp : r.configuresUdp = true
  startsMedia : r.startsMedia = true
  queued : r.queued = true

namespace Supervisor

abbrev Result := Supervisor × List RuntimeEvent

def fail (s : Supervisor) (reason : String) : Result := ({ s with running := false }, [.failure reason])

def parseTransportProfile (wireName : String) : Option TransportProfile :=
  if wireName = wssProfile then some .wssOpus
  else if wireName = udpProfile then some .udpOpusGcm
  else none

def selectedOwner (opened : SessionOpened) : MediaOwner :=
  if opened.selectedMediaProfile = udpProfile then .udp else .wss

/-- The tests of a `session.opened`, and the session and the gate after them. -/
def admitOpened (s : Supervisor) (r : SupervisorReads) (opened : SessionOpened) : WssSession × Option SessionGate :=
  if opened.session.sessionEpoch ≠ s.expectedSessionEpoch then (s.session, none)
  else
    match s.session.accept (.sessionOpened opened) with
    | (session, .accepted) =>
      match parseTransportProfile opened.selectedMediaProfile with
      | none => (session, none)
      | some profile =>
        if selectedOwner opened = .udp ∧ (opened.udpGrant.isNone ∨ r.configuresUdp = false) then (session, none)
        else (session, s.gate.commitMedia profile (selectedOwner opened))
    | (session, _) => (session, none)

def handleOpened (s : Supervisor) (r : SupervisorReads) (opened : SessionOpened) : Result :=
  match s.admitOpened r opened with
  | (session, none) =>
    { s with session, fallbackToWss := s.fallbackToWss || selectedOwner opened == MediaOwner.udp }.fail "session_opened"
  | (session, some gate) =>
    let s := { s with session, gate, opened := some opened, mediaOwner := selectedOwner opened, sessionOpened := true }
    let profile := RuntimeEvent.mediaProfile (selectedOwner opened)
    if !r.startsMedia then
      let failed := s.fail "media_runtime_start"
      (failed.1, profile :: failed.2)
    -- in the UDP profile the heartbeat of the session paces the keepalives
    else if selectedOwner opened = .udp ∧
        (opened.heartbeatIntervalMs = 0 ∨ opened.idleTimeoutMs < opened.heartbeatIntervalMs) then
      let failed := { s with fallbackToWss := true }.fail "udp_heartbeat_contract"
      (failed.1, profile :: failed.2)
    else (s, [profile])

/-- `EnqueuePlaybackCommand`, on a queue that is there. -/
def enqueuePlaybackCommand (r : SupervisorReads) (target : ResponseTarget) : Bool :=
  !(target.responseId == "" || size target.responseId > maxIdBytes || target.generation == 0) && r.queued

def handleResponse (s : Supervisor) (r : SupervisorReads) (response : ResponseEvent) : Result :=
  let target : ResponseTarget := { responseId := response.responseId, generation := response.generation }
  match response.type with
  | .responseBegin =>
    match s.gate.advancePlaybackGeneration response.generation with
    | none => s.fail "playback_generation"
    | some gate =>
      let s := { s with gate }
      if enqueuePlaybackCommand r target then (s, [.begin target]) else s.fail "playback_generation"
  | .responseText => (s, [.responseText response.text])
  | .responseEnd =>
    if response.outcome = .completed then
      match response.finalMediaSequence with
      | none => s.fail "playback_completion"
      | some finalMediaSequence =>
        if enqueuePlaybackCommand r target then (s, [.complete target finalMediaSequence])
        else s.fail "playback_completion"
    else (s, [])

/-- `HandleControl` after the parser. -/
def handleMessage (s : Supervisor) (r : SupervisorReads) : ServerMessage → Result
  | .sessionOpened opened => s.handleOpened r opened
  | message =>
    match s.session.accept message with
    | (session, .accepted) =>
      let s := { s with session }
      match message with
      | .sessionOpened _ => (s, [])
      | .transcript transcript => (s, [.transcript transcript.text transcript.final])
      | .response response => s.handleResponse r response
      | .playbackStop stop =>
        if enqueuePlaybackCommand r stop.target then (s, [.stop stop.target stop.fenceGeneration])
        else s.fail "playback_stop_queue"
      | .sessionError error =>
        s.fail (if error.retryable then "session_error_retryable" else "session_error_terminal")
      | .sessionClose _ => ({ s with running := false }, [])
    | (session, _) => { s with session }.fail "control_fence"

def handleControl (cJSON : List Char → Option Json) (s : Supervisor) (r : SupervisorReads) (data : List Char) : Result :=
  match parseServerMessage cJSON data with
  | .error _ => s.fail "control_parse"
  | .ok message => s.handleMessage r message

/-- What becomes of a packet at the playback queue, and whether one is dropped. -/
def enqueueMedia (r : SupervisorReads) (packet : RuntimeEvent) : Bool × List RuntimeEvent :=
  if r.sent then (false, [packet])
  else if r.received then
    if r.resent then (true, [.discarded, packet]) else (true, [.discarded])
  else (true, [])

def handleMedia (s : Supervisor) (r : SupervisorReads) (frame : Bytes) : Result :=
  if s.mediaOwner ≠ .wss then if s.sessionOpened then s.fail "transport_mismatch" else (s, [])
  else
    match s.session.acceptMedia frame with
    | (session, .staleGeneration, _) => ({ s with session }, [])
    | (session, .accepted, some header) =>
      if header.payloadLength = 0 then { s with session }.fail "wss_media_admission"
      else
        let packet := RuntimeEvent.media header.sequence.toNat header.generation.toNat
          ((frame.drop mediaHeaderBytes).take header.payloadLength.toNat)
        let (dropped, events) := enqueueMedia r packet
        let wssPlaybackQueueDropped :=
          if dropped then (s.wssPlaybackQueueDropped + 1) % 2 ^ 32 else s.wssPlaybackQueueDropped
        ({ s with session, wssPlaybackQueueDropped }, events)
    | (session, _, _) => { s with session }.fail "wss_media_admission"

/-- A frame from the server. -/
inductive Frame
  | text (data : List Char)
  | binary (frame : Bytes)

/-- A round of the supervisor's loop that finds a whole frame. -/
def handleFrame (cJSON : List Char → Option Json) (s : Supervisor) (r : SupervisorReads) (frame : Frame) : Result :=
  if s.running then
    match frame with
    | .text data => s.handleControl cJSON r data
    | .binary frame => s.handleMedia r frame
  else (s, [])

/-- `Start`: a fresh session under its own request id, its gate opening. -/
def start (openRequestId expectedSessionEpoch : String) : Supervisor :=
  { session := { openRequestId }, gate := { phase := .opening, sessionGeneration := 1 }, expectedSessionEpoch }

example : ({} : SessionGate).beginFreshSession 1 = some (start "" "").gate := by decide

end Supervisor

end RealtimeVoice.Firmware
