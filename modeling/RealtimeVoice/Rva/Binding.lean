import RealtimeVoice.Base.Runs
import RealtimeVoice.Rva.Response

namespace RealtimeVoice.Rva

open RealtimeVoice.Base RealtimeVoice.Base.Runs RealtimeVoice.Contracts

/-- What the constructor of `RvaWssBinding` checks once and nothing changes. -/
structure BindingConfig where
  expectedDeviceId : String
  sessionId : String
  sessionEpoch : String
  mediaId : List UInt8
  mediaEpoch : Nat
  allowedProfiles : List TransportProfile := [.wssOpus]
  udpGrant : Option Message := none
  expectedDeviceId_valid : identifierMatches expectedDeviceId = true
  sessionId_valid : identifierMatches sessionId = true
  sessionEpoch_valid : identifierMatches sessionEpoch = true
  mediaId_length : mediaId.length = 8
  mediaEpoch_range : 1 ≤ mediaEpoch ∧ mediaEpoch ≤ uint32Max

structure Binding where
  config : BindingConfig
  responses : Coordinator
  opened : Bool := false
  selectedMediaProfile : Option TransportProfile := none
  nextUplinkSequence : Nat := 0
  nextDownlinkSequence : Nat := 0
  nextResponseTextSequence : Nat := 0
  activeUtteranceId : Option String := none
  nextTranscriptSequence : Nat := 0
  lastFinalizedUtterance : Option String := none
  cancelRequests : Dict String (String × Nat) := {}
  cancelRequestOrder : List String := []

def Binding.init (config : BindingConfig) : Binding :=
  { config, responses := { session := { connectionEpoch := config.sessionEpoch } } }

structure InboundAudioPacket where
  sequence : Nat
  timestamp : Nat
  payload : List UInt8
deriving DecidableEq

structure ControlEffect where
  outbound : List ServerEvent := []
  interrupt : Option Ref := none
  playbackStarted : Option Ref := none
  playbackEnded : Option PlaybackEndedFact := none
  closeAfterSend : Bool := false

inductive Reply
  | control (effect : ControlEffect)
  | begun (record : Ref) (event : Option ServerEvent)
  | event (event : ServerEvent)
  | media (frame : List UInt8)
  | audio (packet : InboundAudioPacket)
  | sequence (sequence : Nat)
  | done

/-- The operations of the binding. Control input is the decoded JSON object. -/
inductive Call
  | receiveControl (message : Message)
  | cancelActiveResponse (cause : String)
  | receiveMedia (raw : List UInt8)
  | serializeAudio (payload : List UInt8) (timestamp : Int) (record : Ref)
  | reserveDownlinkMedia (record : Ref)
  | noteDownlinkMedia (record : Ref) (sequence : Int)
  | transcriptDelta (utteranceId : String) (sequence : Int) (text : String)
  | transcriptFinal (utteranceId : String) (sequence : Int) (text : String)
  | responseBegin (responseId : String) (producerEpoch : Int)
  | responseText (record : Ref) (sequence : Int) (text : String)
  | responseEnd (record : Ref)
  | sessionError (code : String) (retryable : Bool) (message : String)
  | close

abbrev Result := Except RvaError Reply

namespace Binding

def closed (b : Binding) : Bool := b.responses.session.closed

def ensureOpen (b : Binding) : Except RvaError Unit :=
  if b.closed then .error (.binding "session_closed")
  else if !b.opened then .error (.binding "session_not_open")
  else .ok ()

/-- `_event`: the event as it leaves the binding, unless its encoding is too large. -/
def event (b : Binding) (e : ServerEvent) : Except RvaError ServerEvent :=
  match encodeControl (e.message b.config.sessionId b.config.sessionEpoch) with
  | .error error => .error error
  | .ok _ => .ok e

/-- An operation that changes the state only if it succeeds. -/
def commit (b : Binding) (x : Except RvaError (Binding × Reply)) : Binding × Result :=
  match x with
  | .error e => (b, .error e)
  | .ok (b', reply) => (b', .ok reply)

/-- An operation that changes the state and then encodes one event. -/
def emit (b : Binding) (x : Except RvaError (Binding × ServerEvent)) (reply : ServerEvent → Reply) :
    Binding × Result :=
  match x with
  | .error e => (b, .error e)
  | .ok (b', e) => (b', (b'.event e).map reply)

def requireText (text : String) (maximumBytes : Nat) (allowEmpty : Bool) : Except RvaError Unit :=
  if !allowEmpty && text == "" then .error (.binding "invalid_text")
  else if utf8Length text.toList > maximumBytes then .error (.binding "text_too_large")
  else .ok ()

def requireUint53 (value : Json) (field : String) : Except RvaError Nat :=
  match value with
  | .int n => if 0 ≤ n ∧ n ≤ uint53Max then .ok n.toNat else .error (.binding ("invalid_" ++ field))
  | _ => .error (.binding ("invalid_" ++ field))

def parseTarget (value : Json) : Except RvaError Key :=
  match value with
  | .obj fields => do
    requireExactFields fields ["response_id", "generation"]
    let responseId ← requireIdentifier (field fields "response_id") "response_id"
    let generation ← requireUint32 (field fields "generation") "generation" 1
    return (responseId, generation)
  | _ => .error (.binding "invalid_cancel_target")

def requireContext (b : Binding) (message : Message) : Except RvaError Unit :=
  if (field message "session_id").eqStr b.config.sessionId &&
      (field message "session_epoch").eqStr b.config.sessionEpoch then .ok ()
  else .error (.binding "stale_session")

def stopCause? (cause : String) : Option StopCause :=
  [StopCause.explicitUserRequest, .recognizedInterrupt, .sessionClose, .responseFailed].find?
    (·.text == cause)

def closeReasons : List String := ["normal", "idle_timeout", "network_change", "protocol_error"]

def hexByte (b : UInt8) : List Char := [Json.lowerHex (b.toNat / 16), Json.lowerHex (b.toNat % 16)]

def mediaIdHex (b : Binding) : String := String.ofList (b.config.mediaId.flatMap hexByte)

def «open» (b : Binding) (message : Message) : Except RvaError (Binding × ServerEvent) := do
  reject b.opened "duplicate_session_open"
  reject b.closed "session_closed"
  let opened ← parseSessionOpenObject message
  reject (opened.deviceId ≠ b.config.expectedDeviceId) "device_id_mismatch"
  let offered := opened.supportedMediaProfiles.filter (· ∈ b.config.allowedProfiles)
  match offered with
  | [] => throw (.binding "unsupported_media_profile")
  | first :: _ =>
    let selected :=
      if opened.preferredMediaProfile ∈ offered then opened.preferredMediaProfile
      else if TransportProfile.wssOpus ∈ offered then .wssOpus
      else first
    reject (selected = .udpOpusGcm ∧ b.config.udpGrant.isNone) "udp_unavailable"
    return ({ b with opened := true, selectedMediaProfile := some selected },
      .sessionOpened opened.requestId (mediaIdHex b) b.config.mediaEpoch selected
        (if selected = .udpOpusGcm then b.config.udpGrant else none))

def stopOutcome (cause : StopCause) : ResponseOutcome :=
  if cause = .responseFailed then .failed else .cancelled

def stopErrorCode (cause : StopCause) : Option String :=
  if cause = .responseFailed then some "response_failed" else none

/-- The events of a fence that has been applied: the stop, and the end of a
response that had not completed. -/
def fenceEffect (b : Binding) (r : Ref) (fenceGeneration : Nat) (cause : StopCause) :
    Except RvaError ControlEffect := do
  match b.responses.heap[r]? with
  | none => throw .assertion
  | some rec =>
    let stop ← b.event (.playbackStop rec.responseId rec.target.generation fenceGeneration cause)
    if rec.outcome = some .completed then return { outbound := [stop], interrupt := some r }
    let e ← b.event
      (.responseEnd rec.responseId rec.target.generation (stopOutcome cause) (stopErrorCode cause) none)
    return { outbound := [stop, e], interrupt := some r }

/-- The body of `cancel_active_response` for an existing playback. -/
def fencePlayback (b : Binding) (r : Ref) (cause : StopCause) : Binding × Except RvaError ControlEffect :=
  match b.responses.fence r (stopOutcome cause) (stopErrorCode cause) with
  | .error e => (b, .error e)
  | .ok (responses, fenceGeneration) =>
    let b' := { b with responses := responses }
    (b', b'.fenceEffect r fenceGeneration cause)

def cancelEffect (b : Binding) (cause : String) : Binding × Except RvaError ControlEffect :=
  match b.ensureOpen with
  | .error e => (b, .error e)
  | .ok () =>
    match b.responses.playback with
    | none => (b, .ok {})
    | some r =>
      match stopCause? cause with
      | none => (b, .error (.binding "invalid_stop_cause"))
      | some cause => b.fencePlayback r cause

def cancelActiveResponse (b : Binding) (cause : String) : Binding × Result :=
  let (b', effect) := b.cancelEffect cause
  (b', effect.map .control)

def receiveMedia (b : Binding) (raw : List UInt8) : Binding × Result :=
  b.commit do
    b.ensureOpen
    reject (b.selectedMediaProfile ≠ some .wssOpus) "transport_mismatch"
    let frame ← WssMediaFrame.parse raw
    reject (frame.mediaId ≠ b.config.mediaId ∨ frame.mediaEpoch ≠ b.config.mediaEpoch) "stale_media_identity"
    reject (frame.generation ≠ 0) "invalid_uplink_generation"
    reject (frame.sequence ≠ b.nextUplinkSequence) "invalid_media_sequence"
    return ({ b with nextUplinkSequence := b.nextUplinkSequence + 1 },
      .audio { sequence := frame.sequence, timestamp := frame.timestamp, payload := frame.payload })

def reserve (b : Binding) (r : Ref) : Except RvaError (Binding × Nat) := do
  reject (b.nextDownlinkSequence > uint32Max) "media_sequence_exhausted"
  let responses ← b.responses.noteMedia r b.nextDownlinkSequence
  return ({ b with responses := responses, nextDownlinkSequence := b.nextDownlinkSequence + 1 },
    b.nextDownlinkSequence)

def reserveDownlinkMedia (b : Binding) (r : Ref) : Binding × Result :=
  b.commit ((b.reserve r).map fun (b', n) => (b', .sequence n))

/-- The number is reserved before the frame is validated, and stays spent. -/
def serializeAudio (b : Binding) (payload : List UInt8) (timestamp : Int) (r : Ref) : Binding × Result :=
  match (do
    b.ensureOpen
    reject (b.selectedMediaProfile ≠ some .wssOpus) "transport_mismatch"
    b.reserve r : Except RvaError (Binding × Nat)) with
  | .error e => (b, .error e)
  | .ok (b', sequence) =>
    (b', do
      let timestamp ← validateUint32 "timestamp" timestamp 0
      match b'.responses.heap[r]? with
      | none => throw (.binding "stale_generation")
      | some rec =>
        let frame ← WssMediaFrame.serialize
          { mediaId := b.config.mediaId, mediaEpoch := b.config.mediaEpoch, sequence, timestamp
            generation := rec.target.generation, payload }
        return .media frame)

def noteDownlinkMedia (b : Binding) (r : Ref) (sequence : Int) : Binding × Result :=
  b.commit do
    let sequence ← validateUint32 "sequence" sequence 0
    let responses ← b.responses.noteMedia r sequence
    return ({ b with responses := responses }, .done)

def advanceTranscript (b : Binding) (utteranceId : String) (sequence : Nat) (final : Bool) :
    Except RvaError Binding :=
  if b.lastFinalizedUtterance = some utteranceId then .error (.binding "transcript_already_final")
  else
    match (match b.activeUtteranceId with
      | none => if sequence ≠ 0 then none else some (utteranceId, 0)
      | some active => some (active, b.nextTranscriptSequence)) with
    | none => .error (.binding "invalid_sequence")
    | some (active, next) =>
      if utteranceId ≠ active ∨ sequence ≠ next then .error (.binding "invalid_sequence")
      else if final then
        .ok { b with lastFinalizedUtterance := some utteranceId, activeUtteranceId := none
                     nextTranscriptSequence := 0 }
      else .ok { b with activeUtteranceId := some active, nextTranscriptSequence := next + 1 }

def transcript (b : Binding) (utteranceId : String) (sequence : Int) (text : String) (maximumBytes : Nat)
    (final : Bool) (make : String → Nat → String → ServerEvent) : Except RvaError (Binding × ServerEvent) := do
  b.ensureOpen
  let utteranceId ← requireIdentifier (.str utteranceId) "utterance_id"
  let sequence ← validateUint32 "sequence" sequence 0
  requireText text maximumBytes final
  let b' ← b.advanceTranscript utteranceId sequence final
  return (b', make utteranceId sequence text)

def transcriptDelta (b : Binding) (utteranceId : String) (sequence : Int) (text : String) : Binding × Result :=
  b.emit (b.transcript utteranceId sequence text 4096 false .transcriptDelta) .event

def transcriptFinal (b : Binding) (utteranceId : String) (sequence : Int) (text : String) : Binding × Result :=
  b.emit (b.transcript utteranceId sequence text 16384 true .transcriptFinal) .event

def responseBegin (b : Binding) (responseId : String) (producerEpoch : Int) : Binding × Result :=
  match (do
    b.ensureOpen
    let responseId ← requireIdentifier (.str responseId) "response_id"
    b.responses.begin responseId producerEpoch : Except RvaError (Coordinator × Ref × Bool)) with
  | .error e => (b, .error e)
  | .ok (responses, r, false) => ({ b with responses := responses }, .ok (.begun r none))
  | .ok (responses, r, true) =>
    let b' := { b with responses := responses, nextResponseTextSequence := 0 }
    match responses.heap[r]? with
    | none => (b', .error .assertion)
    | some rec =>
      (b', (b'.event (.responseBegin rec.responseId rec.target.generation)).map fun e => .begun r (some e))

def responseText (b : Binding) (r : Ref) (sequence : Int) (text : String) : Binding × Result :=
  b.emit (do
    b.ensureOpen
    reject (!b.responses.accepts r) "stale_generation"
    let sequence ← validateUint32 "sequence" sequence 0
    reject (sequence ≠ b.nextResponseTextSequence) "invalid_sequence"
    requireText text 4096 false
    match b.responses.heap[r]? with
    | none => throw (.binding "stale_generation")
    | some rec =>
      return ({ b with nextResponseTextSequence := b.nextResponseTextSequence + 1 },
        .responseText rec.responseId rec.target.generation sequence text)) .event

def responseEnd (b : Binding) (r : Ref) : Binding × Result :=
  b.emit (do
    b.ensureOpen
    let responses ← b.responses.complete r
    match responses.heap[r]? with
    | none => throw (.binding "stale_generation")
    | some rec =>
      return ({ b with responses := responses },
        .responseEnd rec.responseId rec.target.generation .completed none rec.lastMediaSequence)) .event

def isValidErrorCode (value : String) : Bool :=
  decide (1 ≤ value.toList.length ∧ value.toList.length ≤ 64) &&
    value.toList.all (fun c => c.isLower || c.isDigit || c == '_')

def sessionError (b : Binding) (code : String) (retryable : Bool) (message : String) : Binding × Result :=
  b.emit (do
    b.ensureOpen
    reject (!isValidErrorCode code) "invalid_error_code"
    requireText message 512 true
    return (b, .sessionError code retryable message)) .event

def close (b : Binding) : Binding × Result := ({ b with responses := b.responses.close }, .ok .done)

/-- Forget the oldest cancel requests beyond the limit. -/
def expire : List String → Dict String (String × Nat) → List String × Dict String (String × Nat)
  | [], requests => ([], requests)
  | oldest :: order, requests =>
    if (oldest :: order).length > 64 then expire order (requests.erase oldest)
    else (oldest :: order, requests)

def rememberCancelRequest (b : Binding) (requestId : String) (identity : Key) : Binding :=
  let (order, requests) := expire (b.cancelRequestOrder ++ [requestId]) (b.cancelRequests.set requestId identity)
  { b with cancelRequests := requests, cancelRequestOrder := order }

/-- The checks of `_cancel`: the request to serve, or nothing for a repeated one. -/
def cancelRequest (b : Binding) (message : Message) : Except RvaError (Option (String × Key)) := do
  requireExactFields message ["type", "session_id", "session_epoch", "request_id", "target", "cause"]
  b.requireContext message
  let requestId ← requireIdentifier (field message "request_id") "request_id"
  reject (!(field message "cause").eqStr "user_request") "invalid_cancel_cause"
  let identity ← parseTarget (field message "target")
  match b.cancelRequests.get? requestId with
  | some previous =>
    reject (previous ≠ identity) "request_id_conflict"
    return none
  | none =>
    reject (!(b.responses.playback.bind (b.responses.heap[·]?)).any (·.key == identity)) "stale_cancel_target"
    return some (requestId, identity)

def cancel (b : Binding) (message : Message) : Binding × Result :=
  match b.cancelRequest message with
  | .error e => (b, .error e)
  | .ok none => (b, .ok (.control {}))
  | .ok (some (requestId, identity)) =>
    match b.cancelEffect StopCause.explicitUserRequest.text with
    | (b', .error e) => (b', .error e)
    | (b', .ok effect) => (b'.rememberCancelRequest requestId identity, .ok (.control effect))

def playbackStarted (b : Binding) (message : Message) : Binding × Result :=
  b.commit do
    requireExactFields message ["type", "session_id", "session_epoch", "target", "first_media_sequence"]
    b.requireContext message
    let (responseId, generation) ← parseTarget (field message "target")
    let sequence ← requireUint32 (field message "first_media_sequence") "first_media_sequence"
    let (responses, r) ← b.responses.playbackStarted responseId generation sequence
    return ({ b with responses := responses }, .control { playbackStarted := some r })

def playbackOutcome? (value : Json) : Except RvaError PlaybackOutcome :=
  -- an unhashable value cannot be looked up in the set of outcomes
  if !value.hashable then .error .typeError
  else if value.eqStr "completed" then .ok .completed
  else if value.eqStr "stopped" then .ok .stopped
  else if value.eqStr "failed" then .ok .failed
  else .error (.binding "invalid_playback_outcome")

structure EndedMessage where
  target : Key
  outcome : PlaybackOutcome
  playedSamples : Nat
  lastMediaSequence : Option Nat

def parsePlaybackEnded (b : Binding) (message : Message) : Except RvaError EndedMessage := do
  requireFields message ["type", "session_id", "session_epoch", "target", "outcome", "played_samples"]
    "last_media_sequence"
  b.requireContext message
  let target ← parseTarget (field message "target")
  let outcome ← playbackOutcome? (field message "outcome")
  let playedSamples ← requireUint53 (field message "played_samples") "played_samples"
  let lastMediaSequence ← match field message "last_media_sequence" with
    | .null => pure none
    | last => (requireUint32 last "last_media_sequence").map some
  reject (outcome = .completed ∧ lastMediaSequence.isNone) "missing_field"
  return { target, outcome, playedSamples, lastMediaSequence }

def playbackEnded (b : Binding) (message : Message) : Binding × Result :=
  match b.parsePlaybackEnded message with
  | .error e => (b, .error e)
  | .ok m =>
    let (responses, result) := b.responses.playbackEnded m.target.1 m.target.2 m.outcome m.playedSamples
      m.lastMediaSequence
    ({ b with responses := responses }, result.map fun fact => .control { playbackEnded := some fact })

def closeReason? (value : Json) : Except RvaError String :=
  if !value.hashable then .error .typeError
  else
    match value with
    | .str s =>
      if s ∈ closeReasons then .ok s
      else .error (.binding "invalid_close_reason")
    | _ => .error (.binding "invalid_close_reason")

def parseClose (b : Binding) (message : Message) : Except RvaError String := do
  requireFields message ["type", "session_id", "session_epoch", "reason", "initiated_by"] "detail"
  b.requireContext message
  reject (!(field message "initiated_by").eqStr "device") "invalid_close_initiator"
  let reason ← closeReason? (field message "reason")
  match message.lookup "detail" with
  | none => return reason
  | some (.str detail) =>
    requireText detail 256 true
    return reason
  | some _ => throw (.binding "invalid_text")

def receiveClose (b : Binding) (message : Message) : Binding × Result :=
  match b.parseClose message with
  | .error e => (b, .error e)
  | .ok reason =>
    match b.cancelEffect StopCause.sessionClose.text with
    | (b', .error e) => (b', .error e)
    | (b', .ok cancelled) =>
      (b', (b'.event (.sessionClose reason)).map fun close =>
        .control { cancelled with outbound := cancelled.outbound ++ [close], closeAfterSend := true })

def receiveControl (b : Binding) (message : Message) : Binding × Result :=
  let type := field message "type"
  if type.eqStr "session.open" then b.emit (b.open message) fun e => .control { outbound := [e] }
  else
    match b.ensureOpen with
    | .error e => (b, .error e)
    | .ok () =>
      if type.eqStr "response.cancel.request" then b.cancel message
      else if type.eqStr "playback.started" then b.playbackStarted message
      else if type.eqStr "playback.ended" then b.playbackEnded message
      else if type.eqStr "session.close" then b.receiveClose message
      else (b, .error (.binding "unknown_client_message"))

def call (b : Binding) : Call → Binding × Result
  | .receiveControl message => b.receiveControl message
  | .cancelActiveResponse cause => b.cancelActiveResponse cause
  | .receiveMedia raw => b.receiveMedia raw
  | .serializeAudio payload timestamp r => b.serializeAudio payload timestamp r
  | .reserveDownlinkMedia r => b.reserveDownlinkMedia r
  | .noteDownlinkMedia r sequence => b.noteDownlinkMedia r sequence
  | .transcriptDelta utteranceId sequence text => b.transcriptDelta utteranceId sequence text
  | .transcriptFinal utteranceId sequence text => b.transcriptFinal utteranceId sequence text
  | .responseBegin responseId producerEpoch => b.responseBegin responseId producerEpoch
  | .responseText r sequence text => b.responseText r sequence text
  | .responseEnd r => b.responseEnd r
  | .sessionError code retryable message => b.sessionError code retryable message
  | .close => b.close

abbrev Event := Call × Result

abbrev Step : Binding → Event → Binding → Prop := Answers call

end Binding

end RealtimeVoice.Rva
