import RealtimeVoice.Base.Runs
import RealtimeVoice.Firmware.Control
import RealtimeVoice.Firmware.MediaHeader

namespace RealtimeVoice.Firmware

open RealtimeVoice.Base RealtimeVoice.Base.Runs RealtimeVoice.Udp
open RealtimeVoice.Firmware.Control hiding fields valid

inductive WssSession.AdmissionResult
  | accepted
  | sessionNotOpen
  | staleSession
  | staleGeneration
  | invalidSequence
  | cancelTargetMismatch
  | responseAlreadyActive
  | responseAlreadyTerminal
  | playbackStopConflict
  | staleMediaIdentity
  | invalidMedia
  | sessionClosed
  | unexpectedMessage
deriving DecidableEq

inductive PlaybackStopCause
  | none | explicitUserRequest | recognizedInterrupt | sessionClose | responseFailed
deriving DecidableEq

structure WssSession where
  openRequestId : String
  session : SessionIdentity := {}
  mediaId : Bytes := List.replicate 8 0
  mediaEpoch : Nat := 0
  playbackFence : Nat := 0
  nextMediaSequence : Nat := 0
  nextTranscriptSequence : Nat := 0
  nextResponseTextSequence : Nat := 0
  utteranceId : String := ""
  responseId : String := ""
  responseGeneration : Nat := 0
  lastStopFenceGeneration : Nat := 0
  lastStopCause : PlaybackStopCause := .none
  opened : Bool := false
  closed : Bool := false
  utteranceActive : Bool := false
  responseActive : Bool := false
  mediaActive : Bool := false
  stopRecorded : Bool := false
deriving DecidableEq

namespace WssSession

/-- `++` of a `uint32_t`. -/
def increment (n : Nat) : Nat := (n + 1) % 2 ^ 32

theorem increment_mod (n : Nat) : increment (n % 2 ^ 32) = (n + 1) % 2 ^ 32 := by
  rw [increment, Nat.mod_add_mod]

def parsePlaybackStopCause (cause : String) : PlaybackStopCause :=
  if cause = "explicit_user_request" then .explicitUserRequest
  else if cause = "recognized_interrupt" then .recognizedInterrupt
  else if cause = "session_close" then .sessionClose
  else if cause = "response_failed" then .responseFailed
  else .none

def sessionMatches (s : WssSession) (session : SessionIdentity) : Bool :=
  s.opened && session.sessionId == s.session.sessionId && session.sessionEpoch == s.session.sessionEpoch

def acceptOpened (s : WssSession) (opened : SessionOpened) : WssSession × AdmissionResult :=
  if s.opened then (s, .unexpectedMessage)
  else if opened.requestId ≠ s.openRequestId then (s, .staleSession)
  else
    ({ s with session := opened.session, mediaId := opened.mediaId, mediaEpoch := opened.mediaEpoch, opened := true },
      .accepted)

def acceptTranscript (s : WssSession) (transcript : Transcript) : WssSession × AdmissionResult :=
  if !s.opened then (s, .sessionNotOpen)
  else if !s.sessionMatches transcript.session then (s, .staleSession)
  else if !s.utteranceActive && transcript.sequence != 0 then (s, .invalidSequence)
  else
    let s :=
      if s.utteranceActive then s
      else { s with utteranceId := transcript.utteranceId, nextTranscriptSequence := 0, utteranceActive := true }
    if transcript.utteranceId ≠ s.utteranceId ∨ transcript.sequence ≠ s.nextTranscriptSequence then
      (s, .invalidSequence)
    else
      let s := { s with nextTranscriptSequence := increment s.nextTranscriptSequence }
      (if transcript.final then { s with utteranceActive := false, utteranceId := "" } else s, .accepted)

def acceptResponse (s : WssSession) (response : ResponseEvent) : WssSession × AdmissionResult :=
  if !s.opened then (s, .sessionNotOpen)
  else if !s.sessionMatches response.session then (s, .staleSession)
  else if response.type = .responseBegin then
    if s.responseActive then (s, .responseAlreadyActive)
    else if response.generation ≤ s.playbackFence then (s, .staleGeneration)
    else
      ({ s with
          playbackFence := response.generation
          responseGeneration := response.generation
          responseId := response.responseId
          nextResponseTextSequence := 0
          responseActive := true
          mediaActive := true
          stopRecorded := false
          lastStopFenceGeneration := 0
          lastStopCause := .none }, .accepted)
  else if !s.responseActive then (s, .responseAlreadyTerminal)
  else if response.responseId ≠ s.responseId ∨ response.generation ≠ s.responseGeneration then
    (s, if response.generation < s.playbackFence then .staleGeneration else .cancelTargetMismatch)
  else if response.type = .responseText then
    if response.sequence ≠ s.nextResponseTextSequence then (s, .invalidSequence)
    else ({ s with nextResponseTextSequence := increment s.nextResponseTextSequence }, .accepted)
  else ({ s with responseActive := false, mediaActive := false }, .accepted)

def acceptPlaybackStop (s : WssSession) (stop : PlaybackStop) : WssSession × AdmissionResult :=
  if !s.opened then (s, .sessionNotOpen)
  else if !s.sessionMatches stop.session then (s, .staleSession)
  else if stop.target.responseId ≠ s.responseId ∨ stop.target.generation ≠ s.responseGeneration then
    (s, if stop.target.generation < s.playbackFence then .staleGeneration else .cancelTargetMismatch)
  else
    let cause := parsePlaybackStopCause stop.cause
    if cause = .none then (s, .unexpectedMessage)
    else if s.stopRecorded then
      (s, if stop.fenceGeneration = s.lastStopFenceGeneration ∧ cause = s.lastStopCause then .accepted
        else .playbackStopConflict)
    else if stop.fenceGeneration ≤ s.playbackFence then (s, .staleGeneration)
    else
      ({ s with
          playbackFence := stop.fenceGeneration
          lastStopFenceGeneration := stop.fenceGeneration
          lastStopCause := cause
          stopRecorded := true
          mediaActive := false }, .accepted)

def acceptError (s : WssSession) (error : SessionError) : WssSession × AdmissionResult :=
  if !s.opened then (s, .sessionNotOpen)
  else if !s.sessionMatches error.session then (s, .staleSession)
  else (s, .accepted)

def acceptClose (s : WssSession) (close : SessionClose) : WssSession × AdmissionResult :=
  if !s.opened then (s, .sessionNotOpen)
  else if !s.sessionMatches close.session then (s, .staleSession)
  else
    ({ s with closed := true, responseActive := false, mediaActive := false, utteranceActive := false }, .accepted)

def accept (s : WssSession) (message : ServerMessage) : WssSession × AdmissionResult :=
  if s.closed then (s, .sessionClosed)
  else
    match message with
    | .sessionOpened opened => s.acceptOpened opened
    | .transcript transcript => s.acceptTranscript transcript
    | .response response => s.acceptResponse response
    | .playbackStop stop => s.acceptPlaybackStop stop
    | .sessionError error => s.acceptError error
    | .sessionClose close => s.acceptClose close

/-- `AcceptMedia`, with the header that it gives to its caller. -/
def acceptMedia (s : WssSession) (frame : Bytes) : WssSession × AdmissionResult × Option MediaHeader :=
  if s.closed then (s, .sessionClosed, none)
  else if !s.opened then (s, .sessionNotOpen, none)
  else
    match MediaHeader.parse frame .downlink with
    | .error _ => (s, .invalidMedia, none)
    | .ok parsed =>
      if parsed.flags ≠ 0x01 then (s, .invalidMedia, none)
      else if parsed.mediaId ≠ s.mediaId ∨ parsed.mediaEpoch.toNat ≠ s.mediaEpoch then
        (s, .staleMediaIdentity, none)
      else if parsed.generation.toNat < s.playbackFence ∨ s.mediaActive = false ∨
          parsed.generation.toNat ≠ s.responseGeneration then
        (s, .staleGeneration, none)
      else if parsed.sequence.toNat ≠ s.nextMediaSequence then (s, .invalidSequence, none)
      else ({ s with nextMediaSequence := increment s.nextMediaSequence }, .accepted, some parsed)

inductive Input
  | control (message : ServerMessage)
  | media (frame : Bytes)

abbrev Reply := AdmissionResult × Option MediaHeader

def call (s : WssSession) : Input → WssSession × Reply
  | .control message => ((s.accept message).1, (s.accept message).2, none)
  | .media frame => s.acceptMedia frame

abbrev Event := Input × Reply

abbrev Step : WssSession → Event → WssSession → Prop := Answers call

end WssSession

end RealtimeVoice.Firmware
