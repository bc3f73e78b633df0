import RealtimeVoice.Firmware.Control
import RealtimeVoice.Firmware.PlaybackState

namespace RealtimeVoice.Firmware.Control

open RealtimeVoice.Base
open RealtimeVoice.Firmware.PlaybackState (PlaybackEndedOutcome)

structure DeviceCapabilities where
  aec : Bool := false
  vad : Bool := false
  wakeWord : Bool := false
  display : Bool := false
  touch : Bool := false
deriving DecidableEq

structure SessionOpen where
  requestId : String
  deviceId : String
  supportedMediaProfiles : List String
  preferredMediaProfile : String
  capabilities : DeviceCapabilities := {}
deriving DecidableEq

structure ResponseCancelRequest where
  session : SessionIdentity
  requestId : String
  target : ResponseTarget
deriving DecidableEq

structure PlaybackStarted where
  session : SessionIdentity
  target : ResponseTarget
  firstMediaSequence : Nat := 0
deriving DecidableEq

structure PlaybackEnded where
  session : SessionIdentity
  target : ResponseTarget
  outcome : PlaybackEndedOutcome := .completed
  playedSamples : Nat := 0
  lastMediaSequence : Option Nat := none
deriving DecidableEq

/-- The children of a `cJSON` object. A step that fails gives none. -/
abbrev Root := Option (List (String × Json))

def addString (field value : String) : String × Json := (field, .str (cString value))

def addNumber (field : String) (value : Nat) : String × Json := (field, .int value)

def addSession (session : SessionIdentity) : Root :=
  if isIdentifier session.sessionId && isIdentifier session.sessionEpoch then
    some [addString "session_id" session.sessionId, addString "session_epoch" session.sessionEpoch]
  else none

def addTarget (target : ResponseTarget) : Root :=
  if isIdentifier target.responseId && target.generation != 0 then
    some [("target", .obj [addString "response_id" target.responseId, addNumber "generation" target.generation])]
  else none

def audio : String × Json :=
  ("audio", .obj [addString "codec" "opus", addNumber "sample_rate_hz" 16000, addNumber "channels" 1,
    addNumber "frame_duration_ms" 60])

def DeviceCapabilities.json (c : DeviceCapabilities) : Json :=
  .obj [("aec", .bool c.aec), ("vad", .bool c.vad), ("wake_word", .bool c.wakeWord), ("display", .bool c.display),
    ("touch", .bool c.touch)]

def SessionOpen.root (m : SessionOpen) : Root :=
  if isIdentifier m.requestId && isIdentifier m.deviceId &&
      decide (1 ≤ m.supportedMediaProfiles.length ∧ m.supportedMediaProfiles.length ≤ 2) &&
      m.supportedMediaProfiles.contains m.preferredMediaProfile &&
      (m.supportedMediaProfiles.all ([wssProfile, udpProfile].contains ·) && decide m.supportedMediaProfiles.Nodup) then
    some [addString "type" "session.open", addNumber "protocol_version" 1, addString "request_id" m.requestId,
      addString "device_id" m.deviceId,
      ("supported_media_profiles", .arr (m.supportedMediaProfiles.map fun profile => .str (cString profile))),
      addString "preferred_media_profile" m.preferredMediaProfile, audio, ("capabilities", m.capabilities.json)]
  else none

def ResponseCancelRequest.root (m : ResponseCancelRequest) : Root := do
  guard (isIdentifier m.requestId)
  let session ← addSession m.session
  let target ← addTarget m.target
  return [addString "type" "response.cancel.request"] ++ session ++ [addString "request_id" m.requestId] ++ target ++
    [addString "cause" "user_request"]

def PlaybackStarted.root (m : PlaybackStarted) : Root := do
  let session ← addSession m.session
  let target ← addTarget m.target
  return [addString "type" "playback.started"] ++ session ++ target ++
    [addNumber "first_media_sequence" m.firstMediaSequence]

def outcomeText : PlaybackEndedOutcome → String
  | .completed => "completed"
  | .stopped => "stopped"
  | .failed => "failed"

def PlaybackEnded.root (m : PlaybackEnded) : Root := do
  let completed := m.outcome == .completed
  guard (m.playedSamples ≤ maxExactJsonInteger)
  guard (!completed || m.lastMediaSequence.isSome)
  guard (completed || m.playedSamples != 0 || m.lastMediaSequence.isNone)
  let session ← addSession m.session
  let target ← addTarget m.target
  return [addString "type" "playback.ended"] ++ session ++ target ++
    [addString "outcome" (outcomeText m.outcome), addNumber "played_samples" m.playedSamples] ++
    (m.lastMediaSequence.map (addNumber "last_media_sequence")).toList

def closeReasons : List String := ["normal", "idle_timeout", "network_change", "protocol_error", "server_shutdown"]

def SessionClose.root (m : SessionClose) : Root := do
  guard (m.reason ∈ closeReasons)
  guard (m.initiatedBy ∈ ["device", "server"])
  guard (size m.detail ≤ 256)
  let session ← addSession m.session
  return [addString "type" "session.close"] ++ session ++
    [addString "reason" m.reason, addString "initiated_by" m.initiatedBy] ++
    (if m.detail = "" then [] else [addString "detail" m.detail])

section Encode

variable (printUnformatted : Json → Option (List Char))

/-- `Print`, with what `cJSON_PrintUnformatted` gives. -/
def print (root : Root) : Except ControlError (List Char) :=
  match root.bind fun fields => printUnformatted (.obj fields) with
  | none => .error .missingOrInvalidField
  | some printed => if utf8Length printed > maxControlBytes then .error .oversize else .ok printed

def encodeSessionOpen (m : SessionOpen) : Except ControlError (List Char) := print printUnformatted m.root

def encodeResponseCancelRequest (m : ResponseCancelRequest) : Except ControlError (List Char) :=
  print printUnformatted m.root

def encodePlaybackStarted (m : PlaybackStarted) : Except ControlError (List Char) := print printUnformatted m.root

def encodePlaybackEnded (m : PlaybackEnded) : Except ControlError (List Char) := print printUnformatted m.root

def encodeSessionClose (m : SessionClose) : Except ControlError (List Char) := print printUnformatted m.root

end Encode

inductive ClientMessage
  | sessionOpen (m : SessionOpen)
  | responseCancelRequest (m : ResponseCancelRequest)
  | playbackStarted (m : PlaybackStarted)
  | playbackEnded (m : PlaybackEnded)
  | sessionClose (m : SessionClose)
deriving DecidableEq

def ClientMessage.root : ClientMessage → Root
  | .sessionOpen m => m.root
  | .responseCancelRequest m => m.root
  | .playbackStarted m => m.root
  | .playbackEnded m => m.root
  | .sessionClose m => m.root

/-- The function of its kind. -/
def ClientMessage.encode (printUnformatted : Json → Option (List Char)) : ClientMessage → Except ControlError (List Char)
  | .sessionOpen m => encodeSessionOpen printUnformatted m
  | .responseCancelRequest m => encodeResponseCancelRequest printUnformatted m
  | .playbackStarted m => encodePlaybackStarted printUnformatted m
  | .playbackEnded m => encodePlaybackEnded printUnformatted m
  | .sessionClose m => encodeSessionClose printUnformatted m

end RealtimeVoice.Firmware.Control
