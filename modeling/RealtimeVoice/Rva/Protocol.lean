import RealtimeVoice.Base.Json
import RealtimeVoice.Contracts.Models

namespace RealtimeVoice.Rva

open RealtimeVoice.Base RealtimeVoice.Contracts

/-- What an operation of the binding can raise. `binding code` is
`RvaBindingError(code)`; an oversized message has the code `message_too_large`. -/
inductive RvaError
  | binding (code : String)
  | sessionClosed
  | playbackAlreadyActive
  | assertion
  | typeError
deriving DecidableEq

/-- Raise the binding error `code` when the condition holds. -/
def reject (p : Prop) [Decidable p] (code : String) : Except RvaError Unit :=
  if p then .error (.binding code) else .ok ()

def controlVersion : Int := 1
def controlMaxBytes : Nat := 32768
def mediaMaxPayloadBytes : Nat := 1200
def mediaHeaderBytes : Nat := 32
def uint32Max : Nat := 0xFFFFFFFF
def uint53Max : Nat := 9007199254740991

def identifierMatches (s : String) : Bool :=
  decide (1 ≤ s.toList.length ∧ s.toList.length ≤ 128) && s.toList.all identifierChar

def requireIdentifier (value : Json) (field : String) : Except RvaError String :=
  match value with
  | .str s => if identifierMatches s then .ok s else .error (.binding ("invalid_" ++ field))
  | _ => .error (.binding ("invalid_" ++ field))

def validateUint32 (field : String) (value : Int) (minimum : Int) : Except RvaError Nat :=
  if minimum ≤ value ∧ value ≤ uint32Max then .ok value.toNat
  else .error (.binding ("invalid_" ++ field))

def requireUint32 (value : Json) (field : String) (minimum : Int := 0) : Except RvaError Nat :=
  match value with
  | .int n => validateUint32 field n minimum
  | _ => .error (.binding ("invalid_" ++ field))

abbrev Message := List (String × Json)

def keys (message : Message) : List String := message.map Prod.fst

def sameFields (message : Message) (fields : List String) : Bool :=
  (keys message).all (· ∈ fields) && fields.all (· ∈ keys message)

def requireExactFields (message : Message) (fields : List String) : Except RvaError Unit :=
  if sameFields message fields then .ok ()
  else if fields.all (· ∈ keys message) then .error (.binding "unknown_field")
  else .error (.binding "missing_field")

/-- Fields of which the last is optional. -/
def requireFields (message : Message) (required : List String) (optional : String) : Except RvaError Unit :=
  if sameFields message required || sameFields message (required ++ [optional]) then .ok ()
  else if required.all (· ∈ keys message) then .error (.binding "unknown_field")
  else .error (.binding "missing_field")

def field (message : Message) (key : String) : Json := (message.lookup key).getD .null

inductive ResponseOutcome
  | completed | cancelled | failed
deriving DecidableEq, Repr

def ResponseOutcome.text : ResponseOutcome → String
  | .completed => "completed"
  | .cancelled => "cancelled"
  | .failed => "failed"

inductive StopCause
  | explicitUserRequest | recognizedInterrupt | sessionClose | responseFailed
deriving DecidableEq, Repr

def StopCause.text : StopCause → String
  | .explicitUserRequest => "explicit_user_request"
  | .recognizedInterrupt => "recognized_interrupt"
  | .sessionClose => "session_close"
  | .responseFailed => "response_failed"

def profileText : TransportProfile → String
  | .wssOpus => "wss-opus/1"
  | .udpOpusGcm => "udp-opus-gcm/1"

/-- The events the binding emits, with the values of their fields. -/
inductive ServerEvent
  | sessionOpened (requestId mediaId : String) (mediaEpoch : Nat) (profile : TransportProfile)
      (udpGrant : Option Message)
  | transcriptDelta (utteranceId : String) (sequence : Nat) (text : String)
  | transcriptFinal (utteranceId : String) (sequence : Nat) (text : String)
  | responseBegin (responseId : String) (generation : Nat)
  | responseText (responseId : String) (generation sequence : Nat) (text : String)
  | responseEnd (responseId : String) (generation : Nat) (outcome : ResponseOutcome)
      (errorCode : Option String) (finalMediaSequence : Option Nat)
  | playbackStop (responseId : String) (generation fenceGeneration : Nat) (cause : StopCause)
  | sessionError (code : String) (retryable : Bool) (message : String)
  | sessionClose (reason : String)

def nat (n : Nat) : Json := .int n

/-- The dictionary handed to `encode_control`, in the order the code writes it. -/
def ServerEvent.message (sessionId sessionEpoch : String) (e : ServerEvent) : Message :=
  let context (type : String) (fields : Message) : Message :=
    [("type", .str type), ("session_id", .str sessionId), ("session_epoch", .str sessionEpoch)] ++ fields
  match e with
  | .sessionOpened requestId mediaId mediaEpoch profile udpGrant =>
    [("type", .str "session.opened"), ("request_id", .str requestId), ("session_id", .str sessionId),
      ("session_epoch", .str sessionEpoch), ("media_id", .str mediaId), ("media_epoch", nat mediaEpoch),
      ("selected_media_profile", .str (profileText profile)),
      ("audio", .obj [("codec", .str "opus"), ("sample_rate_hz", .int 16000), ("channels", .int 1),
        ("frame_duration_ms", .int 60)]),
      ("heartbeat_interval_ms", .int 15000), ("idle_timeout_ms", .int 45000),
      ("max_control_message_bytes", nat controlMaxBytes)] ++
    (match udpGrant with
      | some grant => [("udp_grant", .obj grant)]
      | none => [])
  | .transcriptDelta utteranceId sequence text =>
    context "transcript.delta"
      [("utterance_id", .str utteranceId), ("sequence", nat sequence), ("text", .str text)]
  | .transcriptFinal utteranceId sequence text =>
    context "transcript.final"
      [("utterance_id", .str utteranceId), ("sequence", nat sequence), ("text", .str text)]
  | .responseBegin responseId generation =>
    context "response.begin" [("response_id", .str responseId), ("generation", nat generation)]
  | .responseText responseId generation sequence text =>
    context "response.text"
      [("response_id", .str responseId), ("generation", nat generation), ("sequence", nat sequence),
        ("text", .str text)]
  | .responseEnd responseId generation outcome errorCode finalMediaSequence =>
    context "response.end"
      ([("response_id", .str responseId), ("generation", nat generation), ("outcome", .str outcome.text)] ++
        (errorCode.toList.map fun code => ("error_code", .str code)) ++
        (finalMediaSequence.toList.map fun n => ("final_media_sequence", nat n)))
  | .playbackStop responseId generation fenceGeneration cause =>
    context "playback.stop"
      [("target", .obj [("response_id", .str responseId), ("generation", nat generation)]),
        ("fence_generation", nat fenceGeneration), ("cause", .str cause.text)]
  | .sessionError code retryable message =>
    context "session.error"
      [("code", .str code), ("retryable", .bool retryable), ("message", .str message)]
  | .sessionClose reason =>
    context "session.close" [("reason", .str reason), ("initiated_by", .str "server")]

def encodeControl (message : Message) : Except RvaError (List Char) :=
  let encoded := (Json.obj message).dumps
  if utf8Length encoded > controlMaxBytes then .error (.binding "message_too_large") else .ok encoded

/-- The media frame of the `wss-opus/1` profile. -/
structure WssMediaFrame where
  mediaId : List UInt8
  mediaEpoch : Nat
  sequence : Nat
  timestamp : Nat
  generation : Nat
  payload : List UInt8
deriving DecidableEq

def bigEndian32 (n : Nat) : List UInt8 :=
  [UInt8.ofNat (n / 2 ^ 24), UInt8.ofNat (n / 2 ^ 16), UInt8.ofNat (n / 2 ^ 8), UInt8.ofNat n]

def readBigEndian32 (bytes : List UInt8) : Nat := bytes.foldl (fun n b => n * 256 + b.toNat) 0

/-- `WssMediaFrame.serialize`, with the audio flag the binding always passes. -/
def WssMediaFrame.serialize (f : WssMediaFrame) : Except RvaError (List UInt8) := do
  let mediaEpoch ← validateUint32 "media_epoch" f.mediaEpoch 1
  let sequence ← validateUint32 "sequence" f.sequence 0
  let timestamp ← validateUint32 "timestamp" f.timestamp 0
  let generation ← validateUint32 "generation" f.generation 0
  reject (f.mediaId.length ≠ 8) "invalid_media_id"
  reject (f.payload = [] ∨ f.payload.length > mediaMaxPayloadBytes) "invalid_media_payload"
  return [86, 65, 1, 1] ++ f.mediaId ++ bigEndian32 mediaEpoch ++ bigEndian32 sequence ++
    bigEndian32 timestamp ++ bigEndian32 generation ++ bigEndian32 f.payload.length ++ f.payload

def WssMediaFrame.parse (frame : List UInt8) : Except RvaError WssMediaFrame := do
  reject (frame.length > mediaHeaderBytes + mediaMaxPayloadBytes) "media_frame_too_large"
  reject (frame.length < mediaHeaderBytes) "truncated_media_header"
  let word (i : Nat) : Nat := readBigEndian32 ((frame.drop i).take 4)
  reject (frame.take 3 ≠ [86, 65, 1]) "unsupported_media_header"
  reject ((frame.drop 3).take 1 ≠ [1]) "invalid_media_flags"
  let payload := frame.drop mediaHeaderBytes
  reject (word 28 ≠ payload.length) "media_length_mismatch"
  reject (word 12 = 0) "invalid_media_epoch"
  reject (payload = [] ∨ word 28 > mediaMaxPayloadBytes) "invalid_media_payload"
  return { mediaId := (frame.drop 4).take 8, mediaEpoch := word 12, sequence := word 16
           timestamp := word 20, generation := word 24, payload := payload }

structure SessionOpen where
  requestId : String
  deviceId : String
  supportedMediaProfiles : List TransportProfile
  preferredMediaProfile : TransportProfile
  capabilities : List (String × Bool)

def profile? : Json → Option TransportProfile
  | .str s =>
    if s = profileText .wssOpus then some .wssOpus
    else if s = profileText .udpOpusGcm then some .udpOpusGcm
    else none
  | _ => none

def validateAudio (value : Json) : Except RvaError Unit :=
  match value with
  | .obj fields =>
    if sameFields fields ["codec", "sample_rate_hz", "channels", "frame_duration_ms"] &&
        (field fields "codec").eqStr "opus" && (field fields "sample_rate_hz").eqInt 16000 &&
        (field fields "channels").eqInt 1 && (field fields "frame_duration_ms").eqInt 60 then .ok ()
    else .error (.binding "unsupported_audio_profile")
  | _ => .error (.binding "unsupported_audio_profile")

def bool? : Json → Option Bool
  | .bool b => some b
  | _ => none

def validateCapabilities (value : Json) : Except RvaError (List (String × Bool)) :=
  match value with
  | .obj fields =>
    if fields.all (fun f => f.1 ∈ ["aec", "vad", "wake_word", "display", "touch"] && (bool? f.2).isSome) then
      .ok (fields.filterMap fun f => (bool? f.2).map (f.1, ·))
    else .error (.binding "invalid_capabilities")
  | _ => .error (.binding "invalid_capabilities")

def parseProfiles (value : Json) : Except RvaError (List TransportProfile) :=
  match value with
  | .arr items =>
    if 1 ≤ items.length ∧ items.length ≤ 2 then
      let profiles := items.filterMap profile?
      if profiles.length ≠ items.length then .error (.binding "unsupported_media_profile")
      else if profiles.Nodup then .ok profiles
      else .error (.binding "duplicate_media_profile")
    else .error (.binding "invalid_media_profiles")
  | _ => .error (.binding "invalid_media_profiles")

def parseSessionOpenObject (message : Message) : Except RvaError SessionOpen := do
  requireExactFields message
    ["type", "protocol_version", "request_id", "device_id", "supported_media_profiles",
      "preferred_media_profile", "audio", "capabilities"]
  reject (!(field message "type").eqStr "session.open") "expected_session_open"
  match field message "protocol_version" with
  | .int n => reject (n ≠ controlVersion) "unsupported_version"
  | _ => throw (.binding "unsupported_version")
  let requestId ← requireIdentifier (field message "request_id") "request_id"
  let deviceId ← requireIdentifier (field message "device_id") "device_id"
  let profiles ← parseProfiles (field message "supported_media_profiles")
  match profile? (field message "preferred_media_profile") with
  | none => throw (.binding "unsupported_preference")
  | some preferred =>
    reject (preferred ∉ profiles) "unsupported_preference"
    validateAudio (field message "audio")
    let capabilities ← validateCapabilities (field message "capabilities")
    return { requestId, deviceId, supportedMediaProfiles := profiles, preferredMediaProfile := preferred, capabilities }

end RealtimeVoice.Rva
