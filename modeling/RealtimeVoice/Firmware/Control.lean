import RealtimeVoice.Base.Json

namespace RealtimeVoice.Firmware.Control

open RealtimeVoice.Base

def maxControlBytes : Nat := 32768
def maxIdBytes : Nat := 128
def uint32Max : Nat := 2 ^ 32 - 1
def maxExactJsonInteger : Nat := 9007199254740991

inductive ControlError
  | oversize
  | malformedJson
  | unknownMessage
  | unknownOrDuplicateField
  | missingOrInvalidField
  | unsupportedProfile
deriving DecidableEq

inductive ResponseOutcome
  | completed | cancelled | failed
deriving DecidableEq

structure SessionIdentity where
  sessionId : String := ""
  sessionEpoch : String := ""
deriving DecidableEq

structure UdpGrant where
  host : String
  port : Nat
  expiresAtMs : Nat
  refreshAfterMs : Nat
  uplinkKey : List UInt8
  uplinkSalt : List UInt8
  downlinkKey : List UInt8
  downlinkSalt : List UInt8
  probeTimeoutMs : Nat
deriving DecidableEq

structure SessionOpened where
  requestId : String
  session : SessionIdentity
  mediaId : List UInt8
  mediaEpoch : Nat
  selectedMediaProfile : String
  udpGrant : Option UdpGrant
  heartbeatIntervalMs : Nat
  idleTimeoutMs : Nat
deriving DecidableEq

structure Transcript where
  final : Bool
  session : SessionIdentity
  utteranceId : String
  sequence : Nat
  text : String
deriving DecidableEq

/-- The three message types of a `ResponseEvent`. -/
inductive ResponseEventType
  | responseBegin | responseText | responseEnd
deriving DecidableEq

structure ResponseEvent where
  type : ResponseEventType
  session : SessionIdentity
  responseId : String
  generation : Nat
  sequence : Nat := 0
  text : String := ""
  outcome : ResponseOutcome := .completed
  finalMediaSequence : Option Nat := none
  errorCode : String := ""
deriving DecidableEq

structure ResponseTarget where
  responseId : String
  generation : Nat
deriving DecidableEq

structure PlaybackStop where
  session : SessionIdentity
  target : ResponseTarget
  fenceGeneration : Nat
  cause : String
deriving DecidableEq

structure SessionError where
  session : SessionIdentity
  code : String
  retryable : Bool
  message : String
deriving DecidableEq

structure SessionClose where
  session : SessionIdentity
  reason : String
  initiatedBy : String
  detail : String := ""
deriving DecidableEq

inductive ServerMessage
  | sessionOpened (opened : SessionOpened)
  | transcript (transcript : Transcript)
  | response (event : ResponseEvent)
  | playbackStop (stop : PlaybackStop)
  | sessionError (error : SessionError)
  | sessionClose (close : SessionClose)
deriving DecidableEq

/-- `std::string::size`. -/
def size (s : String) : Nat := utf8Length s.toList

def isIdentifier (value : String) : Bool :=
  decide (value ≠ "" ∧ size value ≤ maxIdBytes) &&
    value.toList.all (fun c => c.isAlphanum || c == '.' || c == '_' || c == ':' || c == '-')

/-- `cJSON_GetObjectItemCaseSensitive`. -/
def item (object : Json) (field : String) : Option Json :=
  match object with
  | .obj fields => fields.lookup field
  | _ => none

def hasExactFields (object : Json) (required : List String) (optional : List String := []) : Bool :=
  match object with
  | .obj fields =>
    required.all (fun field => (fields.lookup field).isSome) &&
      (fields.all (fun f => decide (f.1 ∈ required) || decide (f.1 ∈ optional)) &&
        decide (fields.map Prod.fst).Nodup)
  | _ => false

/-- A C string ends at its first NUL. -/
def cString (s : String) : String := String.ofList (s.toList.takeWhile (· ≠ Char.ofNat 0))

def getString (object : Json) (field : String) (maximumBytes : Nat) (allowEmpty : Bool) : Option String :=
  match item object field with
  | some (.str s) =>
    if (!allowEmpty && size (cString s) == 0) || decide (size (cString s) > maximumBytes) then none
    else some (cString s)
  | _ => none

def getId (object : Json) (field : String) : Option String :=
  match getString object field maxIdBytes false with
  | some s => if isIdentifier s then some s else none
  | none => none

/-- The reader gives an integral number as `.int`; every other number is rejected. -/
def getInteger (object : Json) (field : String) (minimum maximum : Nat) : Option Nat :=
  match item object field with
  | some (.int n) => if (minimum : Int) ≤ n ∧ n ≤ maximum then some n.toNat else none
  | _ => none

def getU32 (object : Json) (field : String) (allowZero : Bool) : Option Nat :=
  getInteger object field (if allowZero then 0 else 1) uint32Max

def getU64 (object : Json) (field : String) : Option Nat := getInteger object field 1 maxExactJsonInteger

def getSession (object : Json) : Option SessionIdentity := do
  let sessionId ← getId object "session_id"
  let sessionEpoch ← getId object "session_epoch"
  return { sessionId, sessionEpoch }

def isErrorCode (value : String) : Bool :=
  decide (value ≠ "" ∧ size value ≤ 64) && value.toList.all (fun c => c.isLower || c.isDigit || c == '_')

def getTarget (object : Json) : Option ResponseTarget :=
  if hasExactFields object ["response_id", "generation"] then do
    let responseId ← getId object "response_id"
    let generation ← getU32 object "generation" false
    return { responseId, generation }
  else none

def nibble (c : Char) : Option Nat :=
  if c.isDigit then some (c.toNat - 48)
  else if 97 ≤ c.toNat ∧ c.toNat ≤ 102 then some (c.toNat - 87)
  else none

def readNibbles : List Char → Option (List UInt8)
  | high :: low :: rest => do
    let high ← nibble high
    let low ← nibble low
    let bytes ← readNibbles rest
    return UInt8.ofNat (16 * high + low) :: bytes
  | [] => some []
  | _ => none

def parseMediaId (hex : String) : Option (List UInt8) :=
  if size hex = 16 then readNibbles hex.toList else none

def base64Value (c : Char) : Option Nat :=
  if c.isUpper then some (c.toNat - 65)
  else if c.isLower then some (c.toNat - 71)
  else if c.isDigit then some (c.toNat + 4)
  else if c = '+' then some 62
  else if c = '/' then some 63
  else none

/-- The loop of `DecodeFixedBase64`, one group of four characters at a time. -/
def decodeGroups (bytes : Nat) : List Char → List UInt8 → Option (List UInt8)
  | a :: b :: c :: d :: rest, output =>
    let last := rest.isEmpty
    let thirdPadding := c == '='
    let fourthPadding := d == '='
    match base64Value a, base64Value b, (if thirdPadding then some 0 else base64Value c),
      (if fourthPadding then some 0 else base64Value d) with
    | some first, some second, some third, some fourth =>
      let remaining := bytes - output.length
      if (!last && (thirdPadding || fourthPadding)) || (thirdPadding && !fourthPadding) then none
      else if thirdPadding then
        if !last || remaining != 1 || second % 16 != 0 then none
        else decodeGroups bytes rest (output ++ [UInt8.ofNat (4 * first + second / 16)])
      else if fourthPadding then
        if !last || remaining != 2 || third % 4 != 0 then none
        else decodeGroups bytes rest
          (output ++ [UInt8.ofNat (4 * first + second / 16), UInt8.ofNat (16 * second + third / 4)])
      else if remaining < 3 then none
      else decodeGroups bytes rest
        (output ++ [UInt8.ofNat (4 * first + second / 16), UInt8.ofNat (16 * second + third / 4),
          UInt8.ofNat (64 * third + fourth)])
    | _, _, _, _ => none
  | _, output => if output.length = bytes then some output else none

def decodeFixedBase64 (bytes : Nat) (encoded : String) : Option (List UInt8) :=
  if size encoded = (bytes + 2) / 3 * 4 then decodeGroups bytes encoded.toList [] else none

def parseUdpGrant (object : Json) : Option UdpGrant :=
  if hasExactFields object
      ["host", "port", "expires_at_ms", "refresh_after_ms", "uplink_key_b64", "uplink_salt_b64",
        "downlink_key_b64", "downlink_salt_b64", "probe_timeout_ms"] then do
    let host ← getString object "host" 253 false
    let port ← getU32 object "port" false
    guard (port ≤ 65535)
    let expiresAtMs ← getU64 object "expires_at_ms"
    let refreshAfterMs ← getU32 object "refresh_after_ms" false
    guard (1000 ≤ refreshAfterMs ∧ refreshAfterMs ≤ 3600000)
    let uplinkKey ← (getString object "uplink_key_b64" 24 false).bind (decodeFixedBase64 16)
    let uplinkSalt ← (getString object "uplink_salt_b64" 12 false).bind (decodeFixedBase64 8)
    let downlinkKey ← (getString object "downlink_key_b64" 24 false).bind (decodeFixedBase64 16)
    let downlinkSalt ← (getString object "downlink_salt_b64" 12 false).bind (decodeFixedBase64 8)
    let probeTimeoutMs ← getU32 object "probe_timeout_ms" false
    guard (100 ≤ probeTimeoutMs ∧ probeTimeoutMs ≤ 10000)
    return { host, port, expiresAtMs, refreshAfterMs, uplinkKey, uplinkSalt, downlinkKey, downlinkSalt
             probeTimeoutMs }
  else none

def isAudioProfile (audio : Json) : Bool :=
  hasExactFields audio ["codec", "sample_rate_hz", "channels", "frame_duration_ms"] &&
    getString audio "codec" 8 false == some "opus" && getU32 audio "sample_rate_hz" false == some 16000 &&
    getU32 audio "channels" false == some 1 && getU32 audio "frame_duration_ms" false == some 60

abbrev Parsed := Except ControlError ServerMessage

def valid {α : Type} (x : Option α) : Except ControlError α :=
  match x with
  | some a => .ok a
  | none => .error .missingOrInvalidField

def fields (p : Bool) : Except ControlError Unit := if p then .ok () else .error .unknownOrDuplicateField

def wssProfile : String := "wss-opus/1"
def udpProfile : String := "udp-opus-gcm/1"

def parseOpened (root : Json) : Parsed := do
  fields (hasExactFields root
    ["type", "request_id", "session_id", "session_epoch", "media_id", "media_epoch", "selected_media_profile",
      "audio", "heartbeat_interval_ms", "idle_timeout_ms", "max_control_message_bytes"]
    ["udp_grant"])
  let requestId ← valid (getId root "request_id")
  let session ← valid (getSession root)
  let mediaId ← valid ((getString root "media_id" 16 false).bind parseMediaId)
  let mediaEpoch ← valid (getU32 root "media_epoch" false)
  let profile ← valid (getString root "selected_media_profile" 32 false)
  if profile ∉ [wssProfile, udpProfile] then throw .unsupportedProfile
  valid (guard (((item root "audio").map isAudioProfile).getD false))
  let heartbeatIntervalMs ← valid (getU32 root "heartbeat_interval_ms" false)
  valid (guard (5000 ≤ heartbeatIntervalMs ∧ heartbeatIntervalMs ≤ 60000))
  let idleTimeoutMs ← valid (getU32 root "idle_timeout_ms" false)
  valid (guard (15000 ≤ idleTimeoutMs ∧ idleTimeoutMs ≤ 180000))
  let maxControl ← valid (getU32 root "max_control_message_bytes" false)
  valid (guard (maxControl = maxControlBytes))
  let udpGrant ← valid (
    if profile = udpProfile then ((item root "udp_grant").bind parseUdpGrant).map some
    else if (item root "udp_grant").isSome then none
    else some none)
  return .sessionOpened
    { requestId, session, mediaId, mediaEpoch, selectedMediaProfile := profile, udpGrant, heartbeatIntervalMs
      idleTimeoutMs }

def parseTranscript (root : Json) (final : Bool) : Parsed := do
  fields (hasExactFields root ["type", "session_id", "session_epoch", "utterance_id", "sequence", "text"])
  let session ← valid (getSession root)
  let utteranceId ← valid (getId root "utterance_id")
  let sequence ← valid (getU32 root "sequence" true)
  let text ← valid (getString root "text" (if final then 16384 else 4096) final)
  return .transcript { final, session, utteranceId, sequence, text }

def parseResponseEnd (root : Json) (event : ResponseEvent) : Except ControlError ResponseEvent := do
  let hasFinal := (item root "final_media_sequence").isSome
  let hasError := (item root "error_code").isSome
  let outcome ← valid (getString root "outcome" 16 false)
  if outcome = "completed" then
    valid (guard (hasFinal ∧ ¬hasError))
    let finalMediaSequence ← valid (getU32 root "final_media_sequence" true)
    return { event with outcome := .completed, finalMediaSequence := some finalMediaSequence }
  else if outcome = "cancelled" then
    valid (guard (¬hasFinal ∧ ¬hasError))
    return { event with outcome := .cancelled }
  else if outcome = "failed" then
    valid (guard (¬hasFinal ∧ hasError))
    let errorCode ← valid (getString root "error_code" 64 false)
    valid (guard (isErrorCode errorCode))
    return { event with outcome := .failed, errorCode := errorCode }
  else throw .missingOrInvalidField

def parseResponse (root : Json) (type : ResponseEventType) : Parsed := do
  fields (match type with
    | .responseBegin => hasExactFields root ["type", "session_id", "session_epoch", "response_id", "generation"]
    | .responseText =>
      hasExactFields root ["type", "session_id", "session_epoch", "response_id", "generation", "sequence", "text"]
    | .responseEnd =>
      hasExactFields root ["type", "session_id", "session_epoch", "response_id", "generation", "outcome"]
        ["final_media_sequence", "error_code"])
  let session ← valid (getSession root)
  let responseId ← valid (getId root "response_id")
  let generation ← valid (getU32 root "generation" false)
  match type with
  | .responseBegin => return .response { type, session, responseId, generation }
  | .responseText =>
    let sequence ← valid (getU32 root "sequence" true)
    let text ← valid (getString root "text" 4096 false)
    return .response { type, session, responseId, generation, sequence, text }
  | .responseEnd =>
    let event ← parseResponseEnd root { type, session, responseId, generation }
    return .response event

def parsePlaybackStop (root : Json) : Parsed := do
  fields (hasExactFields root ["type", "session_id", "session_epoch", "target", "fence_generation", "cause"])
  let session ← valid (getSession root)
  let target ← valid ((item root "target").bind getTarget)
  let fenceGeneration ← valid (getU32 root "fence_generation" false)
  valid (guard (target.generation < fenceGeneration))
  let cause ← valid (getString root "cause" 32 false)
  valid (guard
    (cause ∈ ["explicit_user_request", "recognized_interrupt", "session_close", "response_failed"]))
  return .playbackStop { session, target, fenceGeneration, cause }

def parseError (root : Json) : Parsed := do
  fields (hasExactFields root ["type", "session_id", "session_epoch", "code", "retryable", "message"])
  let session ← valid (getSession root)
  let code ← valid (getString root "code" 64 false)
  valid (guard (code.toList.all (fun c => c.isLower || c.isDigit || c == '_') = true))
  let retryable ← valid (match item root "retryable" with
    | some (.bool b) => some b
    | _ => none)
  let message ← valid (getString root "message" 512 true)
  return .sessionError { session, code, retryable, message }

def parseClose (root : Json) : Parsed := do
  fields (hasExactFields root ["type", "session_id", "session_epoch", "reason", "initiated_by"] ["detail"])
  let session ← valid (getSession root)
  let reason ← valid (getString root "reason" 32 false)
  valid (guard (reason ∈ ["normal", "idle_timeout", "network_change", "protocol_error", "server_shutdown"]))
  let initiatedBy ← valid (getString root "initiated_by" 8 false)
  valid (guard (initiatedBy ∈ ["device", "server"]))
  let detail ← valid (
    if (item root "detail").isSome then getString root "detail" 256 true else some "")
  return .sessionClose { session, reason, initiatedBy, detail }

/-- The message of the given type. -/
def parseMessage (root : Json) (type : String) : Parsed :=
  if type = "session.opened" then parseOpened root
  else if type = "transcript.delta" then parseTranscript root false
  else if type = "transcript.final" then parseTranscript root true
  else if type = "response.begin" then parseResponse root .responseBegin
  else if type = "response.text" then parseResponse root .responseText
  else if type = "response.end" then parseResponse root .responseEnd
  else if type = "playback.stop" then parsePlaybackStop root
  else if type = "session.error" then parseError root
  else if type = "session.close" then parseClose root
  else .error .unknownMessage

def escapedNull : List Char := ['\\', 'u', '0', '0', '0', '0']

/-- `ParseServerMessage` on the characters of a text frame. The bytes it searches
for are ASCII, which UTF-8 uses for nothing else. `cJSON` reads the whole text. -/
def parseServerMessage (cJSON : List Char → Option Json) (data : List Char) : Parsed :=
  if data = [] then .error .malformedJson
  else if utf8Length data > maxControlBytes then .error .oversize
  else if Char.ofNat 0 ∈ data then .error .malformedJson
  else if escapedNull <:+: data then .error .malformedJson
  else
    match cJSON data with
    | some (.obj root) =>
      match getString (.obj root) "type" 32 false with
      | none => .error .missingOrInvalidField
      | some type => parseMessage (.obj root) type
    | _ => .error .malformedJson

end RealtimeVoice.Firmware.Control
