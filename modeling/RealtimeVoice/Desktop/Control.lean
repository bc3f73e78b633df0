import RealtimeVoice.Base.Json
import RealtimeVoice.Contracts.Models

namespace RealtimeVoice.Desktop.Control

open RealtimeVoice.Base RealtimeVoice.Contracts

def controlMaxBytes : Nat := 32768

/-- `ProtocolError(code)`, and the `TypeError` of an unhashable value that is
looked up in a set. -/
inductive Failure
  | protocol (code : String)
  | typeError
deriving DecidableEq

abbrev Message := List (String × Json)

def raise (p : Prop) [Decidable p] (code : String) : Except Failure Unit :=
  if p then .error (.protocol code) else .ok ()

mutual

/-- `_unique_object` of every object in a value. -/
def unique : Json → Bool
  | .arr items => uniqueItems items
  | .obj fields => decide (fields.map Prod.fst).Nodup && uniqueFields fields
  | _ => true

def uniqueItems : List Json → Bool
  | [] => true
  | v :: vs => unique v && uniqueItems vs

def uniqueFields : List (String × Json) → Bool
  | [] => true
  | (_, v) :: fs => unique v && uniqueFields fs

end

/-- `loads` is `json.loads` with the pairs of each object kept in their order. -/
def decodeControl (loads : List Char → Option Json) (wire : List Char) : Except Failure Message := do
  raise (utf8Length wire > controlMaxBytes) "message_too_large"
  match loads wire with
  | none => throw (.protocol "invalid_json")
  | some value =>
    raise (unique value = false) "duplicate_json_key"
    match value with
    | .obj fields => return fields
    | _ => throw (.protocol "control_message_must_be_object")

def get (message : Message) (key : String) : Json := (message.lookup key).getD .null

def has (message : Message) (key : String) : Bool := (message.lookup key).isSome

def serverTypes : List String :=
  ["session.opened", "transcript.delta", "transcript.final", "response.begin", "response.text", "response.end",
    "playback.stop", "session.error", "session.close"]

def sessionCloseReasons : List String :=
  ["normal", "idle_timeout", "network_change", "protocol_error", "server_shutdown"]

/-- `value in {...}` of strings. -/
def isOneOf (value : Json) (allowed : List String) : Except Failure Bool :=
  if !value.hashable then .error .typeError
  else .ok (allowed.any fun s => value.eqStr s)

def exactFields (message : Message) (expected : List String) (optional : List String := []) :
    Except Failure Unit := do
  raise (∃ field ∈ expected, has message field = false) "missing_field"
  raise (∃ f ∈ message, f.1 ∉ expected ++ optional) "unknown_field"

def identifierMatches (s : String) : Bool :=
  decide (1 ≤ s.toList.length ∧ s.toList.length ≤ 128) && s.toList.all identifierChar

def identifier (value : Json) (field : String) : Except Failure Unit :=
  match value with
  | .str s => raise (identifierMatches s = false) ("invalid_" ++ field)
  | _ => throw (.protocol ("invalid_" ++ field))

def boundedInt (value : Json) (minimum maximum : Int) (field : String) : Except Failure Unit :=
  match value with
  | .int n => raise (¬(minimum ≤ n ∧ n ≤ maximum)) ("invalid_" ++ field)
  | _ => throw (.protocol ("invalid_" ++ field))

def uint32 (value : Json) (field : String) (minimum : Int := 0) : Except Failure Unit :=
  boundedInt value minimum 0xFFFFFFFF field

def target (value : Json) : Except Failure Unit :=
  match value with
  | .obj fields => do
    exactFields fields ["response_id", "generation"]
    identifier (get fields "response_id") "response_id"
    uint32 (get fields "generation") "generation" 1
  | _ => throw (.protocol "invalid_playback_target")

def errorCodeMatches (s : String) : Bool :=
  decide (1 ≤ s.toList.length ∧ s.toList.length ≤ 64) && s.toList.all (fun c => c.isLower || c.isDigit || c == '_')

def errorCode (value : Json) : Except Failure Unit :=
  match value with
  | .str s => raise (errorCodeMatches s = false) "invalid_error_code"
  | _ => throw (.protocol "invalid_error_code")

def text (value : Json) (maximumBytes : Nat) (allowEmpty : Bool) : Except Failure Unit :=
  match value with
  | .str s => do
    raise ((allowEmpty = false ∧ s = "") ∨ Char.ofNat 0 ∈ s.toList) "invalid_text"
    raise (utf8Length s.toList > maximumBytes) "text_too_large"
  | _ => throw (.protocol "invalid_text")

/-- `message["audio"] == AUDIO_PROFILE`. -/
def isAudioProfile (audio : Json) : Bool :=
  match audio with
  | .obj fields =>
    fields.all (fun f => decide (f.1 ∈ ["codec", "sample_rate_hz", "channels", "frame_duration_ms"])) &&
      (get fields "codec").eqStr "opus" && (get fields "sample_rate_hz").eqInt 16000 &&
      (get fields "channels").eqInt 1 && (get fields "frame_duration_ms").eqInt 60
  | _ => false

def validateOpened (message : Message) : Except Failure Unit := do
  exactFields message
    (["type", "request_id", "session_id", "session_epoch", "media_id", "media_epoch", "selected_media_profile",
      "audio", "heartbeat_interval_ms", "idle_timeout_ms", "max_control_message_bytes"] ++
      (if (get message "selected_media_profile").eqStr "udp-opus-gcm/1" then ["udp_grant"] else []))
  raise (isAudioProfile (get message "audio") = false ∨
    (get message "max_control_message_bytes").eqInt controlMaxBytes = false) "unsupported_session_parameters"
  identifier (get message "request_id") "request_id"

/-- The fields that a message of each type has beside the session's. -/
def requiredFields (message : Message) (type : String) : List String :=
  if type = "transcript.delta" ∨ type = "transcript.final" then ["utterance_id", "sequence", "text"]
  else if type = "response.begin" then ["response_id", "generation"]
  else if type = "response.text" then ["response_id", "generation", "sequence", "text"]
  else if type = "response.end" then
    ["response_id", "generation", "outcome"] ++
      (if (get message "outcome").eqStr "completed" then ["final_media_sequence"]
      else if (get message "outcome").eqStr "failed" then ["error_code"]
      else [])
  else if type = "playback.stop" then ["target", "fence_generation", "cause"]
  else if type = "session.error" then ["code", "retryable", "message"]
  else ["reason", "initiated_by"]

def isBool : Json → Bool
  | .bool _ => true
  | _ => false

def validateResponseEnd (message : Message) : Except Failure Unit := do
  identifier (get message "response_id") "response_id"
  uint32 (get message "generation") "generation" 1
  let known ← isOneOf (get message "outcome") ["completed", "cancelled", "failed"]
  raise (known = false) "invalid_response_outcome"
  if has message "final_media_sequence" then uint32 (get message "final_media_sequence") "final_media_sequence"
  if has message "error_code" then errorCode (get message "error_code")

def validateStop (message : Message) : Except Failure Unit := do
  target (get message "target")
  uint32 (get message "fence_generation") "fence_generation" 1
  let known ← isOneOf (get message "cause")
    ["explicit_user_request", "recognized_interrupt", "session_close", "response_failed"]
  raise (known = false) "invalid_stop_cause"

def validateClose (message : Message) : Except Failure Unit := do
  let known ← isOneOf (get message "reason") sessionCloseReasons
  raise (known = false) "invalid_close_reason"
  let initiator ← isOneOf (get message "initiated_by") ["server", "device"]
  raise (initiator = false) "invalid_close_initiator"
  if has message "detail" then text (get message "detail") 256 true

def validateFields (message : Message) (type : String) : Except Failure Unit :=
  if type = "transcript.delta" ∨ type = "transcript.final" then do
    identifier (get message "utterance_id") "utterance_id"
    uint32 (get message "sequence") "sequence"
    text (get message "text") (if type = "transcript.delta" then 4096 else 16384) (type = "transcript.final")
  else if type = "response.begin" then do
    identifier (get message "response_id") "response_id"
    uint32 (get message "generation") "generation" 1
  else if type = "response.text" then do
    identifier (get message "response_id") "response_id"
    uint32 (get message "generation") "generation" 1
    uint32 (get message "sequence") "sequence"
    text (get message "text") 4096 false
  else if type = "response.end" then validateResponseEnd message
  else if type = "playback.stop" then validateStop message
  else if type = "session.error" then do
    errorCode (get message "code")
    raise (isBool (get message "retryable") = false) "invalid_retryable"
    text (get message "message") 512 true
  else validateClose message

def validateServerMessage (message : Message) : Except Failure Unit :=
  match get message "type" with
  | .str type =>
    if type ∉ serverTypes then throw (.protocol "unknown_server_message")
    else if type = "session.opened" then validateOpened message
    else do
      identifier (get message "session_id") "session_id"
      identifier (get message "session_epoch") "session_epoch"
      exactFields message (["type", "session_id", "session_epoch"] ++ requiredFields message type)
        (if type = "session.close" then ["detail"] else [])
      validateFields message type
  | value => if value.hashable then throw (.protocol "unknown_server_message") else throw .typeError

end RealtimeVoice.Desktop.Control
