import RealtimeVoice.Base.LoadsDumps
import RealtimeVoice.Desktop.Control

namespace RealtimeVoice.Desktop.Control

open RealtimeVoice.Base RealtimeVoice.Base.Loads RealtimeVoice.Contracts

/-- The pairs of each object, kept in their order. -/
def keepPairs : Hook := fun pairs => some (.obj (pairs.map fun q => (q.1.key, q.2)))

/-- `json.loads` as `decodeControl` takes it. -/
def loadPairs (p : Interpreter) (wire : List Char) : Option Json :=
  match loads p keepPairs (codes wire) with
  | .ok value => some value
  | .error _ => none

/-- The value of a character of the standard alphabet. -/
def base64Value (c : Char) : Option Nat :=
  if c.isUpper then some (c.toNat - 65)
  else if c.isLower then some (c.toNat - 71)
  else if c.isDigit then some (c.toNat + 4)
  else if c = '+' then some 62
  else if c = '/' then some 63
  else none

/-- `base64.b64decode(value, validate=True)`: groups of four, of which the last may be padded. -/
def b64decode : List Char → Option (List UInt8)
  | [] => some []
  | a :: b :: c :: d :: rest => do
    let w ← base64Value a
    let x ← base64Value b
    if d = '=' then
      if rest ≠ [] then none
      else if c = '=' then return [UInt8.ofNat (w * 4 + x / 16)]
      else
        let y ← base64Value c
        return [UInt8.ofNat (w * 4 + x / 16), UInt8.ofNat (x % 16 * 16 + y / 4)]
    else
      let y ← base64Value c
      let z ← base64Value d
      let bytes ← b64decode rest
      return UInt8.ofNat (w * 4 + x / 16) :: UInt8.ofNat (x % 16 * 16 + y / 4) :: UInt8.ofNat (y % 4 * 64 + z) :: bytes
  | _ => none

/-- The white space that `bytes.fromhex` skips between two bytes. -/
def isHexSpace (c : Char) : Bool := decide (9 ≤ c.toNat ∧ c.toNat ≤ 13) || c == ' '

/-- `bytes.fromhex` -/
def fromhex : List Char → Option (List UInt8)
  | [] => some []
  | [c] => if isHexSpace c then some [] else none
  | c :: d :: rest =>
    if isHexSpace c then fromhex (d :: rest)
    else do
      let high ← Loads.hexValue? c.toNat
      let low ← Loads.hexValue? d.toNat
      let bytes ← fromhex rest
      return UInt8.ofNat (16 * high + low) :: bytes

structure UdpGrant where
  host : String
  port : Int
  expiresAtMs : Int
  refreshAfterMs : Int
  uplinkKey : List UInt8
  uplinkSalt : List UInt8
  downlinkKey : List UInt8
  downlinkSalt : List UInt8
  probeTimeoutMs : Int
deriving DecidableEq

/-- `SessionOpened`, as `parse_session_opened` returns it. -/
structure SessionOpened where
  requestId : String
  sessionId : String
  sessionEpoch : String
  mediaId : List UInt8
  mediaEpoch : Int
  selectedProfile : TransportProfile
  heartbeatIntervalMs : Int
  idleTimeoutMs : Int
  udpGrant : Option UdpGrant
deriving DecidableEq

/-- What `parse_session_opened` raises: a failure of the checks, or the `ValueError` of `MediaProfile(value)`. -/
inductive OpenedFailure
  | control (e : Failure)
  | valueError
deriving DecidableEq

/-- `_identifier`, which returns what it has checked. -/
def identifierOf (value : Json) (field : String) : Except Failure String := do
  identifier value field
  match value with
  | .str s => return s
  | _ => throw .typeError

/-- `_bounded_int`, which returns what it has checked. -/
def intOf (value : Json) (minimum maximum : Int) (field : String) : Except Failure Int := do
  boundedInt value minimum maximum field
  match value with
  | .int n => return n
  | _ => throw .typeError

/-- `value.lower() != value` of a text that `bytes.fromhex` has taken. -/
def mediaId (value : Json) : Except Failure (List UInt8) :=
  match value with
  | .str s =>
    match fromhex s.toList with
    | none => throw (.protocol "invalid_media_id")
    | some bytes => do
      raise (bytes.length ≠ 8 ∨ s.toList.any Char.isUpper = true) "invalid_media_id"
      return bytes
  | _ => throw (.protocol "invalid_media_id")

def grantFields : List String :=
  ["host", "port", "expires_at_ms", "refresh_after_ms", "uplink_key_b64", "uplink_salt_b64", "downlink_key_b64",
    "downlink_salt_b64", "probe_timeout_ms"]

/-- A key of the grant. What is no text raises the `TypeError` that the code catches. -/
def grantKey (value : Json) : Except Failure (List UInt8) :=
  match value with
  | .str s =>
    match b64decode s.toList with
    | some bytes => return bytes
    | none => throw (.protocol "invalid_udp_grant")
  | _ => throw (.protocol "invalid_udp_grant")

def grantHost (value : Json) : Except Failure String :=
  match value with
  | .str host => do
    raise (host = "" ∨ host.toList.length > 253) "invalid_udp_grant"
    return host
  | _ => throw (.protocol "invalid_udp_grant")

/-- `_parse_udp_grant` of what is there. -/
def parseGrantFields (fields : Message) : Except Failure UdpGrant := do
  exactFields fields grantFields
  let uplinkKey ← grantKey (get fields "uplink_key_b64")
  let uplinkSalt ← grantKey (get fields "uplink_salt_b64")
  let downlinkKey ← grantKey (get fields "downlink_key_b64")
  let downlinkSalt ← grantKey (get fields "downlink_salt_b64")
  raise (uplinkKey.length ≠ 16 ∨ downlinkKey.length ≠ 16 ∨ uplinkSalt.length ≠ 8 ∨ downlinkSalt.length ≠ 8)
    "invalid_udp_grant"
  let host ← grantHost (get fields "host")
  let port ← intOf (get fields "port") 1 65535 "udp_port"
  let expiresAtMs ← intOf (get fields "expires_at_ms") 1 (2 ^ 63 - 1) "udp_expiry"
  let refreshAfterMs ← intOf (get fields "refresh_after_ms") 1000 3600000 "udp_refresh"
  let probeTimeoutMs ← intOf (get fields "probe_timeout_ms") 100 10000 "udp_probe_timeout"
  return { host, port, expiresAtMs, refreshAfterMs, uplinkKey, uplinkSalt, downlinkKey, downlinkSalt, probeTimeoutMs }

def parseUdpGrant (value : Json) : Except Failure (Option UdpGrant) :=
  match value with
  | .null => return none
  | .obj fields => do return some (← parseGrantFields fields)
  | _ => throw (.protocol "invalid_udp_grant")

/-- `MediaProfile(value)` -/
def mediaProfile (value : Json) : Except OpenedFailure TransportProfile :=
  if value.eqStr "wss-opus/1" then return .wssOpus
  else if value.eqStr "udp-opus-gcm/1" then return .udpOpusGcm
  else throw .valueError

/-- The rest of `parse_session_opened` for a profile. -/
def openedWith (message : Message) (requestId : String) (selectedProfile : TransportProfile) :
    Except Failure SessionOpened := do
  let udpGrant ← parseUdpGrant (get message "udp_grant")
  raise (¬(selectedProfile = .udpOpusGcm ↔ udpGrant.isSome = true)) "invalid_udp_grant"
  let sessionId ← identifierOf (get message "session_id") "session_id"
  let sessionEpoch ← identifierOf (get message "session_epoch") "session_epoch"
  let mediaId ← mediaId (get message "media_id")
  let mediaEpoch ← intOf (get message "media_epoch") 1 0xFFFFFFFF "media_epoch"
  let heartbeatIntervalMs ← intOf (get message "heartbeat_interval_ms") 5000 60000 "heartbeat"
  let idleTimeoutMs ← intOf (get message "idle_timeout_ms") 15000 180000 "idle_timeout"
  return { requestId, sessionId, sessionEpoch, mediaId, mediaEpoch, selectedProfile, heartbeatIntervalMs
           idleTimeoutMs, udpGrant }

def parseSessionOpened (message : Message) (requestId : String) : Except OpenedFailure SessionOpened := do
  (validateServerMessage message).mapError .control
  if (get message "type").eqStr "session.opened" = false then
    throw (.control (.protocol "expected_session_opened"))
  if (get message "request_id").eqStr requestId = false then throw (.control (.protocol "request_id_mismatch"))
  let selectedProfile ← mediaProfile (get message "selected_media_profile")
  (openedWith message requestId selectedProfile).mapError .control

end RealtimeVoice.Desktop.Control
