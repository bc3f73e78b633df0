import RealtimeVoice.Base.Base64
import RealtimeVoice.Base.Loads
import RealtimeVoice.Contracts.RouteKey

namespace RealtimeVoice.Contracts

open RealtimeVoice.Base

/-- What `GrantCodec` raises: a `GrantError`, or something that is none. -/
inductive VerifyError
  | grant (reason : String)
  | unicodeEncode
  | loads (e : LoadsError)
deriving DecidableEq

/-- A verification ended as documented: with claims, or with a `GrantError`. -/
def Total {α : Type} (r : Except VerifyError α) : Prop := ∀ e, r = .error e → ∃ reason, e = .grant reason

/-- `_encode`. -/
def encode (value : List UInt8) : List Char := (Base64.urlsafeB64encode value).rdropWhile (· = '=')

/-- `_decode`. -/
def decode (value : List Char) : Except VerifyError (List UInt8) :=
  match Base64.urlsafeB64decode (value ++ Base64.padding value.length) with
  | some bytes => .ok bytes
  | none => .error (.grant "malformed grant encoding")

/-- `str.encode("ascii")`. -/
def encodeAscii (s : List Char) : Except VerifyError (List UInt8) :=
  if Base64.isAscii s then .ok (s.map fun c => UInt8.ofNat c.toNat) else .error .unicodeEncode

/-- `GrantCodec` with what it calls: the JSON scanner, the keyed digest, and the model's own
dump and validation, which is absent where it raises a `ValidationError`. -/
structure GrantCodec where
  key : List UInt8
  clockSkewSeconds : Time := 2
  interpreter : Interpreter
  hmacSha256 : List UInt8 → List UInt8 → List UInt8
  modelDumpJson : ConnectGrantClaims → List UInt8
  modelValidateJson : List UInt8 → Option ConnectGrantClaims
  key_long : 16 ≤ key.length

namespace GrantCodec

/-- The bytes of `{"alg":"HS256","typ":"VAG","v":1}`. -/
def headerBytes : List UInt8 :=
  "\x7b\"alg\":\"HS256\",\"typ\":\"VAG\",\"v\":1\x7d".toList.map fun c => UInt8.ofNat c.toNat

/-- `header_value == {"alg": "HS256", "typ": "VAG", "v": 1}`. -/
def supportedHeader : Json → Bool
  | .obj fields =>
    fields.length == 3 && (fields.lookup "alg").any (·.eqStr "HS256") && (fields.lookup "typ").any (·.eqStr "VAG") &&
      (fields.lookup "v").any (·.eqInt 1)
  | _ => false

variable (g : GrantCodec)

def issue (claims : ConnectGrantClaims) : Except VerifyError (List Char) := do
  let header := encode headerBytes
  let payload := encode (g.modelDumpJson claims)
  let signingInput ← encodeAscii (header ++ '.' :: payload)
  let signature := encode (g.hmacSha256 g.key signingInput)
  return header ++ '.' :: payload ++ '.' :: signature

/-- `json.loads` of the bytes of the header; absent for bytes that are no text. -/
def headerValue (bytes : List UInt8) : Option (Except LoadsError Json) :=
  (Unicode.decodeDetected bytes).map (Loads.decode g.interpreter Loads.noHook)

def checkHeader (header : List Char) : Except VerifyError Unit := do
  match g.headerValue (← decode header) with
  | none => throw (.grant "malformed grant header")
  | some (.error .decode) => throw (.grant "malformed grant header")
  | some (.error e) => throw (.loads e)
  | some (.ok value) => if supportedHeader value then return () else throw (.grant "unsupported grant header")

def refuse (p : Prop) [Decidable p] (reason : String) : Except VerifyError Unit :=
  if p then .error (.grant reason) else .ok ()

def checkSignature (header payload suppliedSignature : List Char) : Except VerifyError Unit := do
  let signingInput ← encodeAscii (header ++ '.' :: payload)
  let signature ← decode suppliedSignature
  refuse (g.hmacSha256 g.key signingInput ≠ signature) "invalid grant signature"

def checkClaims (claims : ConnectGrantClaims) (workerId deviceId : Option String) (now : Time) :
    Except VerifyError ConnectGrantClaims := do
  refuse (claims.exp ≤ now) "grant expired"
  refuse (now + g.clockSkewSeconds < claims.iat ∨ claims.exp ≤ claims.iat) "invalid grant lifetime"
  refuse (workerId.any (· ≠ claims.workerId.val) = true) "grant belongs to another worker"
  refuse (deviceId.any (· ≠ claims.deviceId.val) = true) "grant belongs to another device"
  return claims

def validateClaims (payload : List Char) : Except VerifyError ConnectGrantClaims := do
  match g.modelValidateJson (← decode payload) with
  | some claims => return claims
  | none => throw (.grant "invalid grant claims")

def verify (token : List Char) (workerId deviceId : Option String) (now : Time) :
    Except VerifyError ConnectGrantClaims :=
  match token.splitOn '.' with
  | [header, payload, suppliedSignature] => do
    g.checkHeader header
    g.checkSignature header payload suppliedSignature
    let claims ← g.validateClaims payload
    g.checkClaims claims workerId deviceId now
  | _ => .error (.grant "malformed grant")

end GrantCodec

end RealtimeVoice.Contracts
