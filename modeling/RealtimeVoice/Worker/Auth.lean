import RealtimeVoice.Contracts.GrantErrors
import RealtimeVoice.Worker.Config

namespace RealtimeVoice.Worker

open RealtimeVoice.Base RealtimeVoice.Contracts

/-- `VerifiedAuth` with its `AuthContext`. -/
structure VerifiedAuth where
  tenantId : String
  deviceId : String
  allowedProfiles : List TransportProfile
  sessionEpoch : Option String := none
  fencingToken : Option Nat := none
  expiresAt : Option Time := none
  controlProtocol : ControlProtocol := .rva
  directorGrant : Option String := none

/-- What leaves `WorkerAuthenticator.verify` beside a result: the `TypeError` of
`hmac.compare_digest`, or what `GrantCodec.verify` raises and the handler does not catch. -/
inductive AuthError
  | typeError
  | verify (e : VerifyError)
deriving DecidableEq

structure WorkerAuthenticator where
  workerId : String
  rvaUdpEnabled : Bool
  labToken : Option String
  codec : GrantCodec

/-- The constructor, with the codec it makes from the signing key. -/
def WorkerAuthenticator.init (settings : Settings) (codec : GrantCodec) : WorkerAuthenticator :=
  { workerId := settings.workerId
    rvaUdpEnabled := settings.rvaUdpEnabled
    labToken := if settings.allowLabAuth then some settings.labToken else none
    codec := codec }

/-- `authorization.partition(" ")`: the scheme and the credential. -/
def partition (authorization : String) : List Char × List Char :=
  (authorization.toList.takeWhile (· ≠ ' '), (authorization.toList.dropWhile (· ≠ ' ')).tail)

/-- `scheme.lower() == "bearer"`. No letter beyond ASCII has one of its letters as lower case. -/
def isBearer (scheme : List Char) : Bool := scheme.map Char.toLower == "bearer".toList

/-- `hmac.compare_digest` of two strings. -/
def compareDigest (a b : List Char) : Except AuthError Bool :=
  if Base64.isAscii a && Base64.isAscii b then .ok (a == b) else .error .typeError

namespace WorkerAuthenticator

variable (w : WorkerAuthenticator)

def labProfiles : List TransportProfile := if w.rvaUdpEnabled then [.wssOpus, .udpOpusGcm] else [.wssOpus]

/-- Whether the credential is the one of the lab, where there is one. -/
def isLab (supplied : List Char) : Except AuthError Bool :=
  match w.labToken with
  | none => .ok false
  | some labToken => compareDigest supplied labToken.toList

def verifyGrant (supplied : List Char) (deviceId : String) (controlProtocol : ControlProtocol) (now : Time) :
    Except AuthError (Option VerifiedAuth) :=
  match w.codec.verify supplied (some w.workerId) (some deviceId) now with
  | .error (.grant _) => .ok none
  | .error e => .error (.verify e)
  | .ok claims =>
    if claims.controlProtocol ≠ controlProtocol then .ok none
    else
      .ok (some
        { tenantId := claims.tenantId.val
          deviceId := claims.deviceId.val
          allowedProfiles := claims.profiles
          sessionEpoch := some claims.sessionEpoch.val
          fencingToken := some claims.fencingToken
          expiresAt := some claims.exp
          controlProtocol := claims.controlProtocol
          directorGrant := some (String.ofList supplied) })

def verify (authorization deviceId : Option String) (controlProtocol : ControlProtocol) (now : Time) :
    Except AuthError (Option VerifiedAuth) :=
  match authorization, deviceId with
  | none, _ => .ok none
  | some _, none => .ok none
  | some authorization, some deviceId =>
    let (scheme, supplied) := partition authorization
    if !isBearer scheme then .ok none
    else do
      if ← w.isLab supplied then
        return some { tenantId := "lab", deviceId, allowedProfiles := w.labProfiles, controlProtocol }
      else w.verifyGrant supplied deviceId controlProtocol now

/-- The headers that are answered: with a result, or with none. -/
structure Answerable (authorization : String) : Prop where
  lab_ascii : isBearer (partition authorization).1 = true → ∀ labToken, w.labToken = some labToken →
    Base64.isAscii (partition authorization).2 = true ∧ Base64.isAscii labToken.toList = true
  grant_verifiable : isBearer (partition authorization).1 = true →
    w.labToken.map String.toList ≠ some (partition authorization).2 → w.codec.Verifiable (partition authorization).2

variable {w}

theorem isLab_cases (supplied : List Char) :
    (w.isLab supplied = .error .typeError ∧ ∃ labToken, w.labToken = some labToken ∧
      ¬(Base64.isAscii supplied = true ∧ Base64.isAscii labToken.toList = true)) ∨
    (w.isLab supplied = .ok (decide (w.labToken.map String.toList = some supplied)) ∧
      ∀ labToken, w.labToken = some labToken →
        Base64.isAscii supplied = true ∧ Base64.isAscii labToken.toList = true) := by
  rw [isLab]
  cases hlab : w.labToken with
  | none => exact .inr ⟨rfl, by simp⟩
  | some labToken =>
    by_cases hascii : Base64.isAscii supplied = true ∧ Base64.isAscii labToken.toList = true
    · refine .inr ⟨?_, ?_⟩
      · change compareDigest supplied labToken.toList = _
        rw [compareDigest, if_pos (by simpa using hascii)]
        simp [beq_eq_decide, eq_comm]
      · rintro _ ⟨⟩
        exact hascii
    · refine .inl ⟨?_, labToken, rfl, hascii⟩
      change compareDigest supplied labToken.toList = _
      rw [compareDigest, if_neg (by simpa using hascii)]

theorem verifyGrant_answers (supplied : List Char) (deviceId : String) (controlProtocol : ControlProtocol)
    (now : Time) :
    (∃ r, w.verifyGrant supplied deviceId controlProtocol now = .ok r) ↔ w.codec.Verifiable supplied := by
  rw [← GrantCodec.verify_total_iff supplied (some w.workerId) (some deviceId) now, verifyGrant]
  cases hverify : w.codec.verify supplied (some w.workerId) (some deviceId) now with
  | ok claims =>
    refine iff_of_true ?_ (total_ok claims)
    change ∃ r, (if claims.controlProtocol ≠ controlProtocol then _ else _) = _
    split
    · exact ⟨_, rfl⟩
    · exact ⟨_, rfl⟩
  | error e =>
    cases e with
    | grant reason => exact iff_of_true ⟨none, rfl⟩ (total_grant reason)
    | unicodeEncode =>
      refine iff_of_false ?_ ?_
      · rintro ⟨r, h⟩
        cases h
      · intro htotal
        obtain ⟨reason, heq⟩ := htotal _ rfl
        cases heq
    | loads e =>
      refine iff_of_false ?_ ?_
      · rintro ⟨r, h⟩
        cases h
      · intro htotal
        obtain ⟨reason, heq⟩ := htotal _ rfl
        cases heq

theorem verify_answers (authorization deviceId : String) (controlProtocol : ControlProtocol) (now : Time) :
    (∃ r, w.verify (some authorization) (some deviceId) controlProtocol now = .ok r) ↔
      w.Answerable authorization := by
  by_cases hbearer : isBearer (partition authorization).1 = true
  · have hverify : w.verify (some authorization) (some deviceId) controlProtocol now =
        (w.isLab (partition authorization).2 >>= fun lab =>
          if lab = true then
            .ok (some { tenantId := "lab", deviceId, allowedProfiles := w.labProfiles, controlProtocol })
          else w.verifyGrant (partition authorization).2 deviceId controlProtocol now) := by
      change (if (!isBearer (partition authorization).1) = true then _ else _) = _
      rw [if_neg (by simpa using hbearer)]
      rfl
    rw [hverify]
    obtain ⟨hlab, labToken, htoken, hascii⟩ | ⟨hlab, hascii⟩ := @isLab_cases w (partition authorization).2
    · rw [hlab]
      refine iff_of_false ?_ ?_
      · rintro ⟨r, h⟩
        cases h
      · intro h
        exact hascii (h.lab_ascii hbearer labToken htoken)
    · rw [hlab]
      by_cases hsame : w.labToken.map String.toList = some (partition authorization).2
      · rw [decide_eq_true hsame]
        exact iff_of_true ⟨_, rfl⟩ ⟨fun _ => hascii, fun _ hne => absurd hsame hne⟩
      · rw [decide_eq_false hsame]
        change (∃ r, w.verifyGrant _ deviceId controlProtocol now = .ok r) ↔ _
        rw [verifyGrant_answers]
        constructor
        · intro h
          exact ⟨fun _ => hascii, fun _ _ => h⟩
        · intro h
          exact h.grant_verifiable hbearer hsame
  · have hverify : w.verify (some authorization) (some deviceId) controlProtocol now = .ok none := by
      change (if (!isBearer (partition authorization).1) = true then _ else _) = _
      rw [if_pos (by simpa using hbearer)]
    rw [hverify]
    exact iff_of_true ⟨none, rfl⟩ ⟨fun h => absurd h hbearer, fun h => absurd h hbearer⟩

/-- A grant is verified as documented exactly if its header can be read and, the header
being the right one, its payload is ASCII; an `Authorization` header is answered exactly
if that holds of its grant, and none of the two texts compared is beyond ASCII. -/
theorem verification_total_iff (g : GrantCodec) (token : List Char) (grantWorker grantDevice : Option String)
    (w : WorkerAuthenticator) (authorization deviceId : Option String) (controlProtocol : ControlProtocol)
    (now : Time) :
    (Total (g.verify token grantWorker grantDevice now) ↔ g.Verifiable token) ∧
      ((∃ r, w.verify authorization deviceId controlProtocol now = .ok r) ↔
        ∀ a d, authorization = some a → deviceId = some d → w.Answerable a) := by
  refine ⟨GrantCodec.verify_total_iff token grantWorker grantDevice now, ?_⟩
  cases authorization with
  | none => exact iff_of_true ⟨none, rfl⟩ (by simp)
  | some a =>
    cases deviceId with
    | none => exact iff_of_true ⟨none, rfl⟩ (by simp)
    | some d =>
      rw [verify_answers]
      simp

/-- The settings of the laboratory: a token is configured. -/
def labAuthenticator : WorkerAuthenticator := .init { maxSessions_range := fiveSessions_range } GrantCodec.sampleCodec

/-- The header of every grant, with a payload that is no ASCII text. -/
def forgedToken : String := "eyJhbGciOiJIUzI1NiIsInR5cCI6IlZBRyIsInYiOjF9.é.AA"

theorem verification_raises :
    GrantCodec.sampleCodec.verify forgedToken.toList (some "w1") (some "lamp") 1030 = .error .unicodeEncode ∧
      ¬∃ r, labAuthenticator.verify (some "Bearer é") (some "lamp") .rva 1030 = .ok r := by
  refine ⟨by decide +kernel, ?_⟩
  rw [verify_answers]
  intro h
  have hascii := (h.lab_ascii (by decide +kernel) "replace-with-device-token" rfl).1
  exact absurd hascii (by decide +kernel)

end WorkerAuthenticator

end RealtimeVoice.Worker
