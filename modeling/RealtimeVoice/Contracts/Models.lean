import Mathlib

namespace RealtimeVoice.Contracts

/-- Clock readings in seconds. The code only compares and adds them. -/
abbrev Time := ℚ

def identifierChar (c : Char) : Bool := c.isAlphanum || c == '_' || c == '.' || c == ':' || c == '-'

/-- The pattern `^[A-Za-z0-9][A-Za-z0-9_.:-]{0,95}$`. -/
def identifierPattern (s : String) : Bool :=
  match s.toList with
  | [] => false
  | c :: cs => c.isAlphanum && cs.all identifierChar && decide (cs.length ≤ 95)

abbrev Identifier := { s : String // identifierPattern s = true }

instance lawfulBEqIdentifier : LawfulBEq Identifier := inferInstance

/-- A pydantic `Identifier` field: the value when the pattern matches. -/
def identifier? (s : String) : Option Identifier :=
  if h : identifierPattern s = true then some ⟨s, h⟩ else none

def hexDigit (n : Nat) : Char := if n < 10 then Char.ofNat (48 + n) else Char.ofNat (55 + n)

/-- The bytes `quote` never escapes: letters, digits, `_`, `.`, `-` and `~`. -/
def unreserved (b : UInt8) : Bool :=
  let c := Char.ofNat b.toNat
  c.isAlphanum || c == '_' || c == '.' || c == '-' || c == '~'

def quoteByte (b : UInt8) : List Char :=
  if unreserved b then [Char.ofNat b.toNat]
  else ['%', hexDigit (b.toNat / 16), hexDigit (b.toNat % 16)]

/-- `urllib.parse.quote(s, safe='')`. -/
def quote (s : String) : String := String.ofList (s.toUTF8.data.toList.flatMap quoteByte)

def encodeRouteKey (tenantId deviceId : String) : String := quote tenantId ++ ":" ++ quote deviceId

inductive TransportProfile
  | wssOpus | udpOpusGcm
deriving DecidableEq, Repr

inductive ControlProtocol
  | rva
deriving DecidableEq, Repr

structure BindingAdvertisement where
  controlProtocol : ControlProtocol
  publicWssUrl : String
  profiles : List TransportProfile
  profiles_unique : profiles ≠ [] ∧ profiles.Nodup
deriving DecidableEq

structure LeaseRenewal where
  tenantId : Identifier
  deviceId : Identifier
  sessionEpoch : Identifier
  fencingToken : Nat
  fencingToken_pos : 1 ≤ fencingToken
deriving DecidableEq

structure WorkerHeartbeat where
  workerId : Identifier
  publicWssUrl : String
  activeSessions : Nat
  maxSessions : Nat := 5
  draining : Bool := false
  healthy : Bool := true
  profiles : List TransportProfile := [.wssOpus]
  bindings : List BindingAdvertisement := []
  activeLeases : List LeaseRenewal := []
  releasedLeases : List LeaseRenewal := []
  maxSessions_range : 1 ≤ maxSessions ∧ maxSessions ≤ 1024
  profiles_unique : profiles ≠ [] ∧ profiles.Nodup
  activeLeases_bounded : activeLeases.length ≤ maxSessions
  activeLeases_unique : (activeLeases.map (fun l => (l.tenantId, l.deviceId))).Nodup
  releasedLeases_bounded : releasedLeases.length ≤ 64
  releasedLeases_unique : (releasedLeases.map (fun l => (l.tenantId, l.deviceId, l.sessionEpoch))).Nodup
  bindings_unique : (bindings.map (fun b => b.controlProtocol)).Nodup
  bindings_cover : bindings ≠ [] → ∀ p, p ∈ profiles ↔ ∃ b ∈ bindings, p ∈ b.profiles
deriving DecidableEq

def WorkerHeartbeat.resolvedBindings (w : WorkerHeartbeat) : List BindingAdvertisement :=
  if w.bindings ≠ [] then w.bindings
  else [{ controlProtocol := .rva, publicWssUrl := w.publicWssUrl, profiles := w.profiles
          profiles_unique := w.profiles_unique }]

structure WorkerSnapshot extends WorkerHeartbeat where
  heartbeatExpiresAt : Time
deriving DecidableEq

def WorkerSnapshot.availableSlots (w : WorkerSnapshot) : Nat := w.maxSessions - w.activeSessions

structure RouteLease where
  tenantId : Identifier
  deviceId : Identifier
  workerId : Identifier
  sessionEpoch : Identifier
  fencingToken : Nat
  expiresAt : Time
  fencingToken_pos : 1 ≤ fencingToken
deriving DecidableEq

def RouteLease.routeKey (l : RouteLease) : String := encodeRouteKey l.tenantId.val l.deviceId.val

structure ConnectGrantClaims where
  tenantId : Identifier
  deviceId : Identifier
  workerId : Identifier
  sessionEpoch : Identifier
  fencingToken : Nat
  profiles : List TransportProfile
  controlProtocol : ControlProtocol := .rva
  iat : Time
  exp : Time
  jti : Identifier
  fencingToken_pos : 1 ≤ fencingToken
  profiles_unique : profiles ≠ [] ∧ profiles.Nodup
deriving DecidableEq

example : encodeRouteKey "acme:eu" "lamp-1" = "acme%3Aeu:lamp-1" := by decide +kernel

section Samples

def sampleTenant : Identifier := ⟨"default", by decide⟩

def sampleDevice : Identifier := ⟨"lamp", by decide⟩

def sampleWorker : Identifier := ⟨"w1", by decide⟩

def laterWorker : Identifier := ⟨"w2", by decide⟩

def sampleEpoch : Identifier := ⟨"epoch-1", by decide⟩

def laterEpoch : Identifier := ⟨"epoch-2", by decide⟩

def sampleGrantId : Identifier := ⟨"jti-1", by decide⟩

def laterGrantId : Identifier := ⟨"jti-2", by decide⟩

theorem firstToken_pos : 1 ≤ 1 := le_rfl

theorem fiveSessions_range : 1 ≤ 5 ∧ 5 ≤ 1024 := by decide

theorem wssOpus_unique : [TransportProfile.wssOpus] ≠ [] ∧ [TransportProfile.wssOpus].Nodup := by decide

/-- A worker without sessions. -/
def idleHeartbeat (workerId : Identifier) (publicWssUrl : String) : WorkerHeartbeat :=
  { workerId := workerId, publicWssUrl := publicWssUrl, activeSessions := 0
    maxSessions_range := fiveSessions_range, profiles_unique := wssOpus_unique, activeLeases_bounded := by decide
    activeLeases_unique := by decide, releasedLeases_bounded := by decide, releasedLeases_unique := by decide
    bindings_unique := by decide, bindings_cover := by simp }

end Samples

end RealtimeVoice.Contracts
