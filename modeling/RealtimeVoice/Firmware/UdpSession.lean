import RealtimeVoice.Base.Runs
import RealtimeVoice.Udp.Replay
import RealtimeVoice.Firmware.JitterBuffer

namespace RealtimeVoice.Firmware

open RealtimeVoice.Base.Runs RealtimeVoice.Firmware.Wire

structure Endpoint where
  address : Bytes := []
  port : UInt16 := 0
deriving DecidableEq

namespace Endpoint

def valid (e : Endpoint) : Bool := (e.address.length = 4 || e.address.length = 16) && e.port ≠ 0

/-- `operator==`: an endpoint that is not valid equals none, itself included. -/
def same (a b : Endpoint) : Bool := a.valid && b.valid && a.address = b.address && a.port = b.port

end Endpoint

structure SessionGrant where
  server : Endpoint
  mediaId : Bytes
  mediaEpoch : UInt32
  initialDownlinkGeneration : UInt32
  uplinkKey : Bytes
  downlinkKey : Bytes
  uplinkSalt : Bytes
  downlinkSalt : Bytes
deriving DecidableEq

/-- What `SecureErase` leaves of a grant. -/
def SessionGrant.erased : SessionGrant :=
  { server := {}, mediaId := List.replicate 8 0, mediaEpoch := 0, initialDownlinkGeneration := 0,
    uplinkKey := List.replicate 16 0, downlinkKey := List.replicate 16 0, uplinkSalt := List.replicate 8 0,
    downlinkSalt := List.replicate 8 0 }

inductive AdmissionResult
  | acceptedAudio | acceptedProbeAck | acceptedKeepalive | invalidFraming | wrongSession | wrongSource | replay
  | authenticationFailed | staleGeneration | futureGeneration | queueFull | notReady | revoked
deriving DecidableEq

/-- The decryption of the crypto port: key, nonce, header, ciphertext and tag. -/
structure AeadPort where
  decrypt : Bytes → Bytes → Bytes → Bytes → Bytes → Option Bytes
  decrypt_length : ∀ key nonce aad ciphertext tag plaintext,
    decrypt key nonce aad ciphertext tag = some plaintext → plaintext.length = ciphertext.length

/-- A datagram by what is sealed in it, under which key and with which nonce. -/
structure Sealed where
  key : Bytes
  nonce : Bytes
  header : Header
  plaintext : Bytes
deriving DecidableEq

/-- A used place of `future_frames_`. -/
structure FutureFrame where
  sequence : UInt32
  timestamp : UInt32
  generation : UInt32
  arrivedUs : Int
  payload : Bytes
deriving DecidableEq

def futureFrameCount : Nat := 4

structure UdpSession where
  uplinkKey : Option Bytes := none
  downlinkKey : Option Bytes := none
  grant : SessionGrant := .erased
  replay : ReplayWindow := {}
  jitter : JitterBuffer := {}
  futureFrames : List (Option FutureFrame) := List.replicate futureFrameCount none
  boundSource : Endpoint := {}
  probeDatagram : Option Sealed := none
  sendSequence : UInt32 := 0
  downlinkGeneration : UInt32 := 1
  lastAuthenticatedReceiveUs : Int := 0
  playbackActive : Bool := false
  configured : Bool := false
  ready : Bool := false
  revoked : Bool := true
deriving DecidableEq

/-- The buffered frame of a generation with the lowest number. -/
def oldestMatching (generation : UInt32) (frames : List (Option FutureFrame)) : Option FutureFrame :=
  (frames.filterMap id).foldl (fun oldest frame =>
    if frame.generation = generation ∧ oldest.all (fun o => frame.sequence < o.sequence) then some frame
    else oldest) none

/-- Puts a frame in the place of another one. -/
def replaceFrame (old new : FutureFrame) : List (Option FutureFrame) → List (Option FutureFrame)
  | [] => []
  | none :: frames => none :: replaceFrame old new frames
  | some frame :: frames =>
    if frame.sequence = old.sequence then some new :: frames else some frame :: replaceFrame old new frames

namespace UdpSession

def revokeLocked (s : UdpSession) : UdpSession :=
  { s with
    revoked := true
    ready := false
    configured := false
    playbackActive := false
    boundSource := {}
    jitter := s.jitter.reset s.downlinkGeneration
    futureFrames := List.replicate futureFrameCount none
    uplinkKey := none
    downlinkKey := none
    grant := .erased
    probeDatagram := none
    sendSequence := 0
    lastAuthenticatedReceiveUs := 0 }

/-- `Configure`, with what the two `SetKey` calls answer. -/
def configure (s : UdpSession) (grant : SessionGrant) (setUplink setDownlink : Bool) : UdpSession × Bool :=
  let s := s.revokeLocked
  if !grant.server.valid || grant.mediaEpoch = 0 || grant.initialDownlinkGeneration = 0 || !setUplink ||
      !setDownlink then (s.revokeLocked, false)
  else
    ({ s with
      uplinkKey := some grant.uplinkKey
      downlinkKey := some grant.downlinkKey
      grant := grant
      sendSequence := 0
      downlinkGeneration := grant.initialDownlinkGeneration
      lastAuthenticatedReceiveUs := 0
      replay := {}
      jitter := s.jitter.reset grant.initialDownlinkGeneration
      boundSource := {}
      probeDatagram := none
      ready := false
      playbackActive := false
      configured := true
      revoked := false }, true)

def fenceGeneration (s : UdpSession) (generation : UInt32) : UdpSession × Bool :=
  if s.revoked ∨ generation < s.downlinkGeneration then (s, false)
  else if generation > s.downlinkGeneration then
    ({ s with
      playbackActive := false
      downlinkGeneration := generation
      jitter := s.jitter.reset generation
      futureFrames := s.futureFrames.map (·.filter (fun frame => ¬frame.generation < generation)) }, true)
  else
    ({ s with
      playbackActive := false
      jitter := s.jitter.reset s.downlinkGeneration
      futureFrames := List.replicate futureFrameCount none }, true)

/-- The buffered frames of a generation in the order of their numbers. -/
def matching (frames : List (Option FutureFrame)) (generation : UInt32) : List FutureFrame :=
  ((frames.filterMap id).filter (fun frame => frame.generation = generation)).insertionSort
    (fun a b => a.sequence ≤ b.sequence)

def insertFrame (jitter : JitterBuffer) (frame : FutureFrame) : JitterBuffer :=
  (jitter.insertAudio frame.sequence frame.timestamp frame.generation frame.payload frame.arrivedUs).1

def releaseFutureAudio (s : UdpSession) (generation : UInt32) : UdpSession :=
  { s with
    jitter := (matching s.futureFrames generation).foldl insertFrame s.jitter
    futureFrames := s.futureFrames.map (·.filter (fun frame => frame.generation > generation)) }

/-- Only a `response.begin` activates a playback generation; media that comes early is
kept until then. -/
def advanceGeneration (s : UdpSession) (generation : UInt32) : UdpSession × Bool :=
  if s.revoked ∨ generation < s.downlinkGeneration then (s, false)
  else
    let s :=
      if generation > s.downlinkGeneration then
        { s with downlinkGeneration := generation, jitter := s.jitter.reset generation }
      else s
    ({ s with playbackActive := true }.releaseFutureAudio s.downlinkGeneration, true)

def bufferFutureAudio (s : UdpSession) (header : Header) (plaintext : Bytes) (nowUs : Int) : UdpSession × Bool :=
  let frame : FutureFrame :=
    { sequence := header.sequence, timestamp := header.timestamp, generation := header.generation,
      arrivedUs := nowUs, payload := plaintext }
  if (s.futureFrames.filterMap id).any (fun other => other.sequence = header.sequence) then (s, true)
  else
    match place frame s.futureFrames with
    | some frames => ({ s with futureFrames := frames }, true)
    | none =>
      match oldestMatching header.generation s.futureFrames with
      | none => (s, false)
      | some oldest =>
        if header.sequence ≤ oldest.sequence then (s, false)
        else ({ s with futureFrames := replaceFrame oldest frame s.futureFrames }, true)

/-- `Build`: `output` is the capacity of the output buffer, absent for a null pointer, and
`encrypts` is what the crypto port answers. -/
def build (s : UdpSession) (type : DatagramType) (payload : Bytes) (timestamp generation : UInt32)
    (output : Option Nat) (encrypts : Bool) : UdpSession × Option Sealed :=
  let header : Header :=
    { type := type, mediaId := s.grant.mediaId, mediaEpoch := s.grant.mediaEpoch, sequence := s.sendSequence,
      timestamp := timestamp, generation := generation, payloadLength := payload.length.toUInt32 }
  match output, s.uplinkKey with
  | some capacity, some key =>
    if s.configured = false ∨ s.revoked ∨ payload.length > maxPayloadBytes ∨ s.sendSequence = 0xFFFFFFFF then (s, none)
    else if capacity < headerBytes + payload.length + tagBytes then (s, none)
    else if headerFieldsValid header .uplink = false then (s, none)
    else if encrypts = false then (s, none)
    else
      ({ s with sendSequence := s.sendSequence + 1 },
        some { key := key, nonce := makeNonce s.grant.uplinkSalt s.sendSequence, header := header,
               plaintext := payload })
  | _, _ => (s, none)

/-- The probe is built once; the same datagram is handed out again. -/
def buildProbe (s : UdpSession) (output : Option Nat) (encrypts : Bool) : UdpSession × Option Sealed :=
  if output.all (fun capacity => capacity < headerBytes + tagBytes) then (s, none)
  else
    match s.probeDatagram with
    | some probe => (s, some probe)
    | none =>
      match s.build .probe [] 0 0 (some (headerBytes + tagBytes)) encrypts with
      | (s, none) => (s, none)
      | (s, some probe) => ({ s with probeDatagram := some probe }, some probe)

def buildKeepalive (s : UdpSession) (output : Option Nat) (encrypts : Bool) : UdpSession × Option Sealed :=
  s.build .keepalive [] 0 0 output encrypts

def buildAudio (s : UdpSession) (opus : Bytes) (timestamp : UInt32) (output : Option Nat) (encrypts : Bool) :
    UdpSession × Option Sealed :=
  s.build .audio opus timestamp 0 output encrypts

/-- Before the source is bound only a probe ack of the server counts, then only the source. -/
def wrongSource (s : UdpSession) (header : Header) (source : Endpoint) : Bool :=
  if s.boundSource.valid then !source.same s.boundSource
  else header.type ≠ .probeAck || !source.same s.grant.server

def insertControl (s : UdpSession) (sequence : UInt32) (nowUs : Int) : UdpSession × JitterInsertResult :=
  let (jitter, result) := s.jitter.insertControl sequence s.downlinkGeneration nowUs
  ({ s with jitter := jitter }, result)

/-- The answer to a packet that only takes its place in the order. -/
def control (s : UdpSession) (sequence : UInt32) (nowUs : Int) (accepted : AdmissionResult) :
    UdpSession × AdmissionResult :=
  let (s, result) := s.insertControl sequence nowUs
  (s, if result = .accepted then accepted else .queueFull)

/-- `Receive` for an authenticated packet of the bound source. -/
def admitted (s : UdpSession) (header : Header) (plaintext : Bytes) (nowUs : Int) : UdpSession × AdmissionResult :=
  if header.type ≠ .audio ∧ header.generation ≠ 0 then
    (if s.ready then (s.insertControl header.sequence nowUs).1 else s, .staleGeneration)
  else
    let s := { s with lastAuthenticatedReceiveUs := nowUs }
    if header.type = .audio ∧ header.generation < s.downlinkGeneration then (s, .staleGeneration)
    else if header.type = .audio ∧ header.generation > s.downlinkGeneration then
      if s.ready then
        let (s, buffered) := s.bufferFutureAudio header plaintext nowUs
        (s, if buffered then .futureGeneration else .queueFull)
      else (s, .futureGeneration)
    else if header.type = .probeAck then
      if s.ready then s.control header.sequence nowUs .acceptedProbeAck
      else ({ s with ready := true, jitter := s.jitter.beginAt (header.sequence + 1) }, .acceptedProbeAck)
    else if s.ready = false then (s, .notReady)
    else if header.type = .audio ∧ s.playbackActive = false then
      let (s, buffered) := s.bufferFutureAudio header plaintext nowUs
      (s, if buffered then .futureGeneration else .queueFull)
    else if header.type = .keepalive then s.control header.sequence nowUs .acceptedKeepalive
    else
      let (jitter, result) :=
        s.jitter.insertAudio header.sequence header.timestamp header.generation plaintext nowUs
      ({ s with jitter := jitter }, if result = .accepted then .acceptedAudio else .queueFull)

/-- What the crypto port makes of a datagram. -/
def authenticate (aead : AeadPort) (s : UdpSession) (view : DatagramView) : Option Bytes :=
  match s.downlinkKey with
  | none => none
  | some key =>
    aead.decrypt key (makeNonce s.grant.downlinkSalt view.header.sequence) view.headerBytes view.ciphertext view.tag

/-- Every authenticated packet of the bound source uses up its number, also when it is
rejected for what it says. -/
def receive (aead : AeadPort) (s : UdpSession) (source : Endpoint) (datagram : Bytes) (nowUs : Int) :
    UdpSession × AdmissionResult :=
  if s.revoked ∨ s.configured = false then (s, .revoked)
  else
    match parseDatagram datagram .downlink with
    | none => (s, .invalidFraming)
    | some view =>
      if matchesSession view.header s.grant.mediaId s.grant.mediaEpoch = false then (s, .wrongSession)
      else if s.replay.canAccept view.header.sequence = false then (s, .replay)
      else
        match s.authenticate aead view with
        | none => (s, .authenticationFailed)
        | some plaintext =>
          if s.wrongSource view.header source then (s, .wrongSource)
          else
            { s with
              boundSource := if s.boundSource.valid then s.boundSource else source
              replay := s.replay.commit view.header.sequence }.admitted view.header plaintext nowUs

def popPlayout (s : UdpSession) (nowUs : Int) : UdpSession × PlayoutFrame :=
  if s.revoked ∨ s.ready = false then (s, {})
  else
    let (jitter, frame) := s.jitter.pop nowUs
    ({ s with jitter := jitter }, frame)

inductive Op
  | configure (grant : SessionGrant) (setUplink setDownlink : Bool)
  | revoke
  | receive (source : Endpoint) (datagram : Bytes) (nowUs : Int)
  | fenceGeneration (generation : UInt32)
  | advanceGeneration (generation : UInt32)
  | popPlayout (nowUs : Int)
  | buildProbe (output : Option Nat) (encrypts : Bool)
  | buildKeepalive (output : Option Nat) (encrypts : Bool)
  | buildAudio (opus : Bytes) (timestamp : UInt32) (output : Option Nat) (encrypts : Bool)
deriving DecidableEq

inductive Reply
  | done (ok : Bool)
  | admission (result : AdmissionResult)
  | frame (frame : PlayoutFrame)
  | built (datagram : Option Sealed)
deriving DecidableEq

/-- The operations, each under the mutex of the session. -/
def call (aead : AeadPort) (s : UdpSession) : Op → UdpSession × Reply
  | .configure grant setUplink setDownlink => (s.configure grant setUplink setDownlink).map id .done
  | .revoke => (s.revokeLocked, .done true)
  | .receive source datagram nowUs => (s.receive aead source datagram nowUs).map id .admission
  | .fenceGeneration generation => (s.fenceGeneration generation).map id .done
  | .advanceGeneration generation => (s.advanceGeneration generation).map id .done
  | .popPlayout nowUs => (s.popPlayout nowUs).map id .frame
  | .buildProbe output encrypts => (s.buildProbe output encrypts).map id .built
  | .buildKeepalive output encrypts => (s.buildKeepalive output encrypts).map id .built
  | .buildAudio opus timestamp output encrypts => (s.buildAudio opus timestamp output encrypts).map id .built

abbrev Step (aead : AeadPort) := Answers (call aead)

/-- `Build` refuses, or it seals one datagram under the next number. -/
theorem build_cases (s : UdpSession) (type : DatagramType) (payload : Bytes) (timestamp generation : UInt32)
    (output : Option Nat) (encrypts : Bool) :
    s.build type payload timestamp generation output encrypts = (s, none) ∨
      ∃ key, s.uplinkKey = some key ∧ s.configured = true ∧ s.sendSequence ≠ 0xFFFFFFFF ∧
        s.build type payload timestamp generation output encrypts =
          ({ s with sendSequence := s.sendSequence + 1 },
            some
              { key := key
                nonce := makeNonce s.grant.uplinkSalt s.sendSequence
                header :=
                  { type := type, mediaId := s.grant.mediaId, mediaEpoch := s.grant.mediaEpoch,
                    sequence := s.sendSequence, timestamp := timestamp, generation := generation,
                    payloadLength := payload.length.toUInt32 }
                plaintext := payload }) := by
  unfold build
  cases output with
  | none => exact .inl rfl
  | some capacity =>
    cases hkey : s.uplinkKey with
    | none => exact .inl rfl
    | some key =>
      dsimp only
      by_cases hrefused : s.configured = false ∨ s.revoked = true ∨ payload.length > maxPayloadBytes ∨
          s.sendSequence = 0xFFFFFFFF
      · rw [if_pos hrefused]
        exact .inl rfl
      · rw [if_neg hrefused]
        rw [not_or, Bool.not_eq_false, not_or, not_or] at hrefused
        split
        · exact .inl rfl
        · split
          · exact .inl rfl
          · split
            · exact .inl rfl
            · exact .inr ⟨key, rfl, hrefused.1, hrefused.2.2.2, rfl⟩

end UdpSession

end RealtimeVoice.Firmware
