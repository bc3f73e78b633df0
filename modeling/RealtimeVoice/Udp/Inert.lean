import RealtimeVoice.Firmware.UdpSession
import RealtimeVoice.Desktop.UdpDownlink

namespace RealtimeVoice.Udp

namespace Gateway

open UdpMediaSession

variable {aead : AesGcm} {key salt data : Bytes} {addr source : Addr} {s : UdpMediaSession} {d : Datagram} {r : Reads}

theorem decode_some {h : UdpPacketHeader} {encrypted : Bytes} (hd : decode data = some (h, encrypted)) :
    encrypted = data.drop udpHeaderBytes ∧ toBytes4 h.sequence = sequenceBytes data := by
  simp only [decode] at hd
  split_ifs at hd with hshort
  obtain ⟨rfl, rfl⟩ := Prod.mk.inj (Option.some.inj hd)
  refine ⟨rfl, toBytes4_bigEndian (length_sequenceBytes ?_)⟩
  omega

/-- What the cipher has not produced does not decrypt. -/
theorem datagramOf_payload (h : ¬Produced aead key salt data) (addr : Addr) :
    (datagramOf aead key salt data addr).payload = none := by
  simp only [datagramOf]
  cases hd : decode data with
  | none => rfl
  | some decoded =>
    obtain ⟨header, encrypted⟩ := decoded
    obtain ⟨hencrypted, hsequence⟩ := decode_some hd
    rw [Option.bind_some, Option.eq_none_iff_forall_ne_some]
    intro payload hpayload
    have hproduced := aead.authentic hpayload
    rw [hencrypted, hsequence] at hproduced
    exact h ⟨payload, hproduced⟩

theorem admitted_payload (h : d.payload = none) (r : Reads) : s.admitted d r = none := by
  rw [admitted]
  split
  · rfl
  · split
    · rfl
    · rw [h]
      dsimp only
      split_ifs <;> rfl

theorem admitted_repeated {header : UdpPacketHeader} {repeated : Bool} {payload : List UInt8}
    (h : s.admitted d r = some (header, repeated, payload)) :
    repeated = s.repeatedInitialProbe header d.addr r.monotonic := by
  rw [admitted] at h
  split at h
  · cases h
  · split at h
    · cases h
    · dsimp only at h
      split_ifs at h
      obtain ⟨payload', -, heq⟩ := Option.map_eq_some_iff.mp h
      obtain ⟨rfl, hrepeated⟩ := Prod.mk.inj heq
      exact (Prod.mk.inj hrepeated).1.symm

/-- Whether `_handle` gives a datagram to the socket: `_send` moves the counter, and the
kept answer to the initial probe uses up one of its repeats. -/
def transmits (s : UdpMediaSession) (d : Datagram) (r : Reads) : Bool :=
  (s.handle d r).1.downlinkSequence ≠ s.downlinkSequence ||
    (s.handle d r).1.probeReackRemaining ≠ s.probeReackRemaining

theorem handle_foreign (hsource : s.source = some source) (haddr : d.addr ≠ source) : s.handle d r = (s, none) := by
  rw [handle]
  split
  · rfl
  · rename_i header repeated payload hadmitted
    have hnew : repeated = false := by
      rw [admitted_repeated hadmitted, repeatedInitialProbe, hsource]
      simp [Ne.symm haddr]
    rw [hnew, if_neg (by simp), if_pos ⟨by simp [hsource], by simp [hsource, Ne.symm haddr]⟩]

theorem handle_unproduced (h : ¬Produced aead key salt data) (addr : Addr) :
    s.handle (datagramOf aead key salt data addr) r = (s, none) := by
  rw [handle, admitted_payload (datagramOf_payload h addr)]

end Gateway

section Firmware

open RealtimeVoice.Firmware RealtimeVoice.Firmware.Wire

variable {gcm : AesGcm} {aead : AeadPort} {s : UdpSession} {source : Endpoint} {data : Bytes} {nowUs : Int}

/-- The crypto port decrypts with the cipher, the tag behind the ciphertext. -/
def PortOf (gcm : AesGcm) (aead : AeadPort) : Prop :=
  ∀ key nonce aad ciphertext tag plaintext, aead.decrypt key nonce aad ciphertext tag = some plaintext →
    gcm.decrypt key nonce (ciphertext ++ tag) aad = some plaintext

/-- The result of a packet that used up its number. -/
def commits : AdmissionResult → Bool
  | .acceptedAudio | .acceptedProbeAck | .acceptedKeepalive | .futureGeneration | .queueFull | .staleGeneration
  | .notReady => true
  | _ => false

theorem authenticate_unproduced (hport : PortOf gcm aead)
    (h : ∀ key, s.downlinkKey = some key → ¬Produced gcm key s.grant.downlinkSalt data) {view : DatagramView}
    (hview : parseDatagram data .downlink = some view) : s.authenticate aead view = none := by
  rw [UdpSession.authenticate]
  split
  · rfl
  · rename_i key hkey
    rw [Option.eq_none_iff_forall_ne_some]
    intro plaintext hplaintext
    obtain ⟨hheader, hrest, hsequence⟩ := parseDatagram_parts hview
    have hproduced := gcm.authentic (hport _ _ _ _ _ _ hplaintext)
    rw [hrest, makeNonce, hsequence, hheader] at hproduced
    exact h key hkey ⟨plaintext, hproduced⟩

/-- A packet that does not authenticate, or comes from a wrong source, changes nothing. -/
theorem receive_inert (h : ∀ view plaintext, parseDatagram data .downlink = some view →
    s.authenticate aead view = some plaintext → s.wrongSource view.header source = true) :
    (s.receive aead source data nowUs).1 = s ∧ commits (s.receive aead source data nowUs).2 = false := by
  rw [UdpSession.receive]
  split
  · exact ⟨rfl, rfl⟩
  split
  · exact ⟨rfl, rfl⟩
  next view hview =>
  split
  · exact ⟨rfl, rfl⟩
  split
  · exact ⟨rfl, rfl⟩
  split
  · exact ⟨rfl, rfl⟩
  next plaintext hplaintext =>
  rw [if_pos (h view plaintext hview hplaintext)]
  exact ⟨rfl, rfl⟩

end Firmware

section Desktop

open RealtimeVoice.Desktop RealtimeVoice.Contracts

variable {aead : AesGcm} {s : UdpDownlink} {data : Bytes}

theorem of_guard {ε α : Type} {p : Prop} [Decidable p] {e : ε} {x : Except ε α} {y : α}
    (h : (if p then .error e else x) = .ok y) : ¬p ∧ x = .ok y := by
  split at h
  · cases h
  · exact ⟨by assumption, h⟩

theorem decodeHeader_ok {header : MediaFrame} {encrypted : Bytes} (h : decodeHeader data = .ok (header, encrypted)) :
    encrypted = data.drop udpHeaderBytes ∧ toBytes4 header.sequence = sequenceBytes data := by
  rw [decodeHeader] at h
  obtain ⟨hlong, h⟩ := of_guard h
  obtain ⟨-, h⟩ := of_guard (of_guard (of_guard (of_guard (of_guard h).2).2).2).2
  obtain ⟨-, h⟩ := of_guard (of_guard (of_guard (of_guard h).2).2).2
  obtain ⟨rfl, rfl⟩ := Prod.mk.inj (Except.ok.inj h)
  refine ⟨rfl, toBytes4_bigEndian (length_sequenceBytes ?_)⟩
  omega

theorem accept_unproduced (h : ¬Produced aead s.key s.salt data) (expectedProbeAck : Bool)
    (validator : Option Validator) (now armNow : Time) :
    ∃ failure, s.accept aead data expectedProbeAck validator now armNow = (s, .error failure) := by
  rw [UdpDownlink.accept]
  split
  · exact ⟨_, rfl⟩
  · split
    · exact ⟨_, rfl⟩
    · rename_i header encrypted hdecode
      obtain ⟨hencrypted, hsequence⟩ := decodeHeader_ok hdecode
      have hnone : aead.decrypt s.key (s.salt ++ toBytes4 header.sequence) encrypted (data.take udpHeaderBytes) =
          none := by
        rw [Option.eq_none_iff_forall_ne_some]
        intro payload hpayload
        have hproduced := aead.authentic hpayload
        rw [hencrypted, hsequence] at hproduced
        exact h ⟨payload, hproduced⟩
      rw [hnone]
      split_ifs
      · exact ⟨_, rfl⟩
      · exact ⟨_, rfl⟩
      · exact ⟨_, rfl⟩

end Desktop

open Gateway RealtimeVoice.Firmware RealtimeVoice.Desktop RealtimeVoice.Contracts in
/-- In every state of each receiver, a byte string that the cipher has not produced and
anything that comes from another address than the pinned one changes nothing, hands on no
packet and is not answered. -/
theorem foreign_inert (gcm : AesGcm) (port : AeadPort) (hport : PortOf gcm port) :
    (∀ (s : UdpMediaSession) (key salt data : Bytes) (addr : Addr) (r : Gateway.Reads),
      ¬Produced gcm key salt data ∨ (∃ source, s.source = some source ∧ addr ≠ source) →
      s.handle (datagramOf gcm key salt data addr) r = (s, none) ∧
        transmits s (datagramOf gcm key salt data addr) r = false) ∧
    (∀ (s : UdpSession) (source : Endpoint) (data : Bytes) (nowUs : Int),
      (∀ key, s.downlinkKey = some key → ¬Produced gcm key s.grant.downlinkSalt data) ∨
        (s.boundSource.valid = true ∧ source.same s.boundSource = false) →
      (s.receive port source data nowUs).1 = s ∧ commits (s.receive port source data nowUs).2 = false) ∧
    ∀ (s : UdpDownlink) (remote addr : Addr) (data : Bytes) (expectedProbeAck : Bool) (validator : Option Validator)
      (now armNow : Time),
      ¬Produced gcm s.key s.salt data ∨ addr ≠ remote →
      (s.receiveFrom gcm remote addr data expectedProbeAck validator now armNow).1 = s ∧
        ∀ frame, (s.receiveFrom gcm remote addr data expectedProbeAck validator now armNow).2 ≠ some (.ok frame) := by
  refine ⟨?_, ?_, ?_⟩
  · intro s key salt data addr r h
    have hinert : s.handle (datagramOf gcm key salt data addr) r = (s, none) := by
      obtain h | ⟨source, hsource, haddr⟩ := h
      · exact handle_unproduced h addr
      · exact handle_foreign hsource haddr
    exact ⟨hinert, by simp [transmits, hinert]⟩
  · intro s source data nowUs h
    apply receive_inert
    intro view plaintext hview hplaintext
    obtain h | ⟨hbound, hsource⟩ := h
    · rw [authenticate_unproduced hport h hview] at hplaintext
      cases hplaintext
    · simp [UdpSession.wrongSource, hbound, hsource]
  · intro s remote addr data expectedProbeAck validator now armNow h
    rw [UdpDownlink.receiveFrom]
    split_ifs with haddr
    · exact ⟨rfl, by simp⟩
    · obtain ⟨failure, hfailure⟩ := accept_unproduced (h.resolve_right haddr) expectedProbeAck validator now armNow
      rw [hfailure]
      exact ⟨rfl, by simp⟩

/-- A cipher that shows its key as the tag. -/
def demoGcm : AesGcm where
  encrypt key _ plaintext _ := plaintext ++ key
  decrypt key _ data _ :=
    if data.drop (data.length - key.length) = key then some (data.take (data.length - key.length)) else none
  authentic := by
    intro key nonce data aad plaintext h
    rw [Option.ite_none_right_eq_some] at h
    obtain ⟨htag, hplaintext⟩ := h
    have hsplit := List.take_append_drop (data.length - key.length) data
    rw [htag, Option.some.inj hplaintext] at hsplit
    exact hsplit.symm

def demoKey : Bytes := List.replicate 16 7

/-- A keepalive of the session with a tag of zeros. -/
def forged : Bytes :=
  [0x56, 0x41, 1, 8] ++ List.replicate 8 1 ++ [0, 0, 0, 1] ++ [0, 0, 0, 5] ++ List.replicate 12 0 ++ List.replicate 16 0

theorem forged_unproduced (salt : Bytes) : ¬Produced demoGcm demoKey salt forged := by
  rintro ⟨payload, h⟩
  have htag := congrArg (fun l : Bytes => l.reverse.take 16) h
  have hkey : (demoGcm.encrypt demoKey (salt ++ sequenceBytes forged) payload (forged.take udpHeaderBytes)).reverse.take 16 =
      demoKey := by
    simp [demoGcm, demoKey]
  rw [hkey] at htag
  revert htag
  decide

def demoPort : RealtimeVoice.Firmware.AeadPort where
  decrypt key nonce aad ciphertext tag :=
    (demoGcm.decrypt key nonce (ciphertext ++ tag) aad).filter (fun p => p.length = ciphertext.length)
  decrypt_length := by
    intro key nonce aad ciphertext tag plaintext h
    rw [Option.filter_eq_some_iff] at h
    simpa using h.2

theorem demoPort_portOf : PortOf demoGcm demoPort := by
  intro key nonce aad ciphertext tag plaintext h
  exact (Option.filter_eq_some_iff.mp h).1

/-- Each receiver with a session under the key, pinned to a source where it pins one. -/
def demoServer : Gateway.UdpMediaSession :=
  { grant := { mediaId := List.replicate 8 1, mediaEpoch := 1, expiresAt := 60, probeTimeoutMs := 2000 }
    ready := true, source := some ("10.0.0.2", 4000), nextAudioSequence := some 1 }

def demoReads : Gateway.Reads :=
  { wall := 0, sendWall := 0, monotonic := 0, acknowledgedAt := 0, transport := true }

def demoFirmware : RealtimeVoice.Firmware.UdpSession :=
  let grant : RealtimeVoice.Firmware.SessionGrant :=
    { RealtimeVoice.Firmware.SessionGrant.erased with
        server := { address := [10, 0, 0, 1], port := 9000 }, mediaId := List.replicate 8 1, mediaEpoch := 1,
        initialDownlinkGeneration := 1, downlinkKey := demoKey }
  { (RealtimeVoice.Firmware.UdpSession.configure {} grant true true).1 with boundSource := grant.server, ready := true }

def demoDesktop : RealtimeVoice.Desktop.UdpDownlink :=
  { maxMediaAge := 1, mediaId := List.replicate 8 1, mediaEpoch := 1, key := demoKey, salt := [] }

/-- The forged keepalive goes as far as the cipher in all three. -/
theorem foreign_inert_forged :
    ¬Produced demoGcm demoKey [] forged ∧
    demoServer.handle (Gateway.datagramOf demoGcm demoKey [] forged ("10.0.0.2", 4000)) demoReads = (demoServer, none) ∧
    (demoFirmware.receive demoPort demoFirmware.grant.server forged 0).1 = demoFirmware ∧
    (demoFirmware.receive demoPort demoFirmware.grant.server forged 0).2 = .authenticationFailed ∧
    (demoDesktop.receiveFrom demoGcm ("10.0.0.1", 9000) ("10.0.0.1", 9000) forged false none 0 0).1 = demoDesktop := by
  have hforged := forged_unproduced []
  obtain ⟨hserver, hfirmware, hdesktop⟩ := foreign_inert demoGcm demoPort demoPort_portOf
  refine ⟨hforged, (hserver demoServer demoKey [] forged ("10.0.0.2", 4000) demoReads (.inl hforged)).1, ?_,
    by decide +kernel, (hdesktop demoDesktop _ _ forged false none 0 0 (.inl hforged)).1⟩
  refine (hfirmware demoFirmware _ forged 0 (.inl fun key hkey => ?_)).1
  obtain rfl : demoKey = key := Option.some.inj hkey
  exact forged_unproduced _

end RealtimeVoice.Udp
