import RealtimeVoice.Base.Numbering
import RealtimeVoice.Udp.Gateway

namespace RealtimeVoice.Udp.Gateway

open RealtimeVoice.Base.Runs RealtimeVoice.Base.Numbering RealtimeVoice.Contracts

def maxPayloadBytes : Nat := 1200
def headerBytes : Nat := 32
def tagBytes : Nat := 16

/-- A datagram of the session by what is encrypted in it; key and salt are those of the
grant, and the nonce is the salt with the number of the header. -/
structure Sealed where
  header : UdpPacketHeader
  plaintext : List UInt8
deriving DecidableEq

/-- `struct.pack` takes the fields of the header. -/
def packs (h : UdpPacketHeader) : Bool :=
  h.mediaEpoch ≤ 0xFFFFFFFF && h.sequence ≤ 0xFFFFFFFF && h.timestamp ≤ 0xFFFFFFFF && h.generation ≤ 0xFFFFFFFF &&
    h.payloadLength ≤ 0xFFFFFFFF

/-- What `_send` uses of the session and changes in it. -/
structure Downlink where
  mediaId : List UInt8
  mediaEpoch : Nat
  expiresAt : Time
  sequence : Nat := 0
  probeAckDatagram : Option Sealed := none
deriving DecidableEq

/-- What one call of `_send` meets: the grant, the clock, whether source and transport
are there, and whether encryption and socket succeed. -/
structure SendReads where
  expired : Bool
  wall : Time
  connected : Bool
  encrypts : Bool
  sends : Bool
deriving DecidableEq

inductive SendResult
  | sent (sequence : Nat)
  | grantExpired | payloadTooLarge | unavailable | exhausted | unpackable | encryptionFailed | datagramTooLarge
  | socketFailed
deriving DecidableEq

namespace Downlink

/-- `_send`, with the datagram it hands to the socket. The counter moves before
anything that can fail. -/
def send (s : Downlink) (flags : Flag) (payload : List UInt8) (timestamp generation : Nat) (r : SendReads) :
    Downlink × Option Sealed × SendResult :=
  if r.expired ∨ r.wall ≥ s.expiresAt then (s, none, .grantExpired)
  else if payload.length > maxPayloadBytes then (s, none, .payloadTooLarge)
  else if r.connected = false then (s, none, .unavailable)
  else if s.sequence ≥ 0xFFFFFFFF then (s, none, .exhausted)
  else
    let header : UdpPacketHeader :=
      { flags := flags, mediaId := s.mediaId, mediaEpoch := s.mediaEpoch, sequence := s.sequence,
        timestamp := timestamp % 2 ^ 32, generation := generation, payloadLength := payload.length }
    let s' := { s with sequence := s.sequence + 1 }
    if packs header = false then (s', none, .unpackable)
    else if r.encrypts = false then (s', none, .encryptionFailed)
    else if headerBytes + payload.length + tagBytes > maxDatagramBytes then (s', none, .datagramTooLarge)
    else
      let datagram : Sealed := { header := header, plaintext := payload }
      if r.sends = false then (s', some datagram, .socketFailed)
      else
        ({ s' with
          probeAckDatagram :=
            if flags = .probeAck ∧ s.probeAckDatagram = none then some datagram else s.probeAckDatagram },
          some datagram, .sent s.sequence)

inductive Call
  | send (flags : Flag) (payload : List UInt8) (timestamp generation : Nat) (reads : SendReads)
  | reackProbe

/-- A repeated initial probe is answered with the datagram that answered the first one. -/
def call (s : Downlink) : Call → Downlink × Option Sealed × SendResult
  | .send flags payload timestamp generation reads => s.send flags payload timestamp generation reads
  | .reackProbe =>
    (s, s.probeAckDatagram, match s.probeAckDatagram with
      | none => .unavailable
      | some datagram => .sent datagram.header.sequence)

abbrev Step := Answers call

abbrev Event := Call × Option Sealed × SendResult

/-- The datagrams handed to the socket, in order. -/
def handed (es : List Event) : List Sealed := es.filterMap (fun e => e.2.1)

def number (d : Sealed) : Nat := d.header.sequence

variable {s s' s₀ : Downlink} {es : List Event}

/-- A call that hands a datagram to the socket either hands the kept one again or
numbers a new one with the counter, which moves on. -/
theorem call_cases {c : Call} {datagram : Option Sealed} {result : SendResult}
    (h : s.call c = (s', datagram, result)) :
    (s'.sequence = s.sequence ∧ s'.probeAckDatagram = s.probeAckDatagram ∧ ∀ d ∈ datagram, d ∈ s.probeAckDatagram) ∨
      (s.sequence < 0xFFFFFFFF ∧ s'.sequence = s.sequence + 1 ∧ (∀ d ∈ datagram, number d = s.sequence) ∧
        ∀ d ∈ s'.probeAckDatagram, d ∈ s.probeAckDatagram ∨ d ∈ datagram) := by
  cases c with
  | reackProbe =>
    rw [call, Prod.mk.injEq, Prod.mk.injEq] at h
    obtain ⟨rfl, rfl, -⟩ := h
    exact .inl ⟨rfl, rfl, fun d hd => hd⟩
  | send flags payload timestamp generation r =>
    rw [call, send] at h
    have hkeep : ∀ {outcome}, (s, (none : Option Sealed), outcome) = (s', datagram, result) →
        s'.sequence = s.sequence ∧ s'.probeAckDatagram = s.probeAckDatagram ∧ ∀ d ∈ datagram, d ∈ s.probeAckDatagram := by
      intro outcome heq
      rw [Prod.mk.injEq, Prod.mk.injEq] at heq
      obtain ⟨rfl, rfl, -⟩ := heq
      exact ⟨rfl, rfl, by simp⟩
    split at h
    · exact .inl (hkeep h)
    split at h
    · exact .inl (hkeep h)
    split at h
    · exact .inl (hkeep h)
    split at h
    · exact .inl (hkeep h)
    next hroom =>
    rw [not_le] at hroom
    right
    refine ⟨hroom, ?_⟩
    dsimp only at h
    -- from here on the number is used up, whatever fails
    have hlost : ∀ {outcome}, ({ s with sequence := s.sequence + 1 }, (none : Option Sealed), outcome) =
        (s', datagram, result) → s'.sequence = s.sequence + 1 ∧ (∀ d ∈ datagram, number d = s.sequence) ∧
        ∀ d ∈ s'.probeAckDatagram, d ∈ s.probeAckDatagram ∨ d ∈ datagram := by
      intro outcome heq
      rw [Prod.mk.injEq, Prod.mk.injEq] at heq
      obtain ⟨rfl, rfl, -⟩ := heq
      exact ⟨rfl, by simp, fun d hd => .inl hd⟩
    split at h
    · exact hlost h
    split at h
    · exact hlost h
    split at h
    · exact hlost h
    split at h
    · rw [Prod.mk.injEq, Prod.mk.injEq] at h
      obtain ⟨rfl, rfl, -⟩ := h
      refine ⟨rfl, ?_, fun d hd => .inl hd⟩
      intro d hd
      obtain rfl := Option.some.inj hd
      rfl
    · rw [Prod.mk.injEq, Prod.mk.injEq] at h
      obtain ⟨rfl, rfl, -⟩ := h
      refine ⟨rfl, ?_, ?_⟩
      · intro d hd
        obtain rfl := Option.some.inj hd
        rfl
      · intro d hd
        dsimp only at hd
        split at hd
        · exact .inr hd
        · exact .inl hd

/-- The numbers are below the counter, and the kept answer was handed out. -/
structure Sent (s : Downlink) (sent : List Sealed) : Prop where
  numbered : Numbered number sent
  below : ∀ d ∈ sent, number d < s.sequence
  bound : s.sequence ≤ 0xFFFFFFFF
  kept : ∀ d ∈ s.probeAckDatagram, d ∈ sent

theorem sent_step {sent : List Sealed} {e : Event} (h : Sent s sent) (hstep : Step s e s') :
    Sent s' (sent ++ e.2.1.toList) := by
  obtain ⟨hsequence, hprobe, hdatagram⟩ | ⟨hroom, hsequence, hnumber, hprobe⟩ := call_cases hstep
  · refine ⟨h.numbered.toList fun d hd => .inl (h.kept d (hdatagram d hd)), ?_, ?_, ?_⟩
    · intro d hd
      rw [List.mem_append, Option.mem_toList] at hd
      rw [hsequence]
      exact h.below d (hd.elim id (fun hd => h.kept d (hdatagram d hd)))
    · rw [hsequence]
      exact h.bound
    · intro d hd
      rw [hprobe] at hd
      exact List.mem_append_left _ (h.kept d hd)
  · refine ⟨h.numbered.toList fun d hd => .inr fun y hy => ?_, ?_, ?_, ?_⟩
    · rw [hnumber d hd]
      exact h.below y hy
    · intro d hd
      rw [List.mem_append, Option.mem_toList] at hd
      obtain hd | hd := hd
      · have hlt := h.below d hd
        omega
      · have heq := hnumber d hd
        omega
    · omega
    · intro d hd
      obtain hd | hd := hprobe d hd
      · exact List.mem_append_left _ (h.kept d hd)
      · exact List.mem_append_right _ (Option.mem_toList.mpr hd)

theorem run_sent (h : Run Step s₀ es s) (hsequence : s₀.sequence = 0) (hprobe : s₀.probeAckDatagram = none) :
    Sent s (handed es) := by
  refine h.invariant (R := fun es s => Sent s (handed es)) ?_ ?_
  · exact ⟨.nil, by simp [handed], by omega, by simp [hprobe]⟩
  · intro es t e u _ hsent hstep
    have hsnoc : handed (es ++ [e]) = handed es ++ e.2.1.toList := by
      rw [handed, handed, List.filterMap_append]
      cases hd : e.2.1 <;> simp [hd]
    rw [hsnoc]
    exact sent_step hsent hstep

/-- The session model's `_send` of a packet without payload moves the counter and keeps
the first probe ack as this one does. -/
theorem send_session {session session' : UdpMediaSession} {flags : Flag} {r : Reads} (timestamp generation : Nat)
    (h : session.send flags r = some session') (hsequence : s.sequence = session.downlinkSequence)
    (hexpires : s.expiresAt = session.grant.expiresAt)
    (hprobe : s.probeAckDatagram.map number = session.probeAckDatagram) (hepoch : s.mediaEpoch ≤ 0xFFFFFFFF)
    (hgeneration : generation ≤ 0xFFFFFFFF) :
    ∃ s' d, s.send flags [] timestamp generation
        { expired := session.expired, wall := r.sendWall, connected := session.source.isSome && r.transport,
          encrypts := true, sends := true } = (s', some d, .sent session.downlinkSequence) ∧
      s'.sequence = session'.downlinkSequence ∧ s'.probeAckDatagram.map number = session'.probeAckDatagram := by
  rw [UdpMediaSession.send] at h
  split at h
  · cases h
  split at h
  · cases h
  split at h
  · cases h
  next hlive hconnected hroom =>
  obtain rfl := Option.some.inj h
  have hup : (session.source.isSome && r.transport) = true := by
    rw [not_or] at hconnected
    simpa [Option.isSome_iff_ne_none] using hconnected
  rw [send, hexpires, if_neg hlive, if_neg (by decide), hup, if_neg (by simp), if_neg (by omega)]
  dsimp only
  have hpacks : packs ⟨flags, s.mediaId, s.mediaEpoch, s.sequence, timestamp % 2 ^ 32, generation,
      ([] : List UInt8).length⟩ = true := by
    have hlt : timestamp % 2 ^ 32 < 2 ^ 32 := Nat.mod_lt _ (by decide)
    simp only [packs, Bool.and_eq_true, decide_eq_true_eq, List.length_nil]
    omega
  rw [if_neg (by rw [Bool.not_eq_false]; exact hpacks), if_neg (by decide), if_neg (by decide), if_neg (by decide)]
  refine ⟨_, _, by rw [hsequence], rfl, ?_⟩
  dsimp only
  have hnone : s.probeAckDatagram = none ↔ session.probeAckDatagram = none := by
    rw [← hprobe, Option.map_eq_none_iff]
  by_cases hfirst : flags = .probeAck ∧ s.probeAckDatagram = none
  · rw [if_pos hfirst, if_pos ⟨hfirst.1, hnone.mp hfirst.2⟩]
    rfl
  · rw [if_neg hfirst, if_neg (by rw [← hnone]; exact hfirst), hprobe]

end Downlink

end RealtimeVoice.Udp.Gateway
