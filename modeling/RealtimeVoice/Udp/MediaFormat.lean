import RealtimeVoice.Udp.Sending
import RealtimeVoice.Rva.WssMedia
import RealtimeVoice.Firmware.MediaHeader
import RealtimeVoice.Desktop.MediaFrames

namespace RealtimeVoice.Udp.MediaFormat

open RealtimeVoice.Base RealtimeVoice.Rva RealtimeVoice.Udp.Gateway
open RealtimeVoice.Desktop hiding SendReads SendResult

/-- Who encodes and decodes media headers. -/
inductive Implementation
  | serverUdp
  | serverWss
  | firmwareUdp (direction : Firmware.Wire.Direction)
  | firmwareWss (direction : Firmware.Wire.Direction)
  | desktop (encrypted : Bool)

def codec : Implementation → Codec MediaPacket Bytes
  | .serverUdp => PacketHeader.codec
  | .serverWss => WssMediaFrame.media
  | .firmwareUdp direction => Firmware.Wire.media direction
  | .firmwareWss direction => Firmware.MediaHeader.media direction
  | .desktop encrypted => MediaFrame.media encrypted

/-- What a sender guarantees beyond what its encoder checks. -/
def Able : Implementation → MediaPacket → Prop
  | .serverUdp, packet => PacketHeader.Sealed packet
  | .firmwareUdp direction, packet => ∀ q, Firmware.Wire.ofPacket packet = some q → Firmware.Wire.Sendable direction q
  | .firmwareWss _, packet => packet.2.length = packet.1.payloadLength
  | _, _ => True

/-- The wires on which one of the implementations does not encode what it decodes. -/
def Misread : Implementation → Bytes → Prop
  | .desktop encrypted, wire => MediaFrame.StrayPayload wire encrypted
  | _, _ => False

theorem codec_lossless (i : Implementation) : (codec i).Lossless (Able i) := by
  cases i with
  | serverUdp => exact PacketHeader.codec_lossless
  | serverWss => exact WssMediaFrame.media_lossless
  | firmwareUdp direction => exact Firmware.Wire.media_lossless direction
  | firmwareWss direction => exact Firmware.MediaHeader.media_lossless direction
  | desktop encrypted => exact MediaFrame.media_lossless encrypted

theorem codec_canonical (i : Implementation) (wire : Bytes) : (codec i).CanonicalAt wire ↔ ¬Misread i wire := by
  cases i with
  | serverUdp => exact iff_of_true (PacketHeader.codec_canonical wire) id
  | serverWss => exact iff_of_true (WssMediaFrame.media_canonical wire) id
  | firmwareUdp direction => exact iff_of_true (Firmware.Wire.media_canonical direction wire) id
  | firmwareWss direction => exact iff_of_true (Firmware.MediaHeader.media_canonical direction wire) id
  | desktop encrypted => exact MediaFrame.media_canonical encrypted wire

theorem codec_writes (i : Implementation) : (codec i).Writes PacketHeader.pack := by
  cases i with
  | serverUdp => exact fun _ _ h => h
  | serverWss => exact WssMediaFrame.media_writes
  | firmwareUdp direction => exact Firmware.Wire.media_writes direction
  | firmwareWss direction => exact Firmware.MediaHeader.media_writes direction
  | desktop encrypted => exact MediaFrame.media_writes encrypted

/-- Two implementations put the same header in front of the body. -/
theorem codec_header {i j : Implementation} {h : PacketHeader} {body body' wire wire' : Bytes}
    (hi : (codec i).encode (h, body) = some wire) (hj : (codec j).encode (h, body') = some wire') :
    ∃ header : Bytes, header.length = udpHeaderBytes ∧ wire = header ++ body ∧ wire' = header ++ body' := by
  obtain ⟨header, hheader, rfl⟩ := Option.map_eq_some_iff.mp (codec_writes i _ _ hi)
  obtain ⟨header', hheader', rfl⟩ := Option.map_eq_some_iff.mp (codec_writes j _ _ hj)
  obtain rfl := Option.some.inj (hheader.symm.trans hheader')
  exact ⟨header, RawHeader.length_pack hheader, rfl, rfl⟩

/-- The three calls of the gateway's `_send`. -/
inductive GatewaySend
  | audio (payload : Bytes) (timestamp generation : Nat)
  | probeAck
  | keepalive (timestamp generation : Nat)

namespace GatewaySend

def flags : GatewaySend → Flag
  | .audio _ _ _ => .audio
  | .probeAck => .probeAck
  | .keepalive _ _ => .keepalive

def payload : GatewaySend → Bytes
  | .audio payload _ _ => payload
  | _ => []

def timestamp : GatewaySend → Nat
  | .audio _ timestamp _ => timestamp
  | .probeAck => 0
  | .keepalive timestamp _ => timestamp

def generation : GatewaySend → Nat
  | .audio _ _ generation => generation
  | .probeAck => 0
  | .keepalive _ generation => generation

/-- Audio belongs to a response. -/
def Numbered : GatewaySend → Prop
  | .audio _ _ generation => 1 ≤ generation
  | _ => True

/-- Audio carries a packet, and a keepalive echoes generation zero. -/
def WellFormed : GatewaySend → Prop
  | .audio payload _ _ => payload ≠ []
  | .probeAck => True
  | .keepalive _ generation => generation = 0

theorem flags_known (c : GatewaySend) : c.flags ≠ .unknown := by
  cases c with
  | audio => exact Flag.noConfusion
  | probeAck => exact Flag.noConfusion
  | keepalive => exact Flag.noConfusion

theorem payload_nil {c : GatewaySend} (h : c.flags ≠ .audio) : c.payload = [] := by
  cases c with
  | audio => exact absurd rfl h
  | probeAck => rfl
  | keepalive => rfl

theorem wellFormed_iff {c : GatewaySend} :
    c.WellFormed ↔ (c.flags = .audio → c.payload ≠ []) ∧ (c.flags ≠ .audio → c.generation = 0) := by
  cases c with
  | audio payload timestamp generation => simp [WellFormed, flags, GatewaySend.payload]
  | probeAck => simp [WellFormed, flags, generation]
  | keepalive timestamp generation => simp [WellFormed, flags, GatewaySend.generation]

end GatewaySend

def serve (s : Downlink) (c : GatewaySend) (r : SendReads) : Downlink × Option Gateway.Sealed × SendResult :=
  s.send c.flags c.payload c.timestamp c.generation r

/-- The packet of a datagram with what encryption made of the plaintext. -/
def sealedPacket (d : Gateway.Sealed) (body : Bytes) : MediaPacket :=
  ({ flags := flagByte d.header.flags, mediaId := d.header.mediaId, mediaEpoch := d.header.mediaEpoch,
     sequence := d.header.sequence, timestamp := d.header.timestamp, generation := d.header.generation,
     payloadLength := d.header.payloadLength }, body)

variable {s s' : Downlink} {c : GatewaySend} {r : SendReads} {d : Gateway.Sealed} {result : SendResult}
  {body wire : Bytes}

/-- The datagram of a call. -/
def GatewaySend.datagram (c : GatewaySend) (s : Downlink) : Gateway.Sealed :=
  { header :=
      { flags := c.flags, mediaId := s.mediaId, mediaEpoch := s.mediaEpoch, sequence := s.sequence,
        timestamp := c.timestamp % 2 ^ 32, generation := c.generation, payloadLength := c.payload.length }
    plaintext := c.payload }

theorem serve_some (h : serve s c r = (s', some d, result)) :
    d = c.datagram s ∧ c.payload.length ≤ Gateway.maxPayloadBytes ∧ packs (c.datagram s).header = true := by
  rw [serve, Downlink.send] at h
  split at h
  · cases h
  split at h
  · cases h
  next hpayload =>
  split at h
  · cases h
  split at h
  · cases h
  dsimp only at h
  split at h
  · cases h
  next hpacks =>
  rw [Bool.not_eq_false] at hpacks
  split at h
  · cases h
  split at h
  · cases h
  refine ⟨?_, not_lt.mp hpayload, hpacks⟩
  split at h
  · exact (Option.some.inj (Prod.mk.inj (Prod.mk.inj h).2).1).symm
  · exact (Option.some.inj (Prod.mk.inj (Prod.mk.inj h).2).1).symm

/-- What the gateway hands to the socket is sealed as its header says. -/
theorem sealedPacket_sealed (h : serve s c r = (s', some d, result)) (hmediaId : s.mediaId.length = 8)
    (hepoch : s.mediaEpoch ≠ 0) (hbody : body.length = d.plaintext.length + udpTagBytes) :
    PacketHeader.Sealed (sealedPacket d body) ∧ ∃ bytes, (sealedPacket d body).1.encode = some bytes := by
  obtain ⟨rfl, hpayload, hpacks⟩ := serve_some h
  simp only [packs, Bool.and_eq_true, decide_eq_true_eq] at hpacks
  obtain ⟨⟨⟨⟨hepoch', hsequence⟩, htimestamp⟩, hgeneration⟩, hlength⟩ := hpacks
  refine ⟨⟨hmediaId, hepoch, hpayload, hbody⟩, _, RawHeader.pack_some.mpr ⟨⟨?_, ?_, ?_, ?_, ?_⟩, rfl⟩⟩
  · exact Nat.lt_succ_of_le hepoch'
  · exact Nat.lt_succ_of_le hsequence
  · exact Nat.lt_succ_of_le htimestamp
  · exact Nat.lt_succ_of_le hgeneration
  · exact Nat.lt_succ_of_le hlength

/-- The gateway never sends another kind than audio with a payload. -/
theorem not_strayPayload (h : serve s c r = (s', some d, result)) (hmediaId : s.mediaId.length = 8)
    (hpack : PacketHeader.pack (sealedPacket d body) = some wire) : ¬MediaFrame.StrayPayload wire true := by
  obtain ⟨rfl, -, -⟩ := serve_some h
  obtain ⟨bytes, hencode, rfl⟩ := Option.map_eq_some_iff.mp hpack
  have hraw : RawHeader.unpack (bytes ++ body) = (sealedPacket (c.datagram s) body).1.raw :=
    PacketHeader.unpack_encode _ hencode hmediaId
  intro hstray
  have hother := hstray.other
  have hpayload := hstray.payload
  change flagOf (RawHeader.unpack (bytes ++ body)).flags ≠ .audio at hother
  change (RawHeader.unpack (bytes ++ body)).payloadLength ≠ 0 at hpayload
  rw [hraw] at hother hpayload
  have hflags : c.flags ≠ .audio := by
    rw [← flagOf_flagByte c.flags]
    exact hother
  exact hpayload (congrArg List.length (GatewaySend.payload_nil hflags))

/-- The desktop reads a datagram of the gateway if and only if it is well formed. -/
theorem desktop_decode (h : serve s c r = (s', some d, result)) (hmediaId : s.mediaId.length = 8)
    (hepoch : s.mediaEpoch ≠ 0) (hbody : body.length = d.plaintext.length + udpTagBytes)
    (hpack : PacketHeader.pack (sealedPacket d body) = some wire) :
    (codec (.desktop true)).decode wire = some (sealedPacket d body) ↔ c.WellFormed := by
  have hcanonical := (codec_canonical (.desktop true) wire).mpr (not_strayPayload h hmediaId hpack)
  rw [(codec_lossless (.desktop true)).decode_iff (codec_writes _) hpack trivial hcanonical]
  obtain ⟨-, bytes, hencode⟩ := sealedPacket_sealed h hmediaId hepoch hbody
  obtain ⟨rfl, hpayload, -⟩ := serve_some h
  obtain ⟨hepoch', hsequence, htimestamp, hgeneration, -⟩ := PacketHeader.encode_fits hencode
  have hsize : (sealedPacket (c.datagram s) body).2.length =
      (sealedPacket (c.datagram s) body).1.payloadLength + tagOf true := hbody
  have hframe : MediaFrame.ofPacket (sealedPacket (c.datagram s) body) true =
      some { flags := c.flags, mediaId := s.mediaId, mediaEpoch := s.mediaEpoch, sequence := s.sequence,
             timestamp := c.timestamp % 2 ^ 32, generation := c.generation,
             payload := body.take c.payload.length } := by
    rw [MediaFrame.ofPacket, if_pos hsize]
    simp only [sealedPacket, GatewaySend.datagram, flagOf_flagByte]
  have hlength : (body.take c.payload.length).length = c.payload.length := by
    rw [List.length_take, hbody]
    exact Nat.min_eq_left (Nat.le_add_right c.payload.length udpTagBytes)
  have hempty : body.take c.payload.length = [] ↔ c.payload = [] := by
    rw [← List.length_eq_zero_iff, hlength, List.length_eq_zero_iff]
  change ((MediaFrame.media true).encode _).isSome ↔ _
  rw [MediaFrame.media_encode_isSome hencode, GatewaySend.wellFormed_iff]
  constructor
  · rintro ⟨f, hf, hchecked⟩
    obtain rfl := Option.some.inj (hframe.symm.trans hf)
    exact ⟨fun haudio hnil => hchecked.audio haudio (hempty.mpr hnil), hchecked.playback⟩
  · rintro ⟨haudio, hplayback⟩
    refine ⟨_, hframe, c.flags_known, hmediaId, ⟨Nat.one_le_iff_ne_zero.mpr hepoch, Nat.le_of_lt_succ hepoch'⟩,
      Nat.le_of_lt_succ hsequence, Nat.le_of_lt_succ htimestamp, Nat.le_of_lt_succ hgeneration, ?_, ?_, ?_, hplayback⟩
    · rw [hlength]
      exact hpayload
    · exact fun h hnil => haudio h (hempty.mp hnil)
    · exact fun h => hempty.mpr (GatewaySend.payload_nil h)

/-- What the firmware calls the kind of a datagram of the gateway. -/
def GatewaySend.type : GatewaySend → Firmware.Wire.DatagramType
  | .audio _ _ _ => .audio
  | .probeAck => .probeAck
  | .keepalive _ _ => .keepalive

theorem parseType_flags (c : GatewaySend) : Firmware.Wire.parseType (flagByte c.flags) = some c.type := by
  cases c with
  | audio => rfl
  | probeAck => rfl
  | keepalive => rfl

/-- The firmware's checks let the header of a well-formed datagram through. -/
theorem headerFieldsValid_sealed {h : Firmware.Wire.Header} (hfields : h.fields = (sealedPacket (c.datagram s) body).1)
    (htype : h.type = c.type) (hepoch : s.mediaEpoch ≠ 0) (hpayload : c.payload.length ≤ Gateway.maxPayloadBytes)
    (hnumbered : c.Numbered) (hformed : c.WellFormed) :
    Firmware.Wire.headerFieldsValid h .downlink = true := by
  have hmediaEpoch : h.mediaEpoch.toNat = s.mediaEpoch := congrArg PacketHeader.mediaEpoch hfields
  have htimestamp : h.timestamp.toNat = c.timestamp % 2 ^ 32 := congrArg PacketHeader.timestamp hfields
  have hgeneration : h.generation.toNat = c.generation := congrArg PacketHeader.generation hfields
  have hlength : h.payloadLength.toNat = c.payload.length := congrArg PacketHeader.payloadLength hfields
  rw [Firmware.Wire.headerFieldsValid_downlink, hmediaEpoch, htimestamp, hgeneration, hlength, htype]
  refine ⟨hepoch, hpayload, ?_⟩
  cases c with
  | audio payload timestamp generation =>
    exact ⟨List.length_pos_iff.mpr hformed, Nat.one_le_iff_ne_zero.mp hnumbered⟩
  | probeAck => exact ⟨rfl, rfl, rfl⟩
  | keepalive timestamp generation => exact ⟨rfl, hformed⟩

/-- The firmware reads every well-formed datagram of the gateway. -/
theorem firmware_decode (h : serve s c r = (s', some d, result)) (hmediaId : s.mediaId.length = 8)
    (hepoch : s.mediaEpoch ≠ 0) (hbody : body.length = d.plaintext.length + udpTagBytes)
    (hpack : PacketHeader.pack (sealedPacket d body) = some wire) (hnumbered : c.Numbered) (hformed : c.WellFormed) :
    (codec (.firmwareUdp .downlink)).decode wire = some (sealedPacket d body) := by
  obtain ⟨-, bytes, hencode⟩ := sealedPacket_sealed h hmediaId hepoch hbody
  obtain ⟨rfl, hpayload, -⟩ := serve_some h
  obtain ⟨header, hheader, hfields, htype⟩ :=
    Firmware.Wire.Header.ofFields_isSome hencode hmediaId (parseType_flags c)
  have hvalid := headerFieldsValid_sealed hfields htype hepoch hpayload hnumbered hformed
  have hlength : header.payloadLength.toNat = c.payload.length := congrArg PacketHeader.payloadLength hfields
  have hpacket : Firmware.Wire.ofPacket (sealedPacket (c.datagram s) body) = some (header, body) := by
    rw [Firmware.Wire.ofPacket, hheader]
    rfl
  have hmediaId' : header.mediaId.length = 8 := (Firmware.Wire.Header.fields_ofFields hheader).2
  have hsent : (codec (.firmwareUdp .downlink)).encode (sealedPacket (c.datagram s) body) =
      some (Firmware.Wire.encodeHeader header ++ body) := Codec.encode_view.mpr ⟨_, hpacket, rfl⟩
  refine (codec_lossless (.firmwareUdp .downlink)).decode_of_isSome (codec_writes _) hpack ?_ (by rw [hsent]; rfl)
  intro q hq
  obtain rfl := Option.some.inj (hpacket.symm.trans hq)
  refine ⟨hmediaId', hvalid, ?_⟩
  rw [hlength]
  exact hbody

variable {f : WssMediaFrame}

theorem firmware_decode_wss (h : f.serialize = .ok wire) (hgeneration : 1 ≤ f.generation) :
    (codec (.firmwareWss .downlink)).decode wire = some f.packet := by
  obtain ⟨hchecked, hpack⟩ := WssMediaFrame.serialize_ok.mp h
  obtain ⟨bytes, hencode, -⟩ := Option.map_eq_some_iff.mp hpack
  obtain ⟨header, hheader, hfields⟩ := Firmware.MediaHeader.ofFields_isSome hencode hchecked.mediaId
  have hflags : header.flags = 1 := congrArg PacketHeader.flags hfields
  have hmediaEpoch : header.mediaEpoch.toNat = f.mediaEpoch := congrArg PacketHeader.mediaEpoch hfields
  have hnumber : header.generation.toNat = f.generation := congrArg PacketHeader.generation hfields
  have hlength : header.payloadLength.toNat = f.payload.length := congrArg PacketHeader.payloadLength hfields
  have hvalid : header.validate .downlink = .ok () := by
    rw [Firmware.MediaHeader.validate_ok, Firmware.MediaHeader.generationInvalid, hflags, hlength]
    refine ⟨by decide, ?_, ?_, hchecked.payloadLength⟩
    · intro hzero
      rw [hzero] at hmediaEpoch
      have hpositive := hchecked.mediaEpoch.1
      rw [← hmediaEpoch] at hpositive
      cases hpositive
    · rw [if_pos rfl, decide_eq_false_iff_not]
      intro hzero
      rw [← hnumber, hzero] at hgeneration
      cases hgeneration
  have hpacket : Firmware.MediaHeader.ofPacket f.packet = some (header, f.payload) := by
    rw [Firmware.MediaHeader.ofPacket, hheader]
    rfl
  have hsent : (codec (.firmwareWss .downlink)).encode f.packet = some (header.bytes ++ f.payload) :=
    Codec.encode_view.mpr ⟨_, hpacket, Firmware.MediaHeader.codec_encode.mpr ⟨hvalid, rfl⟩⟩
  exact (codec_lossless (.firmwareWss .downlink)).decode_of_isSome (codec_writes _) hpack rfl (by rw [hsent]; rfl)

theorem desktop_decode_wss (h : f.serialize = .ok wire) :
    (codec (.desktop false)).decode wire = some f.packet := by
  obtain ⟨hchecked, hpack⟩ := WssMediaFrame.serialize_ok.mp h
  obtain ⟨bytes, hencode, -⟩ := Option.map_eq_some_iff.mp hpack
  have hframe : MediaFrame.ofPacket f.packet false =
      some { flags := .audio, mediaId := f.mediaId, mediaEpoch := f.mediaEpoch, sequence := f.sequence,
             timestamp := f.timestamp, generation := f.generation, payload := f.payload } := by
    have hsize : f.packet.2.length = f.packet.1.payloadLength + tagOf false := rfl
    rw [MediaFrame.ofPacket, if_pos hsize]
    simp only [WssMediaFrame.packet, WssMediaFrame.header, List.take_length]
    rfl
  refine (codec_lossless (.desktop false)).decode_of_isSome (codec_writes _) hpack trivial ?_
  refine (MediaFrame.media_encode_isSome (p := f.packet) hencode).mpr ⟨_, hframe, Flag.noConfusion, hchecked.mediaId,
    hchecked.mediaEpoch, hchecked.sequence, hchecked.timestamp, hchecked.generation, hchecked.payloadLength,
    fun _ => hchecked.payload, ?_, ?_⟩
  · intro hother
    exact absurd rfl hother
  · intro hother
    exact absurd rfl hother

/-- The five implementations have one format of the media header, except that the desktop also decodes frames of
other kinds with a payload, which it would not encode. What the server sends is read by both of its clients where its
audio carries a packet and the keepalive that it echoes had generation zero. -/
theorem one_media_format (i j : Implementation) :
    (codec i).Lossless (Able i) ∧
    (∀ wire, (codec i).CanonicalAt wire ↔ ¬Misread i wire) ∧
    (∀ (h : PacketHeader) (body body' wire wire' : Bytes),
      (codec i).encode (h, body) = some wire → (codec j).encode (h, body') = some wire' →
      ∃ header : Bytes, header.length = udpHeaderBytes ∧ wire = header ++ body ∧ wire' = header ++ body') ∧
    (∀ (s s' : Downlink) (c : GatewaySend) (r : SendReads) (d : Gateway.Sealed) (result : SendResult) (body : Bytes),
      serve s c r = (s', some d, result) → s.mediaId.length = 8 → s.mediaEpoch ≠ 0 → c.Numbered →
      body.length = d.plaintext.length + udpTagBytes →
      ∃ wire, (codec .serverUdp).encode (sealedPacket d body) = some wire ∧
        ((codec (.firmwareUdp .downlink)).decode wire = some (sealedPacket d body) ∧
          (codec (.desktop true)).decode wire = some (sealedPacket d body) ↔ c.WellFormed)) ∧
    ∀ (f : WssMediaFrame) (wire : Bytes), f.serialize = .ok wire → 1 ≤ f.generation →
      (codec (.firmwareWss .downlink)).decode wire = some f.packet ∧
        (codec (.desktop false)).decode wire = some f.packet := by
  refine ⟨codec_lossless i, codec_canonical i, ?_, ?_, ?_⟩
  · intro h body body' wire wire' hi hj
    exact codec_header hi hj
  · intro s s' c r d result body h hmediaId hepoch hnumbered hbody
    obtain ⟨-, bytes, hencode⟩ := sealedPacket_sealed h hmediaId hepoch hbody
    have hpack : PacketHeader.pack (sealedPacket d body) = some (bytes ++ body) := by
      rw [PacketHeader.pack, hencode]
      rfl
    have hdesktop := desktop_decode h hmediaId hepoch hbody hpack
    refine ⟨bytes ++ body, hpack, fun hboth => hdesktop.mp hboth.2, fun hformed => ?_⟩
    exact ⟨firmware_decode h hmediaId hepoch hbody hpack hnumbered hformed, hdesktop.mpr hformed⟩
  · intro f wire h hgeneration
    exact ⟨firmware_decode_wss h hgeneration, desktop_decode_wss h⟩

/-- A probe ack with a payload of one byte. -/
def strayProbeAck : Bytes :=
  [0x56, 0x41, 1, 4, 1, 2, 3, 4, 5, 6, 7, 8, 0, 0, 0, 1, 0, 0, 0, 0, 0, 0, 0, 0, 0, 0, 0, 0, 0, 0, 0, 1, 9]

def strayFrame : MediaFrame :=
  { flags := .probeAck, mediaId := [1, 2, 3, 4, 5, 6, 7, 8], mediaEpoch := 1, sequence := 0, timestamp := 0,
    generation := 0, payload := [9] }

theorem stray_probe_ack : MediaFrame.decodePlain strayProbeAck = .ok strayFrame ∧
    strayFrame.encodePlain = .error "non_audio_payload" ∧ ¬∀ i wire, (codec i).CanonicalAt wire := by
  refine ⟨by decide, by decide, fun h => ?_⟩
  refine (codec_canonical (.desktop false) strayProbeAck).mp (h _ _) ?_
  constructor <;> decide

def demoDownlink : Downlink := { mediaId := List.replicate 8 1, mediaEpoch := 1, expiresAt := 10 }

def demoReads : SendReads := { expired := false, wall := 0, connected := true, encrypts := true, sends := true }

/-- Audio of generation three, of which seventeen bytes are what the cipher made. -/
theorem one_media_format_audio :
    ∃ wire, (codec .serverUdp).encode
        (sealedPacket (GatewaySend.datagram (.audio [7] 960 3) demoDownlink) (List.replicate 17 0)) = some wire ∧
      (codec (.firmwareUdp .downlink)).decode wire =
        some (sealedPacket (GatewaySend.datagram (.audio [7] 960 3) demoDownlink) (List.replicate 17 0)) ∧
      (codec (.desktop true)).decode wire =
        some (sealedPacket (GatewaySend.datagram (.audio [7] 960 3) demoDownlink) (List.replicate 17 0)) := by
  have hserve : serve demoDownlink (.audio [7] 960 3) demoReads = ({ demoDownlink with sequence := 1 },
      some (GatewaySend.datagram (.audio [7] 960 3) demoDownlink), .sent 0) := by
    decide +kernel
  obtain ⟨wire, hencode, hread⟩ := (one_media_format .serverUdp (.desktop true)).2.2.2.1 demoDownlink _
    (.audio [7] 960 3) demoReads _ _ (List.replicate 17 0) hserve rfl (by decide) (le_refl 1 |>.trans (by decide)) rfl
  exact ⟨wire, hencode, hread.mpr (List.cons_ne_nil 7 [])⟩

end RealtimeVoice.Udp.MediaFormat
