import RealtimeVoice.Firmware.WireFormat

namespace RealtimeVoice.Firmware

open RealtimeVoice.Base RealtimeVoice.Udp
open RealtimeVoice.Firmware.Wire hiding Bytes

def mediaHeaderBytes : Nat := 32
def wssMaxPayloadBytes : Nat := 1200
def wssMaxFrameBytes : Nat := mediaHeaderBytes + wssMaxPayloadBytes
def wireVersion : UInt8 := 1
def knownFlags : UInt8 := 0x01 ||| 0x02 ||| 0x04

/-- `MediaError` without `kOk`. -/
inductive MediaError
  | invalidSize
  | invalidMagic
  | unsupportedVersion
  | invalidFlags
  | invalidIdentity
  | invalidGeneration
  | invalidPayloadLength
deriving DecidableEq

structure MediaHeader where
  flags : UInt8
  mediaId : Bytes
  mediaEpoch : UInt32
  sequence : UInt32
  timestamp : UInt32
  generation : UInt32
  payloadLength : UInt32
deriving DecidableEq

namespace MediaHeader

def generationInvalid (h : MediaHeader) (direction : Direction) : Bool :=
  match direction with
  | .uplink => h.generation ≠ 0
  | .downlink => if h.flags = 0x01 then h.generation = 0 else h.generation ≠ 0

def validate (h : MediaHeader) (direction : Direction) : Except MediaError Unit := do
  refuseIf (h.flags = 0 ∨ h.flags &&& ~~~knownFlags ≠ 0 ∨ h.flags &&& (h.flags - 1) ≠ 0) .invalidFlags
  refuseIf (h.mediaEpoch = 0) .invalidIdentity
  refuseIf (h.generationInvalid direction) .invalidGeneration
  refuseIf (h.payloadLength.toNat > wssMaxPayloadBytes) .invalidPayloadLength

def bytes (h : MediaHeader) : Bytes :=
  [0x56, 0x41, wireVersion, h.flags] ++ h.mediaId ++ writeU32 h.mediaEpoch ++ writeU32 h.sequence ++
    writeU32 h.timestamp ++ writeU32 h.generation ++ writeU32 h.payloadLength

/-- `SerializeMediaHeader` into an output that is there. -/
def serialize (h : MediaHeader) (direction : Direction) : Except MediaError Bytes := do
  h.validate direction
  return h.bytes

/-- The header that the bytes of a frame spell. -/
def read (frame : Bytes) : MediaHeader :=
  { flags := frame.getD 3 0
    mediaId := (frame.drop 4).take 8
    mediaEpoch := readU32 frame 12
    sequence := readU32 frame 16
    timestamp := readU32 frame 20
    generation := readU32 frame 24
    payloadLength := readU32 frame 28 }

/-- `ParseMediaHeader` of a frame that is there. -/
def parse (frame : Bytes) (direction : Direction) : Except MediaError MediaHeader := do
  refuseIf (frame.length < mediaHeaderBytes ∨ frame.length > wssMaxFrameBytes) .invalidSize
  refuseIf (frame.getD 0 0 ≠ 0x56 ∨ frame.getD 1 0 ≠ 0x41) .invalidMagic
  refuseIf (frame.getD 2 0 ≠ wireVersion) .unsupportedVersion
  let parsed := read frame
  parsed.validate direction
  refuseIf (frame.length ≠ mediaHeaderBytes + parsed.payloadLength.toNat) .invalidPayloadLength
  return parsed

def fields (h : MediaHeader) : PacketHeader :=
  { flags := h.flags, mediaId := h.mediaId, mediaEpoch := h.mediaEpoch.toNat, sequence := h.sequence.toNat,
    timestamp := h.timestamp.toNat, generation := h.generation.toNat, payloadLength := h.payloadLength.toNat }

/-- The header with these fields, of which the identity is an array of eight bytes. -/
def ofFields (p : PacketHeader) : Option MediaHeader := do
  guard (p.mediaId.length = 8)
  let mediaEpoch ← u32 p.mediaEpoch
  let sequence ← u32 p.sequence
  let timestamp ← u32 p.timestamp
  let generation ← u32 p.generation
  let payloadLength ← u32 p.payloadLength
  return { flags := p.flags, mediaId := p.mediaId, mediaEpoch, sequence, timestamp, generation, payloadLength }

variable {h h' : MediaHeader} {p : PacketHeader} {frame payload : Bytes} {direction : Direction}

theorem ofFields_fields (hmediaId : h.mediaId.length = 8) : ofFields h.fields = some h := by
  simp only [ofFields, fields, hmediaId, guard_true, u32_toNat, pure, Option.bind_eq_bind, Option.bind_some]

theorem fields_ofFields (hp : ofFields p = some h) : h.fields = p ∧ h.mediaId.length = 8 := by
  simp only [ofFields, Option.bind_eq_bind, Option.bind_eq_some_iff, Option.guard_eq_some'] at hp
  obtain ⟨-, hmediaId, mediaEpoch, hepoch, sequence, hsequence, timestamp, htimestamp, generation, hgeneration,
    payloadLength, hpayload, heq⟩ := hp
  obtain rfl := Option.some.inj heq
  refine ⟨?_, hmediaId⟩
  rw [fields, toNat_u32 hepoch, toNat_u32 hsequence, toNat_u32 htimestamp, toNat_u32 hgeneration, toNat_u32 hpayload]

/-- Fields that fit are those of a header. -/
theorem ofFields_isSome {output : Bytes} (hencode : p.encode = some output) (hmediaId : p.mediaId.length = 8) :
    ∃ h, ofFields p = some h ∧ h.fields = p := by
  obtain ⟨hepoch, hsequence, htimestamp, hgeneration, hpayload⟩ := PacketHeader.encode_fits hencode
  have hsome : ofFields p = some
      { flags := p.flags, mediaId := p.mediaId, mediaEpoch := .ofNat p.mediaEpoch, sequence := .ofNat p.sequence,
        timestamp := .ofNat p.timestamp, generation := .ofNat p.generation,
        payloadLength := .ofNat p.payloadLength } := by
    simp only [ofFields, hmediaId, guard_true, u32_some hepoch, u32_some hsequence, u32_some htimestamp,
      u32_some hgeneration, u32_some hpayload, pure, Option.bind_eq_bind, Option.bind_some]
  exact ⟨_, hsome, (fields_ofFields hsome).1⟩

theorem fields_injective (hmediaId : h.mediaId.length = 8) (hfields : h.fields = h'.fields) : h = h' := by
  have hmediaId' : h'.mediaId.length = 8 := congrArg (fun p => p.mediaId.length) hfields ▸ hmediaId
  have hsome := ofFields_fields hmediaId
  rw [hfields, ofFields_fields hmediaId'] at hsome
  exact (Option.some.inj hsome).symm

theorem encode_fields (hmediaId : h.mediaId.length = 8) : h.fields.encode = some h.bytes := by
  refine RawHeader.pack_some.mpr ⟨⟨h.mediaEpoch.toNat_lt, h.sequence.toNat_lt, h.timestamp.toNat_lt,
    h.generation.toNat_lt, h.payloadLength.toNat_lt⟩, ?_⟩
  rw [bytes, writeU32_eq, writeU32_eq, writeU32_eq, writeU32_eq, writeU32_eq]
  simp only [fields, PacketHeader.raw, packBytes_eq hmediaId]
  rfl

theorem fields_read (hlength : mediaHeaderBytes ≤ frame.length) :
    (read frame).fields = PacketHeader.ofRaw (RawHeader.unpack frame) := by
  rw [mediaHeaderBytes] at hlength
  rw [read, fields, PacketHeader.ofRaw]
  rw [toNat_readU32 (by omega), toNat_readU32 (by omega), toNat_readU32 (by omega), toNat_readU32 (by omega),
    toNat_readU32 (by omega)]
  rfl

theorem length_bytes (hmediaId : h.mediaId.length = 8) : h.bytes.length = mediaHeaderBytes :=
  RawHeader.length_pack (encode_fields hmediaId)

/-- The header of a serialized frame is read back. -/
theorem read_bytes (hmediaId : h.mediaId.length = 8) : read (h.bytes ++ payload) = h := by
  have hlength : mediaHeaderBytes ≤ (h.bytes ++ payload).length := by
    rw [List.length_append, length_bytes hmediaId]
    omega
  refine fields_injective (RawHeader.length_mediaId hlength) ?_
  rw [fields_read hlength, PacketHeader.unpack_encode h.fields (encode_fields hmediaId) hmediaId]
  rfl

theorem serialize_ok {output : Bytes} :
    h.serialize direction = .ok output ↔ h.validate direction = .ok () ∧ h.bytes = output := by
  simp only [serialize, check_bind_ok, pure, Except.pure, Except.ok.injEq]

theorem parse_ok : parse frame direction = .ok h ↔
    (mediaHeaderBytes ≤ frame.length ∧ frame.length ≤ wssMaxFrameBytes) ∧
    (frame.getD 0 0 = 0x56 ∧ frame.getD 1 0 = 0x41) ∧ frame.getD 2 0 = wireVersion ∧
    (read frame).validate direction = .ok () ∧
    frame.length = mediaHeaderBytes + (read frame).payloadLength.toNat ∧ read frame = h := by
  simp only [parse, check_bind_ok, refuseIf_ok, not_or, not_lt, not_not]
  simp only [pure, Except.pure, Except.ok.injEq]

/-- A header with its payload of that length. -/
structure Framed (p : MediaHeader × Bytes) : Prop where
  mediaId : p.1.mediaId.length = 8
  payload : p.2.length = p.1.payloadLength.toNat

/-- A serialized header in front of its payload, and the parser. -/
def codec (direction : Direction) : Codec (MediaHeader × Bytes) Bytes where
  encode p := (p.1.serialize direction).toOption.map (· ++ p.2)
  decode frame := (parse frame direction).toOption.map fun h => (h, frame.drop mediaHeaderBytes)

theorem codec_encode {p : MediaHeader × Bytes} : (codec direction).encode p = some frame ↔
    p.1.validate direction = .ok () ∧ p.1.bytes ++ p.2 = frame := by
  rw [codec]
  simp only [Option.map_eq_some_iff, toOption_eq_some, serialize_ok]
  constructor
  · rintro ⟨_, ⟨hvalid, rfl⟩, hframe⟩
    exact ⟨hvalid, hframe⟩
  · rintro ⟨hvalid, hframe⟩
    exact ⟨p.1.bytes, ⟨hvalid, rfl⟩, hframe⟩

theorem codec_decode {p : MediaHeader × Bytes} : (codec direction).decode frame = some p ↔
    parse frame direction = .ok p.1 ∧ frame.drop mediaHeaderBytes = p.2 := by
  rw [codec]
  simp only [Option.map_eq_some_iff, toOption_eq_some]
  constructor
  · rintro ⟨h, hparse, rfl⟩
    exact ⟨hparse, rfl⟩
  · rintro ⟨hparse, hpayload⟩
    exact ⟨p.1, hparse, Prod.ext rfl hpayload⟩

theorem validate_ok : h.validate direction = .ok () ↔
    (h.flags ≠ 0 ∧ h.flags &&& ~~~knownFlags = 0 ∧ h.flags &&& (h.flags - 1) = 0) ∧ h.mediaEpoch ≠ 0 ∧
      h.generationInvalid direction = false ∧ h.payloadLength.toNat ≤ wssMaxPayloadBytes := by
  simp only [validate, check_bind_ok, refuseIf_ok, not_or, not_not, not_lt, Bool.not_eq_true, ne_eq]

theorem payloadLength_le (hvalid : h.validate direction = .ok ()) : h.payloadLength.toNat ≤ wssMaxPayloadBytes :=
  (validate_ok.mp hvalid).2.2.2

theorem codec_lossless (direction : Direction) : (codec direction).Lossless Framed := by
  rintro ⟨h, payload⟩ frame ⟨hmediaId, hpayload⟩ hencode
  obtain ⟨hvalid, rfl⟩ := codec_encode.mp hencode
  have hbound : h.payloadLength.toNat ≤ wssMaxPayloadBytes := payloadLength_le hvalid
  have hheader := length_bytes hmediaId
  have hread : read (h.bytes ++ payload) = h := read_bytes hmediaId
  dsimp only at hpayload hread ⊢
  refine codec_decode.mpr ⟨parse_ok.mpr ⟨⟨?_, ?_⟩, ⟨rfl, rfl⟩, rfl, ?_, ?_, hread⟩, List.drop_left' hheader⟩
  · rw [List.length_append, hheader]
    omega
  · rw [List.length_append, hheader, hpayload, wssMaxFrameBytes]
    omega
  · rw [hread]
    exact hvalid
  · rw [hread, List.length_append, hheader, hpayload]

theorem codec_canonical (direction : Direction) (frame : Bytes) : (codec direction).CanonicalAt frame := by
  rintro ⟨h, payload⟩ hdecode
  obtain ⟨hparse, rfl⟩ := codec_decode.mp hdecode
  obtain ⟨⟨hlength, -⟩, ⟨hv, ha⟩, hversion, hvalid, -, rfl⟩ := parse_ok.mp hparse
  have hmagic : (RawHeader.unpack frame).magic = udpMagic := by
    refine RawHeader.magic_eq ?_ hv ha
    rw [mediaHeaderBytes] at hlength
    omega
  have hencode := encode_fields (h := read frame) (RawHeader.length_mediaId hlength)
  rw [fields_read hlength, PacketHeader.encode_unpack hlength hmagic hversion] at hencode
  refine codec_encode.mpr ⟨hvalid, ?_⟩
  rw [← Option.some.inj hencode]
  exact List.take_append_drop mediaHeaderBytes frame

def packet (p : MediaHeader × Bytes) : MediaPacket := (p.1.fields, p.2)

def ofPacket (p : MediaPacket) : Option (MediaHeader × Bytes) := (ofFields p.1).map fun h => (h, p.2)

theorem packet_ofPacket {p : MediaPacket} {q : MediaHeader × Bytes} (hq : ofPacket p = some q) :
    packet q = p ∧ q.1.mediaId.length = 8 := by
  obtain ⟨h, hfields, rfl⟩ := Option.map_eq_some_iff.mp hq
  obtain ⟨heq, hmediaId⟩ := fields_ofFields hfields
  refine ⟨?_, hmediaId⟩
  rw [packet, heq]

/-- The codec on packets. -/
def media (direction : Direction) : Codec MediaPacket Bytes := (codec direction).view ofPacket packet

theorem media_lossless (direction : Direction) :
    (media direction).Lossless fun p => p.2.length = p.1.payloadLength := by
  refine (codec_lossless direction).view ?_
  intro p q hpayload hq
  obtain ⟨rfl, hmediaId⟩ := packet_ofPacket hq
  exact ⟨⟨hmediaId, hpayload⟩, rfl⟩

theorem media_canonical (direction : Direction) (frame : Bytes) : (media direction).CanonicalAt frame := by
  refine (Codec.canonicalAt_view ?_).mpr (codec_canonical direction frame)
  rintro ⟨h, payload⟩ hdecode
  obtain ⟨hparse, rfl⟩ := codec_decode.mp hdecode
  obtain ⟨⟨hlength, -⟩, -, -, -, -, rfl⟩ := parse_ok.mp hparse
  rw [ofPacket, packet, ofFields_fields (RawHeader.length_mediaId hlength)]
  rfl

theorem media_writes (direction : Direction) : (media direction).Writes PacketHeader.pack := by
  intro p frame hview
  obtain ⟨q, hq, hencode⟩ := Codec.encode_view.mp hview
  obtain ⟨rfl, hmediaId⟩ := packet_ofPacket hq
  obtain ⟨-, rfl⟩ := codec_encode.mp hencode
  rw [PacketHeader.pack, packet, encode_fields hmediaId]
  rfl

end MediaHeader

end RealtimeVoice.Firmware
