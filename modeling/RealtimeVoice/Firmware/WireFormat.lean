import RealtimeVoice.Udp.Packing
import RealtimeVoice.Firmware.UdpWire

namespace RealtimeVoice.Firmware.Wire

open RealtimeVoice.Base RealtimeVoice.Udp

theorem writeU32_eq (v : UInt32) : writeU32 v = toBytes4 v.toNat := by
  simp only [writeU32, toBytes4, List.cons.injEq, and_true]
  refine ⟨?_, ?_, ?_, ?_⟩ <;>
  · apply UInt8.toNat_inj.mp
    simp [UInt8.toNat_ofNat', Nat.shiftRight_eq_div_pow]

theorem toNat_readU32 {data : Bytes} {offset : Nat} (h : offset + 4 ≤ data.length) :
    (readU32 data offset).toNat = bigEndian ((data.drop offset).take 4) := by
  have hwrite := writeU32_readU32 h
  rw [writeU32_eq] at hwrite
  rw [← hwrite, bigEndian_toBytes4 (readU32 data offset).toNat_lt]

/-- A number that fits into a field of the header. -/
def u32 (n : Nat) : Option UInt32 := if n < 2 ^ 32 then some (UInt32.ofNat n) else none

theorem u32_some {n : Nat} (h : n < 2 ^ 32) : u32 n = some (UInt32.ofNat n) := if_pos h

theorem u32_toNat (v : UInt32) : u32 v.toNat = some v := by
  rw [u32, if_pos v.toNat_lt, UInt32.ofNat_toNat]

theorem toNat_u32 {n : Nat} {v : UInt32} (h : u32 n = some v) : v.toNat = n := by
  rw [u32] at h
  split at h
  · next hlt =>
    obtain rfl := Option.some.inj h
    exact UInt32.toNat_ofNat_of_lt' hlt
  · cases h

theorem parseType_byte (type : DatagramType) : parseType type.byte = some type := by
  cases type <;> rfl

theorem byte_parseType {value : UInt8} {type : DatagramType} (h : parseType value = some type) :
    type.byte = value := by
  rw [parseType] at h
  split at h
  · next heq =>
    obtain rfl := Option.some.inj h
    exact heq.symm
  split at h
  · next heq =>
    obtain rfl := Option.some.inj h
    exact heq.symm
  split at h
  · next heq =>
    obtain rfl := Option.some.inj h
    exact heq.symm
  split at h
  · next heq =>
    obtain rfl := Option.some.inj h
    exact heq.symm
  · cases h

namespace Header

def fields (h : Header) : PacketHeader :=
  { flags := h.type.byte, mediaId := h.mediaId, mediaEpoch := h.mediaEpoch.toNat, sequence := h.sequence.toNat,
    timestamp := h.timestamp.toNat, generation := h.generation.toNat, payloadLength := h.payloadLength.toNat }

/-- The header with these fields, of which the identity is an array of eight bytes. -/
def ofFields (p : PacketHeader) : Option Header := do
  guard (p.mediaId.length = 8)
  let type ← parseType p.flags
  let mediaEpoch ← u32 p.mediaEpoch
  let sequence ← u32 p.sequence
  let timestamp ← u32 p.timestamp
  let generation ← u32 p.generation
  let payloadLength ← u32 p.payloadLength
  return { type, mediaId := p.mediaId, mediaEpoch, sequence, timestamp, generation, payloadLength }

variable {h : Header} {p : PacketHeader}

theorem ofFields_fields (hmediaId : h.mediaId.length = 8) : ofFields h.fields = some h := by
  simp only [ofFields, fields, hmediaId, guard_true, parseType_byte, u32_toNat, pure, Option.bind_eq_bind,
    Option.bind_some]

theorem fields_ofFields (hp : ofFields p = some h) : h.fields = p ∧ h.mediaId.length = 8 := by
  simp only [ofFields, Option.bind_eq_bind, Option.bind_eq_some_iff, Option.guard_eq_some'] at hp
  obtain ⟨-, hmediaId, type, htype, mediaEpoch, hepoch, sequence, hsequence, timestamp, htimestamp, generation,
    hgeneration, payloadLength, hpayload, heq⟩ := hp
  obtain rfl := Option.some.inj heq
  refine ⟨?_, hmediaId⟩
  rw [fields, byte_parseType htype, toNat_u32 hepoch, toNat_u32 hsequence, toNat_u32 htimestamp,
    toNat_u32 hgeneration, toNat_u32 hpayload]

/-- Fields that fit are those of a header. -/
theorem ofFields_isSome {bytes : Bytes} {type : DatagramType} (hencode : p.encode = some bytes)
    (hmediaId : p.mediaId.length = 8) (htype : parseType p.flags = some type) :
    ∃ h, ofFields p = some h ∧ h.fields = p ∧ h.type = type := by
  obtain ⟨hepoch, hsequence, htimestamp, hgeneration, hpayload⟩ := PacketHeader.encode_fits hencode
  have hsome : ofFields p = some
      { type := type, mediaId := p.mediaId, mediaEpoch := .ofNat p.mediaEpoch, sequence := .ofNat p.sequence,
        timestamp := .ofNat p.timestamp, generation := .ofNat p.generation,
        payloadLength := .ofNat p.payloadLength } := by
    simp only [ofFields, hmediaId, guard_true, htype, u32_some hepoch, u32_some hsequence, u32_some htimestamp,
      u32_some hgeneration, u32_some hpayload, pure, Option.bind_eq_bind, Option.bind_some]
  exact ⟨_, hsome, (fields_ofFields hsome).1, rfl⟩

theorem encode_fields (hmediaId : h.mediaId.length = 8) : h.fields.encode = some (encodeHeader h) := by
  refine RawHeader.pack_some.mpr ⟨⟨h.mediaEpoch.toNat_lt, h.sequence.toNat_lt, h.timestamp.toNat_lt,
    h.generation.toNat_lt, h.payloadLength.toNat_lt⟩, ?_⟩
  rw [encodeHeader, writeU32_eq, writeU32_eq, writeU32_eq, writeU32_eq, writeU32_eq]
  simp only [fields, PacketHeader.raw, packBytes_eq hmediaId]
  rfl

/-- The header that the bytes of a datagram spell. -/
def read (data : Bytes) (type : DatagramType) : Header :=
  { type := type
    mediaId := (data.drop 4).take 8
    mediaEpoch := readU32 data 12
    sequence := readU32 data 16
    timestamp := readU32 data 20
    generation := readU32 data 24
    payloadLength := readU32 data 28 }

theorem fields_read {data : Bytes} {type : DatagramType} (hlength : headerBytes ≤ data.length)
    (htype : parseType (data.getD 3 0) = some type) :
    (read data type).fields = PacketHeader.ofRaw (RawHeader.unpack data) := by
  rw [headerBytes] at hlength
  rw [read, fields, PacketHeader.ofRaw]
  rw [toNat_readU32 (by omega), toNat_readU32 (by omega), toNat_readU32 (by omega), toNat_readU32 (by omega),
    toNat_readU32 (by omega), byte_parseType htype]
  rfl

end Header

variable {data body : Bytes} {direction : Direction} {view : DatagramView} {h : Header}

/-- What is accepted, and the view of it. -/
theorem parseDatagram_some : parseDatagram data direction = some view ↔
    (headerBytes + tagBytes ≤ data.length ∧ data.length ≤ maxDatagramBytes ∧ data.getD 0 0 = 0x56 ∧
      data.getD 1 0 = 0x41 ∧ data.getD 2 0 = version) ∧
    ∃ type, parseType (data.getD 3 0) = some type ∧ headerShapeValid (.read data type) direction = true ∧
      data.length = headerBytes + (Header.read data type).payloadLength.toNat + tagBytes ∧
      view =
        { header := .read data type
          headerBytes := data.take headerBytes
          ciphertext := (data.drop headerBytes).take (Header.read data type).payloadLength.toNat
          tag := data.drop (headerBytes + (Header.read data type).payloadLength.toNat) } := by
  rw [parseDatagram]
  split
  · next hframe =>
    constructor
    · rintro ⟨⟩
    · rintro ⟨⟨hshort, hlong, hv, ha, hversion⟩, -⟩
      obtain hbad | hbad | hbad | hbad | hbad := hframe
      · omega
      · omega
      · exact absurd hv hbad
      · exact absurd ha hbad
      · exact absurd hversion hbad
  next hframe =>
  simp only [not_or, not_lt, not_not] at hframe
  rw [and_iff_right hframe]
  cases htype : parseType (data.getD 3 0) with
  | none =>
    constructor
    · rintro ⟨⟩
    · rintro ⟨type, ⟨⟩, -⟩
  | some type =>
    dsimp only
    change (if headerShapeValid (.read data type) direction = false ∨
      data.length ≠ headerBytes + (Header.read data type).payloadLength.toNat + tagBytes then none else _) =
        some view ↔ _
    split
    · next hbad =>
      constructor
      · rintro ⟨⟩
      · rintro ⟨type', htype', hshape, hlength, -⟩
        obtain rfl := Option.some.inj htype'
        obtain hbad | hbad := hbad
        · rw [hbad] at hshape
          cases hshape
        · exact absurd hlength hbad
    · next hgood =>
      rw [not_or, Bool.not_eq_false, not_not] at hgood
      constructor
      · intro heq
        exact ⟨type, rfl, hgood.1, hgood.2, (Option.some.inj heq).symm⟩
      · rintro ⟨type', htype', -, -, rfl⟩
        obtain rfl := Option.some.inj htype'
        rfl

theorem fields_injective {h' : Header} (hmediaId : h.mediaId.length = 8) (hfields : h.fields = h'.fields) : h = h' := by
  have hmediaId' : h'.mediaId.length = 8 := congrArg (fun p => p.mediaId.length) hfields ▸ hmediaId
  have hsome := Header.ofFields_fields hmediaId
  rw [hfields, Header.ofFields_fields hmediaId'] at hsome
  exact (Option.some.inj hsome).symm

theorem length_encodeHeader (hmediaId : h.mediaId.length = 8) : (encodeHeader h).length = headerBytes :=
  RawHeader.length_pack (Header.encode_fields hmediaId)

/-- The header of an encoded datagram is read back. -/
theorem read_encodeHeader (hmediaId : h.mediaId.length = 8) : Header.read (encodeHeader h ++ body) h.type = h := by
  have hlength : headerBytes ≤ (encodeHeader h ++ body).length := by
    rw [List.length_append, length_encodeHeader hmediaId]
    omega
  refine fields_injective (RawHeader.length_mediaId hlength) ?_
  rw [Header.fields_read hlength (parseType_byte h.type),
    PacketHeader.unpack_encode h.fields (Header.encode_fields hmediaId) hmediaId]
  rfl

/-- A header that the firmware seals, with its ciphertext and tag. -/
structure Sendable (direction : Direction) (p : Header × Bytes) : Prop where
  mediaId : p.1.mediaId.length = 8
  fields : headerFieldsValid p.1 direction = true
  body : p.2.length = p.1.payloadLength.toNat + tagBytes

/-- What the firmware requires of a header from the server, in numbers. -/
theorem headerFieldsValid_downlink : headerFieldsValid h .downlink = true ↔
    h.mediaEpoch.toNat ≠ 0 ∧ h.payloadLength.toNat ≤ maxPayloadBytes ∧
      match h.type with
      | .audio => 0 < h.payloadLength.toNat ∧ h.generation.toNat ≠ 0
      | .probe => False
      | .probeAck => h.payloadLength.toNat = 0 ∧ h.timestamp.toNat = 0 ∧ h.generation.toNat = 0
      | .keepalive => h.payloadLength.toNat = 0 ∧ h.generation.toNat = 0 := by
  have hzero : ∀ v : UInt32, v = 0 ↔ v.toNat = 0 := fun v => UInt32.toNat_inj.symm
  have hpositive : ∀ v : UInt32, v > 0 ↔ 0 < v.toNat := fun v => UInt32.lt_iff_toNat_lt
  cases htype : h.type with
  | audio => simp [headerFieldsValid, headerShapeValid, htype, hzero, hpositive, and_assoc]
  | probe => simp [headerFieldsValid, headerShapeValid, htype]
  | probeAck => simp [headerFieldsValid, headerShapeValid, htype, hzero, and_assoc]
  | keepalive => simp [headerFieldsValid, headerShapeValid, htype, hzero, and_assoc]

theorem headerShapeValid_of_fields (hfields : headerFieldsValid h direction = true) :
    headerShapeValid h direction = true :=
  (Bool.and_eq_true_iff.mp hfields).1

theorem payloadLength_le (hshape : headerShapeValid h direction = true) : h.payloadLength.toNat ≤ maxPayloadBytes := by
  rw [headerShapeValid] at hshape
  split at hshape
  · cases hshape
  · next hbound => exact not_lt.mp (not_or.mp hbound).2

/-- `EncodeHeader` in front of what was sealed, and `ParseDatagram`. -/
def codec (direction : Direction) : Codec (Header × Bytes) Bytes where
  encode p := some (encodeHeader p.1 ++ p.2)
  decode data := (parseDatagram data direction).map fun view => (view.header, view.ciphertext ++ view.tag)

theorem codec_lossless (direction : Direction) : (codec direction).Lossless (Sendable direction) := by
  rintro ⟨h, body⟩ data ⟨hmediaId, hfields, hbody⟩ hencode
  obtain rfl := Option.some.inj hencode
  have hshape := headerShapeValid_of_fields hfields
  have hbound := payloadLength_le hshape
  have hheader := length_encodeHeader hmediaId
  have hread : Header.read (encodeHeader h ++ body) h.type = h := read_encodeHeader hmediaId
  dsimp only at hbody
  refine Option.map_eq_some_iff.mpr ⟨_, parseDatagram_some.mpr ⟨⟨?_, ?_, rfl, rfl, rfl⟩, h.type,
    parseType_byte h.type, ?_, ?_, rfl⟩, ?_⟩
  · rw [List.length_append, hheader, hbody]
    omega
  · rw [List.length_append, hheader, hbody]
    simp only [headerBytes, tagBytes, maxDatagramBytes, maxPayloadBytes] at hbound ⊢
    omega
  · rw [hread]
    exact hshape
  · rw [hread, List.length_append, hheader, hbody, Nat.add_assoc]
  · dsimp only
    rw [hread, ← List.drop_drop, List.take_append_drop, List.drop_left' hheader]

theorem codec_canonical (direction : Direction) (data : Bytes) : (codec direction).CanonicalAt data := by
  intro p hdecode
  obtain ⟨view, hview, rfl⟩ := Option.map_eq_some_iff.mp hdecode
  obtain ⟨⟨hshort, -, hv, ha, hversion⟩, type, htype, -, -, rfl⟩ := parseDatagram_some.mp hview
  have hlength : headerBytes ≤ data.length := by omega
  have hencode := Header.encode_fields (h := .read data type) (RawHeader.length_mediaId hlength)
  rw [Header.fields_read hlength htype,
    PacketHeader.encode_unpack hlength (RawHeader.magic_eq ?_ hv ha) hversion] at hencode
  · dsimp only [codec]
    rw [← Option.some.inj hencode, ← List.drop_drop, List.take_append_drop]
    exact congrArg some (List.take_append_drop headerBytes data)
  · rw [headerBytes] at hlength
    omega

def packet (p : Header × Bytes) : MediaPacket := (p.1.fields, p.2)

def ofPacket (p : MediaPacket) : Option (Header × Bytes) := (Header.ofFields p.1).map fun h => (h, p.2)

theorem packet_ofPacket {p : MediaPacket} {q : Header × Bytes} (hq : ofPacket p = some q) :
    packet q = p ∧ q.1.mediaId.length = 8 := by
  obtain ⟨h, hfields, rfl⟩ := Option.map_eq_some_iff.mp hq
  obtain ⟨heq, hmediaId⟩ := Header.fields_ofFields hfields
  refine ⟨?_, hmediaId⟩
  rw [packet, heq]

/-- The codec on packets. -/
def media (direction : Direction) : Codec MediaPacket Bytes := (codec direction).view ofPacket packet

theorem media_lossless (direction : Direction) :
    (media direction).Lossless fun p => ∀ q, ofPacket p = some q → Sendable direction q :=
  (codec_lossless direction).view fun _ _ hsendable hq => ⟨hsendable _ hq, (packet_ofPacket hq).1⟩

theorem media_canonical (direction : Direction) (data : Bytes) : (media direction).CanonicalAt data := by
  refine (Codec.canonicalAt_view ?_).mpr (codec_canonical direction data)
  intro p hdecode
  obtain ⟨view, hview, rfl⟩ := Option.map_eq_some_iff.mp hdecode
  obtain ⟨⟨hshort, -⟩, type, -, -, -, rfl⟩ := parseDatagram_some.mp hview
  have hlength : headerBytes ≤ data.length := by omega
  rw [ofPacket, packet, Header.ofFields_fields (RawHeader.length_mediaId hlength)]
  rfl

theorem media_writes (direction : Direction) : (media direction).Writes PacketHeader.pack := by
  intro p data hview
  obtain ⟨q, hq, hencode⟩ := Codec.encode_view.mp hview
  obtain ⟨rfl, hmediaId⟩ := packet_ofPacket hq
  obtain rfl := Option.some.inj hencode
  rw [PacketHeader.pack, packet, Header.encode_fields hmediaId]
  rfl

end RealtimeVoice.Firmware.Wire
