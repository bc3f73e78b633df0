import RealtimeVoice.Rva.BindingEffects
import RealtimeVoice.Udp.Packing

namespace RealtimeVoice.Rva

open RealtimeVoice.Base RealtimeVoice.Udp

def mediaFlagAudio : UInt8 := 1

theorem validateUint32_iff {name : String} {n m minimum : Nat} :
    validateUint32 name n minimum = .ok m ↔ (minimum ≤ n ∧ n ≤ uint32Max) ∧ n = m := by
  rw [validateUint32]
  by_cases h : minimum ≤ n ∧ n ≤ uint32Max
  · rw [if_pos (by exact_mod_cast h), and_iff_right h, Int.toNat_natCast]
    exact ⟨Except.ok.inj, congrArg Except.ok⟩
  · rw [if_neg (by exact_mod_cast h)]
    refine ⟨fun hok => ?_, fun hrange => absurd hrange.1 h⟩
    cases hok

theorem bigEndian32_eq (n : Nat) : bigEndian32 n = toBytes4 n := rfl

namespace WssMediaFrame

/-- The header of the frame, which is always one of audio. -/
def header (f : WssMediaFrame) : PacketHeader :=
  { flags := mediaFlagAudio, mediaId := f.mediaId, mediaEpoch := f.mediaEpoch, sequence := f.sequence,
    timestamp := f.timestamp, generation := f.generation, payloadLength := f.payload.length }

def packet (f : WssMediaFrame) : MediaPacket := (f.header, f.payload)

variable {f : WssMediaFrame} {bytes : Bytes}

/-- What `serialize` asks of a frame. -/
structure Checked (f : WssMediaFrame) : Prop where
  mediaEpoch : 1 ≤ f.mediaEpoch ∧ f.mediaEpoch ≤ uint32Max
  sequence : f.sequence ≤ uint32Max
  timestamp : f.timestamp ≤ uint32Max
  generation : f.generation ≤ uint32Max
  mediaId : f.mediaId.length = 8
  payload : f.payload ≠ []
  payloadLength : f.payload.length ≤ mediaMaxPayloadBytes

/-- The packed form of a checked frame. -/
theorem Checked.pack (h : Checked f) : PacketHeader.pack f.packet = some ([86, 65, 1, 1] ++ f.mediaId ++
    bigEndian32 f.mediaEpoch ++ bigEndian32 f.sequence ++ bigEndian32 f.timestamp ++ bigEndian32 f.generation ++
    bigEndian32 f.payload.length ++ f.payload) := by
  have hlength : f.payload.length < 2 ^ 32 := by
    have hbound := h.payloadLength
    rw [mediaMaxPayloadBytes] at hbound
    omega
  refine Option.map_eq_some_iff.mpr ⟨_, RawHeader.pack_some.mpr ⟨⟨Nat.lt_succ_of_le h.mediaEpoch.2,
    Nat.lt_succ_of_le h.sequence, Nat.lt_succ_of_le h.timestamp, Nat.lt_succ_of_le h.generation, hlength⟩, rfl⟩, ?_⟩
  simp only [packet, header, PacketHeader.raw, packBytes_eq h.mediaId, bigEndian32_eq]
  rfl

/-- A frame is serialized if and only if its checks go through, and then it is packed. -/
theorem serialize_ok : f.serialize = .ok bytes ↔ Checked f ∧ PacketHeader.pack f.packet = some bytes := by
  simp only [serialize, bind_ok, reject_ok, exists_const, pure_ok, not_or, not_not, not_lt]
  constructor
  · rintro ⟨mediaEpoch, hepoch, sequence, hsequence, timestamp, htimestamp, generation, hgeneration, hmediaId, hpayload,
      rfl⟩
    obtain ⟨hepoch', rfl⟩ := validateUint32_iff.mp hepoch
    obtain ⟨⟨-, hsequence'⟩, rfl⟩ := validateUint32_iff.mp hsequence
    obtain ⟨⟨-, htimestamp'⟩, rfl⟩ := validateUint32_iff.mp htimestamp
    obtain ⟨⟨-, hgeneration'⟩, rfl⟩ := validateUint32_iff.mp hgeneration
    have hchecked : Checked f :=
      ⟨hepoch', hsequence', htimestamp', hgeneration', hmediaId, hpayload.1, hpayload.2⟩
    exact ⟨hchecked, hchecked.pack⟩
  · rintro ⟨h, hpack⟩
    rw [h.pack] at hpack
    refine ⟨f.mediaEpoch, validateUint32_iff.mpr ⟨h.mediaEpoch, rfl⟩, f.sequence,
      validateUint32_iff.mpr ⟨⟨Nat.zero_le _, h.sequence⟩, rfl⟩, f.timestamp,
      validateUint32_iff.mpr ⟨⟨Nat.zero_le _, h.timestamp⟩, rfl⟩, f.generation,
      validateUint32_iff.mpr ⟨⟨Nat.zero_le _, h.generation⟩, rfl⟩, h.mediaId,
      ⟨h.payload, h.payloadLength⟩, Option.some.inj hpack⟩

/-- What `parse` asks of the bytes. -/
structure Parsed (bytes : Bytes) : Prop where
  header : mediaHeaderBytes ≤ bytes.length
  long : bytes.length ≤ mediaHeaderBytes + mediaMaxPayloadBytes
  magic : (RawHeader.unpack bytes).magic = udpMagic
  version : (RawHeader.unpack bytes).version = udpVersion
  flags : (RawHeader.unpack bytes).flags = mediaFlagAudio
  payloadLength : (RawHeader.unpack bytes).payloadLength = (bytes.drop mediaHeaderBytes).length
  mediaEpoch : (RawHeader.unpack bytes).mediaEpoch ≠ 0
  payload : bytes.drop mediaHeaderBytes ≠ []
  bound : (RawHeader.unpack bytes).payloadLength ≤ mediaMaxPayloadBytes

/-- The first four bytes are those of the header struct. -/
theorem start_iff (h : mediaHeaderBytes ≤ bytes.length) : (bytes.take 3 = [86, 65, 1] ∧ (bytes.drop 3).take 1 = [1]) ↔
    (RawHeader.unpack bytes).magic = udpMagic ∧ (RawHeader.unpack bytes).version = udpVersion ∧
      (RawHeader.unpack bytes).flags = mediaFlagAudio := by
  match bytes, h with
  | v :: a :: version :: flags :: rest, _ =>
    simp [RawHeader.unpack, udpMagic, udpVersion, mediaFlagAudio, and_assoc]

theorem packet_injective {g : WssMediaFrame} (h : f.packet = g.packet) : f = g := by
  have hheader : f.header = g.header := (Prod.mk.inj h).1
  obtain ⟨mediaId, mediaEpoch, sequence, timestamp, generation, payload⟩ := f
  obtain rfl : payload = g.payload := (Prod.mk.inj h).2
  obtain rfl : mediaId = g.mediaId := congrArg PacketHeader.mediaId hheader
  obtain rfl : mediaEpoch = g.mediaEpoch := congrArg PacketHeader.mediaEpoch hheader
  obtain rfl : sequence = g.sequence := congrArg PacketHeader.sequence hheader
  obtain rfl : timestamp = g.timestamp := congrArg PacketHeader.timestamp hheader
  obtain rfl : generation = g.generation := congrArg PacketHeader.generation hheader
  rfl

theorem parse_ok : parse bytes = .ok f ↔ Parsed bytes ∧
    f.packet = (PacketHeader.ofRaw (RawHeader.unpack bytes), bytes.drop mediaHeaderBytes) := by
  have hframe : Parsed bytes → ({ mediaId := (bytes.drop 4).take 8
                                  mediaEpoch := readBigEndian32 ((bytes.drop 12).take 4)
                                  sequence := readBigEndian32 ((bytes.drop 16).take 4)
                                  timestamp := readBigEndian32 ((bytes.drop 20).take 4)
                                  generation := readBigEndian32 ((bytes.drop 24).take 4)
                                  payload := bytes.drop mediaHeaderBytes } : WssMediaFrame).packet =
      (PacketHeader.ofRaw (RawHeader.unpack bytes), bytes.drop mediaHeaderBytes) := by
    intro h
    rw [packet, header, PacketHeader.ofRaw, h.flags, h.payloadLength]
    rfl
  simp only [parse, bind_ok, reject_ok, exists_const, pure_ok, not_or, not_not, not_lt]
  constructor
  · rintro ⟨hlong, hheader, hstart, hflags, hlength, hepoch, ⟨hpayload, hbound⟩, rfl⟩
    obtain ⟨hmagic, hversion, hflags⟩ := (start_iff hheader).mp ⟨hstart, hflags⟩
    have hparsed : Parsed bytes := ⟨hheader, hlong, hmagic, hversion, hflags, hlength, hepoch, hpayload, hbound⟩
    exact ⟨hparsed, hframe hparsed⟩
  · rintro ⟨h, hpacket⟩
    obtain ⟨hstart, hflags⟩ := (start_iff h.header).mpr ⟨h.magic, h.version, h.flags⟩
    exact ⟨h.long, h.header, hstart, hflags, h.payloadLength, h.mediaEpoch, ⟨h.payload, h.bound⟩,
      packet_injective ((hframe h).trans hpacket.symm)⟩

theorem parse_serialize (h : f.serialize = .ok bytes) : parse bytes = .ok f := by
  obtain ⟨hchecked, hpack⟩ := serialize_ok.mp h
  obtain ⟨header, hencode, rfl⟩ := Option.map_eq_some_iff.mp hpack
  have hlength : header.length = mediaHeaderBytes := RawHeader.length_pack hencode
  have hraw : RawHeader.unpack (header ++ f.payload) = f.header.raw :=
    PacketHeader.unpack_encode _ hencode hchecked.mediaId
  have hpayload : (header ++ f.payload).drop mediaHeaderBytes = f.payload := List.drop_left' hlength
  have hbound := hchecked.payloadLength
  change parse (header ++ f.payload) = .ok f
  refine parse_ok.mpr ⟨⟨?_, ?_, ?_, ?_, ?_, ?_, ?_, ?_, ?_⟩, ?_⟩
  · rw [List.length_append, hlength]
    exact Nat.le_add_right _ _
  · rw [List.length_append, hlength]
    exact Nat.add_le_add_left hbound _
  · rw [hraw]
    rfl
  · rw [hraw]
    rfl
  · rw [hraw]
    rfl
  · rw [hraw, hpayload]
    rfl
  · rw [hraw]
    exact Nat.one_le_iff_ne_zero.mp hchecked.mediaEpoch.1
  · rw [hpayload]
    exact hchecked.payload
  · rw [hraw]
    exact hbound
  · rw [hraw, hpayload]
    rfl

theorem serialize_parse (h : parse bytes = .ok f) : f.serialize = .ok bytes := by
  obtain ⟨hparsed, hpacket⟩ := parse_ok.mp h
  have hheader : f.header = PacketHeader.ofRaw (RawHeader.unpack bytes) := (Prod.mk.inj hpacket).1
  have hencode := PacketHeader.encode_unpack hparsed.header hparsed.magic hparsed.version
  have hpack : PacketHeader.pack f.packet = some bytes := by
    rw [PacketHeader.pack, hpacket, hencode]
    exact congrArg some (List.take_append_drop mediaHeaderBytes bytes)
  obtain ⟨hepoch, hsequence, htimestamp, hgeneration, -⟩ := PacketHeader.encode_fits hencode
  rw [← hheader] at hepoch hsequence htimestamp hgeneration
  have hmediaId : f.mediaId = (RawHeader.unpack bytes).mediaId := congrArg PacketHeader.mediaId hheader
  have hnonzero : f.mediaEpoch = (RawHeader.unpack bytes).mediaEpoch := congrArg PacketHeader.mediaEpoch hheader
  have hpayload : f.payload = bytes.drop mediaHeaderBytes := (Prod.mk.inj hpacket).2
  have hlength : f.payload.length = (RawHeader.unpack bytes).payloadLength :=
    congrArg PacketHeader.payloadLength hheader
  refine serialize_ok.mpr ⟨⟨⟨?_, Nat.le_of_lt_succ hepoch⟩, Nat.le_of_lt_succ hsequence,
    Nat.le_of_lt_succ htimestamp, Nat.le_of_lt_succ hgeneration, ?_, ?_, ?_⟩, hpack⟩
  · rw [hnonzero]
    exact Nat.one_le_iff_ne_zero.mpr hparsed.mediaEpoch
  · rw [hmediaId]
    exact RawHeader.length_mediaId hparsed.header
  · rw [hpayload]
    exact hparsed.payload
  · rw [hlength]
    exact hparsed.bound

def codec : Codec WssMediaFrame Bytes where
  encode f := f.serialize.toOption
  decode bytes := (parse bytes).toOption

theorem codec_lossless : codec.Lossless fun _ => True := by
  intro f bytes _ hencode
  exact toOption_eq_some.mpr (parse_serialize (toOption_eq_some.mp hencode))

theorem codec_canonical (bytes : Bytes) : codec.CanonicalAt bytes := by
  intro f hdecode
  exact toOption_eq_some.mpr (serialize_parse (toOption_eq_some.mp hdecode))

/-- The frame of a packet, which has no flags and no length of its own. -/
def ofPacket (p : MediaPacket) : Option WssMediaFrame :=
  if p.1.flags = mediaFlagAudio ∧ p.1.payloadLength = p.2.length then
    some { mediaId := p.1.mediaId, mediaEpoch := p.1.mediaEpoch, sequence := p.1.sequence,
           timestamp := p.1.timestamp, generation := p.1.generation, payload := p.2 }
  else none

theorem ofPacket_packet (f : WssMediaFrame) : ofPacket f.packet = some f := if_pos ⟨rfl, rfl⟩

theorem packet_ofPacket {p : MediaPacket} (h : ofPacket p = some f) : f.packet = p := by
  rw [ofPacket] at h
  split at h
  · next hfields =>
    obtain rfl := Option.some.inj h
    rw [packet, header, ← hfields.1, ← hfields.2]
  · cases h

/-- The codec on packets. -/
def media : Codec MediaPacket Bytes := codec.view ofPacket packet

theorem media_lossless : media.Lossless fun _ => True :=
  codec_lossless.view fun _ _ _ h => ⟨trivial, packet_ofPacket h⟩

theorem media_canonical (bytes : Bytes) : media.CanonicalAt bytes :=
  (Codec.canonicalAt_view fun f _ => ofPacket_packet f).mpr (codec_canonical bytes)

theorem media_writes : media.Writes PacketHeader.pack := by
  have hwrites : codec.Writes fun f => PacketHeader.pack f.packet := by
    intro f bytes hencode
    exact (serialize_ok.mp (toOption_eq_some.mp hencode)).2
  apply hwrites.view
  intro p f h
  exact congrArg PacketHeader.pack (packet_ofPacket h)

end WssMediaFrame

end RealtimeVoice.Rva
