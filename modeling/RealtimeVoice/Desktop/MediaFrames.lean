import RealtimeVoice.Udp.Packing
import RealtimeVoice.Desktop.UdpDownlink

namespace RealtimeVoice.Desktop

open RealtimeVoice.Base RealtimeVoice.Udp

def maxPayloadBytes : Nat := 1200

def uint32 (field : String) (value minimum : Nat) : Except String Unit :=
  refuseIf (¬(minimum ≤ value ∧ value ≤ 0xFFFFFFFF)) ("invalid_" ++ field)

theorem uint32_ok {field : String} {value minimum : Nat} :
    uint32 field value minimum = .ok () ↔ minimum ≤ value ∧ value ≤ 0xFFFFFFFF :=
  refuseIf_ok.trans not_not

/-- What encryption adds to a payload. -/
def tagOf (encrypted : Bool) : Nat := if encrypted then udpTagBytes else 0

def maximumOf (encrypted : Bool) : Nat := if encrypted then udpMaxDatagramBytes else udpHeaderBytes + maxPayloadBytes

namespace MediaFrame

/-- The fields of the header for a payload of some length. -/
def fields (f : MediaFrame) (payloadLength : Nat) : PacketHeader :=
  { flags := flagByte f.flags, mediaId := f.mediaId, mediaEpoch := f.mediaEpoch, sequence := f.sequence,
    timestamp := f.timestamp, generation := f.generation, payloadLength := payloadLength }

/-- The checks of `header`, with the code of the first that fails. -/
def check (f : MediaFrame) : Except String Unit := do
  refuseIf (f.flags = .unknown) "invalid_media_flags"
  refuseIf (f.mediaId.length ≠ 8) "invalid_media_id"
  uint32 "media_epoch" f.mediaEpoch 1
  uint32 "sequence" f.sequence 0
  uint32 "timestamp" f.timestamp 0
  uint32 "generation" f.generation 0
  refuseIf (f.payload.length > maxPayloadBytes) "invalid_media_payload"
  refuseIf (f.flags = .audio ∧ f.payload = []) "invalid_media_payload"
  refuseIf (f.flags ≠ .audio ∧ f.payload ≠ []) "non_audio_payload"
  refuseIf (f.flags ≠ .audio ∧ f.generation ≠ 0) "invalid_media_generation"

/-- `header`, which packs what it has checked. -/
def header (f : MediaFrame) : Except String Bytes := do
  f.check
  match (f.fields f.payload.length).encode with
  | none => throw "struct.error"
  | some bytes => return bytes

def encodePlain (f : MediaFrame) : Except String Bytes := f.header.map (· ++ f.payload)

/-- The frame that the bytes of a header spell, without its payload. -/
def read (wire : Bytes) : MediaFrame :=
  let raw := RawHeader.unpack wire
  { flags := flagOf raw.flags, mediaId := raw.mediaId, mediaEpoch := raw.mediaEpoch, sequence := raw.sequence,
    timestamp := raw.timestamp, generation := raw.generation }

/-- `decode_header` on both media profiles. -/
def decode (wire : Bytes) (encrypted : Bool) : Except String (MediaFrame × Bytes) := do
  let raw := RawHeader.unpack wire
  let frame := read wire
  let tail := wire.drop udpHeaderBytes
  refuseIf (wire.length < udpHeaderBytes + tagOf encrypted) "truncated_media_header"
  refuseIf (wire.length > maximumOf encrypted) "media_frame_too_large"
  refuseIf (raw.magic ≠ udpMagic ∨ raw.version ≠ udpVersion) "unsupported_media_header"
  refuseIf (tail.length ≠ raw.payloadLength + tagOf encrypted) "media_length_mismatch"
  refuseIf (frame.flags = .unknown) "invalid_media_flags"
  refuseIf (frame.mediaId.length ≠ 8) "invalid_media_id"
  uint32 "media_epoch" frame.mediaEpoch 1
  uint32 "sequence" frame.sequence 0
  uint32 "timestamp" frame.timestamp 0
  uint32 "generation" frame.generation 0
  refuseIf (frame.flags ≠ .audio ∧ frame.generation ≠ 0) "invalid_media_generation"
  refuseIf (frame.flags = .audio ∧ raw.payloadLength = 0) "invalid_media_payload"
  refuseIf (raw.payloadLength > maxPayloadBytes) "invalid_media_payload"
  return (frame, tail)

def decodePlain (wire : Bytes) : Except String MediaFrame := do
  let (frame, tail) ← decode wire false
  return { frame with payload := tail }

variable {f : MediaFrame} {bytes wire body tail : Bytes} {encrypted : Bool}

/-- What `header` asks of a frame. -/
structure Checked (f : MediaFrame) : Prop where
  flags : f.flags ≠ .unknown
  mediaId : f.mediaId.length = 8
  mediaEpoch : 1 ≤ f.mediaEpoch ∧ f.mediaEpoch ≤ 0xFFFFFFFF
  sequence : f.sequence ≤ 0xFFFFFFFF
  timestamp : f.timestamp ≤ 0xFFFFFFFF
  generation : f.generation ≤ 0xFFFFFFFF
  payloadLength : f.payload.length ≤ maxPayloadBytes
  audio : f.flags = .audio → f.payload ≠ []
  other : f.flags ≠ .audio → f.payload = []
  playback : f.flags ≠ .audio → f.generation = 0

theorem check_ok : f.check = .ok () ↔ Checked f := by
  simp only [check, check_bind_ok, refuseIf_ok (u := ()), uint32_ok, Nat.zero_le, true_and, not_and,
    not_not, not_lt]
  constructor
  · rintro ⟨hflags, hmediaId, hepoch, hsequence, htimestamp, hgeneration, hlength, haudio, hother, hplayback⟩
    exact ⟨hflags, hmediaId, hepoch, hsequence, htimestamp, hgeneration, hlength, haudio, hother, hplayback⟩
  · rintro ⟨hflags, hmediaId, hepoch, hsequence, htimestamp, hgeneration, hlength, haudio, hother, hplayback⟩
    exact ⟨hflags, hmediaId, hepoch, hsequence, htimestamp, hgeneration, hlength, haudio, hother, hplayback⟩

/-- The sender's own predicate says the same. -/
theorem headerValid_iff : f.headerValid = true ↔ Checked f := by
  simp only [headerValid, Bool.and_eq_true, Bool.not_eq_true', Bool.and_eq_false_iff, decide_eq_true_eq,
    decide_eq_false_iff_not, not_not]
  constructor
  · rintro ⟨⟨⟨⟨⟨⟨⟨⟨⟨⟨hflags, hmediaId⟩, hnonzero⟩, hepoch⟩, hsequence⟩, htimestamp⟩, hgeneration⟩, hlength⟩,
      haudio⟩, hother⟩, hplayback⟩
    exact ⟨hflags, hmediaId, ⟨hnonzero, hepoch⟩, hsequence, htimestamp, hgeneration, hlength,
      fun h => haudio.resolve_left (not_not.mpr h), fun h => hother.resolve_left h,
      fun h => hplayback.resolve_left h⟩
  · rintro ⟨hflags, hmediaId, ⟨hnonzero, hepoch⟩, hsequence, htimestamp, hgeneration, hlength, haudio, hother,
      hplayback⟩
    exact ⟨⟨⟨⟨⟨⟨⟨⟨⟨⟨hflags, hmediaId⟩, hnonzero⟩, hepoch⟩, hsequence⟩, htimestamp⟩, hgeneration⟩, hlength⟩,
      imp_iff_not_or.mp haudio⟩, or_iff_not_imp_left.mpr hother⟩, or_iff_not_imp_left.mpr hplayback⟩

theorem header_ok : f.header = .ok bytes ↔ Checked f ∧ (f.fields f.payload.length).encode = some bytes := by
  rw [header, check_bind_ok, check_ok]
  refine and_congr_right fun hchecked => ?_
  cases (f.fields f.payload.length).encode with
  | none =>
    constructor
    · rintro ⟨⟩
    · rintro ⟨⟩
  | some header => simp only [pure, Except.pure, Except.ok.injEq, Option.some.injEq]

/-- What `decode` asks of the bytes. -/
structure Accepted (wire : Bytes) (encrypted : Bool) : Prop where
  short : udpHeaderBytes + tagOf encrypted ≤ wire.length
  long : wire.length ≤ maximumOf encrypted
  magic : (RawHeader.unpack wire).magic = udpMagic
  version : (RawHeader.unpack wire).version = udpVersion
  tail : (wire.drop udpHeaderBytes).length = (RawHeader.unpack wire).payloadLength + tagOf encrypted
  flags : (read wire).flags ≠ .unknown
  mediaEpoch : (RawHeader.unpack wire).mediaEpoch ≠ 0
  playback : (read wire).flags ≠ .audio → (RawHeader.unpack wire).generation = 0
  audio : (read wire).flags = .audio → (RawHeader.unpack wire).payloadLength ≠ 0
  payloadLength : (RawHeader.unpack wire).payloadLength ≤ maxPayloadBytes

theorem decode_ok : decode wire encrypted = .ok (f, tail) ↔
    Accepted wire encrypted ∧ read wire = f ∧ wire.drop udpHeaderBytes = tail := by
  simp only [decode, check_bind_ok, refuseIf_ok (u := ()), uint32_ok, Nat.zero_le, true_and, not_and,
    not_or, not_not, not_lt, pure, Except.pure, Except.ok.injEq, Prod.mk.injEq]
  constructor
  · rintro ⟨hshort, hlong, ⟨hmagic, hversion⟩, htail, hflags, hmediaId, hepoch, hsequence, htimestamp, hgeneration,
      hplayback, haudio, hlength, heq⟩
    exact ⟨⟨hshort, hlong, hmagic, hversion, htail, hflags, Nat.one_le_iff_ne_zero.mp hepoch.1, hplayback, haudio,
      hlength⟩, heq⟩
  · rintro ⟨h, heq⟩
    have hheader : udpHeaderBytes ≤ wire.length := le_trans (Nat.le_add_right _ _) h.short
    obtain ⟨hepoch, hsequence, htimestamp, hgeneration, -⟩ :=
      (RawHeader.pack_some.mp (RawHeader.pack_unpack hheader)).1
    exact ⟨h.short, h.long, ⟨h.magic, h.version⟩, h.tail, h.flags, RawHeader.length_mediaId hheader,
      ⟨Nat.one_le_iff_ne_zero.mpr h.mediaEpoch, Nat.le_of_lt_succ hepoch⟩, Nat.le_of_lt_succ hsequence,
      Nat.le_of_lt_succ htimestamp, Nat.le_of_lt_succ hgeneration, h.playback, h.audio, h.payloadLength, heq⟩

/-- The receiver of datagrams decodes with the same outcome. -/
theorem decodeHeader_ok : decodeHeader wire = .ok (f, tail) ↔ decode wire true = .ok (f, tail) := by
  rw [decode_ok, decodeHeader]
  simp only [ite_error_ok, not_and, not_or, not_not, not_lt, Except.ok.injEq, Prod.mk.injEq]
  constructor
  · rintro ⟨hshort, hlong, ⟨hmagic, hversion⟩, htail, hflags, hmediaId, hepoch, hplayback, haudio, hlength, heq⟩
    exact ⟨⟨hshort, hlong, hmagic, hversion, htail, hflags, hepoch, hplayback, haudio, hlength⟩, heq⟩
  · rintro ⟨h, heq⟩
    have hheader : udpHeaderBytes ≤ wire.length := le_trans (Nat.le_add_right _ _) h.short
    exact ⟨h.short, h.long, ⟨h.magic, h.version⟩, h.tail, h.flags, RawHeader.length_mediaId hheader, h.mediaEpoch,
      h.playback, h.audio, h.payloadLength, heq⟩

/-- What was sent is read back, up to the payload that may be encrypted. -/
theorem decode_header (hheader : f.header = .ok bytes) (hbody : body.length = f.payload.length + tagOf encrypted) :
    decode (bytes ++ body) encrypted = .ok ({ f with payload := [] }, body) := by
  obtain ⟨hchecked, hencode⟩ := header_ok.mp hheader
  have hraw : RawHeader.unpack (bytes ++ body) = (f.fields f.payload.length).raw :=
    PacketHeader.unpack_encode _ hencode hchecked.mediaId
  have hlength : bytes.length = udpHeaderBytes := RawHeader.length_pack hencode
  have hread : read (bytes ++ body) = { f with payload := [] } := by
    rw [read, hraw]
    simp only [PacketHeader.raw, fields, flagOf_flagByte]
  have hbound := hchecked.payloadLength
  refine decode_ok.mpr ⟨⟨?_, ?_, ?_, ?_, ?_, ?_, ?_, ?_, ?_, ?_⟩, hread, List.drop_left' hlength⟩
  · rw [List.length_append, hlength]
    omega
  · rw [List.length_append, hlength, hbody, maximumOf, tagOf]
    simp only [udpHeaderBytes, udpTagBytes, udpMaxDatagramBytes, maxPayloadBytes] at hbound ⊢
    split <;> omega
  · rw [hraw]
    rfl
  · rw [hraw]
    rfl
  · rw [hraw, List.drop_left' hlength]
    exact hbody
  · rw [hread]
    exact hchecked.flags
  · rw [hraw]
    exact Nat.one_le_iff_ne_zero.mp hchecked.mediaEpoch.1
  · rw [hraw, hread]
    exact hchecked.playback
  · rw [hraw, hread]
    intro haudio
    exact List.length_eq_zero_iff.not.mpr (hchecked.audio haudio)
  · rw [hraw]
    exact hbound

/-- The header of an accepted frame is packed as it was if and only if only audio has a payload. -/
theorem header_read {payload : Bytes} (h : Accepted wire encrypted)
    (hpayload : payload.length = (RawHeader.unpack wire).payloadLength) :
    ({ read wire with payload := payload } : MediaFrame).header = .ok (wire.take udpHeaderBytes) ↔
      ((read wire).flags ≠ .audio → payload = []) := by
  have hheader : udpHeaderBytes ≤ wire.length := le_trans (Nat.le_add_right _ _) h.short
  have hencode := PacketHeader.encode_unpack hheader h.magic h.version
  have hfields : ({ read wire with payload := payload } : MediaFrame).fields payload.length =
      PacketHeader.ofRaw (RawHeader.unpack wire) := by
    rw [fields, PacketHeader.ofRaw, hpayload]
    have hflags : flagByte (read wire).flags = (RawHeader.unpack wire).flags := flagByte_flagOf h.flags
    rw [hflags]
    rfl
  obtain ⟨hepoch, hsequence, htimestamp, hgeneration, -⟩ := PacketHeader.encode_fits hencode
  rw [header_ok, hfields, and_iff_left hencode]
  constructor
  · intro hchecked
    exact hchecked.other
  · intro hother
    refine ⟨h.flags, RawHeader.length_mediaId hheader, ⟨Nat.one_le_iff_ne_zero.mpr h.mediaEpoch,
      Nat.le_of_lt_succ hepoch⟩, Nat.le_of_lt_succ hsequence, Nat.le_of_lt_succ htimestamp,
      Nat.le_of_lt_succ hgeneration, ?_, ?_, hother, h.playback⟩
    · rw [hpayload]
      exact h.payloadLength
    · intro haudio hempty
      refine h.audio haudio ?_
      rw [← hpayload, List.length_eq_zero_iff]
      exact hempty

/-- A frame of another kind than audio that carries a payload, and is well framed otherwise. -/
structure StrayPayload (wire : Bytes) (encrypted : Bool) : Prop where
  magic : (RawHeader.unpack wire).magic = udpMagic
  version : (RawHeader.unpack wire).version = udpVersion
  known : flagOf (RawHeader.unpack wire).flags ≠ .unknown
  other : flagOf (RawHeader.unpack wire).flags ≠ .audio
  mediaEpoch : (RawHeader.unpack wire).mediaEpoch ≠ 0
  generation : (RawHeader.unpack wire).generation = 0
  payload : (RawHeader.unpack wire).payloadLength ≠ 0
  bound : (RawHeader.unpack wire).payloadLength ≤ maxPayloadBytes
  length : wire.length = udpHeaderBytes + (RawHeader.unpack wire).payloadLength + tagOf encrypted

theorem strayPayload_iff : StrayPayload wire encrypted ↔ Accepted wire encrypted ∧ (read wire).flags ≠ .audio ∧
    (RawHeader.unpack wire).payloadLength ≠ 0 := by
  constructor
  · intro h
    have hlength := h.length
    have hbound := h.bound
    refine ⟨⟨?_, ?_, h.magic, h.version, ?_, h.known, h.mediaEpoch, fun _ => h.generation, fun haudio => ?_, hbound⟩,
      h.other, h.payload⟩
    · omega
    · rw [hlength, maximumOf, tagOf]
      simp only [udpHeaderBytes, udpTagBytes, udpMaxDatagramBytes, maxPayloadBytes] at hbound ⊢
      split <;> omega
    · rw [List.length_drop]
      omega
    · exact absurd haudio h.other
  · rintro ⟨h, hother, hpayload⟩
    have htail := h.tail
    have hshort := h.short
    rw [List.length_drop] at htail
    refine ⟨h.magic, h.version, h.flags, hother, h.mediaEpoch, h.playback hother, hpayload, h.payloadLength, ?_⟩
    omega

/-- The frame of a packet. Of an encrypted payload the header takes only the length, for which the ciphertext stands. -/
def ofPacket (p : MediaPacket) (encrypted : Bool) : Option MediaFrame :=
  if p.2.length = p.1.payloadLength + tagOf encrypted then
    some { flags := flagOf p.1.flags, mediaId := p.1.mediaId, mediaEpoch := p.1.mediaEpoch, sequence := p.1.sequence,
           timestamp := p.1.timestamp, generation := p.1.generation, payload := p.2.take p.1.payloadLength }
  else none

/-- The codec on packets: a header in front of its payload, or of what the cipher made of it. -/
def media (encrypted : Bool) : Codec MediaPacket Bytes where
  encode p := (ofPacket p encrypted).bind fun f => f.header.toOption.map (· ++ p.2)
  decode wire := (decode wire encrypted).toOption.map fun d => (d.1.fields (d.2.length - tagOf encrypted), d.2)

variable {p : MediaPacket}

theorem ofPacket_some (h : ofPacket p encrypted = some f) : p.2.length = p.1.payloadLength + tagOf encrypted ∧
    f = { flags := flagOf p.1.flags, mediaId := p.1.mediaId, mediaEpoch := p.1.mediaEpoch, sequence := p.1.sequence,
          timestamp := p.1.timestamp, generation := p.1.generation, payload := p.2.take p.1.payloadLength } ∧
    f.payload.length = p.1.payloadLength := by
  rw [ofPacket] at h
  split at h
  · next hlength =>
    obtain rfl := Option.some.inj h
    refine ⟨hlength, rfl, ?_⟩
    rw [List.length_take]
    omega
  · cases h

theorem media_encode : (media encrypted).encode p = some wire ↔
    ∃ f bytes, ofPacket p encrypted = some f ∧ f.header = .ok bytes ∧ bytes ++ p.2 = wire := by
  rw [media]
  simp only [Option.bind_eq_some_iff, Option.map_eq_some_iff, toOption_eq_some]
  constructor
  · rintro ⟨f, hf, bytes, hheader, hwire⟩
    exact ⟨f, bytes, hf, hheader, hwire⟩
  · rintro ⟨f, bytes, hf, hheader, hwire⟩
    exact ⟨f, hf, bytes, hheader, hwire⟩

theorem media_decode : (media encrypted).decode wire = some p ↔ Accepted wire encrypted ∧
    (read wire).fields (RawHeader.unpack wire).payloadLength = p.1 ∧ wire.drop udpHeaderBytes = p.2 := by
  rw [media]
  simp only [Option.map_eq_some_iff, toOption_eq_some, Prod.exists, decode_ok]
  constructor
  · rintro ⟨_, _, ⟨h, rfl, rfl⟩, rfl⟩
    refine ⟨h, ?_, rfl⟩
    rw [h.tail, Nat.add_sub_cancel]
  · rintro ⟨h, hfields, htail⟩
    refine ⟨read wire, wire.drop udpHeaderBytes, ⟨h, rfl, rfl⟩, ?_⟩
    rw [h.tail, Nat.add_sub_cancel]
    exact Prod.ext hfields htail

/-- The fields of a checked frame are those of its packet. -/
theorem fields_ofPacket (h : ofPacket p encrypted = some f) (hflags : f.flags ≠ .unknown) :
    f.fields f.payload.length = p.1 := by
  obtain ⟨-, hf, hlength⟩ := ofPacket_some h
  rw [hlength, fields]
  subst hf
  rw [flagByte_flagOf hflags]

/-- A packet whose fields fit is encoded if and only if its frame passes the checks. -/
theorem media_encode_isSome {bytes : Bytes} (hpack : p.1.encode = some bytes) :
    ((media encrypted).encode p).isSome ↔ ∃ f, ofPacket p encrypted = some f ∧ Checked f := by
  rw [Option.isSome_iff_exists]
  constructor
  · rintro ⟨wire, hencode⟩
    obtain ⟨f, header, hf, hheader, -⟩ := media_encode.mp hencode
    exact ⟨f, hf, (header_ok.mp hheader).1⟩
  · rintro ⟨f, hf, hchecked⟩
    rw [← fields_ofPacket hf hchecked.flags] at hpack
    exact ⟨bytes ++ p.2, media_encode.mpr ⟨f, bytes, hf, header_ok.mpr ⟨hchecked, hpack⟩, rfl⟩⟩

theorem media_lossless (encrypted : Bool) : (media encrypted).Lossless fun _ => True := by
  intro p wire _ hencode
  obtain ⟨f, bytes, hf, hheader, rfl⟩ := media_encode.mp hencode
  obtain ⟨hbody, -, hlength⟩ := ofPacket_some hf
  have hchecked := (header_ok.mp hheader).1
  rw [← hlength] at hbody
  obtain ⟨haccepted, hread, htail⟩ := decode_ok.mp (decode_header hheader hbody)
  refine media_decode.mpr ⟨haccepted, ?_, htail⟩
  have hpayload := haccepted.tail
  rw [htail, hbody, Nat.add_right_cancel_iff] at hpayload
  rw [hread, ← hpayload, ← fields_ofPacket hf hchecked.flags]
  rfl

/-- The packet of an accepted frame is encoded as it was if and only if only audio has a payload. -/
theorem media_round (hdecode : (media encrypted).decode wire = some p) : (media encrypted).encode p = some wire ↔
    ((read wire).flags ≠ .audio → (RawHeader.unpack wire).payloadLength = 0) := by
  obtain ⟨h, hfields, htail⟩ := media_decode.mp hdecode
  have hbody := h.tail
  have hpayload : ((wire.drop udpHeaderBytes).take (RawHeader.unpack wire).payloadLength).length =
      (RawHeader.unpack wire).payloadLength := by
    rw [List.length_take]
    omega
  have hframe : ofPacket p encrypted = some { read wire with
      payload := (wire.drop udpHeaderBytes).take (RawHeader.unpack wire).payloadLength } := by
    rw [ofPacket, ← hfields, ← htail, fields, if_pos hbody, flagOf_flagByte]
  have hempty : (wire.drop udpHeaderBytes).take (RawHeader.unpack wire).payloadLength = [] ↔
      (RawHeader.unpack wire).payloadLength = 0 := by
    rw [← List.length_eq_zero_iff, hpayload]
  rw [← hempty, ← header_read h hpayload, media_encode]
  constructor
  · rintro ⟨f, bytes, hf, hheader, hwire⟩
    obtain rfl := Option.some.inj (hframe.symm.trans hf)
    have hcut : bytes ++ wire.drop udpHeaderBytes = wire.take udpHeaderBytes ++ wire.drop udpHeaderBytes := by
      rw [List.take_append_drop, htail]
      exact hwire
    rw [hheader, List.append_cancel_right hcut]
  · intro hheader
    refine ⟨_, _, hframe, hheader, ?_⟩
    rw [← htail, List.take_append_drop]

theorem media_canonical (encrypted : Bool) (wire : Bytes) :
    (media encrypted).CanonicalAt wire ↔ ¬StrayPayload wire encrypted := by
  rw [strayPayload_iff]
  constructor
  · rintro h ⟨haccepted, hother, hpayload⟩
    have hdecode : (media encrypted).decode wire =
        some ((read wire).fields (RawHeader.unpack wire).payloadLength, wire.drop udpHeaderBytes) :=
      media_decode.mpr ⟨haccepted, rfl, rfl⟩
    exact hpayload ((media_round hdecode).mp (h _ hdecode) hother)
  · intro h p hdecode
    refine (media_round hdecode).mpr fun hother => ?_
    by_contra hpayload
    exact h ⟨(media_decode.mp hdecode).1, hother, hpayload⟩

theorem media_writes (encrypted : Bool) : (media encrypted).Writes PacketHeader.pack := by
  intro p wire hencode
  obtain ⟨f, bytes, hf, hheader, rfl⟩ := media_encode.mp hencode
  obtain ⟨hchecked, hpack⟩ := header_ok.mp hheader
  rw [fields_ofPacket hf hchecked.flags] at hpack
  rw [PacketHeader.pack, hpack]
  rfl

/-- The packet of a frame with its payload in the clear. -/
def packet (f : MediaFrame) : MediaPacket := (f.fields f.payload.length, f.payload)

theorem ofPacket_packet (f : MediaFrame) : ofPacket f.packet false = some f := by
  have hlength : f.packet.2.length = f.packet.1.payloadLength + tagOf false := rfl
  rw [ofPacket, if_pos hlength]
  simp only [packet, fields, flagOf_flagByte, List.take_length]

theorem packet_injective (g : MediaFrame) (h : f.packet = g.packet) : f = g := by
  have hsome := ofPacket_packet f
  rw [h, ofPacket_packet g] at hsome
  exact (Option.some.inj hsome).symm

/-- `encode_plain` is the codec on packets with the payload in the clear. -/
theorem encodePlain_ok : f.encodePlain = .ok wire ↔ (media false).encode f.packet = some wire := by
  rw [media_encode, encodePlain]
  constructor
  · intro h
    cases hheader : f.header with
    | error code =>
      rw [hheader] at h
      cases h
    | ok bytes =>
      rw [hheader] at h
      exact ⟨f, bytes, ofPacket_packet f, hheader, Except.ok.inj h⟩
  · rintro ⟨g, bytes, hg, hheader, hwire⟩
    obtain rfl := Option.some.inj ((ofPacket_packet f).symm.trans hg)
    rw [hheader, ← hwire]
    rfl

/-- `decode_plain` is the codec on packets with the payload in the clear. -/
theorem decodePlain_ok : decodePlain wire = .ok f ↔ (media false).decode wire = some f.packet := by
  have hplain : decodePlain wire = .ok f ↔ Accepted wire false ∧
      ({ read wire with payload := wire.drop udpHeaderBytes } : MediaFrame) = f := by
    rw [decodePlain]
    cases hdecode : decode wire false with
    | error code =>
      constructor
      · rintro ⟨⟩
      · rintro ⟨haccepted, -⟩
        rw [decode_ok.mpr ⟨haccepted, rfl, rfl⟩] at hdecode
        cases hdecode
    | ok d =>
      obtain ⟨frame, tail⟩ := d
      obtain ⟨haccepted, rfl, htail⟩ := decode_ok.mp hdecode
      rw [and_iff_right haccepted, htail]
      exact ⟨Except.ok.inj, congrArg Except.ok⟩
  rw [hplain, media_decode]
  refine and_congr_right fun haccepted => ?_
  have hlength : (wire.drop udpHeaderBytes).length = (RawHeader.unpack wire).payloadLength := haccepted.tail
  rw [← hlength]
  constructor
  · rintro rfl
    exact ⟨rfl, rfl⟩
  · rintro ⟨hfields, hpayload⟩
    exact packet_injective f (Prod.ext hfields hpayload)

/-- The header takes of the payload only its length. -/
theorem header_payload {payload : Bytes} (h : payload.length = f.payload.length) :
    ({ f with payload := payload } : MediaFrame).header = f.header := by
  have hempty : payload = [] ↔ f.payload = [] := by
    rw [← List.length_eq_zero_iff, h, List.length_eq_zero_iff]
  simp only [header, check, h, hempty, fields, ne_eq]

/-- `encrypt` of a frame is the codec on packets with what the cipher makes of the payload. -/
theorem encrypt_ok (hbody : body.length = f.payload.length + udpTagBytes) :
    (media true).encode (f.fields f.payload.length, body) = some wire ↔
      ∃ bytes, f.header = .ok bytes ∧ bytes ++ body = wire := by
  have hlength : (body.take f.payload.length).length = f.payload.length := by
    rw [List.length_take]
    omega
  have hsize : (f.fields f.payload.length, body).2.length =
      (f.fields f.payload.length, body).1.payloadLength + tagOf true := hbody
  have hframe : ofPacket (f.fields f.payload.length, body) true =
      some { f with payload := body.take f.payload.length } := by
    rw [ofPacket, if_pos hsize]
    simp only [fields, flagOf_flagByte]
  rw [media_encode, ← header_payload hlength]
  constructor
  · rintro ⟨g, bytes, hg, hheader, hwire⟩
    obtain rfl := Option.some.inj (hframe.symm.trans hg)
    exact ⟨bytes, hheader, hwire⟩
  · rintro ⟨bytes, hheader, hwire⟩
    exact ⟨_, bytes, hframe, hheader, hwire⟩

end MediaFrame

end RealtimeVoice.Desktop
