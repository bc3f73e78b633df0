import RealtimeVoice.Base.Codecs
import RealtimeVoice.Base.Raises
import RealtimeVoice.Udp.Datagram

namespace RealtimeVoice.Udp

open RealtimeVoice.Base

/-- A field `ns` of a format: zeros behind what is short, and no more than it holds. -/
def packBytes (n : Nat) (bytes : Bytes) : Bytes := (bytes ++ List.replicate n 0).take n

/-- `struct.pack("!2sBB8sIIIII")`, which raises where a number does not fit. -/
def RawHeader.pack (r : RawHeader) : Option Bytes :=
  if r.mediaEpoch < 2 ^ 32 ∧ r.sequence < 2 ^ 32 ∧ r.timestamp < 2 ^ 32 ∧ r.generation < 2 ^ 32 ∧
      r.payloadLength < 2 ^ 32 then
    some (packBytes 2 r.magic ++ [r.version, r.flags] ++ packBytes 8 r.mediaId ++ toBytes4 r.mediaEpoch ++
      toBytes4 r.sequence ++ toBytes4 r.timestamp ++ toBytes4 r.generation ++ toBytes4 r.payloadLength)
  else none

theorem packBytes_eq {n : Nat} {bytes : Bytes} (h : bytes.length = n) : packBytes n bytes = bytes :=
  List.take_left' h

theorem length_packBytes (n : Nat) (bytes : Bytes) : (packBytes n bytes).length = n := by
  rw [packBytes, List.length_take, List.length_append, List.length_replicate]
  omega

theorem length_toBytes4 (n : Nat) : (toBytes4 n).length = 4 := rfl

theorem bigEndian_toBytes4 {n : Nat} (h : n < 2 ^ 32) : bigEndian (toBytes4 n) = n := by
  simp only [toBytes4, bigEndian, List.foldl_cons, List.foldl_nil, UInt8.toNat_ofNat']
  omega

theorem bigEndian_lt {bytes : Bytes} (h : bytes.length = 4) : bigEndian bytes < 2 ^ 32 := by
  obtain ⟨a, b, c, d, rfl⟩ : ∃ a b c d, bytes = [a, b, c, d] := by
    match bytes, h with
    | [a, b, c, d], _ => exact ⟨a, b, c, d, rfl⟩
  have ha := a.toNat_lt
  have hb := b.toNat_lt
  have hc := c.toNat_lt
  have hd := d.toNat_lt
  simp only [bigEndian, List.foldl_cons, List.foldl_nil]
  omega

namespace RawHeader

variable {r : RawHeader} {bytes tail data : Bytes}

theorem pack_some : r.pack = some bytes ↔
    (r.mediaEpoch < 2 ^ 32 ∧ r.sequence < 2 ^ 32 ∧ r.timestamp < 2 ^ 32 ∧ r.generation < 2 ^ 32 ∧
      r.payloadLength < 2 ^ 32) ∧
    packBytes 2 r.magic ++ [r.version, r.flags] ++ packBytes 8 r.mediaId ++ toBytes4 r.mediaEpoch ++
      toBytes4 r.sequence ++ toBytes4 r.timestamp ++ toBytes4 r.generation ++ toBytes4 r.payloadLength = bytes := by
  rw [pack]
  split_ifs with h
  · rw [Option.some_inj]
    exact (and_iff_right h).symm
  · refine ⟨fun hnone => ?_, fun hsome => absurd hsome.1 h⟩
    cases hnone

theorem length_pack (h : r.pack = some bytes) : bytes.length = udpHeaderBytes := by
  obtain ⟨-, rfl⟩ := pack_some.mp h
  simp only [List.length_append, length_packBytes, length_toBytes4, List.length_cons, List.length_nil]
  rfl

/-- What was packed is read back, whatever follows the header. -/
theorem unpack_pack (h : r.pack = some bytes) (hmagic : r.magic.length = 2) (hmediaId : r.mediaId.length = 8) :
    unpack (bytes ++ tail) = r := by
  obtain ⟨⟨hepoch, hsequence, htimestamp, hgeneration, hlength⟩, rfl⟩ := pack_some.mp h
  obtain ⟨magic, version, flags, mediaId, mediaEpoch, sequence, timestamp, generation, payloadLength⟩ := r
  rw [packBytes_eq hmagic, packBytes_eq hmediaId]
  obtain ⟨m₀, m₁, rfl⟩ := List.length_eq_two.mp hmagic
  obtain ⟨i₀, i₁, i₂, i₃, i₄, i₅, i₆, i₇, rfl⟩ :
      ∃ i₀ i₁ i₂ i₃ i₄ i₅ i₆ i₇, mediaId = [i₀, i₁, i₂, i₃, i₄, i₅, i₆, i₇] := by
    match mediaId, hmediaId with
    | [i₀, i₁, i₂, i₃, i₄, i₅, i₆, i₇], _ => exact ⟨i₀, i₁, i₂, i₃, i₄, i₅, i₆, i₇, rfl⟩
  rw [unpack]
  refine RawHeader.mk.injEq .. |>.mpr ⟨rfl, rfl, rfl, rfl, ?_, ?_, ?_, ?_, ?_⟩
  · exact bigEndian_toBytes4 hepoch
  · exact bigEndian_toBytes4 hsequence
  · exact bigEndian_toBytes4 htimestamp
  · exact bigEndian_toBytes4 hgeneration
  · exact bigEndian_toBytes4 hlength

theorem take_drop_append (data : Bytes) {m n : Nat} : (data.take m) ++ (data.drop m).take n = data.take (m + n) :=
  List.take_add.symm

theorem take_two_append (h : 32 ≤ data.length) : data.take 2 ++ [data.getD 2 0, data.getD 3 0] = data.take 4 := by
  match data, h with
  | _ :: _ :: _ :: _ :: _, _ => rfl

theorem magic_eq (h : 2 ≤ data.length) (hv : data.getD 0 0 = 0x56) (ha : data.getD 1 0 = 0x41) :
    (unpack data).magic = udpMagic := by
  match data, h with
  | v :: a :: _, _ =>
    obtain rfl : v = 0x56 := hv
    obtain rfl : a = 0x41 := ha
    rfl

theorem length_mediaId (h : udpHeaderBytes ≤ data.length) : (unpack data).mediaId.length = 8 := by
  rw [udpHeaderBytes] at h
  rw [unpack, List.length_take, List.length_drop]
  omega

/-- A header that was read is packed as it was. -/
theorem pack_unpack (h : udpHeaderBytes ≤ data.length) : (unpack data).pack = some (data.take udpHeaderBytes) := by
  rw [udpHeaderBytes] at h
  have hpart : ∀ m n, m + n ≤ 32 → ((data.drop m).take n).length = n := by
    intro m n hmn
    rw [List.length_take, List.length_drop]
    omega
  rw [pack_some]
  refine ⟨⟨?_, ?_, ?_, ?_, ?_⟩, ?_⟩
  · exact bigEndian_lt (hpart 12 4 (by omega))
  · exact bigEndian_lt (hpart 16 4 (by omega))
  · exact bigEndian_lt (hpart 20 4 (by omega))
  · exact bigEndian_lt (hpart 24 4 (by omega))
  · exact bigEndian_lt (hpart 28 4 (by omega))
  · have htwo : (data.take 2).length = 2 := by
      rw [List.length_take]
      omega
    simp only [unpack, sequenceBytes]
    rw [packBytes_eq htwo, packBytes_eq (hpart 4 8 (by omega)),
      toBytes4_bigEndian (hpart 12 4 (by omega)), toBytes4_bigEndian (hpart 16 4 (by omega)),
      toBytes4_bigEndian (hpart 20 4 (by omega)), toBytes4_bigEndian (hpart 24 4 (by omega)),
      toBytes4_bigEndian (hpart 28 4 (by omega)), take_two_append h]
    simp only [take_drop_append]
    rfl

end RawHeader

/-- The byte of a flag; no byte is sent for an unknown one. -/
def flagByte : Flag → UInt8
  | .audio => 1
  | .probe => 2
  | .probeAck => 4
  | .keepalive => 8
  | .unknown => 0

theorem flagOf_flagByte (flag : Flag) : flagOf (flagByte flag) = flag := by
  cases flag <;> rfl

theorem flagByte_flagOf {byte : UInt8} (h : flagOf byte ≠ .unknown) : flagByte (flagOf byte) = byte := by
  rw [flagOf] at h ⊢
  split_ifs at h ⊢ with h₁ h₂ h₃ h₄
  · exact h₁.symm
  · exact h₂.symm
  · exact h₃.symm
  · exact h₄.symm
  · exact absurd rfl h

/-- `UdpPacketHeader` with its byte of flags as it stands. -/
structure PacketHeader where
  flags : UInt8
  mediaId : Bytes
  mediaEpoch : Nat
  sequence : Nat
  timestamp : Nat
  generation : Nat
  payloadLength : Nat
deriving DecidableEq

/-- A header with the bytes behind it. -/
abbrev MediaPacket := PacketHeader × Bytes

namespace PacketHeader

def raw (h : PacketHeader) : RawHeader :=
  { magic := udpMagic, version := udpVersion, flags := h.flags, mediaId := h.mediaId, mediaEpoch := h.mediaEpoch,
    sequence := h.sequence, timestamp := h.timestamp, generation := h.generation, payloadLength := h.payloadLength }

def encode (h : PacketHeader) : Option Bytes := h.raw.pack

def ofRaw (r : RawHeader) : PacketHeader :=
  { flags := r.flags, mediaId := r.mediaId, mediaEpoch := r.mediaEpoch, sequence := r.sequence,
    timestamp := r.timestamp, generation := r.generation, payloadLength := r.payloadLength }

def decode (datagram : Bytes) : Except String MediaPacket :=
  let raw := RawHeader.unpack datagram
  let encrypted := datagram.drop udpHeaderBytes
  if datagram.length < udpHeaderBytes + udpTagBytes then .error "UDP datagram is shorter than header and tag"
  else if raw.magic ≠ udpMagic ∨ raw.version ≠ udpVersion then .error "unsupported UDP media packet"
  else if raw.mediaEpoch = 0 then .error "UDP media epoch must be non-zero"
  else if raw.payloadLength > udpMaxPayloadBytes then .error "UDP payload is too large"
  else if encrypted.length ≠ raw.payloadLength + udpTagBytes then
    .error "UDP payload length does not match datagram"
  else .ok (ofRaw raw, encrypted)

/-- The header with what its byte of flags means. -/
def kind (h : PacketHeader) : UdpPacketHeader :=
  { flags := flagOf h.flags, mediaId := h.mediaId, mediaEpoch := h.mediaEpoch, sequence := h.sequence,
    timestamp := h.timestamp, generation := h.generation, payloadLength := h.payloadLength }

/-- The session decides on the header that this decoder reads. -/
theorem decode_kind (datagram : Bytes) :
    (decode datagram).toOption.map (fun p => (p.1.kind, p.2)) = Gateway.decode datagram := by
  rw [decode, Gateway.decode]
  repeat' split
  all_goals rfl

variable {h : PacketHeader} {bytes body datagram : Bytes} {p : MediaPacket}

/-- What surrounds a header that a session sends: the identity of the grant, a payload within the
profile, and its ciphertext. -/
structure Sealed (p : MediaPacket) : Prop where
  mediaId : p.1.mediaId.length = 8
  mediaEpoch : p.1.mediaEpoch ≠ 0
  payloadLength : p.1.payloadLength ≤ udpMaxPayloadBytes
  body : p.2.length = p.1.payloadLength + udpTagBytes

theorem ofRaw_raw : ofRaw h.raw = h := rfl

theorem raw_ofRaw {r : RawHeader} (hmagic : r.magic = udpMagic) (hversion : r.version = udpVersion) :
    (ofRaw r).raw = r := by
  obtain ⟨magic, version, flags, mediaId, mediaEpoch, sequence, timestamp, generation, payloadLength⟩ := r
  obtain rfl := hmagic
  obtain rfl := hversion
  rfl

/-- The numbers of a packed header have 32 bits. -/
theorem encode_fits (hencode : h.encode = some bytes) :
    h.mediaEpoch < 2 ^ 32 ∧ h.sequence < 2 ^ 32 ∧ h.timestamp < 2 ^ 32 ∧ h.generation < 2 ^ 32 ∧
      h.payloadLength < 2 ^ 32 :=
  (RawHeader.pack_some.mp hencode).1

theorem unpack_encode (h : PacketHeader) (hencode : h.encode = some bytes) (hmediaId : h.mediaId.length = 8) :
    RawHeader.unpack (bytes ++ body) = h.raw :=
  RawHeader.unpack_pack hencode rfl hmediaId

theorem encode_unpack (hlength : udpHeaderBytes ≤ datagram.length)
    (hmagic : (RawHeader.unpack datagram).magic = udpMagic)
    (hversion : (RawHeader.unpack datagram).version = udpVersion) :
    (ofRaw (RawHeader.unpack datagram)).encode = some (datagram.take udpHeaderBytes) := by
  rw [encode, raw_ofRaw hmagic hversion]
  exact RawHeader.pack_unpack hlength

theorem decode_encode (hencode : h.encode = some bytes) (hsealed : Sealed (h, body)) :
    decode (bytes ++ body) = .ok (h, body) := by
  have hlength : bytes.length = udpHeaderBytes := RawHeader.length_pack hencode
  have hbody : body.length = h.raw.payloadLength + udpTagBytes := hsealed.body
  have hepoch : h.raw.mediaEpoch ≠ 0 := hsealed.mediaEpoch
  have hpayload : ¬h.raw.payloadLength > udpMaxPayloadBytes := not_lt.mpr hsealed.payloadLength
  rw [decode, unpack_encode h hencode hsealed.mediaId, List.drop_left' hlength, List.length_append, hlength, hbody]
  rw [if_neg (by omega), if_neg (by simp [raw]), if_neg hepoch, if_neg hpayload, if_neg (not_not.mpr rfl), ofRaw_raw]

theorem encode_decode (hdecode : decode datagram = .ok p) :
    p.1.encode = some (datagram.take udpHeaderBytes) ∧ p.2 = datagram.drop udpHeaderBytes := by
  rw [decode] at hdecode
  split at hdecode
  · cases hdecode
  next hlength =>
  split at hdecode
  · cases hdecode
  next hmagic =>
  rw [not_or, not_not, not_not] at hmagic
  split at hdecode
  · cases hdecode
  split at hdecode
  · cases hdecode
  split at hdecode
  · cases hdecode
  obtain rfl := Except.ok.inj hdecode
  exact ⟨encode_unpack (by omega) hmagic.1 hmagic.2, rfl⟩

/-- A packet as its header packed before its body. -/
def pack (p : MediaPacket) : Option Bytes := p.1.encode.map (· ++ p.2)

def codec : Codec MediaPacket Bytes where
  encode := pack
  decode datagram := (decode datagram).toOption

theorem codec_lossless : codec.Lossless Sealed := by
  intro p datagram hsealed hpack
  obtain ⟨bytes, hencode, rfl⟩ := Option.map_eq_some_iff.mp hpack
  exact toOption_eq_some.mpr (decode_encode hencode hsealed)

theorem codec_canonical (datagram : Bytes) : codec.CanonicalAt datagram := by
  intro p hdecode
  obtain ⟨hencode, hbody⟩ := encode_decode (toOption_eq_some.mp hdecode)
  change pack p = some datagram
  rw [pack, hencode, hbody, Option.map_some, List.take_append_drop]

end PacketHeader

end RealtimeVoice.Udp
