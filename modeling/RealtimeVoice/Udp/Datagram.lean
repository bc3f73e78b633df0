import RealtimeVoice.Udp.Gateway

namespace RealtimeVoice.Udp

abbrev Bytes := List UInt8

def udpHeaderBytes : Nat := 32
def udpTagBytes : Nat := 16
def udpMaxPayloadBytes : Nat := 1200
def udpMaxDatagramBytes : Nat := 1280

/-- The cipher of the session: encryption is a function, and only what it produced is
decrypted. -/
structure AesGcm where
  encrypt : (key nonce plaintext aad : Bytes) → Bytes
  decrypt : (key nonce data aad : Bytes) → Option Bytes
  authentic : ∀ {key nonce data aad plaintext}, decrypt key nonce data aad = some plaintext →
    data = encrypt key nonce plaintext aad

def bigEndian (bytes : Bytes) : Nat := bytes.foldl (fun n b => n * 256 + b.toNat) 0

/-- `n.to_bytes(4, "big")`. -/
def toBytes4 (n : Nat) : Bytes :=
  [(n / 2 ^ 24).toUInt8, (n / 2 ^ 16).toUInt8, (n / 2 ^ 8).toUInt8, n.toUInt8]

/-- The bytes of the sequence number in a packed header. -/
def sequenceBytes (data : Bytes) : Bytes := (data.drop 16).take 4

/-- What the cipher makes of some payload under the key, the nonce of the number in
the header, and the header. -/
def Produced (aead : AesGcm) (key salt data : Bytes) : Prop :=
  ∃ payload, data.drop udpHeaderBytes =
    aead.encrypt key (salt ++ sequenceBytes data) payload (data.take udpHeaderBytes)

/-- `struct.unpack_from("!2sBB8sIIIII")`. -/
structure RawHeader where
  magic : Bytes
  version : UInt8
  flags : UInt8
  mediaId : Bytes
  mediaEpoch : Nat
  sequence : Nat
  timestamp : Nat
  generation : Nat
  payloadLength : Nat
deriving DecidableEq

def RawHeader.unpack (data : Bytes) : RawHeader :=
  { magic := data.take 2
    version := data.getD 2 0
    flags := data.getD 3 0
    mediaId := (data.drop 4).take 8
    mediaEpoch := bigEndian ((data.drop 12).take 4)
    sequence := bigEndian (sequenceBytes data)
    timestamp := bigEndian ((data.drop 20).take 4)
    generation := bigEndian ((data.drop 24).take 4)
    payloadLength := bigEndian ((data.drop 28).take 4) }

def udpMagic : Bytes := [0x56, 0x41]
def udpVersion : UInt8 := 1

def flagOf (flags : UInt8) : Flag :=
  if flags = 1 then .audio
  else if flags = 2 then .probe
  else if flags = 4 then .probeAck
  else if flags = 8 then .keepalive
  else .unknown

theorem toBytes4_bigEndian {bytes : Bytes} (h : bytes.length = 4) : toBytes4 (bigEndian bytes) = bytes := by
  obtain ⟨a, b, c, d, rfl⟩ : ∃ a b c d, bytes = [a, b, c, d] := by
    match bytes, h with
    | [a, b, c, d], _ => exact ⟨a, b, c, d, rfl⟩
  have ha := a.toNat_lt
  have hb := b.toNat_lt
  have hc := c.toNat_lt
  have hd := d.toNat_lt
  simp only [toBytes4, bigEndian, List.foldl_cons, List.foldl_nil, List.cons.injEq, and_true]
  refine ⟨?_, ?_, ?_, ?_⟩ <;>
  · apply UInt8.toNat_inj.mp
    simp only [UInt8.toNat_ofNat']
    omega

theorem length_sequenceBytes {data : Bytes} (h : udpHeaderBytes ≤ data.length) : (sequenceBytes data).length = 4 := by
  rw [udpHeaderBytes] at h
  rw [sequenceBytes, List.length_take, List.length_drop]
  omega

namespace Gateway

/-- `UdpPacketHeader.decode`; absent where it raises. -/
def decode (data : Bytes) : Option (UdpPacketHeader × Bytes) :=
  let raw := RawHeader.unpack data
  let encrypted := data.drop udpHeaderBytes
  if data.length < udpHeaderBytes + udpTagBytes then none
  else if raw.magic ≠ udpMagic ∨ raw.version ≠ udpVersion then none
  else if raw.mediaEpoch = 0 then none
  else if raw.payloadLength > udpMaxPayloadBytes then none
  else if encrypted.length ≠ raw.payloadLength + udpTagBytes then none
  else
    some
      ({ flags := flagOf raw.flags, mediaId := raw.mediaId, mediaEpoch := raw.mediaEpoch, sequence := raw.sequence,
         timestamp := raw.timestamp, generation := raw.generation, payloadLength := raw.payloadLength }, encrypted)

/-- A datagram of the queue, from its bytes and its source. -/
def datagramOf (aead : AesGcm) (key salt data : Bytes) (addr : Addr) : Datagram :=
  { length := data.length
    header := (decode data).map Prod.fst
    payload := (decode data).bind fun d =>
      aead.decrypt key (salt ++ toBytes4 d.1.sequence) d.2 (data.take udpHeaderBytes)
    addr := addr }

end Gateway

end RealtimeVoice.Udp
