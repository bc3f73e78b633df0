import Mathlib

namespace RealtimeVoice.Firmware.Wire

def headerBytes : Nat := 32
def tagBytes : Nat := 16
def maxDatagramBytes : Nat := 1280
def maxPayloadBytes : Nat := 1200
def version : UInt8 := 1

abbrev Bytes := List UInt8

inductive Direction
  | uplink | downlink
deriving DecidableEq

inductive DatagramType
  | audio | probe | probeAck | keepalive
deriving DecidableEq

namespace DatagramType

def byte : DatagramType → UInt8
  | .audio => 0x01
  | .probe => 0x02
  | .probeAck => 0x04
  | .keepalive => 0x08

end DatagramType

structure Header where
  type : DatagramType
  mediaId : Bytes
  mediaEpoch : UInt32
  sequence : UInt32
  timestamp : UInt32
  generation : UInt32
  payloadLength : UInt32
deriving DecidableEq

structure DatagramView where
  header : Header
  headerBytes : Bytes
  ciphertext : Bytes
  tag : Bytes
deriving DecidableEq

/-- `ReadU32` at an offset of the datagram. -/
def readU32 (data : Bytes) (offset : Nat) : UInt32 :=
  (data.getD offset 0).toUInt32 <<< 24 ||| (data.getD (offset + 1) 0).toUInt32 <<< 16 |||
    (data.getD (offset + 2) 0).toUInt32 <<< 8 ||| (data.getD (offset + 3) 0).toUInt32

def writeU32 (value : UInt32) : Bytes :=
  [(value >>> 24).toUInt8, (value >>> 16).toUInt8, (value >>> 8).toUInt8, value.toUInt8]

def parseType (value : UInt8) : Option DatagramType :=
  if value = DatagramType.audio.byte then some .audio
  else if value = DatagramType.probe.byte then some .probe
  else if value = DatagramType.probeAck.byte then some .probeAck
  else if value = DatagramType.keepalive.byte then some .keepalive
  else none

def headerShapeValid (header : Header) (direction : Direction) : Bool :=
  if header.mediaEpoch = 0 ∨ header.payloadLength.toNat > maxPayloadBytes then false
  else
    match header.type with
    | .audio => header.payloadLength > 0
    | .probe => direction = .uplink && header.payloadLength = 0 && header.timestamp = 0
    | .probeAck => direction = .downlink && header.payloadLength = 0 && header.timestamp = 0
    | .keepalive => header.payloadLength = 0

def headerFieldsValid (header : Header) (direction : Direction) : Bool :=
  headerShapeValid header direction &&
    match direction with
    | .uplink => header.generation = 0
    | .downlink => if header.type = .audio then header.generation ≠ 0 else header.generation = 0

def encodeHeader (header : Header) : Bytes :=
  [0x56, 0x41, version, header.type.byte] ++ header.mediaId ++ writeU32 header.mediaEpoch ++
    writeU32 header.sequence ++ writeU32 header.timestamp ++ writeU32 header.generation ++
    writeU32 header.payloadLength

/-- Generation is authenticated policy and not framing, so it is not looked at here. -/
def parseDatagram (data : Bytes) (direction : Direction) : Option DatagramView :=
  if data.length < headerBytes + tagBytes ∨ data.length > maxDatagramBytes ∨ data.getD 0 0 ≠ 0x56 ∨
      data.getD 1 0 ≠ 0x41 ∨ data.getD 2 0 ≠ version then none
  else
    match parseType (data.getD 3 0) with
    | none => none
    | some type =>
      let header : Header :=
        { type := type
          mediaId := (data.drop 4).take 8
          mediaEpoch := readU32 data 12
          sequence := readU32 data 16
          timestamp := readU32 data 20
          generation := readU32 data 24
          payloadLength := readU32 data 28 }
      if headerShapeValid header direction = false ∨
          data.length ≠ headerBytes + header.payloadLength.toNat + tagBytes then none
      else some
        { header := header
          headerBytes := data.take headerBytes
          ciphertext := (data.drop headerBytes).take header.payloadLength.toNat
          tag := data.drop (headerBytes + header.payloadLength.toNat) }

def matchesSession (header : Header) (mediaId : Bytes) (mediaEpoch : UInt32) : Bool :=
  mediaEpoch ≠ 0 && header.mediaId = mediaId && header.mediaEpoch = mediaEpoch

def makeNonce (salt : Bytes) (sequence : UInt32) : Bytes := salt ++ writeU32 sequence

variable {data : Bytes} {direction : Direction} {view : DatagramView}

/-- An accepted datagram is framed as its header says. -/
theorem parseDatagram_spec (h : parseDatagram data direction = some view) :
    headerShapeValid view.header direction = true ∧ view.ciphertext.length = view.header.payloadLength.toNat := by
  rw [parseDatagram] at h
  split at h
  · cases h
  · split at h
    · cases h
    · dsimp only at h
      split at h
      · cases h
      · next hvalid =>
        rw [not_or, Bool.not_eq_false, not_not] at hvalid
        obtain rfl := Option.some.inj h
        refine ⟨hvalid.1, ?_⟩
        have hlength := hvalid.2
        dsimp only at hlength ⊢
        rw [List.length_take, List.length_drop]
        omega

theorem writeU32_bytes (a b c d : UInt8) :
    writeU32 (a.toUInt32 <<< 24 ||| b.toUInt32 <<< 16 ||| c.toUInt32 <<< 8 ||| d.toUInt32) = [a, b, c, d] := by
  simp only [writeU32, List.cons.injEq, and_true]
  refine ⟨?_, ?_, ?_, ?_⟩ <;>
  · apply UInt8.eq_of_toBitVec_eq
    ext i hi
    simp <;> grind

theorem writeU32_readU32 {offset : Nat} (h : offset + 4 ≤ data.length) :
    writeU32 (readU32 data offset) = (data.drop offset).take 4 := by
  rw [readU32, writeU32_bytes]
  apply List.ext_getElem
  · simp
    omega
  · intro i hi hi'
    rw [List.getElem_take, List.getElem_drop]
    have hi4 : i < 4 := hi
    rcases i with _ | _ | _ | _ | i
    · simp [List.getD_eq_getElem?_getD, List.getElem?_eq_getElem (show offset < data.length by omega)]
    · simp [List.getD_eq_getElem?_getD, List.getElem?_eq_getElem (show offset + 1 < data.length by omega)]
    · simp [List.getD_eq_getElem?_getD, List.getElem?_eq_getElem (show offset + 2 < data.length by omega)]
    · simp [List.getD_eq_getElem?_getD, List.getElem?_eq_getElem (show offset + 3 < data.length by omega)]
    · omega

/-- The parts of an accepted datagram are the datagram. -/
theorem parseDatagram_parts (h : parseDatagram data direction = some view) :
    view.headerBytes = data.take headerBytes ∧ view.ciphertext ++ view.tag = data.drop headerBytes ∧
      writeU32 view.header.sequence = (data.drop 16).take 4 := by
  rw [parseDatagram] at h
  split at h
  · cases h
  · rename_i hframed
    split at h
    · cases h
    · dsimp only at h
      split at h
      · cases h
      · obtain rfl := Option.some.inj h
        refine ⟨rfl, ?_, writeU32_readU32 ?_⟩
        · rw [← List.drop_drop, List.take_append_drop]
        · simp only [headerBytes, tagBytes] at hframed
          omega

end RealtimeVoice.Firmware.Wire
