import Mathlib

namespace RealtimeVoice.Base.Utf8

/-- The bytes are a text in UTF-8. -/
def Valid (bytes : List UInt8) : Prop := bytes.toByteArray.IsValidUTF8

/-- A byte of a character that is not its first one. -/
def Continuation (b : UInt8) : Prop := b &&& 0xC0 = 0x80

instance (b : UInt8) : Decidable (Continuation b) := inferInstanceAs (Decidable (_ = _))

section Bytes

theorem continuation_tail (x : UInt8) : Continuation (x &&& 0x3f ||| 0x80) := by
  revert x
  decide +kernel

theorem not_continuation {b : UInt8} (h : b.IsUTF8FirstByte) : ¬Continuation b := by
  revert b
  decide +kernel

/-- All bytes of a character but the first, by the length of the character. -/
theorem continuation_of_mem_tail {c : Char} {b : UInt8} (h : b ∈ (String.utf8EncodeChar c).tail) : Continuation b := by
  rcases c.utf8Size_eq with hone | htwo | hthree | hfour
  · rw [String.utf8EncodeChar_eq_singleton hone] at h
    cases h
  · rw [String.utf8EncodeChar_eq_cons_cons htwo] at h
    obtain rfl := List.mem_singleton.mp h
    exact continuation_tail _
  · rw [String.utf8EncodeChar_eq_cons_cons_cons hthree] at h
    simp only [List.tail_cons, List.mem_cons, List.not_mem_nil, or_false] at h
    rcases h with rfl | rfl <;> exact continuation_tail _
  · rw [String.utf8EncodeChar_eq_cons_cons_cons_cons hfour] at h
    simp only [List.tail_cons, List.mem_cons, List.not_mem_nil, or_false] at h
    rcases h with rfl | rfl | rfl <;> exact continuation_tail _

theorem first_or_continuation {c : Char} {b : UInt8} (h : b ∈ String.utf8EncodeChar c) :
    b.IsUTF8FirstByte ∨ Continuation b := by
  obtain ⟨i, hi, rfl⟩ := List.mem_iff_getElem.mp h
  rw [UInt8.isUTF8FirstByte_getElem_utf8EncodeChar]
  cases i with
  | zero => exact .inl rfl
  | succ i =>
    have htail : i < (String.utf8EncodeChar c).tail.length := by
      rw [List.length_tail]
      omega
    rw [← List.getElem_tail htail]
    exact .inr (continuation_of_mem_tail (List.getElem_mem htail))

end Bytes

variable {bytes : List UInt8} {n : Nat}

theorem valid_nil : Valid [] := ByteArray.isValidUTF8_empty

theorem Valid.append {bytes' : List UInt8} (h : Valid bytes) (h' : Valid bytes') : Valid (bytes ++ bytes') := by
  rw [Valid, List.toByteArray_append]
  exact ByteArray.IsValidUTF8.append h h'

theorem Valid.first_or_continuation (h : Valid bytes) {b : UInt8} (hb : b ∈ bytes) :
    b.IsUTF8FirstByte ∨ Continuation b := by
  obtain ⟨cs, hcs⟩ := h
  rw [List.utf8Encode, List.toByteArray_inj] at hcs
  rw [hcs, List.mem_flatMap] at hb
  obtain ⟨c, -, hb⟩ := hb
  exact Utf8.first_or_continuation hb

theorem extract_toByteArray (bytes : List UInt8) (n : Nat) :
    bytes.toByteArray.extract 0 n = (bytes.take n).toByteArray := by
  apply ByteArray.ext
  simp

/-- A text is cut between two characters when its next byte begins one, so is no continuation. -/
theorem Valid.take_iff (h : Valid bytes) (hn : n < bytes.length) : Valid (bytes.take n) ↔ ¬Continuation bytes[n] := by
  have hsize : (String.ofByteArray bytes.toByteArray h).utf8ByteSize = bytes.length := List.size_toByteArray
  have hfirst : Valid (bytes.take n) ↔ bytes[n].IsUTF8FirstByte := by
    rw [Valid]
    have hpos := String.Pos.Raw.isValid_iff_isUTF8FirstByte (s := ⟨bytes.toByteArray, h⟩) (p := ⟨n⟩)
    simpa [String.Pos.Raw.isValid_iff_isValidUTF8_extract_zero, extract_toByteArray, String.Pos.Raw.le_iff,
      String.Pos.Raw.lt_iff, String.Pos.Raw.ext_iff, String.getUTF8Byte, hsize, hn, hn.le, hn.ne] using hpos
  rw [hfirst]
  refine ⟨not_continuation, fun hnot => ?_⟩
  exact (h.first_or_continuation (List.getElem_mem hn)).resolve_right hnot

end RealtimeVoice.Base.Utf8
