import RealtimeVoice.Firmware.UdpWire
import RealtimeVoice.Rva.Emission

namespace RealtimeVoice.Firmware.FixedBase64

open RealtimeVoice.Firmware.Wire RealtimeVoice.Rva

variable {size : Nat}

/-- `Base64Value`, with nothing for its -1. -/
def base64Value (value : UInt8) : Option Nat :=
  if 65 ≤ value ∧ value ≤ 90 then some (value.toNat - 65)
  else if 97 ≤ value ∧ value ≤ 122 then some (value.toNat - 97 + 26)
  else if 48 ≤ value ∧ value ≤ 57 then some (value.toNat - 48 + 52)
  else if value = 43 then some 62
  else if value = 47 then some 63
  else none

def pad : UInt8 := 61

/-- The tests of one round on a group whose four values are there. -/
def refused (remaining : Nat) (last thirdPadding fourthPadding : Bool) (second third : Nat) : Bool :=
  (!last && (thirdPadding || fourthPadding)) || (thirdPadding && !fourthPadding) ||
    if thirdPadding then !last || remaining != 1 || second &&& 0x0f != 0
    else if fourthPadding then !last || remaining != 2 || third &&& 0x03 != 0
    else remaining < 3

def groupBytes (thirdPadding fourthPadding : Bool) (first second third fourth : Nat) : List UInt8 :=
  UInt8.ofNat (first <<< 2 ||| second >>> 4) ::
    ((if thirdPadding then [] else [UInt8.ofNat (second <<< 4 ||| third >>> 2)]) ++
      if fourthPadding then [] else [UInt8.ofNat (third <<< 6 ||| fourth)])

/-- What one round makes of its four characters: the bytes to write, or nothing where it
returns false. -/
def quad (remaining : Nat) (last : Bool) (a b c d : UInt8) : Option (List UInt8) :=
  let thirdPadding := c == pad
  let fourthPadding := d == pad
  match base64Value a, base64Value b, (if thirdPadding then some 0 else base64Value c),
    (if fourthPadding then some 0 else base64Value d) with
  | some first, some second, some third, some fourth =>
    if refused remaining last thirdPadding fourthPadding second third then none
    else some (groupBytes thirdPadding fourthPadding first second third fourth)
  | _, _, _, _ => none

/-- `(*output)[index] = value`, where the array has that index. -/
def put (output : Vector UInt8 size) (index : Nat) (value : UInt8) : Option (Vector UInt8 size) :=
  if h : index < size then some (output.set index value) else none

def putAll (output : Vector UInt8 size) : Nat → List UInt8 → Option (Vector UInt8 size)
  | _, [] => some output
  | written, value :: values => (put output written value).bind fun output => putAll output (written + 1) values

/-- The loop of `DecodeFixedBase64`, with the rounds it has left. An access outside of the
string or the array gives nothing. -/
def decodeLoop (encoded : Bytes) : Nat → Nat → Nat → Vector UInt8 size → Option (Bool × Vector UInt8 size)
  | 0, _, written, output => some (written == size, output)
  | rounds + 1, index, written, output => do
    let a ← encoded[index]?
    let b ← encoded[index + 1]?
    let c ← encoded[index + 2]?
    let d ← encoded[index + 3]?
    match quad (size - written) (index + 4 == encoded.length) a b c d with
    | none => some (false, output)
    | some bytes => decodeLoop encoded rounds (index + 4) (written + bytes.length) (← putAll output written bytes)

def encodedSize (size : Nat) : Nat := (size + 2) / 3 * 4

/-- `DecodeFixedBase64<Size>`: what it returns, and the array it leaves. -/
def decodeFixedBase64 (encoded : Bytes) (output : Vector UInt8 size) : Option (Bool × Vector UInt8 size) :=
  if encoded.length ≠ encodedSize size then some (false, output)
  else decodeLoop encoded (encoded.length / 4) 0 0 output

/-- The bytes of `base64.b64encode`. -/
def encoded (bytes : List UInt8) : Bytes := (b64encode bytes).map Char.toUInt8

def digit (n : Nat) : UInt8 := (base64Char n).toUInt8

theorem base64Value_digit {n : Nat} (h : n < 64) : base64Value (digit n) = some n := by
  revert n
  decide

theorem digit_ne_pad {n : Nat} (h : n < 64) : digit n ≠ pad := by
  revert n
  decide

theorem base64Value_iff {value : UInt8} {n : Nat} : base64Value value = some n ↔ n < 64 ∧ value = digit n := by
  constructor
  · intro h
    have hall : ∀ v < 256, (base64Value (UInt8.ofNat v)).all (fun n => n < 64 ∧ UInt8.ofNat v = digit n) = true := by
      decide +kernel
    have hvalue := hall value.toNat value.toNat_lt
    rw [UInt8.ofNat_toNat, h] at hvalue
    simpa using hvalue
  · rintro ⟨hn, rfl⟩
    exact base64Value_digit hn

section Encoding

variable (x y z : UInt8) (rest : List UInt8)

theorem encoded_one : encoded [x] = [digit (x.toNat / 4), digit (x.toNat % 4 * 16), pad, pad] := rfl

theorem encoded_two :
    encoded [x, y] = [digit (x.toNat / 4), digit (x.toNat % 4 * 16 + y.toNat / 16), digit (y.toNat % 16 * 4), pad] := rfl

theorem encoded_three :
    encoded (x :: y :: z :: rest) =
      digit (x.toNat / 4) :: digit (x.toNat % 4 * 16 + y.toNat / 16) :: digit (y.toNat % 16 * 4 + z.toNat / 64) ::
        digit (z.toNat % 64) :: encoded rest := rfl

end Encoding

theorem encoded_append {bytes : List UInt8} (h : bytes.length = 3) (rest : List UInt8) :
    encoded (bytes ++ rest) = encoded bytes ++ encoded rest := by
  obtain ⟨x, y, z, rfl⟩ := List.length_eq_three.mp h
  rfl

theorem length_encoded (bytes : List UInt8) : (encoded bytes).length = encodedSize bytes.length := by
  induction bytes using b64encode.induct with
  | case1 x y z rest ih =>
    rw [encoded_three, List.length_cons, List.length_cons, List.length_cons, List.length_cons, ih, encodedSize,
      encodedSize, List.length_cons, List.length_cons, List.length_cons]
    omega
  | case2 x y => simp [encoded_two, encodedSize]
  | case3 x => simp [encoded_one, encodedSize]
  | case4 => rfl

theorem shift_or {a b k : Nat} (i : Nat) (hb : b / 2 ^ k < 2 ^ i) : a <<< i ||| b >>> k = a * 2 ^ i + b / 2 ^ k := by
  rw [Nat.shiftRight_eq_div_pow, ← Nat.shiftLeft_add_eq_or_of_lt hb, Nat.shiftLeft_eq]

/-- The three bytes of four digits, in arithmetic. -/
theorem groupBytes_eq (first : Nat) {second third fourth : Nat} (h2 : second < 64) (h3 : third < 64) (h4 : fourth < 64)
    (thirdPadding fourthPadding : Bool) :
    groupBytes thirdPadding fourthPadding first second third fourth =
      UInt8.ofNat (first * 4 + second / 16) ::
        ((if thirdPadding then [] else [UInt8.ofNat (second * 16 + third / 4)]) ++
          if fourthPadding then [] else [UInt8.ofNat (third * 64 + fourth)]) := by
  have hfirst := shift_or (a := first) (b := second) (k := 4) 2 (by omega)
  have hsecond := shift_or (a := second) (b := third) (k := 2) 4 (by omega)
  have hthird := shift_or (a := third) (b := fourth) (k := 0) 6 (by omega)
  rw [groupBytes, hfirst, hsecond, show fourth = fourth >>> 0 from rfl, hthird]
  simp

section Group

variable {remaining n₁ n₂ n₃ n₄ : Nat} {last : Bool} {a b c d : UInt8} {bytes : List UInt8}

theorem quad_full (h₁ : n₁ < 64) (h₂ : n₂ < 64) (h₃ : n₃ < 64) (h₄ : n₄ < 64) :
    quad remaining last (digit n₁) (digit n₂) (digit n₃) (digit n₄) =
      if remaining < 3 then none
      else some [UInt8.ofNat (n₁ * 4 + n₂ / 16), UInt8.ofNat (n₂ * 16 + n₃ / 4), UInt8.ofNat (n₃ * 64 + n₄)] := by
  have hc := beq_false_of_ne (digit_ne_pad h₃)
  have hd := beq_false_of_ne (digit_ne_pad h₄)
  have hbytes := groupBytes_eq n₁ h₂ h₃ h₄ false false
  simp [quad, base64Value_digit h₁, base64Value_digit h₂, base64Value_digit h₃, base64Value_digit h₄, hc, hd, refused,
    hbytes]

theorem quad_one_pad (h₁ : n₁ < 64) (h₂ : n₂ < 64) (h₃ : n₃ < 64) :
    quad remaining last (digit n₁) (digit n₂) (digit n₃) pad =
      if last = true ∧ remaining = 2 ∧ n₃ % 4 = 0
      then some [UInt8.ofNat (n₁ * 4 + n₂ / 16), UInt8.ofNat (n₂ * 16 + n₃ / 4)] else none := by
  have hc := beq_false_of_ne (digit_ne_pad h₃)
  have hbits : n₃ &&& 0x03 = n₃ % 4 := Nat.and_two_pow_sub_one_eq_mod n₃ 2
  have hbytes := groupBytes_eq n₁ h₂ h₃ (show 0 < 64 by decide) false true
  cases last <;> by_cases hr : remaining = 2 <;> by_cases hn : n₃ % 4 = 0 <;>
    simp [quad, base64Value_digit h₁, base64Value_digit h₂, base64Value_digit h₃, hc, refused, hbits, hbytes, hr, hn]

theorem quad_two_pads (h₁ : n₁ < 64) (h₂ : n₂ < 64) :
    quad remaining last (digit n₁) (digit n₂) pad pad =
      if last = true ∧ remaining = 1 ∧ n₂ % 16 = 0 then some [UInt8.ofNat (n₁ * 4 + n₂ / 16)] else none := by
  have hbits : n₂ &&& 0x0f = n₂ % 16 := Nat.and_two_pow_sub_one_eq_mod n₂ 4
  have hbytes := groupBytes_eq n₁ h₂ (show 0 < 64 by decide) (show 0 < 64 by decide) true true
  cases last <;> by_cases hr : remaining = 1 <;> by_cases hn : n₂ % 16 = 0 <;>
    simp [quad, base64Value_digit h₁, base64Value_digit h₂, refused, hbits, hbytes, hr, hn]

/-- No padding stands before a digit. -/
theorem quad_misplaced (h₁ : n₁ < 64) (h₂ : n₂ < 64) (h₄ : n₄ < 64) :
    quad remaining last (digit n₁) (digit n₂) pad (digit n₄) = none := by
  have hd := beq_false_of_ne (digit_ne_pad h₄)
  simp [quad, base64Value_digit h₁, base64Value_digit h₂, base64Value_digit h₄, hd, refused]

/-- Four characters that a round does not refuse. -/
theorem quad_characters (h : quad remaining last a b c d = some bytes) :
    ∃ n₁ < 64, ∃ n₂ < 64, a = digit n₁ ∧ b = digit n₂ ∧ (c = pad ∨ ∃ n < 64, c = digit n) ∧
      (d = pad ∨ ∃ n < 64, d = digit n) := by
  simp only [quad] at h
  split at h
  · rename_i n₁ n₂ n₃ n₄ ha hb hc hd
    obtain ⟨h₁, rfl⟩ := base64Value_iff.mp ha
    obtain ⟨h₂, rfl⟩ := base64Value_iff.mp hb
    refine ⟨n₁, h₁, n₂, h₂, rfl, rfl, ?_, ?_⟩
    · by_cases hpad : c = pad
      · exact .inl hpad
      · rw [if_neg (by simpa using hpad)] at hc
        exact .inr ⟨n₃, base64Value_iff.mp hc⟩
    · by_cases hpad : d = pad
      · exact .inl hpad
      · rw [if_neg (by simpa using hpad)] at hd
        exact .inr ⟨n₄, base64Value_iff.mp hd⟩
  · cases h

theorem byte_eq {n : Nat} {x : UInt8} (h : n % 2 ^ 8 = x.toNat) : UInt8.ofNat n = x := by
  apply UInt8.toNat_inj.mp
  rw [UInt8.toNat_ofNat', h]

theorem quad_one (x : UInt8) : quad 1 true (digit (x.toNat / 4)) (digit (x.toNat % 4 * 16)) pad pad = some [x] := by
  have hx := x.toNat_lt
  rw [quad_two_pads (by omega) (by omega), if_pos ⟨rfl, rfl, by omega⟩, byte_eq (x := x) (by omega)]

theorem quad_two (x y : UInt8) :
    quad 2 true (digit (x.toNat / 4)) (digit (x.toNat % 4 * 16 + y.toNat / 16)) (digit (y.toNat % 16 * 4)) pad =
      some [x, y] := by
  have hx := x.toNat_lt
  have hy := y.toNat_lt
  rw [quad_one_pad (by omega) (by omega) (by omega), if_pos ⟨rfl, rfl, by omega⟩, byte_eq (x := x) (by omega),
    byte_eq (x := y) (by omega)]

theorem quad_three (x y z : UInt8) (h : 3 ≤ remaining) :
    quad remaining last (digit (x.toNat / 4)) (digit (x.toNat % 4 * 16 + y.toNat / 16))
      (digit (y.toNat % 16 * 4 + z.toNat / 64)) (digit (z.toNat % 64)) = some [x, y, z] := by
  have hx := x.toNat_lt
  have hy := y.toNat_lt
  have hz := z.toNat_lt
  rw [quad_full (by omega) (by omega) (by omega) (by omega), if_neg (Nat.not_lt.mpr h), byte_eq (x := x) (by omega),
    byte_eq (x := y) (by omega), byte_eq (x := z) (by omega)]

/-- A round accepts exactly the encodings of what is left to write, three bytes of it or
all of it in the last round. -/
theorem quad_iff :
    quad remaining last a b c d = some bytes ↔ encoded bytes = [a, b, c, d] ∧
      (bytes.length = 3 ∧ 3 ≤ remaining ∨ last = true ∧ bytes.length = remaining) := by
  constructor
  · intro h
    obtain ⟨n₁, h₁, n₂, h₂, rfl, rfl, hc, hd⟩ := quad_characters h
    have hfirst : (n₁ * 4 + n₂ / 16) % 2 ^ 8 / 4 = n₁ := by omega
    obtain rfl | ⟨n₃, h₃, rfl⟩ := hc <;> obtain rfl | ⟨n₄, h₄, rfl⟩ := hd
    · rw [quad_two_pads h₁ h₂] at h
      split_ifs at h with hcond
      obtain ⟨hlast, hremaining, hbits⟩ := hcond
      obtain rfl := Option.some.inj h
      have hsecond : (n₁ * 4 + n₂ / 16) % 2 ^ 8 % 4 * 16 = n₂ := by omega
      refine ⟨?_, .inr ⟨hlast, hremaining.symm⟩⟩
      rw [encoded_one, UInt8.toNat_ofNat', hfirst, hsecond]
    · rw [quad_misplaced h₁ h₂ h₄] at h
      cases h
    · rw [quad_one_pad h₁ h₂ h₃] at h
      split_ifs at h with hcond
      obtain ⟨hlast, hremaining, hbits⟩ := hcond
      obtain rfl := Option.some.inj h
      have hsecond : (n₁ * 4 + n₂ / 16) % 2 ^ 8 % 4 * 16 + (n₂ * 16 + n₃ / 4) % 2 ^ 8 / 16 = n₂ := by omega
      have hthird : (n₂ * 16 + n₃ / 4) % 2 ^ 8 % 16 * 4 = n₃ := by omega
      refine ⟨?_, .inr ⟨hlast, hremaining.symm⟩⟩
      rw [encoded_two, UInt8.toNat_ofNat', UInt8.toNat_ofNat', hfirst, hsecond, hthird]
    · rw [quad_full h₁ h₂ h₃ h₄] at h
      split_ifs at h with hcond
      obtain rfl := Option.some.inj h
      have hsecond : (n₁ * 4 + n₂ / 16) % 2 ^ 8 % 4 * 16 + (n₂ * 16 + n₃ / 4) % 2 ^ 8 / 16 = n₂ := by omega
      have hthird : (n₂ * 16 + n₃ / 4) % 2 ^ 8 % 16 * 4 + (n₃ * 64 + n₄) % 2 ^ 8 / 64 = n₃ := by omega
      have hfourth : (n₃ * 64 + n₄) % 2 ^ 8 % 64 = n₄ := by omega
      refine ⟨?_, .inl ⟨rfl, Nat.le_of_not_lt hcond⟩⟩
      rw [encoded_three, UInt8.toNat_ofNat', UInt8.toNat_ofNat', UInt8.toNat_ofNat', hfirst, hsecond, hthird, hfourth]
      rfl
  · rintro ⟨hencoded, hroom⟩
    have hlength := length_encoded bytes
    rw [hencoded, encodedSize] at hlength
    match bytes, hencoded, hroom, hlength with
    | [], _, _, hlength => cases hlength
    | [x], hencoded, hroom, _ =>
      simp only [encoded_one, List.cons.injEq, and_true] at hencoded
      obtain ⟨rfl, rfl, rfl, rfl⟩ := hencoded
      obtain ⟨hthree, -⟩ | ⟨rfl, rfl⟩ := hroom
      · cases hthree
      · exact quad_one x
    | [x, y], hencoded, hroom, _ =>
      simp only [encoded_two, List.cons.injEq, and_true] at hencoded
      obtain ⟨rfl, rfl, rfl, rfl⟩ := hencoded
      obtain ⟨hthree, -⟩ | ⟨rfl, rfl⟩ := hroom
      · cases hthree
      · exact quad_two x y
    | [x, y, z], hencoded, hroom, _ =>
      simp only [encoded_three, List.cons.injEq] at hencoded
      obtain ⟨rfl, rfl, rfl, rfl, -⟩ := hencoded
      apply quad_three
      obtain ⟨-, hroom⟩ | ⟨-, rfl⟩ := hroom
      · exact hroom
      · exact Nat.le_refl _
    | _ :: _ :: _ :: _ :: _, _, _, hlength =>
      simp only [List.length_cons, List.length_nil] at hlength
      omega

end Group

theorem putAll_eq (output : Vector UInt8 size) (written : Nat) (values : List UInt8)
    (h : written + values.length ≤ size) :
    ∃ out, putAll output written values = some out ∧
      out.toList = output.toList.take written ++ values ++ output.toList.drop (written + values.length) := by
  induction values generalizing output written with
  | nil => exact ⟨output, rfl, by simp⟩
  | cons value values ih =>
    rw [List.length_cons] at h
    have hwritten : written < size := by omega
    obtain ⟨out, hout, hlist⟩ := ih (output.set written value) (written + 1) (by omega)
    refine ⟨out, ?_, ?_⟩
    · rw [putAll, put, dif_pos hwritten]
      exact hout
    · have hlength : (output.toList.take written).length = written := by simp; omega
      rw [hlist, Vector.toList_set, List.take_succ_eq_append_getElem (by simp; omega), List.getElem_set_self,
        List.take_set_of_le (Nat.le_refl _), List.drop_set_of_lt (by omega), List.length_cons]
      simp [Nat.add_assoc, Nat.add_comm 1]

section Loop

variable {input bytes : Bytes} {rounds index written : Nat}

/-- The four characters of a round, if the loop has one left. -/
theorem drop_eq_group (h : index + 4 * (rounds + 1) = input.length) :
    ∃ a b c d, input.drop index = a :: b :: c :: d :: input.drop (index + 4) ∧ input[index]? = some a ∧
      input[index + 1]? = some b ∧ input[index + 2]? = some c ∧ input[index + 3]? = some d := by
  have h0 : index < input.length := by omega
  have h1 : index + 1 < input.length := by omega
  have h2 : index + 2 < input.length := by omega
  have h3 : index + 3 < input.length := by omega
  refine ⟨input[index], input[index + 1], input[index + 2], input[index + 3], ?_, ?_⟩
  · rw [List.drop_eq_getElem_cons h0, List.drop_eq_getElem_cons h1, List.drop_eq_getElem_cons h2,
      List.drop_eq_getElem_cons h3]
  · simp [h0, h1, h2, h3]

/-- The encoding of what is left starts with that of the first three bytes or is one group. -/
theorem split_group (bytes : List UInt8) (hne : bytes ≠ []) :
    ∃ group rest, bytes = group ++ rest ∧ encoded bytes = encoded group ++ encoded rest ∧ (encoded group).length = 4 ∧
      (group.length = 3 ∨ rest = [] ∧ group.length < 3) := by
  match bytes, hne with
  | [x], _ => exact ⟨[x], [], rfl, rfl, rfl, .inr ⟨rfl, by simp⟩⟩
  | [x, y], _ => exact ⟨[x, y], [], rfl, rfl, rfl, .inr ⟨rfl, by simp⟩⟩
  | x :: y :: z :: rest, _ => exact ⟨[x, y, z], rest, rfl, rfl, rfl, .inl rfl⟩

theorem decodeLoop_accepts (output : Vector UInt8 size) (hindex : index + 4 * rounds = input.length)
    (hwritten : written + bytes.length = size) (h : encoded bytes = input.drop index) :
    ∃ out, decodeLoop input rounds index written output = some (true, out) ∧
      out.toList = output.toList.take written ++ bytes := by
  induction rounds generalizing index written bytes output with
  | zero =>
    have hempty : bytes = [] := by
      have hlength := length_encoded bytes
      rw [h, List.drop_eq_nil_of_le (by omega), encodedSize, List.length_nil] at hlength
      exact List.eq_nil_of_length_eq_zero (by omega)
    subst hempty
    rw [List.length_nil, Nat.add_zero] at hwritten
    subst hwritten
    exact ⟨output, by simp [decodeLoop], by simp⟩
  | succ rounds ih =>
    obtain ⟨a, b, c, d, hdrop, ha, hb, hc, hd⟩ := drop_eq_group hindex
    have hne : bytes ≠ [] := by
      rintro rfl
      rw [hdrop] at h
      cases h
    obtain ⟨group, rest, rfl, hencoded, hfour, hgroup⟩ := split_group bytes hne
    rw [hencoded, hdrop] at h
    obtain ⟨hhead, htail⟩ := @List.append_inj _ _ [a, b, c, d] _ _ h hfour
    rw [List.length_append] at hwritten
    have hquad : quad (size - written) (index + 4 == input.length) a b c d = some group := by
      rw [quad_iff]
      refine ⟨hhead, ?_⟩
      obtain hthree | ⟨rfl, -⟩ := hgroup
      · exact .inl ⟨hthree, by omega⟩
      · refine .inr ⟨?_, ?_⟩
        · have hlength := congrArg List.length htail
          rw [List.length_drop] at hlength
          have hnil : (encoded []).length = 0 := rfl
          rw [hnil] at hlength
          rw [beq_iff_eq]
          omega
        · rw [List.length_nil] at hwritten
          omega
    obtain ⟨filled, hput, hfilled⟩ := putAll_eq output written group (by omega)
    have hwritten' : written + group.length + rest.length = size := by omega
    obtain ⟨out, hloop, hout⟩ := ih filled (by omega) hwritten' htail
    refine ⟨out, ?_, ?_⟩
    · simp only [decodeLoop, ha, hb, hc, hd, Option.bind_eq_bind, Option.bind_some, hquad, hput, hloop]
    · have hlength : (output.toList.take written ++ group).length = written + group.length := by simp; omega
      rw [hout, hfilled, ← hlength, List.take_left, List.append_assoc]

theorem decodeLoop_sound (output : Vector UInt8 size) (hindex : index + 4 * rounds = input.length)
    (hrounds : rounds = (size - written + 2) / 3) (hwritten : written ≤ size) :
    ∃ ok out, decodeLoop input rounds index written output = some (ok, out) ∧
      (ok = true → ∃ bytes, written + bytes.length = size ∧ encoded bytes = input.drop index) := by
  induction rounds generalizing index written output with
  | zero =>
    refine ⟨_, _, rfl, fun _ => ⟨[], ?_, ?_⟩⟩
    · rw [List.length_nil]
      omega
    · rw [List.drop_eq_nil_of_le (by omega)]
      rfl
  | succ rounds ih =>
    obtain ⟨a, b, c, d, hdrop, ha, hb, hc, hd⟩ := drop_eq_group hindex
    cases hquad : quad (size - written) (index + 4 == input.length) a b c d with
    | none =>
      refine ⟨false, output, ?_, fun h => by cases h⟩
      simp only [decodeLoop, ha, hb, hc, hd, Option.bind_eq_bind, Option.bind_some, hquad]
    | some group =>
      obtain ⟨hencoded, hroom⟩ := quad_iff.mp hquad
      have hlast : index + 4 = input.length → rounds = 0 := by omega
      rw [beq_iff_eq] at hroom
      obtain ⟨filled, hput, -⟩ := putAll_eq output written group (by omega)
      have hindex' : index + 4 + 4 * rounds = input.length := by omega
      have hrounds' : rounds = (size - (written + group.length) + 2) / 3 := by omega
      obtain ⟨ok, out, hloop, hok⟩ := ih filled hindex' hrounds' (by omega)
      refine ⟨ok, out, ?_, fun htrue => ?_⟩
      · simp only [decodeLoop, ha, hb, hc, hd, Option.bind_eq_bind, Option.bind_some, hquad, hput, hloop]
      · obtain ⟨bytes, hlength, htail⟩ := hok htrue
        refine ⟨group ++ bytes, by rw [List.length_append]; omega, ?_⟩
        obtain ⟨hthree, -⟩ | ⟨-, hall⟩ := hroom
        · rw [encoded_append hthree, hencoded, htail, hdrop]
          rfl
        · have hempty : bytes = [] := List.eq_nil_of_length_eq_zero (by omega)
          rw [hempty] at htail ⊢
          rw [List.append_nil, hencoded, hdrop, ← htail]
          rfl

end Loop

/-- `DecodeFixedBase64` stays within its string and its array, and returns true exactly on the
encodings of the arrays of its size. It is the inverse of `b64encode` on these, so that no two
strings give one array. -/
theorem decodeFixedBase64_exact (input : Bytes) (output : Vector UInt8 size) :
    (∃ ok out, decodeFixedBase64 input output = some (ok, out) ∧
      (ok = true ↔ ∃ value : Vector UInt8 size, input = encoded value.toList)) ∧
    ∀ value : Vector UInt8 size,
      decodeFixedBase64 input output = some (true, value) ↔ input = encoded value.toList := by
  have haccepts : ∀ value : Vector UInt8 size, input = encoded value.toList →
      decodeFixedBase64 input output = some (true, value) := by
    rintro value rfl
    have hlength := length_encoded value.toList
    rw [Vector.length_toList] at hlength
    have hrounds : 0 + 4 * ((encoded value.toList).length / 4) = (encoded value.toList).length := by
      rw [hlength, encodedSize]
      omega
    have hwritten : 0 + value.toList.length = size := by simp
    obtain ⟨out, hloop, hout⟩ := decodeLoop_accepts output hrounds hwritten (by simp)
    rw [decodeFixedBase64, if_neg (by simp [hlength]), hloop]
    rw [List.take_zero, List.nil_append] at hout
    rw [Vector.toList_inj.mp hout]
  have hsound : ∃ ok out, decodeFixedBase64 input output = some (ok, out) ∧
      (ok = true → ∃ value : Vector UInt8 size, input = encoded value.toList) := by
    rw [decodeFixedBase64]
    split_ifs with hsize
    · exact ⟨false, output, rfl, fun h => by cases h⟩
    · rw [not_not, encodedSize] at hsize
      have hindex : 0 + 4 * (input.length / 4) = input.length := by omega
      have hrounds : input.length / 4 = (size - 0 + 2) / 3 := by omega
      obtain ⟨ok, out, hloop, hok⟩ := decodeLoop_sound output hindex hrounds (Nat.zero_le _)
      refine ⟨ok, out, hloop, fun htrue => ?_⟩
      obtain ⟨bytes, hlength, hencoded⟩ := hok htrue
      refine ⟨⟨bytes.toArray, by simpa using hlength⟩, ?_⟩
      rw [List.drop_zero] at hencoded
      exact hencoded.symm
  obtain ⟨ok, out, hdecode, hok⟩ := hsound
  have hunique : ∀ value : Vector UInt8 size, input = encoded value.toList → ok = true ∧ out = value := by
    intro value hvalue
    rw [haccepts value hvalue] at hdecode
    obtain ⟨rfl, rfl⟩ := Prod.mk.inj (Option.some.inj hdecode)
    exact ⟨rfl, rfl⟩
  refine ⟨⟨ok, out, hdecode, hok, ?_⟩, fun value => ⟨fun h => ?_, haccepts value⟩⟩
  · rintro ⟨value, hvalue⟩
    exact (hunique value hvalue).1
  · rw [hdecode] at h
    obtain ⟨rfl, rfl⟩ := Prod.mk.inj (Option.some.inj h)
    obtain ⟨value, hvalue⟩ := hok rfl
    rw [(hunique value hvalue).2]
    exact hvalue

example : decodeFixedBase64 (encoded [1, 2, 255]) (Vector.replicate 3 0) = some (true, #v[1, 2, 255]) := by decide

end RealtimeVoice.Firmware.FixedBase64
