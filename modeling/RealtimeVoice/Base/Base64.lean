import Mathlib

namespace RealtimeVoice.Base.Base64

/-- The character of six bits in the alphabet for URLs. -/
def digit (n : Nat) : Char :=
  if n < 26 then Char.ofNat (65 + n)
  else if n < 52 then Char.ofNat (71 + n)
  else if n < 62 then Char.ofNat (n - 4)
  else if n = 62 then '-'
  else '_'

/-- What a character stands for. The decoder first replaces `-` and `_` by `+` and `/`,
so that the two alphabets may be mixed. -/
def value? (c : Char) : Option Nat :=
  if c.isUpper then some (c.toNat - 65)
  else if c.isLower then some (c.toNat - 71)
  else if c.isDigit then some (c.toNat + 4)
  else if c = '+' ∨ c = '-' then some 62
  else if c = '/' ∨ c = '_' then some 63
  else none

/-- `base64.urlsafe_b64encode`. -/
def urlsafeB64encode : List UInt8 → List Char
  | [] => []
  | [a] => [digit (a.toNat / 4), digit (a.toNat % 4 * 16), '=', '=']
  | [a, b] => [digit (a.toNat / 4), digit (a.toNat % 4 * 16 + b.toNat / 16), digit (b.toNat % 16 * 4), '=']
  | a :: b :: c :: rest =>
    digit (a.toNat / 4) :: digit (a.toNat % 4 * 16 + b.toNat / 16) :: digit (b.toNat % 16 * 4 + c.toNat / 64) ::
      digit (c.toNat % 64) :: urlsafeB64encode rest

/-- `binascii.a2b_base64` within a group of four: the characters read of it, the bits left
over and the padding seen. A character outside the alphabet is skipped, and a full padding
ends the text. -/
def a2bBase64 : Nat → Nat → Nat → List Char → Option (List UInt8)
  | quadPos, _, _, [] => if quadPos = 0 then some [] else none
  | quadPos, leftchar, pads, c :: rest =>
    if c = '=' then
      if 2 ≤ quadPos ∧ 4 ≤ quadPos + (pads + 1) then some []
      else a2bBase64 quadPos leftchar (if 2 ≤ quadPos then pads + 1 else pads) rest
    else
      match value? c with
      | none => a2bBase64 quadPos leftchar pads rest
      | some v =>
        if quadPos = 0 then a2bBase64 1 v 0 rest
        else if quadPos = 1 then (a2bBase64 2 (v % 16) 0 rest).map (UInt8.ofNat (leftchar * 4 + v / 16) :: ·)
        else if quadPos = 2 then (a2bBase64 3 (v % 4) 0 rest).map (UInt8.ofNat (leftchar * 16 + v / 4) :: ·)
        else (a2bBase64 0 0 0 rest).map (UInt8.ofNat (leftchar * 64 + v) :: ·)

def isAscii (cs : List Char) : Bool := cs.all (·.toNat < 128)

/-- `base64.urlsafe_b64decode` of a string: nothing where it raises. -/
def urlsafeB64decode (cs : List Char) : Option (List UInt8) := if isAscii cs then a2bBase64 0 0 0 cs else none

theorem value?_digit {n : Nat} (h : n < 64) : value? (digit n) = some n := by
  revert n
  decide

theorem digit_ne_pad {n : Nat} (h : n < 64) : digit n ≠ '=' := by
  revert n
  decide

theorem digit_ascii {n : Nat} (h : n < 64) : (digit n).toNat < 128 := by
  revert n
  decide

theorem digit_ne_dot {n : Nat} (h : n < 64) : digit n ≠ '.' := by
  revert n
  decide

section

variable {n : Nat} (h : n < 64) (leftchar : Nat) (rest : List Char)
include h

theorem a2bBase64_first : a2bBase64 0 leftchar 0 (digit n :: rest) = a2bBase64 1 n 0 rest := by
  rw [a2bBase64, if_neg (digit_ne_pad h), value?_digit h]
  rfl

theorem a2bBase64_second :
    a2bBase64 1 leftchar 0 (digit n :: rest) =
      (a2bBase64 2 (n % 16) 0 rest).map (UInt8.ofNat (leftchar * 4 + n / 16) :: ·) := by
  rw [a2bBase64, if_neg (digit_ne_pad h), value?_digit h]
  rfl

theorem a2bBase64_third :
    a2bBase64 2 leftchar 0 (digit n :: rest) =
      (a2bBase64 3 (n % 4) 0 rest).map (UInt8.ofNat (leftchar * 16 + n / 4) :: ·) := by
  rw [a2bBase64, if_neg (digit_ne_pad h), value?_digit h]
  rfl

theorem a2bBase64_fourth :
    a2bBase64 3 leftchar 0 (digit n :: rest) =
      (a2bBase64 0 0 0 rest).map (UInt8.ofNat (leftchar * 64 + n) :: ·) := by
  rw [a2bBase64, if_neg (digit_ne_pad h), value?_digit h]
  rfl

end

theorem ofNat_eq {n : Nat} {b : UInt8} (h : n = b.toNat) : UInt8.ofNat n = b := by
  rw [h, UInt8.ofNat_toNat]

/-- One byte of a last group, whatever bits are left over after it. -/
theorem a2bBase64_one (a : UInt8) (leftchar : Nat) (rest : List Char) (hleft : leftchar < 16) :
    a2bBase64 0 0 0 (digit (a.toNat / 4) :: digit (a.toNat % 4 * 16 + leftchar) :: rest) =
      (a2bBase64 2 leftchar 0 rest).map (a :: ·) := by
  have ha := a.toNat_lt
  rw [a2bBase64_first (by omega), a2bBase64_second (by omega), ofNat_eq (b := a) (by omega)]
  congr 2
  omega

theorem a2bBase64_two (a b : UInt8) (leftchar : Nat) (rest : List Char) (hleft : leftchar < 4) :
    a2bBase64 0 0 0 (digit (a.toNat / 4) :: digit (a.toNat % 4 * 16 + b.toNat / 16) ::
        digit (b.toNat % 16 * 4 + leftchar) :: rest) =
      (a2bBase64 3 leftchar 0 rest).map (fun bytes => a :: b :: bytes) := by
  have hb := b.toNat_lt
  have hthird := a2bBase64_third (n := b.toNat % 16 * 4 + leftchar) (by omega) (b.toNat / 16) rest
  rw [a2bBase64_one a _ _ (by omega), hthird, ofNat_eq (b := b) (by omega), Option.map_map]
  congr 2
  omega

theorem a2bBase64_three (a b c : UInt8) (rest : List Char) :
    a2bBase64 0 0 0 (digit (a.toNat / 4) :: digit (a.toNat % 4 * 16 + b.toNat / 16) ::
        digit (b.toNat % 16 * 4 + c.toNat / 64) :: digit (c.toNat % 64) :: rest) =
      (a2bBase64 0 0 0 rest).map (fun bytes => a :: b :: c :: bytes) := by
  have hc := c.toNat_lt
  have hfourth := a2bBase64_fourth (n := c.toNat % 64) (by omega) (c.toNat / 64) rest
  rw [a2bBase64_two a b _ _ (by omega), hfourth, ofNat_eq (b := c) (by omega), Option.map_map]
  rfl

/-- The encoding without its padding, a group at a time. -/
def groups : List UInt8 → List Char
  | [] => []
  | [a] => [digit (a.toNat / 4), digit (a.toNat % 4 * 16)]
  | [a, b] => [digit (a.toNat / 4), digit (a.toNat % 4 * 16 + b.toNat / 16), digit (b.toNat % 16 * 4)]
  | a :: b :: c :: rest =>
    digit (a.toNat / 4) :: digit (a.toNat % 4 * 16 + b.toNat / 16) :: digit (b.toNat % 16 * 4 + c.toNat / 64) ::
      digit (c.toNat % 64) :: groups rest

def padding (n : Nat) : List Char := List.replicate ((4 - n % 4) % 4) '='

theorem padding_add_four (n : Nat) : padding (n + 4) = padding n := by
  rw [padding, padding, Nat.add_mod_right]

theorem urlsafeB64encode_eq (bytes : List UInt8) :
    urlsafeB64encode bytes = groups bytes ++ padding (groups bytes).length := by
  induction bytes using groups.induct with
  | case1 => rfl
  | case2 a => rfl
  | case3 a b => rfl
  | case4 a b c rest ih =>
    rw [urlsafeB64encode, ih, groups]
    exact congrArg (fun p => _ :: _ :: _ :: _ :: (_ ++ p)) (padding_add_four _).symm

theorem groups_digits (bytes : List UInt8) : ∀ c ∈ groups bytes, ∃ n < 64, c = digit n := by
  induction bytes using groups.induct with
  | case1 => simp [groups]
  | case2 a =>
    have ha := a.toNat_lt
    simp only [groups, List.forall_mem_cons, List.not_mem_nil, false_implies, implies_true, and_true]
    exact ⟨⟨_, by omega, rfl⟩, ⟨_, by omega, rfl⟩⟩
  | case3 a b =>
    have ha := a.toNat_lt
    have hb := b.toNat_lt
    simp only [groups, List.forall_mem_cons, List.not_mem_nil, false_implies, implies_true, and_true]
    exact ⟨⟨_, by omega, rfl⟩, ⟨_, by omega, rfl⟩, ⟨_, by omega, rfl⟩⟩
  | case4 a b c rest ih =>
    have ha := a.toNat_lt
    have hb := b.toNat_lt
    have hc := c.toNat_lt
    simp only [groups, List.forall_mem_cons]
    exact ⟨⟨_, by omega, rfl⟩, ⟨_, by omega, rfl⟩, ⟨_, by omega, rfl⟩, ⟨_, by omega, rfl⟩, ih⟩

/-- Stripping the padding of an encoding leaves its groups. -/
theorem rdropWhile_urlsafeB64encode (bytes : List UInt8) :
    (urlsafeB64encode bytes).rdropWhile (· = '=') = groups bytes := by
  have hpadding : ∀ c ∈ padding (groups bytes).length, decide (c = '=') = true := fun c hc =>
    decide_eq_true (List.eq_of_mem_replicate hc)
  have hgroups : ∀ c ∈ groups bytes, ¬decide (c = '=') = true := by
    intro c hc
    obtain ⟨n, hn, rfl⟩ := groups_digits bytes c hc
    simpa using digit_ne_pad hn
  have hstrip : (groups bytes ++ padding (groups bytes).length).rdropWhile (fun c => decide (c = '=')) =
      (groups bytes).rdropWhile (fun c => decide (c = '=')) := by
    rw [List.rdropWhile, List.rdropWhile, List.reverse_append, List.dropWhile_append_of_pos]
    intro c hc
    exact hpadding c (List.mem_reverse.mp hc)
  rw [urlsafeB64encode_eq, hstrip]
  exact List.rdropWhile_eq_self_iff.mpr fun hne => hgroups _ (List.getLast_mem hne)

theorem isAscii_groups (bytes : List UInt8) : isAscii (groups bytes) = true := by
  rw [isAscii, List.all_eq_true]
  intro c hc
  obtain ⟨n, hn, rfl⟩ := groups_digits bytes c hc
  exact decide_eq_true (digit_ascii hn)

theorem a2bBase64_urlsafeB64encode (bytes : List UInt8) : a2bBase64 0 0 0 (urlsafeB64encode bytes) = some bytes := by
  induction bytes using groups.induct with
  | case1 => rfl
  | case2 a => exact a2bBase64_one a 0 ['=', '='] (by omega)
  | case3 a b => exact a2bBase64_two a b 0 ['='] (by omega)
  | case4 a b c rest ih =>
    rw [urlsafeB64encode, a2bBase64_three, ih]
    rfl

/-- The padding that was stripped is found again from the length alone. -/
theorem urlsafeB64decode_groups (bytes : List UInt8) :
    urlsafeB64decode (groups bytes ++ padding (groups bytes).length) = some bytes := by
  have hascii : isAscii (groups bytes ++ padding (groups bytes).length) = true := by
    rw [isAscii, List.all_append, Bool.and_eq_true]
    refine ⟨isAscii_groups bytes, List.all_eq_true.mpr ?_⟩
    intro c hc
    rw [List.eq_of_mem_replicate hc]
    rfl
  rw [urlsafeB64decode, if_pos hascii, ← urlsafeB64encode_eq]
  exact a2bBase64_urlsafeB64encode bytes

example : a2bBase64 0 0 0 "e30".toList = none ∧ a2bBase64 0 0 0 "e3 0=x".toList = some [123, 125] := by decide

end RealtimeVoice.Base.Base64
