import Mathlib

namespace RealtimeVoice.Base

/-- A Python string: its code points, among which a surrogate may stand alone. -/
abbrev PyStr := List Nat

namespace PyStr

def ofString (s : String) : PyStr := s.toList.map Char.toNat

def isHighSurrogate (n : Nat) : Bool := decide (0xD800 ≤ n ∧ n < 0xDC00)

def isLowSurrogate (n : Nat) : Bool := decide (0xDC00 ≤ n ∧ n < 0xE000)

def joinSurrogates (high low : Nat) : Nat := 0x10000 + (high - 0xD800) * 0x400 + (low - 0xDC00)

/-- The text with these code points, unless a surrogate is among them. -/
def text? (s : PyStr) : Option String :=
  if s.all (fun n => decide n.isValidChar) then some (String.ofList (s.map Char.ofNat)) else none

/-- A key of an object, as far as it is compared with the names of the code: a surrogate,
which is in none of them, becomes NUL. -/
def key (s : PyStr) : String := String.ofList (s.map Char.ofNat)

theorem text?_ofString (s : String) : text? (ofString s) = some s := by
  have hvalid : (ofString s).all (fun n => decide n.isValidChar) = true := by
    rw [ofString, List.all_map, List.all_eq_true]
    intro c _
    exact decide_eq_true c.valid
  have hchars : (ofString s).map Char.ofNat = s.toList := by
    rw [ofString, List.map_map]
    conv => rhs; rw [← List.map_id s.toList]
    exact List.map_congr_left fun c _ => Char.ofNat_toNat c
  rw [text?, if_pos hvalid, hchars, String.ofList_toList]

end PyStr

namespace Unicode

/-- The six bits of a continuation byte. -/
def continuation (b : UInt8) : Option Nat := if 0x80 ≤ b ∧ b < 0xC0 then some (b.toNat - 0x80) else none

/-- UTF-8 with the error handler `surrogatepass`. -/
def decodeUtf8 : List UInt8 → Option PyStr
  | [] => some []
  | a :: rest =>
    if a < 0x80 then (decodeUtf8 rest).map (a.toNat :: ·)
    else if 0xC2 ≤ a ∧ a < 0xE0 then
      match rest with
      | b :: rest => do
        let n := (a.toNat - 0xC0) * 0x40 + (← continuation b)
        (decodeUtf8 rest).map (n :: ·)
      | _ => none
    else if 0xE0 ≤ a ∧ a < 0xF0 then
      match rest with
      | b :: c :: rest => do
        let n := (a.toNat - 0xE0) * 0x1000 + (← continuation b) * 0x40 + (← continuation c)
        if n < 0x800 then none else (decodeUtf8 rest).map (n :: ·)
      | _ => none
    else if 0xF0 ≤ a ∧ a < 0xF8 then
      match rest with
      | b :: c :: d :: rest => do
        let n := (a.toNat - 0xF0) * 0x40000 + (← continuation b) * 0x1000 + (← continuation c) * 0x40 +
          (← continuation d)
        if n < 0x10000 ∨ 0x110000 ≤ n then none else (decodeUtf8 rest).map (n :: ·)
      | _ => none
    else none

/-- The bytes as numbers of two bytes each. -/
def units16 (little : Bool) : List UInt8 → Option (List Nat)
  | [] => some []
  | [_] => none
  | a :: b :: rest =>
    (units16 little rest).map ((if little then b.toNat * 0x100 + a.toNat else a.toNat * 0x100 + b.toNat) :: ·)

def joinPairs : List Nat → PyStr
  | high :: low :: rest =>
    if PyStr.isHighSurrogate high && PyStr.isLowSurrogate low then PyStr.joinSurrogates high low :: joinPairs rest
    else high :: joinPairs (low :: rest)
  | units => units

def decodeUtf16 (little : Bool) (bytes : List UInt8) : Option PyStr := (units16 little bytes).map joinPairs

def units32 (little : Bool) : List Nat → Option PyStr
  | [] => some []
  | [_] => none
  | a :: b :: rest => do
    let n := if little then b * 0x10000 + a else a * 0x10000 + b
    if 0x110000 ≤ n then none else (units32 little rest).map (n :: ·)

def decodeUtf32 (little : Bool) (bytes : List UInt8) : Option PyStr :=
  (units16 little bytes).bind (units32 little)

/-- `bytes.decode(json.detect_encoding(bytes), "surrogatepass")`: nothing where it raises
a `UnicodeDecodeError`. -/
def decodeDetected (bytes : List UInt8) : Option PyStr :=
  if [0x00, 0x00, 0xFE, 0xFF].isPrefixOf bytes then decodeUtf32 false (bytes.drop 4)
  else if [0xFF, 0xFE, 0x00, 0x00].isPrefixOf bytes then decodeUtf32 true (bytes.drop 4)
  else if [0xFE, 0xFF].isPrefixOf bytes then decodeUtf16 false (bytes.drop 2)
  else if [0xFF, 0xFE].isPrefixOf bytes then decodeUtf16 true (bytes.drop 2)
  else if [0xEF, 0xBB, 0xBF].isPrefixOf bytes then decodeUtf8 (bytes.drop 3)
  else
    match bytes with
    | a :: b :: c :: d :: _ =>
      if a = 0 then if b ≠ 0 then decodeUtf16 false bytes else decodeUtf32 false bytes
      else if b = 0 then if c ≠ 0 ∨ d ≠ 0 then decodeUtf16 true bytes else decodeUtf32 true bytes
      else decodeUtf8 bytes
    | [a, b] =>
      if a = 0 then decodeUtf16 false bytes
      else if b = 0 then decodeUtf16 true bytes
      else decodeUtf8 bytes
    | _ => decodeUtf8 bytes

end Unicode

end RealtimeVoice.Base
