import RealtimeVoice.Base.Json
import RealtimeVoice.Base.Unicode

namespace RealtimeVoice.Base

/-- What `json.loads` depends on beside its text: how deep the scanner may nest, and the
`repr` of the float that a literal denotes. -/
structure Interpreter where
  cRecursionLimit : Nat
  floatRepr : PyStr → String
  cRecursionLimit_pos : 0 < cRecursionLimit

/-- `sys.int_info.default_max_str_digits` -/
def maxStrDigits : Nat := 4300

/-- What `json.loads` raises: a `JSONDecodeError`, a `RecursionError`, a `ValueError` for
an integer of too many digits, or what the hook raises. -/
inductive LoadsError
  | decode | recursion | digits | hook
deriving DecidableEq

namespace Loads

/-- `object_pairs_hook`: nothing where it raises. -/
abbrev Hook := List (PyStr × Json) → Option Json

/-- Without a hook, `dict(pairs)`: the last value of a key counts. -/
def noHook : Hook := fun pairs =>
  some (.obj ((pairs.foldl (fun d p => d.filter (fun q => q.1 ≠ p.1) ++ [p]) []).map fun p => (p.1.key, p.2)))

def code (c : Char) : Nat := c.toNat

def isDigit (n : Nat) : Bool := decide (48 ≤ n ∧ n ≤ 57)

def isWhitespace (n : Nat) : Bool := n == 32 || n == 9 || n == 10 || n == 13

def skipWhitespace (cs : PyStr) : PyStr := cs.dropWhile isWhitespace

/-- The text after a word, if it starts with the word. -/
def afterWord? (word : String) (cs : PyStr) : Option PyStr :=
  if (PyStr.ofString word).isPrefixOf cs then some (cs.drop word.length) else none

def hexValue? (n : Nat) : Option Nat :=
  if isDigit n then some (n - 48)
  else if 97 ≤ n ∧ n ≤ 102 then some (n - 87)
  else if 65 ≤ n ∧ n ≤ 70 then some (n - 55)
  else none

def hex4? (a b c d : Nat) : Option Nat := do
  return 4096 * (← hexValue? a) + 256 * (← hexValue? b) + 16 * (← hexValue? c) + (← hexValue? d)

def escape? (n : Nat) : Option Nat :=
  if n = code '\"' ∨ n = code '\\' ∨ n = code '/' then some n
  else if n = code 'b' then some 8
  else if n = code 'f' then some 12
  else if n = code 'n' then some 10
  else if n = code 'r' then some 13
  else if n = code 't' then some 9
  else none

/-- The low surrogate that an escape at the head of the text adds to a high one. -/
def lowEscape? : PyStr → Option (Nat × PyStr)
  | s :: u :: a :: b :: c :: d :: rest =>
    if s = code '\\' ∧ u = code 'u' then
      match hex4? a b c d with
      | some low => if PyStr.isLowSurrogate low then some (low, rest) else none
      | none => none
    else none
  | _ => none

/-- Put one character in front of what is read after it. -/
def consChar (n : Nat) (r : Option (PyStr × PyStr)) : Option (PyStr × PyStr) := r.map fun (s, rest) => (n :: s, rest)

/-- The string up to its closing quote, in the strict mode. The number counts down the
characters that are left. -/
def scanString : Nat → PyStr → Option (PyStr × PyStr)
  | 0, _ => none
  | fuel + 1, cs =>
    match cs with
    | [] => none
    | n :: rest =>
      if n = code '\"' then some ([], rest)
      else if n = code '\\' then
        match rest with
        | [] => none
        | e :: rest =>
          if e = code 'u' then
            match rest with
            | a :: b :: c :: d :: rest =>
              match hex4? a b c d with
              | none => none
              | some high =>
                match (if PyStr.isHighSurrogate high then lowEscape? rest else none) with
                | some (low, rest) => consChar (PyStr.joinSurrogates high low) (scanString fuel rest)
                | none => consChar high (scanString fuel rest)
            | _ => none
          else
            match escape? e with
            | some n => consChar n (scanString fuel rest)
            | none => none
      else if n < 32 then none
      else consChar n (scanString fuel rest)

variable (p : Interpreter)

/-- The sign and the text after it. -/
def sign (cs : PyStr) : PyStr × PyStr :=
  match cs with
  | c :: rest => if c = code '-' then ([c], rest) else ([], cs)
  | [] => ([], [])

/-- The digits before a fraction: a zero stands alone. -/
def whole (cs : PyStr) : PyStr := if cs.head? = some (code '0') then cs.take 1 else cs.takeWhile isDigit

def fraction (cs : PyStr) : PyStr :=
  match cs with
  | c :: rest => if c = code '.' ∧ rest.takeWhile isDigit ≠ [] then c :: rest.takeWhile isDigit else []
  | [] => []

def exponent (cs : PyStr) : PyStr :=
  match cs with
  | c :: rest =>
    let signed := (rest.take 1).filter (fun n => n = code '+' ∨ n = code '-')
    let digits := (rest.drop signed.length).takeWhile isDigit
    if (c = code 'e' ∨ c = code 'E') ∧ digits ≠ [] then c :: signed ++ digits else []
  | [] => []

def ofDigits (digits : PyStr) : Nat := digits.foldl (fun n d => 10 * n + (d - 48)) 0

/-- `_match_number_unicode`. -/
def matchNumber (cs : PyStr) : Except LoadsError (Json × PyStr) :=
  let (minus, cs) := sign cs
  let digits := whole cs
  if digits = [] then .error .decode
  else
    let rest := cs.drop digits.length
    let fraction := fraction rest
    let exponent := exponent (rest.drop fraction.length)
    let rest := rest.drop (fraction.length + exponent.length)
    if fraction ≠ [] ∨ exponent ≠ [] then .ok (.float (p.floatRepr (minus ++ digits ++ fraction ++ exponent)), rest)
    else if digits.length > maxStrDigits then .error .digits
    else .ok (.int (if minus = [] then ofDigits digits else -ofDigits digits), rest)

/-- A string as a value. -/
def strValue (s : PyStr) : Json :=
  match s.text? with
  | some text => .str text
  | none => .surrogates s

def scanQuoted (cs : PyStr) : Except LoadsError (PyStr × PyStr) :=
  match scanString cs.length cs with
  | some r => .ok r
  | none => .error .decode

/-- A value that nothing nests in. -/
def scanScalar (cs : PyStr) : Except LoadsError (Json × PyStr) :=
  match afterWord? "null" cs, afterWord? "true" cs, afterWord? "false" cs with
  | some rest, _, _ => .ok (.null, rest)
  | _, some rest, _ => .ok (.bool true, rest)
  | _, _, some rest => .ok (.bool false, rest)
  | none, none, none =>
    match afterWord? "NaN" cs, afterWord? "Infinity" cs, afterWord? "-Infinity" cs with
    | some rest, _, _ => .ok (.float "nan", rest)
    | _, some rest, _ => .ok (.float "inf", rest)
    | _, _, some rest => .ok (.float "-inf", rest)
    | none, none, none => matchNumber p cs

/-- The next character that is no whitespace. -/
def next (cs : PyStr) : Except LoadsError (Nat × PyStr) :=
  match skipWhitespace cs with
  | [] => .error .decode
  | c :: rest => .ok (c, rest)

/-- The items of an array and its closing bracket. The number bounds the items by the
characters that are left. -/
def scanItems (scan : PyStr → Except LoadsError (Json × PyStr)) : Nat → PyStr → Except LoadsError (List Json × PyStr)
  | 0, _ => .error .decode
  | fuel + 1, cs => do
    let (v, rest) ← scan cs
    let (c, rest) ← next rest
    if c = code ']' then return ([v], rest)
    else if c = code ',' then
      let (vs, rest) ← scanItems scan fuel (skipWhitespace rest)
      return (v :: vs, rest)
    else throw .decode

/-- A key, the colon after it and the text of its value. -/
def scanKey (cs : PyStr) : Except LoadsError (PyStr × PyStr) :=
  match cs with
  | [] => .error .decode
  | c :: rest => do
    if c ≠ code '\"' then throw .decode
    let (key, rest) ← scanQuoted rest
    let (c, rest) ← next rest
    if c ≠ code ':' then throw .decode
    return (key, skipWhitespace rest)

/-- The members of an object and its closing brace. -/
def scanMembers (scan : PyStr → Except LoadsError (Json × PyStr)) :
    Nat → PyStr → Except LoadsError (List (PyStr × Json) × PyStr)
  | 0, _ => .error .decode
  | fuel + 1, cs => do
    let (key, rest) ← scanKey cs
    let (v, rest) ← scan rest
    let (c, rest) ← next rest
    if c = code '\x7d' then return ([(key, v)], rest)
    else if c = code ',' then
      let (members, rest) ← scanMembers scan fuel (skipWhitespace rest)
      return ((key, v) :: members, rest)
    else throw .decode

/-- What the hook makes of the members. -/
def applyHook (hook : Hook) (members : List (PyStr × Json)) : Except LoadsError Json :=
  match hook members with
  | some v => .ok v
  | none => .error .hook

/-- `_parse_array_unicode`, after the opening bracket. -/
def scanArray (scan : PyStr → Except LoadsError (Json × PyStr)) (cs : PyStr) : Except LoadsError (Json × PyStr) := do
  let (c, rest) ← next cs
  if c = code ']' then return (.arr [], rest)
  let (items, rest) ← scanItems scan (rest.length + 1) (c :: rest)
  return (.arr items, rest)

/-- `_parse_object_unicode`, after the opening brace. -/
def scanObject (hook : Hook) (scan : PyStr → Except LoadsError (Json × PyStr)) (cs : PyStr) :
    Except LoadsError (Json × PyStr) := do
  let (c, rest) ← next cs
  if c = code '\x7d' then return (← applyHook hook [], rest)
  let (members, rest) ← scanMembers scan (rest.length + 1) (c :: rest)
  return (← applyHook hook members, rest)

/-- A value that neither brackets nor braces enclose. -/
def scanPlain (cs : PyStr) : Except LoadsError (Json × PyStr) :=
  match cs with
  | [] => .error .decode
  | c :: rest =>
    if c = code '\"' then (scanQuoted rest).map fun r => (strValue r.1, r.2)
    else scanScalar p cs

/-- `scan_once` with the nesting that is still allowed. -/
def scanOnce (hook : Hook) : Nat → PyStr → Except LoadsError (Json × PyStr)
  | 0, cs =>
    if cs.head? = some (code '\x7b') ∨ cs.head? = some (code '[') then .error .recursion else scanPlain p cs
  | depth + 1, cs =>
    if cs.head? = some (code '\x7b') then scanObject hook (scanOnce hook depth) cs.tail
    else if cs.head? = some (code '[') then scanArray (scanOnce hook depth) cs.tail
    else scanPlain p cs

section Steps

variable {p} {hook : Hook} {scan : PyStr → Except LoadsError (Json × PyStr)} {depth fuel : Nat}
  {cs key rest rest₁ rest₂ : PyStr} {v : Json} {members : List (PyStr × Json)}

theorem scanOnce_plain (hobject : cs.head? ≠ some 123) (harray : cs.head? ≠ some 91) :
    scanOnce p hook depth cs = scanPlain p cs := by
  cases depth with
  | zero => exact if_neg (not_or.mpr ⟨hobject, harray⟩)
  | succ depth => exact (if_neg hobject).trans (if_neg harray)

theorem scanMembers_next (hkey : scanKey cs = .ok (key, rest)) (hvalue : scan rest = .ok (v, rest₁))
    (hcomma : next rest₁ = .ok (44, rest₂)) :
    scanMembers scan (fuel + 1) cs =
      (scanMembers scan fuel (skipWhitespace rest₂)).map fun r => ((key, v) :: r.1, r.2) := by
  rw [scanMembers, hkey]
  change (scan rest >>= _) = _
  rw [hvalue]
  change (next rest₁ >>= _) = _
  rw [hcomma]
  change (scanMembers scan fuel (skipWhitespace rest₂) >>= _) = _
  cases scanMembers scan fuel (skipWhitespace rest₂) <;> rfl

theorem scanMembers_last (hkey : scanKey cs = .ok (key, rest)) (hvalue : scan rest = .ok (v, rest₁))
    (hbrace : next rest₁ = .ok (125, rest₂)) : scanMembers scan (fuel + 1) cs = .ok ([(key, v)], rest₂) := by
  rw [scanMembers, hkey]
  change (scan rest >>= _) = _
  rw [hvalue]
  change (next rest₁ >>= _) = _
  rw [hbrace]
  rfl

theorem scanObject_members (hfirst : next cs = .ok (34, rest))
    (hmembers : scanMembers scan (rest.length + 1) (34 :: rest) = .ok (members, rest₁)) :
    scanObject hook scan cs = (applyHook hook members).map fun v => (v, rest₁) := by
  rw [scanObject, hfirst]
  change (scanMembers scan (rest.length + 1) (34 :: rest) >>= _) = _
  rw [hmembers]
  change (applyHook hook members >>= _) = _
  cases applyHook hook members <;> rfl

end Steps

/-- `JSONDecoder.decode`. -/
def decode (hook : Hook) (cs : PyStr) : Except LoadsError Json := do
  let (v, rest) ← scanOnce p hook p.cRecursionLimit (skipWhitespace cs)
  if skipWhitespace rest = [] then .ok v else .error .decode

end Loads

/-- `json.loads` of a string. -/
def loads (p : Interpreter) (hook : Loads.Hook) (cs : PyStr) : Except LoadsError Json :=
  if cs.head? = some 0xFEFF then .error .decode else Loads.decode p hook cs

end RealtimeVoice.Base
