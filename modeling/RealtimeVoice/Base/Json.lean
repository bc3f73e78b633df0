import Mathlib

namespace RealtimeVoice.Base

/-- JSON values as Python reads them. A float is kept as its `repr`, which
determines it. -/
inductive Json
  | null
  | bool (b : Bool)
  | int (n : Int)
  | float (repr : String)
  | str (s : String)
  /-- A string with a surrogate outside a pair. Python has such strings, but they are no text. -/
  | surrogates (codePoints : List Nat)
  | arr (items : List Json)
  | obj (fields : List (String × Json))

namespace Json

/-- Python's `==` between a JSON value and an integer: `True == 1` and `1.0 == 1`. -/
def eqInt : Json → Int → Bool
  | .int m, n => m == n
  | .bool b, n => (if b then 1 else 0) == n
  | .float r, n => r == toString n ++ ".0"
  | _, _ => false

def eqStr : Json → String → Bool
  | .str s, t => s == t
  | _, _ => false

/-- A value Python can hash, so that it may be looked up in a set. -/
def hashable : Json → Bool
  | .arr _ => false
  | .obj _ => false
  | _ => true

def lowerHex (n : Nat) : Char := if n < 10 then Char.ofNat (48 + n) else Char.ofNat (87 + n)

/-- The escapes of `json.dumps(..., ensure_ascii=False)`. -/
def escapeChar (c : Char) : List Char :=
  if c = '\"' then ['\\', '\"']
  else if c = '\\' then ['\\', '\\']
  else if c = '\n' then ['\\', 'n']
  else if c = '\r' then ['\\', 'r']
  else if c = '\t' then ['\\', 't']
  else if c = Char.ofNat 8 then ['\\', 'b']
  else if c = Char.ofNat 12 then ['\\', 'f']
  else if c.toNat < 32 then ['\\', 'u', '0', '0', lowerHex (c.toNat / 16), lowerHex (c.toNat % 16)]
  else [c]

def dumpsStr (s : String) : List Char := '\"' :: s.toList.flatMap escapeChar ++ ['\"']

mutual

/-- `json.dumps(value, ensure_ascii=False, separators=(",", ":"))`. -/
def dumps : Json → List Char
  | .null => "null".toList
  | .bool true => "true".toList
  | .bool false => "false".toList
  | .int n => (toString n).toList
  | .float r => r.toList
  | .str s => dumpsStr s
  -- what this writes has no UTF-8 encoding in the source
  | .surrogates codePoints => dumpsStr (String.ofList (codePoints.map Char.ofNat))
  | .arr items => '[' :: dumpsItems items ++ [']']
  | .obj fields => '\x7b' :: dumpsFields fields ++ ['\x7d']

def dumpsItems : List Json → List Char
  | [] => []
  | [v] => dumps v
  | v :: w :: vs => dumps v ++ ',' :: dumpsItems (w :: vs)

def dumpsFields : List (String × Json) → List Char
  | [] => []
  | [(k, v)] => dumpsStr k ++ ':' :: dumps v
  | (k, v) :: f :: fs => dumpsStr k ++ ':' :: dumps v ++ ',' :: dumpsFields (f :: fs)

end

end Json

/-- The number of bytes of the UTF-8 encoding. -/
def utf8Length (cs : List Char) : Nat := (cs.map Char.utf8Size).sum

theorem utf8Length_append (cs ds : List Char) : utf8Length (cs ++ ds) = utf8Length cs + utf8Length ds := by
  rw [utf8Length, List.map_append, List.sum_append]
  rfl

example : Json.dumps (.obj [("type", .str "a\"\n"), ("n", .int 3)]) =
    "\x7b\"type\":\"a\\\"\\n\",\"n\":3\x7d".toList := by decide +kernel

end RealtimeVoice.Base
