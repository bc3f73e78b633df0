import RealtimeVoice.Base.Scan
import RealtimeVoice.Firmware.UdpWire

namespace RealtimeVoice.Firmware.DeviceConfig

open RealtimeVoice.Base.Scan RealtimeVoice.Firmware.Wire

def byte (c : Char) : UInt8 := c.toUInt8

def ascii (text : String) : Bytes := text.toList.map byte

def maxServiceUrlBytes : Nat := 255

inductive ConfigResult
  | ok | notFound | invalidArgument | storageFailure
deriving DecidableEq

inductive EndpointSource
  | saved | provisioned
deriving DecidableEq

structure EndpointSnapshot where
  url : Bytes := []
  host : Bytes := []
  origin : Bytes := []
  token : Bytes := []
  port : Nat := 0
  secure : Bool := false
  source : EndpointSource := .provisioned
deriving DecidableEq

def isAsciiControlOrSpace (value : UInt8) : Bool := value ≤ 0x20 || value == 0x7f

def isAsciiDigit (value : UInt8) : Bool := byte '0' ≤ value && value ≤ byte '9'

def isAsciiAlpha (value : UInt8) : Bool :=
  (byte 'a' ≤ value && value ≤ byte 'z') || (byte 'A' ≤ value && value ≤ byte 'Z')

def isAsciiHexDigit (value : UInt8) : Bool :=
  isAsciiDigit value || (byte 'a' ≤ value && value ≤ byte 'f') || (byte 'A' ≤ value && value ≤ byte 'F')

/-- A `uint32_t` result, nothing where it overflows. -/
def uint32 (n : Nat) : Option Nat := if n < 2 ^ 32 then some n else none

/-- The loop of `ParsePort`. Here and below the outer option is `none` where the arithmetic
overflows or an index is out of range; the inner one is `none` where the source returns false. -/
def parsePortLoop : Bytes → Nat → Option (Option Nat)
  | [], parsed => some (some parsed)
  | character :: value, parsed =>
    if !isAsciiDigit character then some none
    else do
      let parsed ← uint32 (parsed * 10 + (character - byte '0').toNat)
      if parsed > 65535 then some none else parsePortLoop value parsed

def parsePort (value : Bytes) : Option (Option Nat) :=
  if value.isEmpty then some none
  else (parsePortLoop value 0).map fun parsed => parsed.filter (· ≠ 0)

def lowerAscii (value : Bytes) : Bytes :=
  value.map fun character =>
    if byte 'A' ≤ character ∧ character ≤ byte 'Z' then character + (byte 'a' - byte 'A') else character

/-- The characters of a bracketed address. -/
def addressCharacter (character : UInt8) : Bool :=
  isAsciiHexDigit character || character == byte ':' || character == byte '.'

def validName : Bytes → Bool → Bool
  | [], hasNameCharacter => hasNameCharacter
  | character :: host, hasNameCharacter =>
    if isAsciiAlpha character || isAsciiDigit character then validName host true
    else if character != byte '.' && character != byte '-' && character != byte '_' then false
    else validName host hasNameCharacter

def isValidHost (host : Bytes) : Option Bool :=
  if 2 ≤ host.length ∧ host.head? = some (byte '[') ∧ host.getLast? = some (byte ']') then do
    let address ← substr host 1 (host.length - 2)
    return (findFrom (· == byte ':') 0 address).isSome && address.all addressCharacter
  else some (validName host false)

/-- The host and the port of an authority. -/
def splitAuthority (authority : Bytes) : Option (Option (Bytes × Bytes)) := do
  let front ← authority.head?
  if front == byte '[' then
    match findFrom (· == byte ']') 0 authority with
    | none => some none
    | some close =>
      if close == 1 then some none
      else
        let host ← substr authority 0 (close + 1)
        if close + 1 < authority.length then
          if (← authority[close + 1]?) != byte ':' then some none
          else return some (host, ← substr authority (close + 2) authority.length)
        else some (some (host, []))
  else
    match findFrom (· == byte ':') 0 authority with
    | none => some (some (authority, []))
    | some colon =>
      if (findFrom (· == byte ':') (colon + 1) authority).isSome then some none
      else return some (← substr authority 0 colon, ← substr authority (colon + 1) authority.length)

def invalid : Option (Except ConfigResult EndpointSnapshot) := some (.error .invalidArgument)

def isSecure (scheme : Bytes) : Bool := scheme == ascii "wss" || scheme == ascii "https"

def isWebsocket (scheme : Bytes) : Bool := scheme == ascii "ws" || scheme == ascii "wss"

def defaultPort (scheme : Bytes) : Nat := if isSecure scheme then 443 else 80

/-- `std::to_string` -/
def decimal (n : Nat) : Bytes := (Nat.toDigits 10 n).map byte

def originOf (scheme host : Bytes) (port : Nat) : Bytes :=
  scheme ++ ascii "://" ++ host ++ ascii ":" ++ decimal port

/-- The last part of `ParseEndpoint`, from the authority on. -/
def parseAuthority (url scheme authority : Bytes) : Option (Except ConfigResult EndpointSnapshot) := do
  if authority.isEmpty || (findFrom (· == byte '@') 0 authority).isSome then invalid
  else
    match ← splitAuthority authority with
    | none => invalid
    | some (host, portView) =>
      if host.isEmpty || !(← isValidHost host) then invalid
      else
        match ← (if portView.isEmpty then some (some (defaultPort scheme)) else parsePort portView) with
        | none => invalid
        | some port =>
          if (← authority.getLast?) == byte ':' then invalid
          else
            return .ok
              { url := url, host := lowerAscii host, port := port, secure := isSecure scheme,
                origin := originOf scheme (lowerAscii host) port }

/-- `ParseEndpoint`, for a snapshot that is not null. -/
def parseEndpoint (url : Bytes) : Option (Except ConfigResult EndpointSnapshot) :=
  if url.isEmpty || url.length > maxServiceUrlBytes || url.any isAsciiControlOrSpace then invalid
  else
    match findText (ascii "://") url with
    | none => invalid
    | some schemeEnd => do
      let scheme := lowerAscii (← substr url 0 schemeEnd)
      if scheme != ascii "ws" && scheme != ascii "wss" && scheme != ascii "http" && scheme != ascii "https" then invalid
      else if (findFrom (· == byte '#') (schemeEnd + 3) url).isSome then invalid
      else
        let authorityStart := schemeEnd + 3
        match findFrom (fun c => c == byte '/' || c == byte '?') authorityStart url with
        | none => invalid
        | some authorityEnd =>
          if (← url[authorityEnd]?) == byte '?' then invalid
          else if (findFrom (· == byte '?') authorityEnd url).isSome then invalid
          else
            let path ← substr url authorityEnd url.length
            if (isWebsocket scheme && path != ascii "/rva/v1/voice") ||
                (!isWebsocket scheme && path != ascii "/v1/session/bootstrap") then invalid
            else parseAuthority url scheme (← substr url authorityStart (authorityEnd - authorityStart))

example : (parseEndpoint (ascii "WSS://Voice.example:00443/rva/v1/voice")).map (fun r => r.toOption.map (·.origin)) =
    some (some (ascii "wss://voice.example:443")) := by decide +kernel

def schemes : List Bytes := [ascii "ws", ascii "wss", ascii "http", ascii "https"]

def pathOf (scheme : Bytes) : Bytes :=
  if isWebsocket scheme then ascii "/rva/v1/voice" else ascii "/v1/session/bootstrap"

def nameCharacter (character : UInt8) : Bool := isAsciiAlpha character || isAsciiDigit character

def decimalFrom (parsed : Nat) (digits : Bytes) : Nat :=
  digits.foldl (fun parsed character => parsed * 10 + (character - byte '0').toNat) parsed

/-- The number that decimal digits stand for. -/
def decimalValue (digits : Bytes) : Nat := decimalFrom 0 digits

inductive IsHost : Bytes → Prop
  | name {host : Bytes} : (∀ c ∈ host, nameCharacter c = true ∨ c = byte '.' ∨ c = byte '-' ∨ c = byte '_') →
      (∃ c ∈ host, nameCharacter c = true) → IsHost host
  | bracketed {address : Bytes} : (∀ c ∈ address, isAsciiHexDigit c = true ∨ c = byte ':' ∨ c = byte '.') →
      byte ':' ∈ address → IsHost (byte '[' :: address ++ [byte ']'])

def IsPort (digits : Bytes) : Prop :=
  digits ≠ [] ∧ (∀ c ∈ digits, isAsciiDigit c = true) ∧ 1 ≤ decimalValue digits ∧ decimalValue digits ≤ 65535

/-- What stands after the host of an authority. -/
def portPart (port : Option Bytes) : Bytes := port.elim [] (byte ':' :: ·)

/-- The parts of the URL of an endpoint. -/
structure Address where
  scheme : Bytes
  host : Bytes
  port : Option Bytes

namespace Address

structure Valid (a : Address) : Prop where
  scheme : lowerAscii a.scheme ∈ schemes
  host : IsHost a.host
  port : ∀ digits ∈ a.port, IsPort digits

def authority (a : Address) : Bytes := a.host ++ portPart a.port

def text (a : Address) : Bytes := a.scheme ++ ascii "://" ++ (a.authority ++ pathOf (lowerAscii a.scheme))

def effectivePort (a : Address) : Nat := a.port.elim (defaultPort (lowerAscii a.scheme)) decimalValue

def snapshot (a : Address) : EndpointSnapshot :=
  { url := a.text, host := lowerAscii a.host, port := a.effectivePort, secure := isSecure (lowerAscii a.scheme),
    origin := originOf (lowerAscii a.scheme) (lowerAscii a.host) a.effectivePort }

end Address

theorem forall_byte {P : UInt8 → Prop} (h : ∀ n < 256, P (UInt8.ofNat n)) (c : UInt8) : P c := by
  have hc := h c.toNat c.toNat_lt
  rwa [UInt8.ofNat_toNat] at hc

section Port

variable {parsed : Nat} {digits : Bytes}

theorem le_decimalFrom (parsed : Nat) (digits : Bytes) : parsed ≤ decimalFrom parsed digits := by
  induction digits generalizing parsed with
  | nil => exact Nat.le_refl _
  | cons character digits ih =>
    have hnext := ih (parsed * 10 + (character - byte '0').toNat)
    rw [decimalFrom, List.foldl_cons]
    rw [decimalFrom] at hnext
    omega

theorem digit_le {c : UInt8} (h : isAsciiDigit c = true) : (c - byte '0').toNat ≤ 9 := by
  have hall : ∀ c, isAsciiDigit c = true → (c - byte '0').toNat ≤ 9 := by
    apply forall_byte
    decide +kernel
  exact hall c h

/-- The arithmetic of the loop never overflows, and its result is the number or a refusal. -/
theorem parsePortLoop_eq (h : parsed ≤ 65535) :
    parsePortLoop digits parsed = some (if (∀ c ∈ digits, isAsciiDigit c = true) ∧ decimalFrom parsed digits ≤ 65535
      then some (decimalFrom parsed digits) else none) := by
  induction digits generalizing parsed with
  | nil => simp [parsePortLoop, decimalFrom, h]
  | cons character digits ih =>
    rw [parsePortLoop]
    by_cases hdigit : isAsciiDigit character = true
    · have hle := digit_le hdigit
      have hfits : uint32 (parsed * 10 + (character - byte '0').toNat) = some (parsed * 10 + (character - byte '0').toNat) := by
        rw [uint32, if_pos (by omega)]
      have hnext : decimalFrom parsed (character :: digits) =
          decimalFrom (parsed * 10 + (character - byte '0').toNat) digits := rfl
      simp only [hdigit, Bool.not_true, Bool.false_eq_true, if_false, hfits, Option.bind_eq_bind, Option.bind_some, hnext,
        List.forall_mem_cons, true_and]
      by_cases hlarge : parsed * 10 + (character - byte '0').toNat > 65535
      · have hgrow := le_decimalFrom (parsed * 10 + (character - byte '0').toNat) digits
        rw [if_pos hlarge, if_neg]
        rintro ⟨-, hsmall⟩
        omega
      · rw [if_neg hlarge, ih (by omega)]
    · simp [hdigit]

theorem parsePort_eq (h : digits ≠ []) :
    parsePort digits = some (if (∀ c ∈ digits, isAsciiDigit c = true) ∧ 1 ≤ decimalValue digits ∧ decimalValue digits ≤ 65535
      then some (decimalValue digits) else none) := by
  rw [parsePort, if_neg (by simpa using h), parsePortLoop_eq (Nat.zero_le _), ← decimalValue]
  by_cases hdigits : (∀ c ∈ digits, isAsciiDigit c = true) ∧ decimalValue digits ≤ 65535
  · rw [if_pos hdigits]
    by_cases hzero : decimalValue digits = 0
    · simp [hzero]
    · rw [if_pos ⟨hdigits.1, by omega, hdigits.2⟩]
      simp [hzero]
  · rw [if_neg hdigits, if_neg (fun h => hdigits ⟨h.1, h.2.2⟩)]
    rfl

theorem parsePort_some {port : Nat} : parsePort digits = some (some port) ↔ IsPort digits ∧ port = decimalValue digits := by
  by_cases hne : digits = []
  · subst hne
    simp [parsePort, IsPort]
  · rw [parsePort_eq hne, IsPort, Option.some.injEq]
    split_ifs with h
    · exact ⟨fun heq => ⟨⟨hne, h⟩, (Option.some.inj heq).symm⟩, fun heq => by rw [heq.2]⟩
    · simpa [hne] using fun h1 h2 h3 => absurd ⟨h1, h2, h3⟩ h

end Port

section Host

variable {host : Bytes}

theorem validName_eq (host : Bytes) (found : Bool) :
    validName host found = true ↔
      (∀ c ∈ host, nameCharacter c = true ∨ c = byte '.' ∨ c = byte '-' ∨ c = byte '_') ∧
        (found = true ∨ ∃ c ∈ host, nameCharacter c = true) := by
  induction host generalizing found with
  | nil => simp [validName]
  | cons character host ih =>
    rw [validName, ← nameCharacter]
    by_cases hname : nameCharacter character = true
    · simp [hname, ih]
    · by_cases hother : character = byte '.' ∨ character = byte '-' ∨ character = byte '_'
      · have hallowed : ¬((character != byte '.' && character != byte '-' && character != byte '_') = true) := by
          simp only [Bool.and_eq_true, bne_iff_ne]
          tauto
        rw [if_neg hname, if_neg hallowed, ih]
        simp [hname, hother]
      · have hrefused : (character != byte '.' && character != byte '-' && character != byte '_') = true := by
          simp only [Bool.and_eq_true, bne_iff_ne]
          tauto
        rw [if_neg hname, if_pos hrefused]
        simp [hname, hother]

theorem addressCharacter_iff {c : UInt8} :
    addressCharacter c = true ↔ isAsciiHexDigit c = true ∨ c = byte ':' ∨ c = byte '.' := by
  rw [addressCharacter, Bool.or_eq_true, Bool.or_eq_true, beq_iff_eq, beq_iff_eq, or_assoc]

theorem bracketed_shape (address : Bytes) :
    2 ≤ (byte '[' :: address ++ [byte ']']).length ∧ (byte '[' :: address ++ [byte ']']).head? = some (byte '[') ∧
      (byte '[' :: address ++ [byte ']']).getLast? = some (byte ']') :=
  ⟨by simp, rfl, List.getLast?_concat⟩

/-- A host in brackets, with what stands between them. -/
theorem bracketed_cases (h : 2 ≤ host.length ∧ host.head? = some (byte '[') ∧ host.getLast? = some (byte ']')) :
    ∃ address, host = byte '[' :: address ++ [byte ']'] := by
  obtain ⟨hlength, hfront, hback⟩ := h
  obtain ⟨rest, rfl⟩ := List.head?_eq_some_iff.mp hfront
  have hrest : rest ≠ [] := by
    rintro rfl
    simp at hlength
  rw [List.getLast?_cons_of_ne_nil hrest] at hback
  obtain ⟨address, rfl⟩ := List.getLast?_eq_some_iff.mp hback
  exact ⟨address, rfl⟩

theorem isValidHost_bracketed (address : Bytes) :
    isValidHost (byte '[' :: address ++ [byte ']']) =
      some ((findFrom (· == byte ':') 0 address).isSome && address.all addressCharacter) := by
  have hsub : substr (byte '[' :: address ++ [byte ']']) 1 ((byte '[' :: address ++ [byte ']']).length - 2) =
      some address := by
    have h := substr_eq [byte '['] (address ++ [byte ']']) ((byte '[' :: address ++ [byte ']']).length - 2)
    simpa using h
  rw [isValidHost, if_pos (bracketed_shape address), hsub]
  rfl

theorem isValidHost_eq (host : Bytes) : ∃ valid, isValidHost host = some valid ∧ (valid = true ↔ IsHost host) := by
  by_cases hbrackets : 2 ≤ host.length ∧ host.head? = some (byte '[') ∧ host.getLast? = some (byte ']')
  · obtain ⟨address, rfl⟩ := bracketed_cases hbrackets
    refine ⟨_, isValidHost_bracketed address, ?_⟩
    rw [Bool.and_eq_true, findFrom_char_isSome, List.drop_zero, List.all_eq_true]
    simp only [addressCharacter_iff]
    constructor
    · rintro ⟨hcolon, hall⟩
      exact .bracketed hall hcolon
    · intro h
      generalize hhost : byte '[' :: address ++ [byte ']'] = host at h
      cases h with
      | name hall hfound =>
        have hbad : ¬(nameCharacter (byte '[') = true ∨ byte '[' = byte '.' ∨ byte '[' = byte '-' ∨ byte '[' = byte '_') := by
          decide
        exact absurd (hall (byte '[') (by simp [← hhost])) hbad
      | bracketed hall hcolon =>
        obtain ⟨-, hhost⟩ := List.cons.inj hhost
        obtain ⟨rfl, -⟩ := List.append_inj' hhost rfl
        exact ⟨hcolon, hall⟩
  · refine ⟨validName host false, by rw [isValidHost, if_neg hbrackets], ?_⟩
    rw [validName_eq]
    constructor
    · rintro ⟨hall, hfound⟩
      exact .name hall (by simpa using hfound)
    · intro h
      cases h with
      | name hall hfound => exact ⟨hall, .inr hfound⟩
      | bracketed hall hcolon => exact absurd (bracketed_shape _) hbrackets

theorem IsHost.ne_nil (h : IsHost host) : host ≠ [] := by
  cases h with
  | name hall hfound =>
    obtain ⟨c, hc, -⟩ := hfound
    exact List.ne_nil_of_mem hc
  | bracketed hall hcolon => simp

end Host

section Authority

variable {authority host portView address : Bytes} {c : UInt8}

theorem splitAuthority_unclosed (h : byte ']' ∉ address) : splitAuthority (byte '[' :: address) = some none := by
  have hall : byte ']' ∉ (byte '[' :: address).drop 0 := by
    rw [List.drop_zero, List.mem_cons, not_or]
    exact ⟨by decide, h⟩
  simp only [splitAuthority, List.head?_cons, Option.bind_eq_bind, Option.bind_some, beq_self_eq_true, if_true,
    findFrom_char_none.mpr hall]

theorem findFrom_close (h : byte ']' ∉ address) (rest : Bytes) :
    findFrom (· == byte ']') 0 (byte '[' :: address ++ byte ']' :: rest) = some (address.length + 1) := by
  apply findFrom_char
  rw [List.mem_cons, not_or]
  exact ⟨by decide, h⟩

theorem splitAuthority_empty (rest : Bytes) : splitAuthority (byte '[' :: byte ']' :: rest) = some none := by
  have hfind := findFrom_close List.not_mem_nil rest
  rw [List.singleton_append] at hfind
  simp only [splitAuthority, List.head?_cons, Option.bind_eq_bind, Option.bind_some, beq_self_eq_true, if_true, hfind,
    List.length_nil, Nat.zero_add]

theorem splitAuthority_closed (h : byte ']' ∉ address) (hne : address ≠ []) :
    splitAuthority (byte '[' :: address ++ [byte ']']) = some (some (byte '[' :: address ++ [byte ']'], [])) := by
  have hhead : (byte '[' :: address ++ [byte ']']).head? = some (byte '[') := rfl
  have hfind := findFrom_close h []
  have hclose : (address.length + 1 == 1) = false := by simpa using hne
  have hlength : ¬address.length + 1 + 1 < (byte '[' :: address ++ [byte ']']).length := by simp
  have hsub : substr (byte '[' :: address ++ [byte ']']) 0 (address.length + 1 + 1) =
      some (byte '[' :: address ++ [byte ']']) := by
    have hbefore := substr_before (byte '[' :: address ++ [byte ']']) []
    simpa using hbefore
  generalize byte '[' :: address ++ [byte ']'] = authority at *
  simp only [splitAuthority, hhead, hfind, hclose, hsub, hlength, Option.bind_eq_bind, Option.bind_some,
    beq_self_eq_true, if_true, Bool.false_eq_true, if_false]

theorem splitAuthority_port (h : byte ']' ∉ address) (hne : address ≠ []) (c : UInt8) (portView : Bytes) :
    splitAuthority (byte '[' :: address ++ byte ']' :: c :: portView) =
      some (if c = byte ':' then some (byte '[' :: address ++ [byte ']'], portView) else none) := by
  have hhead : (byte '[' :: address ++ byte ']' :: c :: portView).head? = some (byte '[') := rfl
  have hfind := findFrom_close h (c :: portView)
  have hclose : (address.length + 1 == 1) = false := by simpa using hne
  have hlength : address.length + 1 + 1 < (byte '[' :: address ++ byte ']' :: c :: portView).length := by
    simp
  have hsub : substr (byte '[' :: address ++ byte ']' :: c :: portView) 0 (address.length + 1 + 1) =
      some (byte '[' :: address ++ [byte ']']) := by
    have hbefore := substr_before (byte '[' :: address ++ [byte ']']) (c :: portView)
    simpa using hbefore
  have hrest : substr (byte '[' :: address ++ byte ']' :: c :: portView) (address.length + 1 + 2)
      (byte '[' :: address ++ byte ']' :: c :: portView).length = some portView := by
    have hafter := substr_rest (byte '[' :: address ++ [byte ']', c]) portView
      (byte '[' :: address ++ byte ']' :: c :: portView).length (by simp; omega)
    simpa using hafter
  have hget : (byte '[' :: address ++ byte ']' :: c :: portView)[address.length + 1 + 1]? = some c := by
    simp
  generalize byte '[' :: address ++ byte ']' :: c :: portView = authority at *
  simp only [splitAuthority, hhead, hfind, hclose, hsub, hrest, hget, hlength, Option.bind_eq_bind, Option.bind_some,
    beq_self_eq_true, if_true, Bool.false_eq_true, if_false, bne_iff_ne, ite_not]
  split_ifs <;> rfl

theorem splitAuthority_name (hne : host ≠ []) (hfront : host.head? ≠ some (byte '[')) (h : byte ':' ∉ host) :
    splitAuthority host = some (some (host, [])) := by
  obtain ⟨front, tail, rfl⟩ := List.exists_cons_of_ne_nil hne
  have hfront' : (front == byte '[') = false := by simpa using hfront
  have hcolon : byte ':' ∉ (front :: tail).drop 0 := h
  simp only [splitAuthority, List.head?_cons, Option.bind_eq_bind, Option.bind_some, hfront', Bool.false_eq_true,
    if_false, findFrom_char_none.mpr hcolon]

theorem splitAuthority_name_port (hfront : (host ++ byte ':' :: portView).head? ≠ some (byte '['))
    (h : byte ':' ∉ host) :
    splitAuthority (host ++ byte ':' :: portView) =
      some (if byte ':' ∈ portView then none else some (host, portView)) := by
  have hdrop : (host ++ byte ':' :: portView).drop (host.length + 1) = portView := by
    rw [← List.drop_drop, List.drop_left]
    rfl
  have hrest : substr (host ++ byte ':' :: portView) (host.length + 1) (host ++ byte ':' :: portView).length =
      some portView := by
    have hafter := substr_rest (host ++ [byte ':']) portView (host ++ byte ':' :: portView).length (by simp; omega)
    simpa using hafter
  obtain ⟨front, hhead⟩ : ∃ front, (host ++ byte ':' :: portView).head? = some front := by
    cases host <;> exact ⟨_, rfl⟩
  have hfront' : (front == byte '[') = false := by
    rw [hhead] at hfront
    simpa using hfront
  simp only [splitAuthority, hhead, Option.bind_eq_bind, Option.bind_some, hfront', Bool.false_eq_true, if_false,
    findFrom_char h, findFrom_char_isSome, hdrop, hrest, substr_before]
  split_ifs <;> rfl

/-- The split of an authority, if there is one, is at the colon after its host. -/
theorem splitAuthority_cases (hne : authority ≠ []) :
    splitAuthority authority = some none ∨ ∃ host portView, splitAuthority authority = some (some (host, portView)) ∧
      (authority = host ∧ portView = [] ∨ authority = host ++ byte ':' :: portView) := by
  by_cases hfront : authority.head? = some (byte '[')
  · obtain ⟨tail, rfl⟩ := List.head?_eq_some_iff.mp hfront
    by_cases hclose : byte ']' ∈ tail
    · obtain ⟨address, rest, rfl, haddress⟩ := List.eq_append_cons_of_mem hclose
      by_cases hempty : address = []
      · subst hempty
        exact .inl (splitAuthority_empty rest)
      · cases rest with
        | nil => exact .inr ⟨_, _, splitAuthority_closed haddress hempty, .inl ⟨rfl, rfl⟩⟩
        | cons c portView =>
          by_cases hc : c = byte ':'
          · subst hc
            refine .inr ⟨byte '[' :: address ++ [byte ']'], portView, ?_, .inr (by simp)⟩
            have h := splitAuthority_port haddress hempty (byte ':') portView
            rwa [if_pos rfl] at h
          · have h := splitAuthority_port haddress hempty c portView
            rw [if_neg hc] at h
            exact .inl h
    · exact .inl (splitAuthority_unclosed hclose)
  · by_cases hcolon : byte ':' ∈ authority
    · obtain ⟨host, portView, rfl, hhost⟩ := List.eq_append_cons_of_mem hcolon
      have h := splitAuthority_name_port hfront hhost
      split_ifs at h
      · exact .inl h
      · exact .inr ⟨host, portView, h, .inr rfl⟩
    · exact .inr ⟨authority, [], splitAuthority_name hne hfront hcolon, .inl ⟨rfl, rfl⟩⟩

theorem splitAuthority_host (hhost : IsHost host) {port : Option Bytes} (hport : ∀ digits ∈ port, IsPort digits) :
    splitAuthority (host ++ portPart port) = some (some (host, port.getD [])) := by
  have hdigits : ∀ digits ∈ port, byte ':' ∉ digits := by
    intro digits hmem hcolon
    have hbad : isAsciiDigit (byte ':') = false := by decide
    rw [(hport digits hmem).2.1 _ hcolon] at hbad
    cases hbad
  cases hhost with
  | name hall hfound =>
    have hchars : byte '[' ∉ host ∧ byte ':' ∉ host := by
      constructor <;> intro hmem <;> exact absurd (hall _ hmem) (by decide)
    have hfront : ∀ rest, (host ++ rest).head? ≠ some (byte '[') := by
      intro rest hhead
      obtain ⟨c, hc, -⟩ := hfound
      obtain ⟨front, tail, rfl⟩ := List.exists_cons_of_ne_nil (List.ne_nil_of_mem hc)
      rw [List.cons_append, List.head?_cons, Option.some.injEq] at hhead
      exact hchars.1 (hhead ▸ List.mem_cons_self)
    cases port with
    | none =>
      have hne := (IsHost.name hall hfound).ne_nil
      have h := splitAuthority_name hne (by simpa using hfront []) hchars.2
      simpa [portPart] using h
    | some digits =>
      have h := splitAuthority_name_port (hfront (byte ':' :: digits)) hchars.2
      rwa [if_neg (hdigits digits rfl)] at h
  | @bracketed address hall hcolon =>
    have hclose : byte ']' ∉ address := fun hmem => absurd (hall _ hmem) (by decide)
    have hne : address ≠ [] := List.ne_nil_of_mem hcolon
    cases port with
    | none =>
      have h := splitAuthority_closed hclose hne
      simpa [portPart] using h
    | some digits =>
      have h := splitAuthority_port hclose hne (byte ':') digits
      simpa [portPart] using h

/-- The characters that may stand in an authority. -/
def authorityCharacter (c : UInt8) : Bool :=
  nameCharacter c || c == byte '.' || c == byte '-' || c == byte '_' || c == byte ':' || c == byte '[' || c == byte ']'

theorem digit_authority {c : UInt8} (h : isAsciiDigit c = true) : authorityCharacter c = true := by
  rw [authorityCharacter, nameCharacter, h, Bool.or_true]
  rfl

theorem hexDigit_authority {c : UInt8} (h : isAsciiHexDigit c = true) : authorityCharacter c = true := by
  have hall : ∀ c, isAsciiHexDigit c = true → authorityCharacter c = true := by
    apply forall_byte
    decide +kernel
  exact hall c h

theorem IsHost.characters (h : IsHost host) : ∀ c ∈ host, authorityCharacter c = true := by
  cases h with
  | name hall hfound =>
    intro c hc
    rw [authorityCharacter]
    obtain hname | rfl | rfl | rfl := hall c hc
    · rw [hname]
      rfl
    all_goals decide
  | bracketed hall hcolon =>
    intro c hc
    simp only [List.cons_append, List.mem_cons, List.mem_append, List.not_mem_nil, or_false] at hc
    obtain rfl | hc | rfl := hc
    · decide
    · obtain hhex | rfl | rfl := hall c hc
      · exact hexDigit_authority hhex
      all_goals decide
    · decide

theorem authority_characters (hhost : IsHost host) {port : Option Bytes} (hport : ∀ digits ∈ port, IsPort digits) :
    ∀ c ∈ host ++ portPart port, authorityCharacter c = true := by
  intro c hc
  rw [List.mem_append] at hc
  obtain hc | hc := hc
  · exact hhost.characters c hc
  · cases port with
    | none => cases hc
    | some digits =>
      obtain rfl | hc := List.mem_cons.mp hc
      · decide
      · exact digit_authority ((hport digits rfl).2.1 c hc)

theorem IsHost.last (h : IsHost host) : host.getLast? ≠ some (byte ':') := by
  intro hlast
  cases h with
  | name hall hfound => exact absurd (hall _ (List.mem_of_getLast? hlast)) (by decide)
  | bracketed hall hcolon =>
    rw [(bracketed_shape _).2.2] at hlast
    exact absurd hlast (by decide)

/-- What `ParseEndpoint` makes of a host and a port. -/
def snapshotOf (url scheme host : Bytes) (port : Nat) : EndpointSnapshot :=
  { url := url, host := lowerAscii host, port := port, secure := isSecure scheme,
    origin := originOf scheme (lowerAscii host) port }

theorem parseAuthority_host (url scheme : Bytes) (hhost : IsHost host) {port : Option Bytes}
    (hport : ∀ digits ∈ port, IsPort digits) :
    parseAuthority url scheme (host ++ portPart port) =
      some (.ok (snapshotOf url scheme host (port.elim (defaultPort scheme) decimalValue))) := by
  have hat : byte '@' ∉ (host ++ portPart port).drop 0 := by
    intro hmem
    exact absurd (authority_characters hhost hport _ hmem) (by decide)
  have hempty : (host ++ portPart port).isEmpty = false := by simp [hhost.ne_nil]
  have hhostempty : host.isEmpty = false := by simp [hhost.ne_nil]
  obtain ⟨valid, hvalid, hiff⟩ := isValidHost_eq host
  rw [hiff.mpr hhost] at hvalid
  obtain ⟨last, hlast, hcolon⟩ : ∃ last, (host ++ portPart port).getLast? = some last ∧ (last == byte ':') = false := by
    cases port with
    | none =>
      obtain ⟨last, hlast⟩ := Option.ne_none_iff_exists'.mp (List.getLast?_eq_none_iff.not.mpr hhost.ne_nil)
      refine ⟨last, by simpa [portPart] using hlast, ?_⟩
      have := hhost.last
      rw [hlast] at this
      simpa using this
    | some digits =>
      obtain ⟨hne, hdigits, -⟩ := hport digits rfl
      obtain ⟨last, hlast⟩ := Option.ne_none_iff_exists'.mp (List.getLast?_eq_none_iff.not.mpr hne)
      refine ⟨last, ?_, ?_⟩
      · rw [List.getLast?_append, portPart]
        simp [List.getLast?_cons, hlast]
      · have hdigit := hdigits last (List.mem_of_getLast? hlast)
        rw [beq_eq_false_iff_ne]
        rintro rfl
        exact absurd hdigit (by decide)
  rw [parseAuthority, hempty, Bool.false_or, if_neg (by simpa [findFrom_char_isSome] using hat),
    splitAuthority_host hhost hport]
  simp only [Option.bind_eq_bind, Option.bind_some, hhostempty, hvalid, Bool.not_true, Bool.false_or, Bool.false_eq_true,
    if_false, hlast, hcolon]
  cases port with
  | none => rfl
  | some digits =>
    have hparse := parsePort_some.mpr ⟨hport digits rfl, rfl⟩
    have hdigits : digits.isEmpty = false := by simp [(hport digits rfl).1]
    simp only [Option.getD_some, hdigits, Bool.false_eq_true, if_false, hparse, Option.bind_some]
    rfl

theorem parseAuthority_cases (url scheme authority : Bytes) :
    parseAuthority url scheme authority = invalid ∨ ∃ host port, IsHost host ∧ (∀ digits ∈ port, IsPort digits) ∧
      authority = host ++ portPart port := by
  by_cases hne : authority = []
  · subst hne
    exact .inl rfl
  · rw [parseAuthority]
    split_ifs
    · exact .inl rfl
    · obtain hsplit | ⟨host, portView, hsplit, hparts⟩ := splitAuthority_cases hne
      · rw [hsplit]
        exact .inl rfl
      · obtain ⟨valid, hvalid, hiff⟩ := isValidHost_eq host
        rw [hsplit]
        simp only [Option.bind_eq_bind, Option.bind_some, hvalid]
        by_cases hhost : IsHost host
        · have hempty : host.isEmpty = false := by simp [hhost.ne_nil]
          rw [hiff.mpr hhost, hempty]
          obtain ⟨rfl, rfl⟩ | rfl := hparts
          · exact .inr ⟨_, none, hhost, (fun digits hmem => by cases hmem), by simp [portPart]⟩
          · by_cases hport : IsPort portView
            · refine .inr ⟨host, some portView, hhost, ?_, rfl⟩
              rintro digits ⟨⟩
              exact hport
            · left
              by_cases hview : portView = []
              · subst hview
                have hlast : (host ++ [byte ':']).getLast? = some (byte ':') := List.getLast?_concat
                simp [hlast]
              · have hparse : parsePort portView = some none := by
                  rw [parsePort_eq hview, if_neg fun h => hport ⟨hview, h⟩]
                have hview' : portView.isEmpty = false := by simpa using hview
                simp [hview', hparse]
        · have hfalse : valid = false := Bool.eq_false_iff.mpr (hiff.not.mpr hhost)
          rw [hfalse]
          simp

end Authority

section Url

variable {url scheme authority path : Bytes}

theorem lowerCharacter_alpha (c : UInt8)
    (h : nameCharacter (if byte 'A' ≤ c ∧ c ≤ byte 'Z' then c + (byte 'a' - byte 'A') else c) = true) :
    nameCharacter c = true := by
  have hall : ∀ c, nameCharacter (if byte 'A' ≤ c ∧ c ≤ byte 'Z' then c + (byte 'a' - byte 'A') else c) = true →
      nameCharacter c = true := by
    apply forall_byte
    decide +kernel
  exact hall c h

theorem scheme_characters (h : lowerAscii scheme ∈ schemes) : ∀ c ∈ scheme, nameCharacter c = true := by
  have hnames : schemes.all (·.all nameCharacter) = true := by
    simp only [schemes, ascii, String.reduceToList]
    decide
  intro c hc
  apply lowerCharacter_alpha
  exact List.all_eq_true.mp (List.all_eq_true.mp hnames _ h) _ (List.mem_map_of_mem hc)

theorem not_mem_schemes :
    (scheme != ascii "ws" && scheme != ascii "wss" && scheme != ascii "http" && scheme != ascii "https") = true ↔
      scheme ∉ schemes := by
  simp [schemes]
  tauto

theorem mem_paths (hpath : path = pathOf scheme) :
    ∀ c ∈ path, nameCharacter c = true ∨ c = byte '/' ∨ c = byte '_' := by
  have hall : (pathOf scheme).all (fun c => nameCharacter c || c == byte '/' || c == byte '_') = true := by
    rw [pathOf]
    split
    all_goals
      simp only [ascii, String.reduceToList]
      decide
  intro c hc
  rw [hpath] at hc
  simpa [or_assoc] using List.all_eq_true.mp hall c hc

/-- Nothing of a URL of this form is a control character or a space. -/
theorem authorityCharacter_plain {c : UInt8} (h : authorityCharacter c = true) :
    isAsciiControlOrSpace c = false ∧ c ≠ byte '#' ∧ c ≠ byte '/' ∧ c ≠ byte '?' := by
  have hall : ∀ c, authorityCharacter c = true →
      isAsciiControlOrSpace c = false ∧ c ≠ byte '#' ∧ c ≠ byte '/' ∧ c ≠ byte '?' := by
    apply forall_byte
    decide +kernel
  exact hall c h

theorem name_authority {c : UInt8} (h : nameCharacter c = true) : authorityCharacter c = true := by
  rw [authorityCharacter, h]
  rfl

theorem ne_path_iff :
    ((isWebsocket scheme && path != ascii "/rva/v1/voice") ||
      (!isWebsocket scheme && path != ascii "/v1/session/bootstrap")) = true ↔ path ≠ pathOf scheme := by
  rw [pathOf]
  cases isWebsocket scheme <;> simp

/-- The tests up to the authority, on a URL with `://` and a delimiter after it. -/
theorem parseEndpoint_found {before tail : Bytes} {c : UInt8}
    (hplain : (url.isEmpty || decide (url.length > maxServiceUrlBytes) || url.any isAsciiControlOrSpace) = false)
    (hurl : url = before ++ ascii "://" ++ (authority ++ c :: tail))
    (hfind : findText (ascii "://") url = some before.length)
    (hauthority : ∀ x ∈ authority, x ≠ byte '/' ∧ x ≠ byte '?') (hc : c = byte '/' ∨ c = byte '?') :
    parseEndpoint url =
      if lowerAscii before ∉ schemes ∨ byte '#' ∈ authority ++ c :: tail ∨ byte '?' ∈ c :: tail ∨
        c :: tail ≠ pathOf (lowerAscii before) then invalid
      else parseAuthority url (lowerAscii before) authority := by
  have hstart : (before ++ ascii "://").length = before.length + 3 := List.length_append
  have hend : (before ++ ascii "://" ++ authority).length = authority.length + (before.length + 3) := by
    rw [List.length_append, hstart, Nat.add_comm]
  have hurl' : url = before ++ ascii "://" ++ authority ++ c :: tail := by
    rw [hurl, List.append_assoc _ authority]
  have hscheme : substr url 0 before.length = some before := by
    rw [hurl, List.append_assoc, substr_before]
  have hdrop : url.drop (before.length + 3) = authority ++ c :: tail := by
    rw [hurl, ← hstart, List.drop_left]
  have hdelimiter : findFrom (fun c => c == byte '/' || c == byte '?') (before.length + 3) url =
      some (authority.length + (before.length + 3)) := by
    rw [findFrom_eq_some]
    refine ⟨authority, c, tail, hdrop, ?_, ?_, rfl⟩
    · rw [Bool.or_eq_true, beq_iff_eq, beq_iff_eq]
      exact hc
    · intro x hx
      rw [Bool.or_eq_false_iff, beq_eq_false_iff_ne, beq_eq_false_iff_ne]
      exact hauthority x hx
  have hrest : url.drop (authority.length + (before.length + 3)) = c :: tail := by
    rw [hurl', ← hend, List.drop_left]
  have hget : url[authority.length + (before.length + 3)]? = some c := by
    have hhead := List.head?_drop (l := url) (i := authority.length + (before.length + 3))
    rw [hrest] at hhead
    exact hhead.symm
  have hpath : substr url (authority.length + (before.length + 3)) url.length = some (c :: tail) := by
    have h := substr_rest (before ++ ascii "://" ++ authority) (c :: tail) url.length (by
      rw [hurl', List.length_append]
      omega)
    rwa [hend, ← hurl'] at h
  have hsub : substr url (before.length + 3) (authority.length + (before.length + 3) - (before.length + 3)) =
      some authority := by
    have h := substr_eq (before ++ ascii "://") (authority ++ c :: tail) authority.length
    rwa [hstart, ← hurl, List.take_left, ← Nat.add_sub_cancel authority.length (before.length + 3)] at h
  rw [parseEndpoint, hplain, if_neg Bool.false_ne_true, hfind]
  simp only [Option.bind_eq_bind, hscheme, Option.bind_some, hdelimiter, hget, hpath, hsub, findFrom_char_isSome, hdrop,
    hrest, ne_path_iff, not_mem_schemes]
  have hquestion : (c == byte '?') = true → byte '?' ∈ c :: tail := by
    intro h
    rw [beq_iff_eq.mp h]
    exact List.mem_cons_self
  by_cases hs : lowerAscii before ∉ schemes
  · rw [if_pos hs, if_pos (.inl hs)]
  by_cases hf : byte '#' ∈ authority ++ c :: tail
  · rw [if_neg hs, if_pos hf, if_pos (.inr (.inl hf))]
  by_cases hq : byte '?' ∈ c :: tail
  · rw [if_neg hs, if_neg hf, if_pos hq, ite_self, if_pos (.inr (.inr (.inl hq)))]
  rw [if_neg hs, if_neg hf, if_neg (mt hquestion hq), if_neg hq]
  by_cases hp : c :: tail ≠ pathOf (lowerAscii before)
  · rw [if_pos hp, if_pos (.inr (.inr (.inr hp)))]
  · rw [if_neg hp, if_neg (by tauto)]

/-- Without a delimiter after `://` nothing is accepted. -/
theorem parseEndpoint_unfound {before rest : Bytes} (hurl : url = before ++ ascii "://" ++ rest)
    (hfind : findText (ascii "://") url = some before.length) (hrest : ∀ x ∈ rest, x ≠ byte '/' ∧ x ≠ byte '?') :
    parseEndpoint url = invalid := by
  have hscheme : substr url 0 before.length = some before := by
    rw [hurl, List.append_assoc, substr_before]
  have hdelimiter : findFrom (fun c => c == byte '/' || c == byte '?') (before.length + 3) url = none := by
    have hstart : (before ++ ascii "://").length = before.length + 3 := List.length_append
    rw [findFrom_eq_none, hurl, ← hstart, List.drop_left]
    intro x hx
    rw [Bool.or_eq_false_iff, beq_eq_false_iff_ne, beq_eq_false_iff_ne]
    exact hrest x hx
  rw [parseEndpoint, hfind]
  simp only [Option.bind_eq_bind, hscheme, Option.bind_some, hdelimiter]
  split_ifs <;> rfl

end Url

namespace Address

variable {a : Address}

theorem Valid.authority_characters (h : a.Valid) : ∀ c ∈ a.authority, authorityCharacter c = true :=
  DeviceConfig.authority_characters h.host h.port

theorem Valid.no_control (h : a.Valid) : a.text.any isAsciiControlOrSpace = false := by
  rw [List.any_eq_false]
  intro c hc
  rw [Bool.not_eq_true]
  simp only [text, List.mem_append] at hc
  obtain (hc | hc) | hc | hc := hc
  · exact (authorityCharacter_plain (name_authority (scheme_characters h.scheme c hc))).1
  · have hall : (ascii "://").all (fun c => !isAsciiControlOrSpace c) = true := by
      simp only [ascii, String.reduceToList]
      decide
    simpa using List.all_eq_true.mp hall c hc
  · exact (authorityCharacter_plain (h.authority_characters c hc)).1
  · obtain hname | rfl | rfl := mem_paths rfl c hc
    · exact (authorityCharacter_plain (name_authority hname)).1
    all_goals decide

end Address

namespace Address

variable {a : Address}

theorem text_eq (a : Address) : a.text = a.scheme ++ ascii "://" ++ (a.authority ++ pathOf (lowerAscii a.scheme)) := rfl

theorem mem_path {scheme : Bytes} {c : UInt8} (hc : c ∈ pathOf scheme) : c ≠ byte '#' ∧ c ≠ byte '?' := by
  obtain hname | rfl | rfl := mem_paths rfl c hc
  · have hplain := authorityCharacter_plain (name_authority hname)
    exact ⟨hplain.2.1, hplain.2.2.2⟩
  all_goals decide

/-- What `ParseEndpoint` accepts is taken apart as it was put together. -/
theorem Valid.parse (h : a.Valid) (hsize : a.text.length ≤ maxServiceUrlBytes) :
    parseEndpoint a.text = some (.ok a.snapshot) := by
  have hcolon : byte ':' ∉ a.scheme := fun hmem => absurd (scheme_characters h.scheme _ hmem) (by decide)
  obtain ⟨tail, htail⟩ : ∃ tail, pathOf (lowerAscii a.scheme) = byte '/' :: tail := by
    rw [pathOf]
    split
    · exact ⟨_, rfl⟩
    · exact ⟨_, rfl⟩
  have hplain : (a.text.isEmpty || decide (a.text.length > maxServiceUrlBytes) || a.text.any isAsciiControlOrSpace) =
      false := by
    rw [h.no_control, Bool.or_false, Bool.or_eq_false_iff, decide_eq_false_iff_not, Nat.not_lt]
    refine ⟨?_, hsize⟩
    rw [text_eq, htail]
    simp
  have hfind : findText (ascii "://") a.text = some a.scheme.length := findText_append hcolon _ _
  have hauthority : ∀ x ∈ a.authority, x ≠ byte '/' ∧ x ≠ byte '?' := by
    intro x hx
    exact (authorityCharacter_plain (h.authority_characters x hx)).2.2
  rw [parseEndpoint_found hplain (by rw [text_eq, htail]) hfind hauthority (.inl rfl), ← htail, if_neg]
  · exact parseAuthority_host a.text (lowerAscii a.scheme) h.host h.port
  · rintro (hs | hf | hq | hp)
    · exact hs h.scheme
    · obtain hf | hf := List.mem_append.mp hf
      · exact (authorityCharacter_plain (h.authority_characters _ hf)).2.1 rfl
      · exact (mem_path hf).1 rfl
    · exact (mem_path hq).2 rfl
    · exact hp rfl

end Address

theorem parseEndpoint_cases (url : Bytes) :
    parseEndpoint url = invalid ∨ ∃ a : Address, a.Valid ∧ url = a.text ∧ url.length ≤ maxServiceUrlBytes := by
  by_cases hplain : (url.isEmpty || decide (url.length > maxServiceUrlBytes) || url.any isAsciiControlOrSpace) = true
  · rw [parseEndpoint, if_pos hplain]
    exact .inl rfl
  · cases hfind : findText (ascii "://") url with
    | none =>
      rw [parseEndpoint, if_neg hplain, hfind]
      exact .inl rfl
    | some schemeEnd =>
      obtain ⟨before, rest, hurl, rfl⟩ := findText_some hfind
      cases hdelimiter : findFrom (fun c => c == byte '/' || c == byte '?') 0 rest with
      | none =>
        refine .inl (parseEndpoint_unfound hurl hfind ?_)
        intro x hx
        have hx' := findFrom_eq_none.mp hdelimiter x hx
        simpa using hx'
      | some authorityEnd =>
        obtain ⟨authority, c, tail, hsplit, hc, hauthority, rfl⟩ := findFrom_eq_some.mp hdelimiter
        rw [List.drop_zero] at hsplit
        subst hsplit
        rw [Bool.not_eq_true] at hplain
        rw [parseEndpoint_found hplain hurl hfind (fun x hx => by simpa using hauthority x hx) (by simpa using hc)]
        split_ifs with hrefused
        · exact .inl rfl
        · simp only [not_or, not_not] at hrefused
          obtain ⟨hscheme, -, -, hpath⟩ := hrefused
          obtain hinvalid | ⟨host, port, hhost, hport, rfl⟩ := parseAuthority_cases url (lowerAscii before) authority
          · exact .inl hinvalid
          · refine .inr ⟨⟨before, host, port⟩, ⟨hscheme, hhost, hport⟩, ?_, ?_⟩
            · rw [hurl, hpath]
              rfl
            · simp only [Bool.or_eq_false_iff, decide_eq_false_iff_not, not_lt] at hplain
              exact hplain.1.2

theorem digit_byte {d : Char} (h : d.isDigit = true) : isAsciiDigit (byte d) = true ∧ Char.ofNat (byte d).toNat = d := by
  have hall : ∀ n < 58, 48 ≤ n → isAsciiDigit (byte (Char.ofNat n)) = true ∧
      Char.ofNat (byte (Char.ofNat n)).toNat = Char.ofNat n := by decide +kernel
  obtain ⟨hlow, hhigh⟩ := Char.isDigit_iff_toNat.mp h
  have hd := hall d.toNat (Nat.lt_succ_of_le hhigh) hlow
  rwa [Char.ofNat_toNat] at hd

theorem toDigits_isDigit {n : Nat} {d : Char} (h : d ∈ Nat.toDigits 10 n) : d.isDigit = true :=
  Nat.isDigit_of_mem_toDigits (by omega) (by omega) h

theorem decimal_digits (n : Nat) : ∀ c ∈ decimal n, isAsciiDigit c = true := by
  intro c hc
  obtain ⟨d, hd, rfl⟩ := List.mem_map.mp hc
  exact (digit_byte (toDigits_isDigit hd)).1

theorem decimal_inj {m n : Nat} (h : decimal m = decimal n) : m = n := by
  have hback : ∀ n, (decimal n).map (fun c => Char.ofNat c.toNat) = Nat.toDigits 10 n := by
    intro n
    rw [decimal, List.map_map]
    exact (List.map_congr_left fun d hd => (digit_byte (toDigits_isDigit hd)).2).trans (List.map_id _)
  have hdigits := congrArg (List.map fun c => Char.ofNat c.toNat) h
  rw [hback, hback] at hdigits
  rw [← Nat.ofDigitChars_ten_toDigits (n := m), hdigits, Nat.ofDigitChars_ten_toDigits]

/-- The origin of an endpoint determines its scheme, its host and its port. -/
theorem origin_inj {a b : Address} (ha : a.Valid) (hb : b.Valid) :
    a.snapshot.origin = b.snapshot.origin ↔ lowerAscii a.scheme = lowerAscii b.scheme ∧
      lowerAscii a.host = lowerAscii b.host ∧ a.effectivePort = b.effectivePort := by
  constructor
  · intro h
    have hscheme : ∀ s ∈ schemes, byte ':' ∉ s := by
      simp only [schemes, ascii, String.reduceToList]
      decide
    have hdecimal : ∀ n, byte ':' ∉ (decimal n).reverse := by
      intro n hmem
      exact absurd (decimal_digits n _ (List.mem_reverse.mp hmem)) (by decide)
    have hparts : ∀ c : Address, c.snapshot.origin = lowerAscii c.scheme ++ byte ':' ::
        (ascii "//" ++ (lowerAscii c.host ++ byte ':' :: decimal c.effectivePort)) := by
      intro c
      change lowerAscii c.scheme ++ ascii "://" ++ lowerAscii c.host ++ ascii ":" ++ decimal c.effectivePort = _
      rw [List.append_assoc, List.append_assoc, List.append_assoc]
      rfl
    rw [hparts, hparts] at h
    obtain ⟨hs, hrest⟩ := append_char_inj (hscheme _ ha.scheme) (hscheme _ hb.scheme) h
    have hreverse := congrArg List.reverse (List.append_cancel_left hrest)
    rw [List.reverse_append, List.reverse_append, List.reverse_cons, List.reverse_cons, List.append_assoc,
      List.append_assoc] at hreverse
    obtain ⟨hport, hhost⟩ := append_char_inj (hdecimal _) (hdecimal _) hreverse
    exact ⟨hs, List.reverse_inj.mp hhost, decimal_inj (List.reverse_inj.mp hport)⟩
  · rintro ⟨hs, hh, hp⟩
    rw [Address.snapshot, Address.snapshot, hs, hh, hp]

/-- `ParseEndpoint` answers on every string, with no index out of range and no overflow. It
accepts exactly the URLs of the valid addresses within its size, with their snapshots, and the
origins of two are equal exactly if schemes, hosts and ports are. -/
theorem parseEndpoint_exact (url : Bytes) :
    (parseEndpoint url = some (.error .invalidArgument) ∨ ∃ snapshot, parseEndpoint url = some (.ok snapshot)) ∧
    (∀ snapshot, parseEndpoint url = some (.ok snapshot) ↔
      url.length ≤ maxServiceUrlBytes ∧ ∃ a : Address, a.Valid ∧ url = a.text ∧ snapshot = a.snapshot) ∧
    ∀ a b : Address, a.Valid → b.Valid → (a.snapshot.origin = b.snapshot.origin ↔
      lowerAscii a.scheme = lowerAscii b.scheme ∧ lowerAscii a.host = lowerAscii b.host ∧
        a.effectivePort = b.effectivePort) := by
  have haccepts : ∀ a : Address, a.Valid → a.text.length ≤ maxServiceUrlBytes →
      parseEndpoint a.text = some (.ok a.snapshot) := fun a ha => ha.parse
  refine ⟨?_, fun snapshot => ⟨fun h => ?_, ?_⟩, fun a b => origin_inj⟩
  · obtain hinvalid | ⟨a, ha, rfl, hsize⟩ := parseEndpoint_cases url
    · exact .inl hinvalid
    · exact .inr ⟨a.snapshot, haccepts a ha hsize⟩
  · obtain hinvalid | ⟨a, ha, rfl, hsize⟩ := parseEndpoint_cases url
    · rw [hinvalid] at h
      cases h
    · rw [haccepts a ha hsize] at h
      obtain rfl := Except.ok.inj (Option.some.inj h)
      exact ⟨hsize, a, ha, rfl, rfl⟩
  · rintro ⟨hsize, a, ha, rfl, rfl⟩
    exact haccepts a ha hsize

end RealtimeVoice.Firmware.DeviceConfig
