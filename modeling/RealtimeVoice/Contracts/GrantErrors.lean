import RealtimeVoice.Contracts.GrantBinding

namespace RealtimeVoice.Contracts

open RealtimeVoice.Base

variable {α β : Type}

theorem total_ok (a : α) : Total (.ok a : Except VerifyError α) := by
  intro e h
  cases h

theorem total_grant (reason : String) : Total (.error (.grant reason) : Except VerifyError α) := by
  intro e h
  cases h
  exact ⟨reason, rfl⟩

/-- Steps are total one after the other. -/
theorem total_bind {x : Except VerifyError α} {f : α → Except VerifyError β} :
    Total (x >>= f) ↔ Total x ∧ ∀ a, x = .ok a → Total (f a) := by
  cases x with
  | error e =>
    constructor
    · intro h
      refine ⟨?_, ?_⟩
      · rintro e' ⟨⟩
        exact h e rfl
      · rintro a ⟨⟩
    · rintro ⟨h, -⟩ e' he
      cases he
      exact h e rfl
  | ok a =>
    constructor
    · intro h
      refine ⟨total_ok a, ?_⟩
      rintro b ⟨⟩
      exact h
    · rintro ⟨-, h⟩
      exact h a rfl

theorem total_decode (value : List Char) : Total (decode value) := by
  rw [decode]
  cases Base64.urlsafeB64decode (value ++ Base64.padding value.length) with
  | none => exact total_grant _
  | some bytes => exact total_ok bytes

theorem total_encodeAscii {s : List Char} : Total (encodeAscii s) ↔ Base64.isAscii s = true := by
  rw [encodeAscii]
  by_cases h : Base64.isAscii s = true
  · rw [if_pos h]
    exact ⟨fun _ => h, fun _ => total_ok _⟩
  · rw [if_neg h]
    constructor
    · intro htotal
      obtain ⟨reason, heq⟩ := htotal _ rfl
      cases heq
    · intro hascii
      exact absurd hascii h

theorem isAscii_of_decode {value : List Char} {bytes : List UInt8} (h : decode value = .ok bytes) :
    Base64.isAscii value = true := by
  rw [decode, Base64.urlsafeB64decode] at h
  split at h
  · rename_i heq
    split_ifs at heq with hascii
    rw [Base64.isAscii, List.all_append, Bool.and_eq_true] at hascii
    exact hascii.1
  · cases h

namespace GrantCodec

variable {g : GrantCodec} {header payload suppliedSignature token : List Char}

theorem total_refuse (p : Prop) [Decidable p] (reason : String) : Total (refuse p reason) := by
  rw [refuse]
  split
  · exact total_grant reason
  · exact total_ok ()

/-- The JSON of a header can be read, or is none: it nests no deeper than the scanner goes
and has no integer of more digits than `int` converts. -/
def Readable (g : GrantCodec) (header : List Char) : Prop :=
  ∀ bytes e, decode header = .ok bytes → g.headerValue bytes = some (.error e) → e = .decode

/-- The header of an issued token, up to its spelling. -/
def Supported (g : GrantCodec) (header : List Char) : Prop :=
  ∃ bytes value, decode header = .ok bytes ∧ g.headerValue bytes = some (.ok value) ∧ supportedHeader value = true

theorem total_checkHeader : Total (g.checkHeader header) ↔ g.Readable header := by
  rw [checkHeader, total_bind]
  constructor
  · rintro ⟨-, h⟩ bytes e hbytes hvalue
    have htotal := h bytes hbytes
    rw [hvalue] at htotal
    cases e with
    | decode => rfl
    | recursion =>
      obtain ⟨reason, heq⟩ := htotal _ rfl
      cases heq
    | digits =>
      obtain ⟨reason, heq⟩ := htotal _ rfl
      cases heq
    | hook =>
      obtain ⟨reason, heq⟩ := htotal _ rfl
      cases heq
  · intro h
    refine ⟨total_decode header, ?_⟩
    intro bytes hbytes
    have hread := fun e => h bytes e hbytes
    cases hvalue : g.headerValue bytes with
    | none => exact total_grant _
    | some value =>
      cases value with
      | error e =>
        rw [hread e hvalue]
        exact total_grant _
      | ok value =>
        change Total (if supportedHeader value = true then _ else _)
        split
        · exact total_ok ()
        · exact total_grant _

theorem checkHeader_ok : g.checkHeader header = .ok () ↔ g.Supported header := by
  rw [checkHeader, bind_ok]
  apply exists_congr
  intro bytes
  cases hvalue : g.headerValue bytes with
  | none => simp [throw, throwThe, MonadExceptOf.throw]
  | some value =>
    cases value with
    | error e => cases e <;> simp [throw, throwThe, MonadExceptOf.throw]
    | ok value =>
      by_cases hsupported : supportedHeader value = true
      · simp [hsupported, pure, Except.pure]
      · simp [hsupported, throw, throwThe, MonadExceptOf.throw]

theorem total_checkSignature (hheader : Base64.isAscii header = true) :
    Total (g.checkSignature header payload suppliedSignature) ↔ Base64.isAscii payload = true := by
  rw [checkSignature, total_bind, total_encodeAscii, isAscii_append, and_iff_right hheader]
  constructor
  · rintro ⟨h, -⟩
    exact h
  · intro h
    refine ⟨h, ?_⟩
    intro signingInput _
    rw [total_bind]
    exact ⟨total_decode _, fun signature _ => total_refuse _ _⟩

theorem total_validateClaims : Total (g.validateClaims payload) := by
  rw [validateClaims, total_bind]
  refine ⟨total_decode payload, ?_⟩
  intro bytes _
  cases g.modelValidateJson bytes with
  | none => exact total_grant _
  | some claims => exact total_ok claims

theorem total_checkClaims (claims : ConnectGrantClaims) (workerId deviceId : Option String) (now : Time) :
    Total (g.checkClaims claims workerId deviceId now) := by
  rw [checkClaims]
  iterate 4
    rw [total_bind]
    refine ⟨total_refuse _ _, ?_⟩
    intro _ _
  exact total_ok claims

/-- The tokens whose verification ends as documented. -/
structure Verifiable (g : GrantCodec) (token : List Char) : Prop where
  header_readable : ∀ header payload suppliedSignature,
    token.splitOn '.' = [header, payload, suppliedSignature] → g.Readable header
  payload_ascii : ∀ header payload suppliedSignature,
    token.splitOn '.' = [header, payload, suppliedSignature] → g.Supported header → Base64.isAscii payload = true

theorem verify_parts (hsplit : token.splitOn '.' = [header, payload, suppliedSignature])
    (workerId deviceId : Option String) (now : Time) :
    g.verify token workerId deviceId now = (do
      g.checkHeader header
      g.checkSignature header payload suppliedSignature
      let claims ← g.validateClaims payload
      g.checkClaims claims workerId deviceId now) := by
  rw [verify, hsplit]

theorem verify_total_iff (token : List Char) (workerId deviceId : Option String) (now : Time) :
    Total (g.verify token workerId deviceId now) ↔ g.Verifiable token := by
  by_cases hparts : ∃ header payload suppliedSignature, token.splitOn '.' = [header, payload, suppliedSignature]
  · obtain ⟨header, payload, suppliedSignature, hsplit⟩ := hparts
    rw [verify_parts hsplit, total_bind, total_checkHeader]
    have hascii (hsupported : g.Supported header) : Base64.isAscii header = true := by
      obtain ⟨bytes, -, hbytes, -⟩ := hsupported
      exact isAscii_of_decode hbytes
    constructor
    · rintro ⟨hreadable, hrest⟩
      constructor
      · intro h p s heq
        rw [hsplit] at heq
        cases heq
        exact hreadable
      · intro h p s heq hsupported
        rw [hsplit] at heq
        cases heq
        have htotal := hrest () (checkHeader_ok.mpr hsupported)
        rw [total_bind, total_checkSignature (hascii hsupported)] at htotal
        exact htotal.1
    · intro h
      refine ⟨h.header_readable _ _ _ hsplit, ?_⟩
      intro _ hheader
      have hsupported := checkHeader_ok.mp hheader
      rw [total_bind, total_checkSignature (hascii hsupported)]
      refine ⟨h.payload_ascii _ _ _ hsplit hsupported, ?_⟩
      intro _ _
      rw [total_bind]
      exact ⟨total_validateClaims, fun claims _ => total_checkClaims claims _ _ _⟩
  · have hverify : g.verify token workerId deviceId now = .error (.grant "malformed grant") := by
      rw [verify]
      split
      · rename_i header payload suppliedSignature hsplit
        exact absurd ⟨header, payload, suppliedSignature, hsplit⟩ hparts
      · rfl
    rw [hverify]
    constructor
    · intro _
      exact ⟨fun h p s heq => absurd ⟨h, p, s, heq⟩ hparts, fun h p s heq => absurd ⟨h, p, s, heq⟩ hparts⟩
    · intro _
      exact total_grant _

end GrantCodec

end RealtimeVoice.Contracts
