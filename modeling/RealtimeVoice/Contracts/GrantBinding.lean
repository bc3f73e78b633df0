import RealtimeVoice.Contracts.Grants

namespace RealtimeVoice.Contracts

open RealtimeVoice.Base

theorem encode_eq (value : List UInt8) : encode value = Base64.groups value :=
  Base64.rdropWhile_urlsafeB64encode value

theorem decode_encode (value : List UInt8) : decode (encode value) = .ok value := by
  rw [decode, encode_eq, Base64.urlsafeB64decode_groups]

theorem isAscii_encode (value : List UInt8) : Base64.isAscii (encode value) = true := by
  rw [encode_eq, Base64.isAscii_groups]

theorem dot_not_mem_encode (value : List UInt8) : '.' ∉ encode value := by
  rw [encode_eq]
  intro hdot
  obtain ⟨n, hn, heq⟩ := Base64.groups_digits value '.' hdot
  exact Base64.digit_ne_dot hn heq.symm

theorem isAscii_append {s t : List Char} :
    Base64.isAscii (s ++ '.' :: t) = true ↔ Base64.isAscii s = true ∧ Base64.isAscii t = true := by
  simp [Base64.isAscii]

theorem encodeAscii_ok {s : List Char} {bytes : List UInt8} :
    encodeAscii s = .ok bytes ↔ Base64.isAscii s = true ∧ bytes = s.map fun c => UInt8.ofNat c.toNat := by
  rw [encodeAscii]
  by_cases h : Base64.isAscii s = true
  · rw [if_pos h]
    simp [h, eq_comm]
  · rw [if_neg h]
    simp [h]

/-- ASCII texts have different bytes. -/
theorem encodeAscii_inj {s t : List Char} {bytes : List UInt8} (hs : encodeAscii s = .ok bytes)
    (ht : encodeAscii t = .ok bytes) : s = t := by
  obtain ⟨hsAscii, rfl⟩ := encodeAscii_ok.mp hs
  obtain ⟨htAscii, heq⟩ := encodeAscii_ok.mp ht
  have hback {u : List Char} (hu : Base64.isAscii u = true) :
      (u.map fun c => UInt8.ofNat c.toNat).map (fun b => Char.ofNat b.toNat) = u := by
    rw [List.map_map]
    conv => rhs; rw [← List.map_id u]
    apply List.map_congr_left
    intro c hc
    have hlt : c.toNat < 128 := of_decide_eq_true (List.all_eq_true.mp hu c hc)
    change Char.ofNat (UInt8.ofNat c.toNat).toNat = c
    rw [UInt8.toNat_ofNat_of_lt' (Nat.lt_trans hlt (by decide)), Char.ofNat_toNat]
  rw [← hback hsAscii, ← hback htAscii, heq]

/-- Three parts without dots are found again in the token made of them. -/
theorem splitOn_token {header payload signature : List Char} (hheader : '.' ∉ header) (hpayload : '.' ∉ payload)
    (hsignature : '.' ∉ signature) :
    (header ++ '.' :: payload ++ '.' :: signature).splitOn '.' = [header, payload, signature] := by
  rw [List.append_assoc, List.cons_append, List.splitOn_append_cons_self_of_not_mem hheader,
    List.splitOn_append_cons_self_of_not_mem hpayload, List.splitOn_eq_singleton hsignature]

theorem token_of_splitOn {token header payload signature : List Char}
    (h : token.splitOn '.' = [header, payload, signature]) :
    token = header ++ '.' :: payload ++ '.' :: signature := by
  have hjoin : ['.'].intercalate (token.splitOn '.') = token := List.intercalate_splitOn '.'
  rw [h] at hjoin
  rw [← hjoin]
  simp [List.intercalate, List.intersperse]

namespace GrantCodec

/-- The digest that a token carries. -/
def carriedSignature (token : List Char) : Except VerifyError (List UInt8) :=
  match token.splitOn '.' with
  | [_, _, suppliedSignature] => decode suppliedSignature
  | _ => .error (.grant "malformed grant")

variable {g : GrantCodec} {claims : ConnectGrantClaims} {token header payload suppliedSignature : List Char}

theorem carriedSignature_parts (h : token.splitOn '.' = [header, payload, suppliedSignature]) :
    carriedSignature token = decode suppliedSignature := by
  rw [carriedSignature, h]

theorem bind_ok {α β : Type} {x : Except VerifyError α} {f : α → Except VerifyError β} {b : β} :
    x >>= f = .ok b ↔ ∃ a, x = .ok a ∧ f a = .ok b := by
  cases x with
  | error e =>
    change Except.error e = _ ↔ _
    simp
  | ok a =>
    change f a = _ ↔ _
    simp

theorem refuse_ok {p : Prop} [Decidable p] {reason : String} : refuse p reason = .ok () ↔ ¬p := by
  rw [refuse]
  by_cases h : p
  · simp [h]
  · simp [h]

theorem checkSignature_ok :
    g.checkSignature header payload suppliedSignature = .ok () ↔
      ∃ signingInput, encodeAscii (header ++ '.' :: payload) = .ok signingInput ∧
        decode suppliedSignature = .ok (g.hmacSha256 g.key signingInput) := by
  simp only [checkSignature, bind_ok, refuse_ok, not_not]
  constructor
  · rintro ⟨signingInput, hinput, signature, hsignature, rfl⟩
    exact ⟨signingInput, hinput, hsignature⟩
  · rintro ⟨signingInput, hinput, hsignature⟩
    exact ⟨signingInput, hinput, _, hsignature, rfl⟩

theorem validateClaims_ok :
    g.validateClaims payload = .ok claims ↔
      ∃ bytes, decode payload = .ok bytes ∧ g.modelValidateJson bytes = some claims := by
  simp only [validateClaims, bind_ok]
  apply exists_congr
  intro bytes
  apply and_congr_right
  intro _
  cases g.modelValidateJson bytes with
  | none => simp [throw, throwThe, MonadExceptOf.throw]
  | some c => simp [pure, Except.pure]

theorem refuse_bind {α : Type} {p : Prop} [Decidable p] {reason : String} {x : Except VerifyError α} {a : α} :
    (refuse p reason >>= fun _ => x) = .ok a ↔ ¬p ∧ x = .ok a := by
  rw [bind_ok]
  constructor
  · rintro ⟨_, hp, hx⟩
    exact ⟨refuse_ok.mp hp, hx⟩
  · rintro ⟨hp, hx⟩
    exact ⟨(), refuse_ok.mpr hp, hx⟩

theorem checkClaims_ok {workerId deviceId : Option String} {now : Time} {c : ConnectGrantClaims} :
    g.checkClaims claims workerId deviceId now = .ok c ↔
      (¬claims.exp ≤ now ∧ ¬(now + g.clockSkewSeconds < claims.iat ∨ claims.exp ≤ claims.iat) ∧
        ¬workerId.any (· ≠ claims.workerId.val) = true ∧ ¬deviceId.any (· ≠ claims.deviceId.val) = true) ∧
      c = claims := by
  rw [checkClaims, refuse_bind, refuse_bind, refuse_bind, refuse_bind]
  simp only [pure, Except.pure, Except.ok.injEq, and_assoc, eq_comm (a := claims)]

/-- What an accepted token consists of. -/
theorem verify_ok {workerId deviceId : Option String} {now : Time}
    (h : g.verify token workerId deviceId now = .ok claims) :
    ∃ header payload suppliedSignature, token.splitOn '.' = [header, payload, suppliedSignature] ∧
      g.checkHeader header = .ok () ∧ g.checkSignature header payload suppliedSignature = .ok () ∧
      g.validateClaims payload = .ok claims := by
  rw [verify] at h
  split at h
  · rename_i header payload suppliedSignature hsplit
    simp only [bind_ok] at h
    obtain ⟨_, hheader, _, hsignature, c, hclaims, hc⟩ := h
    obtain ⟨-, rfl⟩ := checkClaims_ok.mp hc
    exact ⟨header, payload, suppliedSignature, hsplit, hheader, hsignature, hclaims⟩
  · cases h

/-- The text of the constant header after its brace. -/
def headerMembers : PyStr := PyStr.ofString "\"alg\":\"HS256\",\"typ\":\"VAG\",\"v\":1\x7d"

/-- The members of the constant header, scanned with any nesting left. -/
theorem scanMembers_header (p : Interpreter) (hook : Loads.Hook) (depth fuel : Nat) :
    Loads.scanMembers (Loads.scanOnce p hook depth) (fuel + 3) headerMembers =
      .ok ([(PyStr.ofString "alg", .str "HS256"), (PyStr.ofString "typ", .str "VAG"), (PyStr.ofString "v", .int 1)],
        []) := by
  have halg : Loads.scanOnce p hook depth (PyStr.ofString "\"HS256\",\"typ\":\"VAG\",\"v\":1\x7d") =
      .ok (.str "HS256", PyStr.ofString ",\"typ\":\"VAG\",\"v\":1\x7d") :=
    (Loads.scanOnce_plain (by decide +kernel) (by decide +kernel)).trans rfl
  have htyp : Loads.scanOnce p hook depth (PyStr.ofString "\"VAG\",\"v\":1\x7d") =
      .ok (.str "VAG", PyStr.ofString ",\"v\":1\x7d") :=
    (Loads.scanOnce_plain (by decide +kernel) (by decide +kernel)).trans rfl
  have hv : Loads.scanOnce p hook depth (PyStr.ofString "1\x7d") = .ok (.int 1, PyStr.ofString "\x7d") :=
    (Loads.scanOnce_plain (by decide +kernel) (by decide +kernel)).trans rfl
  have hlast : Loads.scanMembers (Loads.scanOnce p hook depth) (fuel + 1) (PyStr.ofString "\"v\":1\x7d") =
      .ok ([(PyStr.ofString "v", .int 1)], []) := Loads.scanMembers_last rfl hv rfl
  have hnext : Loads.scanMembers (Loads.scanOnce p hook depth) (fuel + 2)
      (PyStr.ofString "\"typ\":\"VAG\",\"v\":1\x7d") =
      .ok ([(PyStr.ofString "typ", .str "VAG"), (PyStr.ofString "v", .int 1)], []) :=
    (Loads.scanMembers_next rfl htyp rfl).trans (congrArg (Except.map _) hlast)
  exact (Loads.scanMembers_next rfl halg rfl).trans (congrArg (Except.map _) hnext)

variable {g : GrantCodec}

/-- The constant header is read as the dictionary it is compared with. -/
theorem headerValue_headerBytes :
    g.headerValue headerBytes =
      some (.ok (.obj [("alg", .str "HS256"), ("typ", .str "VAG"), ("v", .int 1)])) := by
  have htext : Unicode.decodeDetected headerBytes = some (123 :: headerMembers) := by decide +kernel
  have hfirst : Loads.next headerMembers = .ok (34, headerMembers.tail) := by decide +kernel
  have hcons : 34 :: headerMembers.tail = headerMembers := by decide +kernel
  have hlength : headerMembers.tail.length + 1 = 29 + 3 := by decide +kernel
  obtain ⟨n, hn⟩ := Nat.exists_eq_add_one_of_ne_zero g.interpreter.cRecursionLimit_pos.ne'
  have hmembers := scanMembers_header g.interpreter Loads.noHook n 29
  rw [← hlength, ← hcons] at hmembers
  have hobject : Loads.scanOnce g.interpreter Loads.noHook (n + 1) (123 :: headerMembers) = _ :=
    (if_pos rfl).trans (Loads.scanObject_members hfirst hmembers)
  have hskip : Loads.skipWhitespace (123 :: headerMembers) = 123 :: headerMembers := rfl
  rw [headerValue, htext, Option.map_some, Loads.decode, hn, hskip, hobject]
  rfl

theorem checkHeader_encode : g.checkHeader (encode headerBytes) = .ok () := by
  have hsupported :
      supportedHeader (.obj [("alg", .str "HS256"), ("typ", .str "VAG"), ("v", .int 1)]) = true := by decide +kernel
  simp only [checkHeader, decode_encode, bind, Except.bind, headerValue_headerBytes, hsupported, if_true]
  rfl

/-- The token that `issue` makes. -/
def issued (g : GrantCodec) (claims : ConnectGrantClaims) : List Char :=
  let header := encode headerBytes
  let payload := encode (g.modelDumpJson claims)
  header ++ '.' :: payload ++ '.' ::
    encode (g.hmacSha256 g.key ((header ++ '.' :: payload).map fun c => UInt8.ofNat c.toNat))

theorem encodeAscii_signed (claims : ConnectGrantClaims) :
    encodeAscii (encode headerBytes ++ '.' :: encode (g.modelDumpJson claims)) =
      .ok ((encode headerBytes ++ '.' :: encode (g.modelDumpJson claims)).map fun c => UInt8.ofNat c.toNat) :=
  encodeAscii_ok.mpr ⟨isAscii_append.mpr ⟨isAscii_encode _, isAscii_encode _⟩, rfl⟩

theorem issue_eq (claims : ConnectGrantClaims) : g.issue claims = .ok (issued g claims) := by
  rw [issue, encodeAscii_signed]
  rfl

theorem splitOn_issued (claims : ConnectGrantClaims) :
    (issued g claims).splitOn '.' =
      [encode headerBytes, encode (g.modelDumpJson claims),
        encode (g.hmacSha256 g.key
          ((encode headerBytes ++ '.' :: encode (g.modelDumpJson claims)).map fun c => UInt8.ofNat c.toNat))] :=
  splitOn_token (dot_not_mem_encode _) (dot_not_mem_encode _) (dot_not_mem_encode _)

theorem verify_issued {now : Time} (hdump : g.modelValidateJson (g.modelDumpJson claims) = some claims)
    (hiat : claims.iat ≤ now + g.clockSkewSeconds) (hexp : now < claims.exp) (hlife : claims.iat < claims.exp) :
    g.verify (issued g claims) (some claims.workerId.val) (some claims.deviceId.val) now = .ok claims := by
  have hsignature := (checkSignature_ok (g := g)).mpr ⟨_, encodeAscii_signed (g := g) claims, decode_encode _⟩
  have hclaims : g.validateClaims (encode (g.modelDumpJson claims)) = .ok claims :=
    validateClaims_ok.mpr ⟨_, decode_encode _, hdump⟩
  rw [verify, splitOn_issued]
  change (g.checkHeader (encode headerBytes) >>= _) = _
  rw [checkHeader_encode]
  change (g.checkSignature _ _ _ >>= _) = _
  rw [hsignature]
  change (g.validateClaims _ >>= _) = _
  rw [hclaims]
  refine checkClaims_ok.mpr ⟨⟨not_le.mpr hexp, ?_, ?_, ?_⟩, rfl⟩
  · exact not_or.mpr ⟨not_lt.mpr hiat, not_le.mpr hlife⟩
  · simp
  · simp

/-- A token whose signed text is that of an issued one has its payload. -/
theorem payload_of_signed {signingInput : List UInt8}
    (hsplit : token.splitOn '.' = [header, payload, suppliedSignature])
    (hinput : encodeAscii (header ++ '.' :: payload) = .ok signingInput)
    (hissued : encodeAscii (encode headerBytes ++ '.' :: encode (g.modelDumpJson claims)) = .ok signingInput) :
    payload = encode (g.modelDumpJson claims) := by
  have htoken := token_of_splitOn hsplit
  rw [encodeAscii_inj hinput hissued, List.append_assoc, List.cons_append] at htoken
  rw [htoken, List.splitOn_append_cons_self_of_not_mem (dot_not_mem_encode _),
    List.splitOn_append_cons_self_of_not_mem (dot_not_mem_encode _)] at hsplit
  simp only [List.cons.injEq] at hsplit
  exact hsplit.2.1.symm

/-- Under a digest without collisions, only an issued token carries the digest of an
issued one. -/
theorem claims_of_carried {workerId deviceId : Option String} {now : Time} {granted : ConnectGrantClaims}
    (hinj : Function.Injective (g.hmacSha256 g.key)) (h : g.verify token workerId deviceId now = .ok claims)
    (hdump : g.modelValidateJson (g.modelDumpJson granted) = some granted)
    (hcarried : carriedSignature (issued g granted) = carriedSignature token) : claims = granted := by
  obtain ⟨header, payload, suppliedSignature, hsplit, -, hsignature, hclaims⟩ := verify_ok h
  obtain ⟨signingInput, hinput, hdecode⟩ := checkSignature_ok.mp hsignature
  rw [carriedSignature_parts (splitOn_issued granted), carriedSignature_parts hsplit, hdecode, decode_encode,
    Except.ok.injEq] at hcarried
  have hissued := encodeAscii_signed (g := g) granted
  rw [hinj hcarried] at hissued
  obtain ⟨bytes, hbytes, hvalid⟩ := validateClaims_ok.mp hclaims
  rw [payload_of_signed hsplit hinput hissued, decode_encode, Except.ok.injEq] at hbytes
  rw [← hbytes, hdump] at hvalid
  exact (Option.some.inj hvalid).symm

/-- What is issued is accepted with the claims it was issued for. An accepted token carries
the digest of the text it presents, so that, with digests free of collisions and known from
issued tokens only, its claims are those of an issued token. -/
theorem grant_round_trip (g : GrantCodec) :
    (∀ bytes, decode (encode bytes) = .ok bytes) ∧
    (∀ claims now, g.modelValidateJson (g.modelDumpJson claims) = some claims →
      claims.iat ≤ now + g.clockSkewSeconds → now < claims.exp → claims.iat < claims.exp →
      ∃ token, g.issue claims = .ok token ∧
        g.verify token (some claims.workerId.val) (some claims.deviceId.val) now = .ok claims) ∧
    (∀ token workerId deviceId now claims, g.verify token workerId deviceId now = .ok claims →
      (∃ header payload suppliedSignature signingInput,
        token = header ++ '.' :: payload ++ '.' :: suppliedSignature ∧
        encodeAscii (header ++ '.' :: payload) = .ok signingInput ∧
        decode suppliedSignature = .ok (g.hmacSha256 g.key signingInput)) ∧
      (Function.Injective (g.hmacSha256 g.key) → ∀ granted : Set ConnectGrantClaims,
        (∀ c ∈ granted, g.modelValidateJson (g.modelDumpJson c) = some c) →
        (∃ c ∈ granted, ∃ t, g.issue c = .ok t ∧ carriedSignature t = carriedSignature token) →
        claims ∈ granted)) := by
  refine ⟨decode_encode, ?_, ?_⟩
  · intro claims now hdump hiat hexp hlife
    exact ⟨issued g claims, issue_eq claims, verify_issued hdump hiat hexp hlife⟩
  · intro token workerId deviceId now claims h
    constructor
    · obtain ⟨header, payload, suppliedSignature, hsplit, -, hsignature, -⟩ := verify_ok h
      obtain ⟨signingInput, hinput, hdecode⟩ := checkSignature_ok.mp hsignature
      exact ⟨header, payload, suppliedSignature, signingInput, token_of_splitOn hsplit, hinput, hdecode⟩
    · rintro hinj granted hdump ⟨c, hc, t, hissue, hcarried⟩
      rw [issue_eq, Except.ok.injEq] at hissue
      rw [claims_of_carried hinj h (hdump c hc) (hissue ▸ hcarried)]
      exact hc

section Sample

def asciiText (s : String) : List UInt8 := s.toList.map fun c => UInt8.ofNat c.toNat

def sampleClaims : ConnectGrantClaims :=
  { tenantId := sampleTenant, deviceId := sampleDevice, workerId := sampleWorker, sessionEpoch := sampleEpoch
    fencingToken := 1, profiles := [.wssOpus], iat := 1000, exp := 1060, jti := sampleGrantId
    fencingToken_pos := firstToken_pos, profiles_unique := wssOpus_unique }

/-- What `model_dump_json` writes for `sampleClaims`. -/
def sampleDump : List UInt8 :=
  asciiText ("\x7b\"iss\":\"session_director\",\"aud\":\"realtime_worker\",\"tenant_id\":\"default\"," ++
    "\"device_id\":\"lamp\",\"worker_id\":\"w1\",\"session_epoch\":\"epoch-1\",\"fencing_token\":1," ++
    "\"profiles\":[\"wss-opus/1\"],\"control_protocol\":\"rva/1\",\"iat\":1000.0,\"exp\":1060.0," ++
    "\"jti\":\"jti-1\"\x7d")

/-- The HMAC-SHA256 digest of the text signed for `sampleClaims`. -/
def sampleDigest : List UInt8 :=
  [3, 63, 23, 220, 178, 122, 176, 7, 136, 189, 167, 132, 73, 248, 30, 15, 196, 136, 35, 201, 116, 59, 142, 227, 180,
    15, 208, 239, 185, 179, 68, 122]

def sampleInput : List UInt8 :=
  (encode headerBytes ++ '.' :: encode sampleDump).map fun c => UInt8.ofNat c.toNat

/-- A function without collisions that has the right digest for `sampleClaims`. -/
def sampleHmac (_ signingInput : List UInt8) : List UInt8 :=
  if signingInput = sampleInput then sampleDigest else List.replicate 33 0 ++ signingInput

theorem sampleHmac_inj (key : List UInt8) : Function.Injective (sampleHmac key) := by
  have hlong : ∀ input : List UInt8, sampleDigest ≠ List.replicate 33 0 ++ input := by
    intro input heq
    have hlength := congrArg List.length heq
    simp only [List.length_append, List.length_replicate] at hlength
    have hdigest : sampleDigest.length = 32 := rfl
    omega
  intro x y h
  rw [sampleHmac, sampleHmac] at h
  split_ifs at h with hx hy hy
  · exact hx.trans hy.symm
  · exact absurd h (hlong y)
  · exact absurd h.symm (hlong x)
  · exact List.append_cancel_left h

theorem samplePos : 0 < 10000 := by decide

def sampleInterpreter : Interpreter :=
  { cRecursionLimit := 10000, floatRepr := PyStr.key, cRecursionLimit_pos := samplePos }

def sampleKey : List UInt8 := asciiText "replace-with-random-grant-key"

theorem sampleKey_long : 16 ≤ sampleKey.length := by decide +kernel

def sampleValidate (bytes : List UInt8) : Option ConnectGrantClaims :=
  if bytes = sampleDump then some sampleClaims else none

theorem sampleValidate_sampleDump : sampleValidate sampleDump = some sampleClaims := by
  rw [sampleValidate, if_pos rfl]

def sampleCodec : GrantCodec :=
  { key := sampleKey
    interpreter := sampleInterpreter
    hmacSha256 := sampleHmac
    modelDumpJson := fun _ => sampleDump
    modelValidateJson := sampleValidate
    key_long := sampleKey_long }

theorem sampleCodec_dump (claims : ConnectGrantClaims) : sampleCodec.modelDumpJson claims = sampleDump := by
  rw [sampleCodec]

theorem sampleCodec_validate (bytes : List UInt8) : sampleCodec.modelValidateJson bytes = sampleValidate bytes := by
  rw [sampleCodec]

theorem sampleCodec_hmac (key : List UInt8) : sampleCodec.hmacSha256 key = sampleHmac key := by
  rw [sampleCodec]

theorem grant_round_trip_sample :
    ∃ token, sampleCodec.issue sampleClaims = .ok token ∧
      sampleCodec.verify token (some "w1") (some "lamp") 1030 = .ok sampleClaims ∧
      ∀ presented claims, sampleCodec.verify presented none none 1030 = .ok claims →
        carriedSignature token = carriedSignature presented → claims = sampleClaims := by
  obtain ⟨-, hissue, hbound⟩ := grant_round_trip sampleCodec
  have hdump : sampleCodec.modelValidateJson (sampleCodec.modelDumpJson sampleClaims) = some sampleClaims := by
    rw [sampleCodec_dump, sampleCodec_validate, sampleValidate_sampleDump]
  obtain ⟨token, htoken, hverify⟩ :=
    hissue sampleClaims 1030 hdump (by decide +kernel) (by decide +kernel) (by decide +kernel)
  refine ⟨token, htoken, hverify, ?_⟩
  intro presented claims h hcarried
  have hgranted : ∀ c ∈ ({sampleClaims} : Set ConnectGrantClaims),
      sampleCodec.modelValidateJson (sampleCodec.modelDumpJson c) = some c := by
    rintro c rfl
    exact hdump
  have hinj : Function.Injective (sampleCodec.hmacSha256 sampleCodec.key) := by
    rw [sampleCodec_hmac]
    exact sampleHmac_inj _
  have hmem := (hbound presented _ _ _ claims h).2 hinj _ hgranted
    ⟨sampleClaims, Set.mem_singleton _, token, htoken, hcarried⟩
  exact Set.mem_singleton_iff.mp hmem

end Sample

end GrantCodec

end RealtimeVoice.Contracts
