import RealtimeVoice.Rva.Emission

namespace RealtimeVoice.Base.Json

/-- The bytes of an object: those of its fields, each with a colon and a comma. -/
theorem utf8Length_dumps_obj {fields : List (String × Json)} (hne : fields ≠ []) :
    utf8Length (dumps (.obj fields)) =
      1 + (fields.map fun f => utf8Length (dumpsStr f.1) + utf8Length (dumps f.2) + 2).sum := by
  have hfields : utf8Length (dumpsFields fields) + 1 =
      (fields.map fun f => utf8Length (dumpsStr f.1) + utf8Length (dumps f.2) + 2).sum := by
    induction fields with
    | nil => exact absurd rfl hne
    | cons f fs ih =>
      obtain ⟨k, v⟩ := f
      cases fs with
      | nil =>
        rw [dumpsFields, utf8Length_append, utf8Length_cons, List.map_singleton, List.sum_singleton]
        change utf8Length (dumpsStr k) + (1 + utf8Length (dumps v)) + 1 =
          utf8Length (dumpsStr k) + utf8Length (dumps v) + 2
        omega
      | cons g fs =>
        rw [dumpsFields, utf8Length_append, utf8Length_append, utf8Length_cons, utf8Length_cons, List.map_cons,
          List.sum_cons, ← ih (by simp)]
        change utf8Length (dumpsStr k) + (1 + utf8Length (dumps v)) + (1 + utf8Length (dumpsFields (g :: fs))) + 1 =
          utf8Length (dumpsStr k) + utf8Length (dumps v) + 2 + (utf8Length (dumpsFields (g :: fs)) + 1)
        omega
  rw [dumps, List.cons_append, utf8Length_cons, utf8Length_append]
  change 1 + (_ + 1) = _
  omega

theorem utf8Length_dumps_obj_le {fields : List (String × Json)} (hne : fields ≠ [])
    (h : ∀ f ∈ fields, Simple f.1 ∧ f.1.toList.length ≤ 32) :
    utf8Length (dumps (.obj fields)) ≤ 1 + (fields.map fun f => 36 + utf8Length (dumps f.2)).sum := by
  rw [utf8Length_dumps_obj hne]
  refine Nat.add_le_add_left (List.sum_le_sum fun f hf => ?_) 1
  have hkey := utf8Length_dumpsStr_simple (h f hf).1
  have hlen := (h f hf).2
  omega

end RealtimeVoice.Base.Json

namespace RealtimeVoice.Rva

open RealtimeVoice.Base RealtimeVoice.Base.Json RealtimeVoice.Contracts

theorem alphanum_range {c : Char} (h : c.isAlphanum = true) :
    (65 ≤ c.toNat ∧ c.toNat ≤ 90) ∨ (97 ≤ c.toNat ∧ c.toNat ≤ 122) ∨ (48 ≤ c.toNat ∧ c.toNat ≤ 57) := by
  simp only [Char.isAlphanum, Char.isAlpha, Char.isUpper, Char.isLower, Char.isDigit, Bool.or_eq_true,
    Bool.and_eq_true, decide_eq_true_eq, ge_iff_le, UInt32.le_iff_toNat_le] at h
  change ((65 ≤ c.toNat ∧ c.toNat ≤ 90) ∨ (97 ≤ c.toNat ∧ c.toNat ≤ 122)) ∨ (48 ≤ c.toNat ∧ c.toNat ≤ 57) at h
  omega

theorem identifierChar_simple {c : Char} (h : identifierChar c = true) : simpleChar c = true := by
  simp only [identifierChar, Bool.or_eq_true, beq_iff_eq, or_assoc] at h
  obtain h | rfl | rfl | rfl | rfl := h
  · have hrange := alphanum_range h
    rw [simpleChar_iff]
    refine ⟨by omega, ne_of_toNat ?_, ne_of_toNat ?_⟩
    · change c.toNat ≠ 34
      omega
    · change c.toNat ≠ 92
      omega
  · decide
  · decide
  · decide
  · decide

theorem identifier_simple {s : String} (h : identifierMatches s = true) : Simple s ∧ s.toList.length ≤ 128 := by
  rw [identifierMatches, Bool.and_eq_true, decide_eq_true_iff] at h
  refine ⟨List.all_eq_true.mpr fun c hc => identifierChar_simple (List.all_eq_true.mp h.2 c hc), h.1.2⟩

theorem identifier_bytes {s : String} (h : identifierMatches s = true) : utf8Length (dumps (.str s)) ≤ 130 := by
  obtain ⟨hsimple, hlen⟩ := identifier_simple h
  have hbytes := utf8Length_dumpsStr_simple hsimple
  rw [dumps]
  omega

theorem uint32_bytes {n : Nat} (h : n ≤ uint32Max) : utf8Length (dumps (nat n)) ≤ 10 := by
  rw [nat, utf8Length_dumps_nat, Nat.length_toDigits_le_iff (by omega) (by omega)]
  exact Nat.lt_of_le_of_lt h (by decide)

theorem dumps_str (s : String) : dumps (.str s) = dumpsStr s := by rw [dumps]

theorem text_bytes (s : String) : utf8Length (dumps (.str s)) ≤ 6 * utf8Length s.toList + 2 := by
  have hbytes := utf8Length_flatMap_escapeChar s.toList
  rw [dumps, utf8Length_dumpsStr]
  omega

theorem fields_fit {fields : Message} (hne : fields ≠ [])
    (hkeys : ∀ f ∈ fields, Simple f.1 ∧ f.1.toList.length ≤ 32)
    (hsum : 1 + (fields.map fun f => 36 + utf8Length (dumps f.2)).sum ≤ controlMaxBytes) :
    utf8Length (dumps (.obj fields)) ≤ controlMaxBytes :=
  (utf8Length_dumps_obj_le hne hkeys).trans hsum

theorem lowerHex_simple {n : Nat} (h : n < 16) : simpleChar (lowerHex n) = true := by
  revert n
  decide

theorem hexByte_simple (byte : UInt8) : (Binding.hexByte byte).all simpleChar = true := by
  have hlt := byte.toNat_lt
  rw [Binding.hexByte, List.all_cons, List.all_cons, lowerHex_simple (by omega), lowerHex_simple (by omega)]
  rfl

theorem mediaIdText_simple (bytes : List UInt8) :
    Simple (mediaIdText bytes) ∧ (mediaIdText bytes).toList.length = 2 * bytes.length := by
  rw [Simple, mediaIdText, String.toList_ofList]
  induction bytes with
  | nil => exact ⟨rfl, rfl⟩
  | cons byte bytes ih =>
    rw [List.flatMap_cons, List.all_append, hexByte_simple, ih.1, List.length_append, ih.2, List.length_cons]
    refine ⟨rfl, ?_⟩
    change 2 + _ = _
    omega

theorem mediaIdText_bytes {bytes : List UInt8} (h : bytes.length = 8) :
    utf8Length (dumps (.str (mediaIdText bytes))) = 18 := by
  obtain ⟨hsimple, hlength⟩ := mediaIdText_simple bytes
  rw [dumps_str, utf8Length_dumpsStr_simple hsimple, hlength, h]

/-- The values of `session.opened` that never change. -/
theorem opened_constants :
    utf8Length (dumps (.str "session.opened")) = 16 ∧
    utf8Length (dumps (.obj [("codec", .str "opus"), ("sample_rate_hz", .int 16000), ("channels", .int 1),
      ("frame_duration_ms", .int 60)])) = 75 ∧
    utf8Length (dumps (.int 15000)) = 5 ∧ utf8Length (dumps (.int 45000)) = 5 ∧
    utf8Length (dumps (nat controlMaxBytes)) = 5 := by
  decide

theorem end_constants :
    utf8Length (dumps (.str "response.end")) = 14 ∧ utf8Length (dumps (.str "completed")) = 11 ∧
    utf8Length (dumps (.str "cancelled")) = 11 ∧ utf8Length (dumps (.str "failed")) = 8 := by
  decide

theorem errorCode_simple {code : String} (h : Binding.isValidErrorCode code = true) :
    Simple code ∧ code.toList.length ≤ 64 := by
  rw [Binding.isValidErrorCode, Bool.and_eq_true, decide_eq_true_iff] at h
  refine ⟨List.all_eq_true.mpr fun c hc => ?_, h.1.2⟩
  have hchar := List.all_eq_true.mp h.2 c hc
  refine identifierChar_simple ?_
  simp only [Bool.or_eq_true] at hchar
  simp only [identifierChar, Char.isAlphanum, Char.isAlpha, Bool.or_eq_true]
  tauto

theorem errorCode_bytes {code : String} (h : Binding.isValidErrorCode code = true) :
    utf8Length (dumps (.str code)) ≤ 66 := by
  obtain ⟨hsimple, hlength⟩ := errorCode_simple h
  have hbytes := utf8Length_dumpsStr_simple hsimple
  rw [dumps_str]
  omega

theorem closeReason_bytes : ∀ reason ∈ Binding.closeReasons, utf8Length (dumps (.str reason)) ≤ 32 := by decide

/-- The generations fit the wire's 32 bits. -/
def ServerEvent.InRange : ServerEvent → Prop
  | .responseBegin _ generation => generation ≤ uint32Max
  | .responseText _ generation _ _ => generation ≤ uint32Max
  | .responseEnd _ generation _ _ _ => generation ≤ uint32Max
  | .playbackStop _ _ fenceGeneration _ => fenceGeneration ≤ uint32Max
  | _ => True

/-- The bytes of a text between its quotes. -/
def escapedBytes (text : String) : Nat := utf8Length (text.toList.flatMap escapeChar)

/-- The bytes of the encoded `transcript.final`. -/
def transcriptFinalBytes (sessionId sessionEpoch utteranceId : String) (sequence : Nat) (text : String) : Nat :=
  102 + sessionId.toList.length + sessionEpoch.toList.length + utteranceId.toList.length +
    (Nat.toDigits 10 sequence).length + escapedBytes text

section

variable {sessionId sessionEpoch : String} (hid : identifierMatches sessionId = true)
  (hepoch : identifierMatches sessionEpoch = true)

include hid hepoch

theorem transcriptFinal_bytes {utteranceId : String} (hutterance : identifierMatches utteranceId = true)
    (sequence : Nat) (text : String) :
    utf8Length (dumps (.obj ((ServerEvent.transcriptFinal utteranceId sequence text).message sessionId sessionEpoch))) =
      transcriptFinalBytes sessionId sessionEpoch utteranceId sequence text := by
  rw [ServerEvent.message, utf8Length_dumps_obj (by simp), transcriptFinalBytes, escapedBytes]
  simp only [List.cons_append, List.nil_append, List.map_cons, List.map_nil, List.sum_cons, List.sum_nil, dumps_str, nat,
    utf8Length_dumps_nat,
    utf8Length_dumpsStr_simple (identifier_simple hid).1, utf8Length_dumpsStr_simple (identifier_simple hepoch).1,
    utf8Length_dumpsStr_simple (identifier_simple hutterance).1, utf8Length_dumpsStr text]
  rw [show utf8Length (dumpsStr "type") = 6 from rfl, show utf8Length (dumpsStr "transcript.final") = 18 from rfl,
    show utf8Length (dumpsStr "session_id") = 12 from rfl, show utf8Length (dumpsStr "session_epoch") = 15 from rfl,
    show utf8Length (dumpsStr "utterance_id") = 14 from rfl, show utf8Length (dumpsStr "sequence") = 10 from rfl,
    show utf8Length (dumpsStr "text") = 6 from rfl]
  omega

theorem encoded_fits {e : ServerEvent} (h : e.Admitted) (hrange : e.InRange)
    (hfinal : ∀ utteranceId sequence text, e = .transcriptFinal utteranceId sequence text →
      transcriptFinalBytes sessionId sessionEpoch utteranceId sequence text ≤ controlMaxBytes)
    (hgrant : ∀ requestId mediaId mediaEpoch profile grant,
      e = .sessionOpened requestId mediaId mediaEpoch profile (some grant) → utf8Length (dumps (.obj grant)) ≤ 4096) :
    utf8Length (dumps (.obj (e.message sessionId sessionEpoch))) ≤ controlMaxBytes := by
  have hsession := identifier_bytes hid
  have hsessionEpoch := identifier_bytes hepoch
  cases e with
  | sessionOpened requestId mediaId mediaEpoch profile grant =>
    obtain ⟨hrequest, ⟨bytes, hlength, rfl⟩, hmedia, -⟩ := h
    have hrequest := identifier_bytes hrequest
    have hmediaId := mediaIdText_bytes hlength
    have hmediaEpoch := uint32_bytes hmedia.2
    have hprofile : utf8Length (dumps (.str (profileText profile))) ≤ 16 := by cases profile <;> decide
    have hgrant : ∀ g, grant = some g → utf8Length (dumps (.obj g)) ≤ 4096 := by
      rintro g rfl
      exact hgrant _ _ _ _ g rfl
    cases grant with
    | none =>
      refine fields_fit (by simp [ServerEvent.message]) (by simp [ServerEvent.message]; decide) ?_
      simp only [ServerEvent.message, List.append_nil, List.map_cons, List.map_nil, List.sum_cons, List.sum_nil,
        opened_constants]
      simp only [controlMaxBytes]
      omega
    | some grant =>
      have hgrant := hgrant grant rfl
      refine fields_fit (by simp [ServerEvent.message]) (by simp [ServerEvent.message]; decide) ?_
      simp only [ServerEvent.message, List.cons_append, List.nil_append, List.map_cons, List.map_nil, List.sum_cons,
        List.sum_nil, opened_constants]
      simp only [controlMaxBytes]
      omega
  | transcriptDelta utteranceId sequence text =>
    have hutterance := identifier_bytes h.1
    have hsequence := uint32_bytes h.2.1
    have htext := text_bytes text
    have hlimit := h.2.2.1
    refine fields_fit (by simp [ServerEvent.message]) (by simp [ServerEvent.message]; decide) ?_
    simp only [ServerEvent.message, List.cons_append, List.nil_append, List.map_cons, List.map_nil, List.sum_cons,
      List.sum_nil, controlMaxBytes]
    rw [show utf8Length (dumps (.str "transcript.delta")) = 18 from rfl]
    omega
  | transcriptFinal utteranceId sequence text =>
    rw [transcriptFinal_bytes hid hepoch h.1]
    exact hfinal _ _ _ rfl
  | responseBegin responseId generation =>
    have hresponse := identifier_bytes h.1
    have hgeneration := uint32_bytes hrange
    refine fields_fit (by simp [ServerEvent.message]) (by simp [ServerEvent.message]; decide) ?_
    simp only [ServerEvent.message, List.cons_append, List.nil_append, List.map_cons, List.map_nil, List.sum_cons,
      List.sum_nil, controlMaxBytes]
    rw [show utf8Length (dumps (.str "response.begin")) = 16 from rfl]
    omega
  | responseText responseId generation sequence text =>
    have hresponse := identifier_bytes h.1
    have hgeneration := uint32_bytes hrange
    have hsequence := uint32_bytes h.2.2.1
    have htext := text_bytes text
    have hlimit := h.2.2.2.1
    refine fields_fit (by simp [ServerEvent.message]) (by simp [ServerEvent.message]; decide) ?_
    simp only [ServerEvent.message, List.cons_append, List.nil_append, List.map_cons, List.map_nil, List.sum_cons,
      List.sum_nil, controlMaxBytes]
    rw [show utf8Length (dumps (.str "response.text")) = 15 from rfl]
    omega
  | responseEnd responseId generation outcome errorCode finalMediaSequence =>
    obtain ⟨hresponse, -, hvalues⟩ := h
    have hresponse := identifier_bytes hresponse
    have hgeneration := uint32_bytes hrange
    have hcode : utf8Length (dumps (.str "response_failed")) = 17 := rfl
    cases outcome with
    | completed =>
      obtain ⟨rfl, n, rfl, hn⟩ := hvalues
      have hn := uint32_bytes hn
      refine fields_fit (by simp [ServerEvent.message]) (by simp [ServerEvent.message]; decide) ?_
      simp [ServerEvent.message, controlMaxBytes, ResponseOutcome.text, end_constants]
      omega
    | cancelled =>
      obtain ⟨rfl, rfl⟩ := hvalues
      refine fields_fit (by simp [ServerEvent.message]) (by simp [ServerEvent.message]; decide) ?_
      simp [ServerEvent.message, controlMaxBytes, ResponseOutcome.text, end_constants]
      omega
    | failed =>
      obtain ⟨rfl, rfl⟩ := hvalues
      refine fields_fit (by simp [ServerEvent.message]) (by simp [ServerEvent.message]; decide) ?_
      simp [ServerEvent.message, controlMaxBytes, ResponseOutcome.text, end_constants, hcode]
      omega
  | playbackStop responseId generation fenceGeneration cause =>
    obtain ⟨hresponse, -, hfence⟩ := h
    have hresponse := identifier_bytes hresponse
    have hgeneration := uint32_bytes (hfence.le.trans hrange)
    have hfenceGeneration := uint32_bytes hrange
    have hcause : utf8Length (dumps (.str cause.text)) ≤ 32 := by cases cause <;> decide
    have htarget : utf8Length (dumps (.obj [("response_id", .str responseId), ("generation", nat generation)])) ≤ 256 := by
      refine (utf8Length_dumps_obj_le (by simp) (by simp; decide)).trans ?_
      simp only [List.map_cons, List.map_nil, List.sum_cons, List.sum_nil]
      omega
    refine fields_fit (by simp [ServerEvent.message]) (by simp [ServerEvent.message]; decide) ?_
    simp only [ServerEvent.message, List.cons_append, List.nil_append, List.map_cons, List.map_nil, List.sum_cons,
      List.sum_nil, controlMaxBytes]
    rw [show utf8Length (dumps (.str "playback.stop")) = 15 from rfl]
    omega
  | sessionError code retryable message =>
    have hcode := errorCode_bytes h.1
    have hretryable : utf8Length (dumps (.bool retryable)) ≤ 5 := by cases retryable <;> decide
    have htext := text_bytes message
    have hlimit := h.2
    refine fields_fit (by simp [ServerEvent.message]) (by simp [ServerEvent.message]; decide) ?_
    simp only [ServerEvent.message, List.cons_append, List.nil_append, List.map_cons, List.map_nil, List.sum_cons,
      List.sum_nil, controlMaxBytes]
    rw [show utf8Length (dumps (.str "session.error")) = 15 from rfl]
    omega
  | sessionClose reason =>
    have hreason := closeReason_bytes reason h
    refine fields_fit (by simp [ServerEvent.message]) (by simp [ServerEvent.message]; decide) ?_
    simp only [ServerEvent.message, List.cons_append, List.nil_append, List.map_cons, List.map_nil, List.sum_cons,
      List.sum_nil, controlMaxBytes]
    rw [show utf8Length (dumps (.str "session.close")) = 15 from rfl, show utf8Length (dumps (.str "server")) = 8 from rfl]
    omega

end

end RealtimeVoice.Rva
