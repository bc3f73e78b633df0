import Mathlib
import RealtimeVoice.Rva.Encoding
import RealtimeVoice.Firmware.Control
import RealtimeVoice.Desktop.Control

namespace RealtimeVoice.Rva

open RealtimeVoice.Base RealtimeVoice.Base.Json RealtimeVoice.Contracts RealtimeVoice.Firmware

/-- The grant as the endpoint holds it. -/
def GrantDecodes (grant : Option Message) (decoded : Option Control.UdpGrant) : Prop :=
  match grant, decoded with
  | none, none => True
  | some message, some decoded =>
    ∃ (g : UdpGrant) (nowMs : Int), message = g.message nowMs ∧
      decoded =
        { host := g.host, port := g.port, expiresAtMs := g.expiresAt * 1000
          refreshAfterMs := g.refreshAfterMs nowMs, uplinkKey := g.uplinkKey, uplinkSalt := g.uplinkSalt
          downlinkKey := g.downlinkKey, downlinkSalt := g.downlinkSalt, probeTimeoutMs := g.probeTimeoutMs }
  | _, _ => False

def ResponseOutcome.decoded : ResponseOutcome → Control.ResponseOutcome
  | .completed => .completed
  | .cancelled => .cancelled
  | .failed => .failed

/-- The message with exactly the values of the event. -/
def ServerEvent.DecodesTo (sessionId sessionEpoch : String) (e : ServerEvent) (message : Control.ServerMessage) : Prop :=
  let session : Control.SessionIdentity := { sessionId, sessionEpoch }
  match e with
  | .sessionOpened requestId mediaId mediaEpoch profile grant =>
    ∃ bytes decoded, mediaId = mediaIdText bytes ∧ GrantDecodes grant decoded ∧
      message = .sessionOpened
        { requestId, session, mediaId := bytes, mediaEpoch, selectedMediaProfile := profileText profile
          udpGrant := decoded, heartbeatIntervalMs := 15000, idleTimeoutMs := 45000 }
  | .transcriptDelta utteranceId sequence text =>
    message = .transcript { final := false, session, utteranceId, sequence, text }
  | .transcriptFinal utteranceId sequence text =>
    message = .transcript { final := true, session, utteranceId, sequence, text }
  | .responseBegin responseId generation =>
    message = .response { type := .responseBegin, session, responseId, generation }
  | .responseText responseId generation sequence text =>
    message = .response { type := .responseText, session, responseId, generation, sequence, text }
  | .responseEnd responseId generation outcome errorCode finalMediaSequence =>
    message = .response
      { type := .responseEnd, session, responseId, generation, outcome := outcome.decoded, finalMediaSequence
        errorCode := errorCode.getD "" }
  | .playbackStop responseId generation fenceGeneration cause =>
    message = .playbackStop { session, target := { responseId, generation }, fenceGeneration, cause := cause.text }
  | .sessionError code retryable text => message = .sessionError { session, code, retryable, message := text }
  | .sessionClose reason => message = .sessionClose { session, reason, initiatedBy := "server" }

section Getters

variable {fields : Message} {key s : String}

theorem cString_of_nulFree (h : NulFree s) : Control.cString s = s := by
  have hall : s.toList.takeWhile (· ≠ Char.ofNat 0) = s.toList := by
    rw [List.takeWhile_eq_self_iff]
    intro c hc
    have hne : c ≠ Char.ofNat 0 := by
      rintro rfl
      exact h hc
    simpa using hne
  rw [Control.cString, hall, String.ofList_toList]

theorem size_eq_zero : Control.size s = 0 ↔ s = "" := by
  rw [Control.size]
  refine ⟨fun h => ?_, fun h => by rw [h]; rfl⟩
  cases hs : s.toList with
  | nil => rw [← String.ofList_toList (s := s), hs]
  | cons c cs =>
    rw [hs, utf8Length_cons] at h
    have hpos := Char.utf8Size_pos c
    omega

theorem getString_of_lookup {maximumBytes : Nat} {allowEmpty : Bool} (h : fields.lookup key = some (.str s))
    (hnul : NulFree s) (hempty : allowEmpty = false → s ≠ "") (hsize : utf8Length s.toList ≤ maximumBytes) :
    Control.getString (.obj fields) key maximumBytes allowEmpty = some s := by
  rw [Control.getString, Control.item, h]
  dsimp only
  rw [cString_of_nulFree hnul, if_neg]
  rw [Bool.not_eq_true, Bool.or_eq_false_iff]
  refine ⟨?_, decide_eq_false (Nat.not_lt.mpr hsize)⟩
  cases allowEmpty with
  | true => rfl
  | false =>
    have hne : Control.size s ≠ 0 := fun hzero => hempty rfl (size_eq_zero.mp hzero)
    simpa using hne

theorem getId_of_lookup (h : fields.lookup key = some (.str s)) (hid : identifierMatches s = true) :
    Control.getId (.obj fields) key = some s := by
  obtain ⟨hsimple, hlength⟩ := identifier_simple hid
  have hsize : utf8Length s.toList = s.toList.length := utf8Length_simple hsimple
  rw [identifierMatches, Bool.and_eq_true, decide_eq_true_iff] at hid
  have hne : s ≠ "" := by
    rintro rfl
    exact absurd hid.1.1 (by decide)
  have hstring : Control.getString (.obj fields) key Control.maxIdBytes false = some s :=
    getString_of_lookup h (simple_nulFree hsimple) (fun _ => hne) (hsize.trans_le hlength)
  rw [Control.getId, hstring]
  dsimp only
  rw [if_pos]
  rw [Control.isIdentifier, Bool.and_eq_true, decide_eq_true_iff]
  refine ⟨⟨hne, hsize.trans_le hlength⟩, List.all_eq_true.mpr fun c hc => ?_⟩
  have hchar := List.all_eq_true.mp hid.2 c hc
  simp only [identifierChar, Bool.or_eq_true, beq_iff_eq] at hchar ⊢
  tauto

theorem getU32_of_lookup {n : Nat} {allowZero : Bool} (h : fields.lookup key = some (nat n))
    (hmin : (if allowZero then 0 else 1) ≤ n) (hmax : n ≤ uint32Max) :
    Control.getU32 (.obj fields) key allowZero = some n := by
  rw [Control.getU32, Control.getInteger, Control.item, h]
  dsimp only [nat]
  rw [if_pos, Int.toNat_natCast]
  exact ⟨Int.ofNat_le.mpr hmin, Int.ofNat_le.mpr hmax⟩

end Getters

theorem valid_some {α : Type} (a : α) : Control.valid (some a) = .ok a := rfl

theorem fields_true : Control.fields true = .ok () := rfl

theorem valid_guard {p : Prop} [Decidable p] (h : p) : Control.valid (guard p) = .ok () := by
  rw [guard, if_pos h]
  rfl

section Parsed

variable {sessionId sessionEpoch : String} (hid : identifierMatches sessionId = true)
  (hepoch : identifierMatches sessionEpoch = true)

include hid hepoch

theorem getSession_of_lookup {fields : Message} (h : fields.lookup "session_id" = some (.str sessionId))
    (h' : fields.lookup "session_epoch" = some (.str sessionEpoch)) :
    Control.getSession (.obj fields) = some { sessionId, sessionEpoch } := by
  rw [Control.getSession, getId_of_lookup h hid, getId_of_lookup h' hepoch]
  rfl

theorem parseTranscript_message {final : Bool} {type utteranceId text : String} {sequence : Nat}
    (hutterance : identifierMatches utteranceId = true) (hsequence : sequence ≤ uint32Max) (hnul : NulFree text)
    (hempty : final = false → text ≠ "") (hsize : utf8Length text.toList ≤ if final then 16384 else 4096) :
    Control.parseTranscript
      (.obj [("type", .str type), ("session_id", .str sessionId), ("session_epoch", .str sessionEpoch),
        ("utterance_id", .str utteranceId), ("sequence", nat sequence), ("text", .str text)]) final =
      .ok (.transcript { final, session := { sessionId, sessionEpoch }, utteranceId, sequence, text }) := by
  rw [Control.parseTranscript, getSession_of_lookup hid hepoch (by simp [List.lookup]) (by simp [List.lookup]),
    getId_of_lookup (by simp [List.lookup]) hutterance,
    getU32_of_lookup (by simp [List.lookup]) (Nat.zero_le _) hsequence,
    getString_of_lookup (by simp [List.lookup]) hnul hempty hsize,
    show Control.hasExactFields _ _ _ = true by simp [Control.hasExactFields, List.lookup]]
  rfl

theorem parseResponse_begin {responseId : String} {generation : Nat} (hresponse : identifierMatches responseId = true)
    (hmin : 1 ≤ generation) (hmax : generation ≤ uint32Max) :
    Control.parseResponse (.obj ((ServerEvent.responseBegin responseId generation).message sessionId sessionEpoch))
      .responseBegin =
      .ok (.response { type := .responseBegin, session := { sessionId, sessionEpoch }, responseId, generation }) := by
  rw [Control.parseResponse, getSession_of_lookup hid hepoch (by simp [ServerEvent.message, List.lookup])
      (by simp [ServerEvent.message, List.lookup]),
    getId_of_lookup (by simp [ServerEvent.message, List.lookup]) hresponse,
    getU32_of_lookup (by simp [ServerEvent.message, List.lookup]) hmin hmax,
    show Control.hasExactFields _ _ _ = true by simp [ServerEvent.message, Control.hasExactFields, List.lookup]]
  rfl

theorem parseResponse_text {responseId text : String} {generation sequence : Nat}
    (hresponse : identifierMatches responseId = true) (hmin : 1 ≤ generation) (hmax : generation ≤ uint32Max)
    (hsequence : sequence ≤ uint32Max) (hnul : NulFree text) (hempty : text ≠ "")
    (hsize : utf8Length text.toList ≤ 4096) :
    Control.parseResponse
      (.obj ((ServerEvent.responseText responseId generation sequence text).message sessionId sessionEpoch))
      .responseText =
      .ok (.response
        { type := .responseText, session := { sessionId, sessionEpoch }, responseId, generation, sequence, text }) := by
  rw [Control.parseResponse, getSession_of_lookup hid hepoch (by simp [ServerEvent.message, List.lookup])
      (by simp [ServerEvent.message, List.lookup]),
    getId_of_lookup (by simp [ServerEvent.message, List.lookup]) hresponse,
    getU32_of_lookup (by simp [ServerEvent.message, List.lookup]) hmin hmax,
    getU32_of_lookup (by simp [ServerEvent.message, List.lookup]) (Nat.zero_le _) hsequence,
    getString_of_lookup (by simp [ServerEvent.message, List.lookup]) hnul (fun _ => hempty) hsize,
    show Control.hasExactFields _ _ _ = true by simp [ServerEvent.message, Control.hasExactFields, List.lookup]]
  rfl

omit hid hepoch in
theorem parseResponseEnd_message {responseId : String} {generation : Nat} {outcome : ResponseOutcome}
    {errorCode : Option String} {finalMediaSequence : Option Nat}
    (h : (ServerEvent.responseEnd responseId generation outcome errorCode finalMediaSequence).Admitted)
    (event : Control.ResponseEvent) (hevent : event.finalMediaSequence = none ∧ event.errorCode = "") :
    Control.parseResponseEnd (.obj ((ServerEvent.responseEnd responseId generation outcome errorCode
        finalMediaSequence).message sessionId sessionEpoch)) event =
      .ok { event with outcome := outcome.decoded, finalMediaSequence, errorCode := errorCode.getD "" } := by
  obtain ⟨-, -, hvalues⟩ := h
  rw [Control.parseResponseEnd]
  cases outcome with
  | completed =>
    obtain ⟨rfl, n, rfl, hn⟩ := hvalues
    rw [getString_of_lookup (s := "completed") (by simp [ServerEvent.message, List.lookup, ResponseOutcome.text])
        (by decide) (by decide) (by decide),
      getU32_of_lookup (n := n) (by simp [ServerEvent.message, List.lookup]) (Nat.zero_le _) hn,
      valid_some, ok_bind, if_pos rfl, valid_guard (by simp [ServerEvent.message, Control.item, List.lookup])]
    change Except.ok _ = Except.ok _
    rw [hevent.2]
    rfl
  | cancelled =>
    obtain ⟨rfl, rfl⟩ := hvalues
    rw [getString_of_lookup (s := "cancelled") (by simp [ServerEvent.message, List.lookup, ResponseOutcome.text])
        (by decide) (by decide) (by decide),
      valid_some, ok_bind, if_neg (by decide), if_pos rfl,
      valid_guard (by simp [ServerEvent.message, Control.item, List.lookup])]
    change Except.ok _ = Except.ok _
    rw [hevent.1, hevent.2]
    rfl
  | failed =>
    obtain ⟨rfl, rfl⟩ := hvalues
    rw [getString_of_lookup (s := "failed") (by simp [ServerEvent.message, List.lookup, ResponseOutcome.text])
        (by decide) (by decide) (by decide),
      getString_of_lookup (s := "response_failed") (by simp [ServerEvent.message, List.lookup]) (by decide)
        (by decide) (by decide),
      valid_some, ok_bind, if_neg (by decide), if_neg (by decide), if_pos rfl,
      valid_guard (by simp [ServerEvent.message, Control.item, List.lookup])]
    change Except.ok _ = Except.ok _
    rw [hevent.1]
    rfl

theorem parseResponse_end {responseId : String} {generation : Nat} {outcome : ResponseOutcome}
    {errorCode : Option String} {finalMediaSequence : Option Nat}
    (h : (ServerEvent.responseEnd responseId generation outcome errorCode finalMediaSequence).Admitted)
    (hmax : generation ≤ uint32Max) :
    Control.parseResponse (.obj ((ServerEvent.responseEnd responseId generation outcome errorCode
        finalMediaSequence).message sessionId sessionEpoch)) .responseEnd =
      .ok (.response
        { type := .responseEnd, session := { sessionId, sessionEpoch }, responseId, generation
          outcome := outcome.decoded, finalMediaSequence, errorCode := errorCode.getD "" }) := by
  have hfields : Control.hasExactFields (.obj ((ServerEvent.responseEnd responseId generation outcome errorCode
      finalMediaSequence).message sessionId sessionEpoch))
      ["type", "session_id", "session_epoch", "response_id", "generation", "outcome"]
      ["final_media_sequence", "error_code"] = true := by
    cases errorCode <;> cases finalMediaSequence <;>
      simp [ServerEvent.message, Control.hasExactFields, List.lookup]
  rw [Control.parseResponse, getSession_of_lookup hid hepoch (by simp [ServerEvent.message, List.lookup])
      (by simp [ServerEvent.message, List.lookup]),
    getId_of_lookup (by simp [ServerEvent.message, List.lookup]) h.1,
    getU32_of_lookup (by simp [ServerEvent.message, List.lookup]) h.2.1 hmax, hfields]
  simp only [fields_true, valid_some, ok_bind]
  rw [parseResponseEnd_message h
    { type := .responseEnd, session := { sessionId, sessionEpoch }, responseId, generation } ⟨rfl, rfl⟩]
  rfl

theorem parsePlaybackStop_message {responseId : String} {generation fenceGeneration : Nat} {cause : StopCause}
    (hresponse : identifierMatches responseId = true) (hmin : 1 ≤ generation) (hfence : generation < fenceGeneration)
    (hmax : fenceGeneration ≤ uint32Max) :
    Control.parsePlaybackStop
      (.obj ((ServerEvent.playbackStop responseId generation fenceGeneration cause).message sessionId sessionEpoch)) =
      .ok (.playbackStop
        { session := { sessionId, sessionEpoch }, target := { responseId, generation }, fenceGeneration
          cause := cause.text }) := by
  have htarget : Control.getTarget (.obj [("response_id", .str responseId), ("generation", nat generation)]) =
      some { responseId, generation } := by
    rw [Control.getTarget, getId_of_lookup (by simp [List.lookup]) hresponse,
      getU32_of_lookup (by simp [List.lookup]) hmin (hfence.le.trans hmax),
      show Control.hasExactFields _ _ _ = true by simp [Control.hasExactFields, List.lookup]]
    rfl
  have hcause : NulFree cause.text ∧ cause.text ≠ "" ∧ utf8Length cause.text.toList ≤ 32 ∧
      cause.text ∈ ["explicit_user_request", "recognized_interrupt", "session_close", "response_failed"] := by
    cases cause <;> decide
  rw [Control.parsePlaybackStop, getSession_of_lookup hid hepoch (by simp [ServerEvent.message, List.lookup])
      (by simp [ServerEvent.message, List.lookup]),
    show Control.item _ "target" = some (.obj [("response_id", .str responseId), ("generation", nat generation)]) by
      simp [ServerEvent.message, Control.item, List.lookup],
    Option.bind_some, htarget,
    getU32_of_lookup (by simp [ServerEvent.message, List.lookup]) (hmin.trans hfence.le) hmax,
    getString_of_lookup (by simp [ServerEvent.message, List.lookup]) hcause.1 (fun _ => hcause.2.1) hcause.2.2.1,
    show Control.hasExactFields _ _ _ = true by simp [ServerEvent.message, Control.hasExactFields, List.lookup]]
  simp only [fields_true, valid_some, ok_bind, valid_guard hfence, valid_guard hcause.2.2.2]
  rfl

theorem parseError_message {code text : String} {retryable : Bool} (hcode : Binding.isValidErrorCode code = true)
    (hnul : NulFree text) (hsize : utf8Length text.toList ≤ 512) :
    Control.parseError (.obj ((ServerEvent.sessionError code retryable text).message sessionId sessionEpoch)) =
      .ok (.sessionError { session := { sessionId, sessionEpoch }, code, retryable, message := text }) := by
  obtain ⟨hsimple, hlength⟩ := errorCode_simple hcode
  have hcodeSize : utf8Length code.toList ≤ 64 := (utf8Length_simple hsimple).trans_le hlength
  rw [Binding.isValidErrorCode, Bool.and_eq_true, decide_eq_true_iff] at hcode
  have hne : code ≠ "" := by
    rintro rfl
    exact absurd hcode.1.1 (by decide)
  rw [Control.parseError, getSession_of_lookup hid hepoch (by simp [ServerEvent.message, List.lookup])
      (by simp [ServerEvent.message, List.lookup]),
    getString_of_lookup (by simp [ServerEvent.message, List.lookup]) (simple_nulFree hsimple) (fun _ => hne) hcodeSize,
    getString_of_lookup (s := text) (by simp [ServerEvent.message, List.lookup]) hnul (by simp) hsize,
    show Control.item _ "retryable" = some (.bool retryable) by simp [ServerEvent.message, Control.item, List.lookup],
    show Control.hasExactFields _ _ _ = true by simp [ServerEvent.message, Control.hasExactFields, List.lookup]]
  simp only [fields_true, valid_some, ok_bind, valid_guard hcode.2]
  rfl

theorem parseClose_message {reason : String} (hreason : reason ∈ Binding.closeReasons) :
    Control.parseClose (.obj ((ServerEvent.sessionClose reason).message sessionId sessionEpoch)) =
      .ok (.sessionClose { session := { sessionId, sessionEpoch }, reason, initiatedBy := "server" }) := by
  have hvalid : ∀ reason ∈ Binding.closeReasons, NulFree reason ∧ reason ≠ "" ∧ utf8Length reason.toList ≤ 32 ∧
      reason ∈ ["normal", "idle_timeout", "network_change", "protocol_error", "server_shutdown"] := by
    decide
  obtain ⟨hnul, hne, hsize, hmem⟩ := hvalid reason hreason
  rw [Control.parseClose, getSession_of_lookup hid hepoch (by simp [ServerEvent.message, List.lookup])
      (by simp [ServerEvent.message, List.lookup]),
    getString_of_lookup (by simp [ServerEvent.message, List.lookup]) hnul (fun _ => hne) hsize,
    getString_of_lookup (s := "server") (by simp [ServerEvent.message, List.lookup]) (by decide) (by decide)
      (by decide),
    show Control.item _ "detail" = none by simp [ServerEvent.message, Control.item, List.lookup],
    show Control.hasExactFields _ _ _ = true by simp [ServerEvent.message, Control.hasExactFields, List.lookup]]
  simp only [fields_true, valid_some, ok_bind, valid_guard hmem]
  rfl

end Parsed

end RealtimeVoice.Rva
