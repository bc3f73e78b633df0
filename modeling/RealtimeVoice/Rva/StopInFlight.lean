import RealtimeVoice.Rva.Encoding

namespace RealtimeVoice.Rva

open RealtimeVoice.Base RealtimeVoice.Base.Json RealtimeVoice.Base.Runs RealtimeVoice.Contracts

namespace Coordinator

variable {c : Coordinator} {r : Ref} {rec : ResponseRecord}

theorem fence_stopSent (hrec : c.heap[r]? = some rec) (hstop : rec.stopSent = true) (outcome : ResponseOutcome)
    (errorCode : Option String) : c.fence r outcome errorCode = .error (.binding "stale_generation") := by
  rw [fence, hrec]
  dsimp only
  rw [if_pos (.inr hstop)]

/-- A playback that has not been stopped can be fenced as long as the session is open. -/
theorem Consistent.fence_ok (h : Consistent c) (hplayback : c.playback = some r) (hrec : c.heap[r]? = some rec)
    (hopen : c.session.closed = false) (hstop : rec.stopSent = false) (outcome : ResponseOutcome)
    (errorCode : Option String) :
    ∃ c', c.fence r outcome errorCode = .ok (c', c.session.generation + 1) := by
  obtain ⟨rec', hrec', hcurrent⟩ := h.current r hplayback
  obtain rfl := Option.some.inj (hrec.symm.trans hrec')
  have hholds := hcurrent.holds hopen hstop
  rw [fence, hrec]
  dsimp only
  rw [if_neg (by simp [hplayback, hstop]), VoiceSession.cancelPlayback, if_neg (by simp [hopen]),
    if_neg (not_not.mpr hholds)]
  exact ⟨_, rfl⟩

end Coordinator

/-- The event is within the size of a control message. -/
def ServerEvent.Fits (b : Binding) (e : ServerEvent) : Prop :=
  utf8Length (dumps (.obj (e.message b.config.sessionId b.config.sessionEpoch))) ≤ controlMaxBytes

namespace Binding

variable {b : Binding} {r : Ref} {rec : ResponseRecord} {message : Message}

theorem event_of_fits {e : ServerEvent} (h : e.Fits b) : b.event e = .ok e := by
  rw [event, encodeControl, if_neg (Nat.not_lt.mpr h)]

theorem fits_of_event {e e' : ServerEvent} (h : b.event e = .ok e') : e.Fits b := by
  rw [event, encodeControl] at h
  by_cases hfits : utf8Length (dumps (.obj (e.message b.config.sessionId b.config.sessionEpoch))) > controlMaxBytes
  · rw [if_pos hfits] at h
    cases h
  · exact Nat.not_lt.mp hfits

/-- The end of a cancelled response is shorter than the stop before it. -/
theorem end_fits {responseId : String} {generation g : Nat} {cause : StopCause}
    (hcause : cause ≠ .responseFailed) (h : (ServerEvent.playbackStop responseId generation g cause).Fits b) :
    (ServerEvent.responseEnd responseId generation (stopOutcome cause) (stopErrorCode cause) none).Fits b := by
  have hbytes : utf8Length (dumpsStr "response_id") = 13 ∧ utf8Length (dumpsStr "generation") = 12 ∧
      utf8Length (dumpsStr "outcome") = 9 ∧ utf8Length (dumpsStr "cancelled") = 11 ∧
      utf8Length (dumpsStr "target") = 8 ∧ utf8Length (dumpsStr "fence_generation") = 18 ∧
      utf8Length (dumpsStr "response.end") = 14 ∧ utf8Length (dumpsStr "playback.stop") = 15 := by decide
  rw [stopOutcome, if_neg hcause, stopErrorCode, if_neg hcause]
  rw [ServerEvent.Fits, utf8Length_dumps_obj (by simp [ServerEvent.message])] at h ⊢
  simp only [ServerEvent.message, List.cons_append, List.nil_append, List.append_nil, Option.toList_none, List.map_nil,
    List.map_cons, List.sum_cons, List.sum_nil, ResponseOutcome.text, dumps_str] at h ⊢
  rw [utf8Length_dumps_obj (by simp)] at h
  simp only [List.map_cons, List.map_nil, List.sum_cons, List.sum_nil, dumps_str] at h
  omega

theorem fenceEffect_iff (hrec : b.responses.heap[r]? = some rec) {g : Nat} {cause : StopCause}
    (hcause : cause ≠ .responseFailed) :
    (∃ effect, b.fenceEffect r g cause = .ok effect) ↔
      (ServerEvent.playbackStop rec.responseId rec.target.generation g cause).Fits b := by
  rw [fenceEffect, hrec]
  refine ⟨?_, fun hfits => ?_⟩
  · rintro ⟨effect, heffect⟩
    dsimp only at heffect
    rw [bind_ok] at heffect
    obtain ⟨stop, hstop, -⟩ := heffect
    exact fits_of_event hstop
  · dsimp only
    rw [event_of_fits hfits, event_of_fits (end_fits hcause hfits)]
    by_cases hcompleted : rec.outcome = some .completed
    · exact ⟨{ outbound := [_], interrupt := some r }, by simp only [hcompleted, if_true]; rfl⟩
    · exact ⟨{ outbound := [_, _], interrupt := some r }, by simp only [hcompleted, if_false]; rfl⟩

/-- The stop of the current playback, with the fence it would get now. -/
def stopEvent (b : Binding) (rec : ResponseRecord) (cause : StopCause) : ServerEvent :=
  .playbackStop rec.responseId rec.target.generation (b.responses.session.generation + 1) cause

/-- `cancel_active_response` goes through exactly for a playback that was not stopped. -/
theorem cancelEffect_iff (hc : b.responses.Consistent) (hlive : b.Live) (hplayback : b.responses.playback = some r)
    (hrec : b.responses.heap[r]? = some rec) {cause : StopCause} (hcause : cause ≠ .responseFailed) :
    (∃ b' effect, b.cancelEffect cause.text = (b', .ok effect)) ↔
      rec.stopSent = false ∧ (b.stopEvent rec cause).Fits b := by
  have heq : b.cancelEffect cause.text = b.fencePlayback r cause := by
    rw [cancelEffect, show b.ensureOpen = .ok () from ensureOpen_ok.mpr hlive, hplayback, stopCause?_text]
  rw [heq, fencePlayback]
  by_cases hstop : rec.stopSent = true
  · rw [Coordinator.fence_stopSent hrec hstop]
    simp [hstop]
  · rw [Bool.not_eq_true] at hstop
    obtain ⟨responses, hfence⟩ := hc.fence_ok hplayback hrec hlive.2 hstop (stopOutcome cause) (stopErrorCode cause)
    obtain ⟨rec₀, outcome, code, hrec₀, -, -, -, -, -, hrec'⟩ :=
      Coordinator.moves_fenced (Coordinator.fence_moves hfence (stopOutcome_ne cause))
    obtain rfl := Option.some.inj (hrec.symm.trans hrec₀)
    have hiff := fenceEffect_iff (b := { b with responses := responses }) (g := b.responses.session.generation + 1)
      hrec' hcause
    rw [hfence]
    simp only [hstop, true_and]
    refine ⟨?_, ?_⟩
    · rintro ⟨b', effect, heffect⟩
      exact hiff.mp ⟨effect, (Prod.mk.inj heffect).2⟩
    · intro hfits
      obtain ⟨effect, heffect⟩ := hiff.mpr hfits
      exact ⟨_, effect, by rw [heffect]⟩

/-- The control message is taken, with an effect or as a no-op. -/
def Accepted (b : Binding) (message : Message) : Prop := ∃ reply, (b.receiveControl message).2 = .ok reply

/-- A `response.cancel.request` of the open session, as its schema has it. A request
id stands for one target. -/
structure CancelRequest (b : Binding) (message : Message) (id : String) (key : Key) : Prop where
  fields : sameFields message ["type", "session_id", "session_epoch", "request_id", "target", "cause"] = true
  type : field message "type" = .str "response.cancel.request"
  sessionId : field message "session_id" = .str b.config.sessionId
  sessionEpoch : field message "session_epoch" = .str b.config.sessionEpoch
  requestId : field message "request_id" = .str id ∧ identifierMatches id = true
  cause : field message "cause" = .str "user_request"
  target : ∃ fields, field message "target" = .obj fields ∧ sameFields fields ["response_id", "generation"] = true ∧
    field fields "response_id" = .str key.1 ∧ identifierMatches key.1 = true ∧
    field fields "generation" = nat key.2 ∧ 1 ≤ key.2 ∧ key.2 ≤ uint32Max
  single : ∀ previous, b.cancelRequests.get? id = some previous → previous = key

theorem eqStr_self (s : String) : (Json.str s).eqStr s = true := by
  rw [Json.eqStr]
  exact beq_self_eq_true s

theorem requireContext_of_fields (hid : field message "session_id" = .str b.config.sessionId)
    (hepoch : field message "session_epoch" = .str b.config.sessionEpoch) : b.requireContext message = .ok () := by
  rw [requireContext, hid, hepoch, eqStr_self, eqStr_self]
  rfl

theorem requireIdentifier_str {s name : String} (h : identifierMatches s = true) :
    requireIdentifier (.str s) name = .ok s := by
  rw [requireIdentifier]
  exact if_pos h

theorem reject_of_not {p : Prop} [Decidable p] {code : String} (h : ¬p) : reject p code = .ok () := by
  rw [reject, if_neg h]

theorem CancelRequest.parseTarget {id : String} {key : Key} (h : CancelRequest b message id key) :
    parseTarget (field message "target") = .ok key := by
  obtain ⟨fields, htarget, hfields, hid, hidentifier, hgeneration, hmin, hmax⟩ := h.target
  rw [htarget, Binding.parseTarget, requireExactFields, if_pos hfields, hid, requireIdentifier_str hidentifier,
    hgeneration, nat, requireUint32, validateUint32, if_pos ⟨by omega, by omega⟩, Int.toNat_natCast]
  rfl

theorem cancelRequest_eq {id : String} (hplayback : b.responses.playback = some r)
    (hrec : b.responses.heap[r]? = some rec) (h : CancelRequest b message id rec.key) :
    b.cancelRequest message =
      .ok (if b.cancelRequests.get? id = some rec.key then none else some (id, rec.key)) := by
  rw [cancelRequest, requireExactFields, if_pos h.fields, requireContext_of_fields h.sessionId h.sessionEpoch,
    h.requestId.1, requireIdentifier_str h.requestId.2, h.cause, eqStr_self, h.parseTarget, reject_of_not (by simp)]
  simp only [ok_bind]
  cases hprevious : b.cancelRequests.get? id with
  | some previous =>
    obtain rfl := h.single previous hprevious
    rw [if_pos rfl]
    dsimp only
    rw [reject_of_not (not_not.mpr rfl)]
    rfl
  | none =>
    rw [if_neg (by simp)]
    dsimp only
    rw [reject_of_not (by simp [hplayback, hrec])]
    rfl

/-- A `session.close` of the device, with one of the reasons a device has. -/
structure CloseRequest (b : Binding) (message : Message) : Prop where
  fields : sameFields message ["type", "session_id", "session_epoch", "reason", "initiated_by"] = true ∧
      message.lookup "detail" = none ∨
    sameFields message ["type", "session_id", "session_epoch", "reason", "initiated_by", "detail"] = true ∧
      ∃ detail, message.lookup "detail" = some (.str detail) ∧ utf8Length detail.toList ≤ 256
  type : field message "type" = .str "session.close"
  sessionId : field message "session_id" = .str b.config.sessionId
  sessionEpoch : field message "session_epoch" = .str b.config.sessionEpoch
  initiatedBy : field message "initiated_by" = .str "device"
  reason : ∃ reason ∈ closeReasons, field message "reason" = .str reason

theorem parseClose_eq (h : CloseRequest b message) : ∃ reason ∈ closeReasons, b.parseClose message = .ok reason := by
  obtain ⟨reason, hmem, hreason⟩ := h.reason
  refine ⟨reason, hmem, ?_⟩
  have hfields : requireFields message ["type", "session_id", "session_epoch", "reason", "initiated_by"] "detail" =
      .ok () := by
    rw [requireFields, if_pos]
    obtain hfields | hfields := h.fields
    · rw [hfields.1, Bool.true_or]
    · rw [Bool.or_eq_true]
      exact .inr hfields.1
  have hvalue : closeReason? (.str reason) = .ok reason := by
    rw [closeReason?.eq_def, if_neg (by simp [Json.hashable])]
    exact if_pos hmem
  rw [parseClose, hfields, requireContext_of_fields h.sessionId h.sessionEpoch, h.initiatedBy, eqStr_self, hreason,
    hvalue, reject_of_not (by simp)]
  simp only [ok_bind]
  obtain hdetail | hdetail := h.fields
  · rw [hdetail.2]
    rfl
  · obtain ⟨-, detail, hdetail, hbytes⟩ := hdetail
    rw [hdetail]
    dsimp only
    rw [requireText, if_neg (by simp), if_neg (Nat.not_lt.mpr hbytes)]
    rfl

theorem receiveControl_type {type : String} (hlive : b.Live) (htype : field message "type" = .str type)
    (hopen : type ≠ "session.open") :
    b.receiveControl message =
      if type = "response.cancel.request" then b.cancel message
      else if type = "playback.started" then b.playbackStarted message
      else if type = "playback.ended" then b.playbackEnded message
      else if type = "session.close" then b.receiveClose message
      else (b, .error (.binding "unknown_client_message")) := by
  rw [receiveControl, htype]
  simp only [Json.eqStr, beq_iff_eq, if_neg hopen, show b.ensureOpen = .ok () from ensureOpen_ok.mpr hlive]

theorem cancel_accepted_iff (hc : b.responses.Consistent) (hlive : b.Live) (hplayback : b.responses.playback = some r)
    (hrec : b.responses.heap[r]? = some rec) {id : String} (h : CancelRequest b message id rec.key) :
    b.Accepted message ↔ b.cancelRequests.get? id = some rec.key ∨
      rec.stopSent = false ∧ (b.stopEvent rec .explicitUserRequest).Fits b := by
  rw [Accepted, receiveControl_type hlive h.type (by decide), if_pos rfl, cancel, cancelRequest_eq hplayback hrec h]
  by_cases hrepeated : b.cancelRequests.get? id = some rec.key
  · rw [if_pos hrepeated]
    simp [hrepeated]
  · rw [if_neg hrepeated, ← cancelEffect_iff hc hlive hplayback hrec (by decide)]
    simp only [hrepeated, false_or]
    cases hresult : b.cancelEffect StopCause.explicitUserRequest.text with
    | mk b' effect =>
      cases effect with
      | error e => simp
      | ok effect => simp

theorem receiveClose_iff {reason : String} (hmem : reason ∈ closeReasons) (h : b.parseClose message = .ok reason) :
    (∃ reply, (b.receiveClose message).2 = .ok reply) ↔
      ∃ b' effect, b.cancelEffect StopCause.sessionClose.text = (b', .ok effect) := by
  have hclose : ∀ b' : Binding, (ServerEvent.sessionClose reason).Fits b' := by
    intro b'
    refine encoded_fits b'.config.sessionId_valid b'.config.sessionEpoch_valid hmem trivial ?_ ?_
    · simp
    · simp
  rw [receiveClose, h]
  cases hcancel : b.cancelEffect StopCause.sessionClose.text with
  | mk b' effect =>
    cases effect with
    | error e => simp
    | ok effect =>
      dsimp only
      rw [event_of_fits (hclose b')]
      simp [Except.map]

theorem close_accepted_iff (hc : b.responses.Consistent) (hlive : b.Live) (h : CloseRequest b message) :
    b.Accepted message ↔ ∀ (r : Ref) (rec : ResponseRecord), b.responses.playback = some r →
      b.responses.heap[r]? = some rec → rec.stopSent = false ∧ (b.stopEvent rec .sessionClose).Fits b := by
  obtain ⟨reason, hmem, hparse⟩ := parseClose_eq h
  rw [Accepted, receiveControl_type hlive h.type (by decide), if_neg (by decide), if_neg (by decide),
    if_neg (by decide), if_pos rfl, receiveClose_iff hmem hparse]
  cases hplayback : b.responses.playback with
  | none =>
    simp [cancelEffect, show b.ensureOpen = .ok () from ensureOpen_ok.mpr hlive, hplayback]
  | some r =>
    obtain ⟨rec, hrec, -⟩ := hc.current r hplayback
    rw [cancelEffect_iff hc hlive hplayback hrec (by decide)]
    refine ⟨fun h => ?_, fun hall => hall r rec rfl hrec⟩
    intro r' rec' hr hrec'
    obtain rfl := Option.some.inj hr
    obtain rfl := Option.some.inj (hrec.symm.trans hrec')
    exact h

/-- In every reachable state with an open session, a cancel of the current playback
and a close are accepted exactly when the playback has not been stopped yet (or the
request repeats one that was served) and the stop fits a control message. -/
theorem requests_accepted_iff {config : BindingConfig} {es : List Event} (h : Run Step (.init config) es b)
    (hlive : b.Live) :
    (∀ (r : Ref) (rec : ResponseRecord) (message : Message) (id : String), b.responses.playback = some r →
      b.responses.heap[r]? = some rec → CancelRequest b message id rec.key →
      (b.Accepted message ↔ b.cancelRequests.get? id = some rec.key ∨
        rec.stopSent = false ∧ (b.stopEvent rec .explicitUserRequest).Fits b)) ∧
    ∀ message : Message, CloseRequest b message →
      (b.Accepted message ↔ ∀ (r : Ref) (rec : ResponseRecord), b.responses.playback = some r →
        b.responses.heap[r]? = some rec → rec.stopSent = false ∧ (b.stopEvent rec .sessionClose).Fits b) := by
  have hc := run_consistent h
  refine ⟨?_, ?_⟩
  · intro r rec message id hplayback hrec hrequest
    exact cancel_accepted_iff hc hlive hplayback hrec hrequest
  · intro message hrequest
    exact close_accepted_iff hc hlive hrequest

def demoCancel : Message :=
  [("type", .str "response.cancel.request"), ("session_id", .str "s1"), ("session_epoch", .str "e1"),
    ("request_id", .str "c1"), ("target", .obj [("response_id", .str "r1"), ("generation", .int 1)]),
    ("cause", .str "user_request")]

def demoClose : Message :=
  [("type", .str "session.close"), ("session_id", .str "s1"), ("session_epoch", .str "e1"), ("reason", .str "normal"),
    ("initiated_by", .str "device")]

/-- A response has begun. -/
def demoBegun : List Call := [.receiveControl demoOpen, .responseBegin "r1" 1]

/-- The server stops it on its own account. -/
def demoFenced : List Call := demoBegun ++ [.cancelActiveResponse "recognized_interrupt"]

theorem demoCancel_request {b : Binding} (hid : b.config.sessionId = "s1") (hepoch : b.config.sessionEpoch = "e1")
    (hfresh : b.cancelRequests.get? "c1" = none) : CancelRequest b demoCancel "c1" ("r1", 1) where
  fields := by decide
  type := rfl
  sessionId := by rw [hid]; rfl
  sessionEpoch := by rw [hepoch]; rfl
  requestId := ⟨rfl, by decide⟩
  cause := rfl
  target := ⟨_, rfl, by decide, rfl, by decide, rfl, by decide, by decide⟩
  single := by simp [hfresh]

theorem demoClose_request {b : Binding} (hid : b.config.sessionId = "s1") (hepoch : b.config.sessionEpoch = "e1") :
    CloseRequest b demoClose where
  fields := .inl ⟨by decide, by simp [demoClose, List.lookup]⟩
  type := rfl
  sessionId := by rw [hid]; rfl
  sessionEpoch := by rw [hepoch]; rfl
  initiatedBy := rfl
  reason := ⟨"normal", by decide, rfl⟩

theorem requests_accepted_playing :
    (after call (.init demoConfig) demoBegun).Accepted demoCancel ∧
      (after call (.init demoConfig) demoBegun).Accepted demoClose := by
  have hiff := requests_accepted_iff (run_history call (.init demoConfig) demoBegun)
    ⟨by decide +kernel, by decide +kernel⟩
  have hplayback : (after call (.init demoConfig) demoBegun).responses.playback = some 0 := rfl
  have hrec := (List.getElem?_eq_some_iff (l := (after call (.init demoConfig) demoBegun).responses.heap) (i := 0)).mpr
    ⟨by decide +kernel, rfl⟩
  refine ⟨(hiff.1 0 _ demoCancel "c1" hplayback hrec
      (demoCancel_request (by decide +kernel) (by decide +kernel) (by decide +kernel))).mpr (.inr ⟨rfl, ?_⟩),
    (hiff.2 demoClose (demoClose_request (by decide +kernel) (by decide +kernel))).mpr ?_⟩
  · rw [ServerEvent.Fits]
    decide +kernel
  · intro r rec hr hrec'
    obtain rfl := Option.some.inj (hplayback.symm.trans hr)
    obtain rfl := Option.some.inj (hrec.symm.trans hrec')
    refine ⟨rfl, ?_⟩
    rw [ServerEvent.Fits]
    decide +kernel

/-- With the stop on its way, both requests of the device are protocol errors. -/
theorem requests_rejected_fenced :
    let b := after call (.init demoConfig) demoFenced
    (∃ es, Run Step (.init demoConfig) es b) ∧ b.Live ∧
      (b.responses.playback.bind (b.responses.heap[·]?)).map ResponseRecord.key = some ("r1", 1) ∧
      CancelRequest b demoCancel "c1" ("r1", 1) ∧ CloseRequest b demoClose ∧
      (b.receiveControl demoCancel).2 = .error (.binding "stale_generation") ∧
      (b.receiveControl demoClose).2 = .error (.binding "stale_generation") := by
  refine ⟨⟨_, run_history call (.init demoConfig) demoFenced⟩, ⟨by decide +kernel, by decide +kernel⟩, rfl,
    demoCancel_request (by decide +kernel) (by decide +kernel) (by decide +kernel),
    demoClose_request (by decide +kernel) (by decide +kernel), rfl, rfl⟩

end Binding

end RealtimeVoice.Rva
