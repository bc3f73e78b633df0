import RealtimeVoice.Rva.ControlErrors

namespace RealtimeVoice.Rva.Binding

open RealtimeVoice.Base RealtimeVoice.Base.Runs RealtimeVoice.Contracts

variable {b : Binding} {message : Message} {r : Ref} {rec : ResponseRecord} {p : Interpreter} {raw : PyStr}

/-- What is raised is an `RvaBindingError`, and the state is as it was. -/
def Atomic {α : Type} (b : Binding) (x : Binding × Except RvaError α) : Prop :=
  ∀ e, x.2 = .error e → e.IsBinding ∧ x.1 = b

/-- `receive_control` returns a `ControlEffect`, or raises an `RvaBindingError` and has
changed nothing. -/
def Total (p : Interpreter) (b : Binding) (raw : PyStr) : Prop :=
  (∀ reply, (b.receiveText p raw).2 = .ok reply → ∃ effect, reply = .control effect) ∧
  ∀ e, (b.receiveText p raw).2 = .error e → (∃ code, e = .rva (.binding code)) ∧ (b.receiveText p raw).1 = b

/-- Reading the text as JSON meets neither the scanner's nesting limit nor an integer of
more digits than `int` converts. -/
def Scannable (p : Interpreter) (raw : PyStr) : Prop :=
  ∀ text, raw.text? = some text → utf8Length text.toList ≤ controlMaxBytes →
    loads p uniqueObject raw ≠ .error .recursion ∧ loads p uniqueObject raw ≠ .error .digits

/-- The profile that `_open` selects, if the device offers an allowed one. -/
def selection (b : Binding) (opened : SessionOpen) : Option TransportProfile :=
  let offered := opened.supportedMediaProfiles.filter (· ∈ b.config.allowedProfiles)
  offered.head?.map fun first =>
    if opened.preferredMediaProfile ∈ offered then opened.preferredMediaProfile
    else if TransportProfile.wssOpus ∈ offered then .wssOpus
    else first

/-- A `playback.ended` up to its outcome. -/
structure EndedHead (b : Binding) (message : Message) : Prop where
  type : field message "type" = .str "playback.ended"
  fields : FieldsAre message ["type", "session_id", "session_epoch", "target", "outcome", "played_samples"]
    "last_media_sequence"
  context : b.IsFor message
  target : ∃ key, IsTarget (field message "target") key

/-- A `session.close` of the device up to its reason. -/
structure CloseHead (b : Binding) (message : Message) : Prop where
  type : field message "type" = .str "session.close"
  fields : FieldsAre message ["type", "session_id", "session_epoch", "reason", "initiated_by"] "detail"
  context : b.IsFor message
  initiatedBy : field message "initiated_by" = .str "device"

/-- The stop of the current playback, if it was not sent yet, is within the size of a
control message. -/
def StopFits (b : Binding) (cause : StopCause) : Prop :=
  ∀ r rec, b.responses.playback = some r → b.responses.heap[r]? = some rec → rec.stopSent = false →
    (b.stopEvent rec cause).Fits b

/-- The messages that are handled as documented. -/
structure Orderly (b : Binding) (message : Message) : Prop where
  opening : ∀ opened grant, field message "type" = .str "session.open" → b.opened = false → b.closed = false →
    parseSessionOpenObject message = .ok opened → opened.deviceId = b.config.expectedDeviceId →
    b.selection opened = some .udpOpusGcm → b.config.udpGrant = some grant →
    (ServerEvent.sessionOpened opened.requestId b.mediaIdHex b.config.mediaEpoch .udpOpusGcm (some grant)).Fits b
  outcome : b.Live → b.EndedHead message → (field message "outcome").hashable = true
  reason : b.Live → b.CloseHead message → (field message "reason").hashable = true
  cancelling : b.Live → ∀ id r rec, b.CancelRequest message id rec.key → b.cancelRequests.get? id = none →
    b.responses.playback = some r → b.responses.heap[r]? = some rec → rec.stopSent = false →
    (b.stopEvent rec .explicitUserRequest).Fits b
  closing : b.Live → b.CloseRequest message → b.StopFits .sessionClose

theorem atomic_failed {α : Type} {b' : Binding} {e : RvaError} :
    Atomic b (b', (.error e : Except RvaError α)) ↔ e.IsBinding ∧ b' = b := by
  constructor
  · intro h
    exact h e rfl
  · rintro h e' ⟨⟩
    exact h

theorem atomic_error {α : Type} {e : RvaError} : Atomic b (b, (.error e : Except RvaError α)) ↔ e.IsBinding := by
  rw [atomic_failed, and_iff_left rfl]

@[simp]
theorem atomic_ok {α : Type} {b' : Binding} {a : α} : Atomic b (b', .ok a) := by
  rintro e ⟨⟩

theorem atomic_commit {x : Except RvaError (Binding × Reply)} : Atomic b (b.commit x) ↔ Refuses x := by
  cases x with
  | error e => exact atomic_error.trans raises_error.symm
  | ok y => exact iff_of_true atomic_ok raises_ok

theorem event_error {e : ServerEvent} (h : ¬e.Fits b) : b.event e = .error (.binding "message_too_large") := by
  rw [event, encodeControl, if_pos (Nat.lt_of_not_le h)]

theorem atomic_emit {x : Except RvaError (Binding × ServerEvent)} {reply : ServerEvent → Reply}
    (hmoved : ∀ b' e, x = .ok (b', e) → b' ≠ b) :
    Atomic b (b.emit x reply) ↔ Refuses x ∧ ∀ b' e, x = .ok (b', e) → e.Fits b' := by
  cases x with
  | error e =>
    rw [show b.emit (.error e) reply = (b, .error e) from rfl, atomic_error, refuses_error, iff_self_and]
    rintro - b' e' ⟨⟩
  | ok y =>
    obtain ⟨b', e⟩ := y
    rw [show b.emit (.ok (b', e)) reply = (b', (b'.event e).map reply) from rfl, and_iff_right raises_ok]
    constructor
    · rintro h _ _ ⟨⟩
      by_contra hfits
      rw [event_error hfits] at h
      exact hmoved b' e rfl (h _ rfl).2
    · intro h
      rw [event_of_fits (h b' e rfl)]
      exact atomic_ok

theorem selection_eq {opened : SessionOpen} {first : TransportProfile} {rest : List TransportProfile}
    (h : opened.supportedMediaProfiles.filter (· ∈ b.config.allowedProfiles) = first :: rest) :
    b.selection opened = some
      (if opened.preferredMediaProfile ∈ first :: rest then opened.preferredMediaProfile
       else if TransportProfile.wssOpus ∈ first :: rest then .wssOpus
       else first) := by
  rw [selection, h]
  rfl

/-- The `session.open` messages that open the session, and how it is answered. -/
theorem open_iff {b' : Binding} {e : ServerEvent} :
    b.open message = .ok (b', e) ↔ b.opened = false ∧ b.closed = false ∧
      ∃ opened selected, parseSessionOpenObject message = .ok opened ∧
        opened.deviceId = b.config.expectedDeviceId ∧ b.selection opened = some selected ∧
        ¬(selected = .udpOpusGcm ∧ b.config.udpGrant.isNone = true) ∧
        b' = { b with opened := true, selectedMediaProfile := some selected } ∧
        e = .sessionOpened opened.requestId b.mediaIdHex b.config.mediaEpoch selected
          (if selected = .udpOpusGcm then b.config.udpGrant else none) := by
  rw [«open»]
  simp only [bind_ok, reject_ok, exists_const, Bool.not_eq_true]
  refine and_congr_right fun _ => and_congr_right fun _ => exists_congr fun opened => ?_
  rw [exists_and_left]
  refine and_congr_right fun _ => ?_
  rw [exists_and_left, not_not]
  refine and_congr_right fun _ => ?_
  cases hoffered : opened.supportedMediaProfiles.filter (· ∈ b.config.allowedProfiles) with
  | nil =>
    have hnone : b.selection opened = none := by
      rw [selection, hoffered]
      rfl
    simp [hnone]
  | cons first rest =>
    rw [selection_eq hoffered]
    simp only [bind_ok, reject_ok, exists_const, pure_ok, Option.some.injEq, exists_eq_left', Prod.mk.injEq]
    exact ⟨fun h => ⟨h.1, h.2.1.symm, h.2.2.symm⟩, fun h => ⟨h.1, h.2.1.symm, h.2.2.symm⟩⟩

theorem refuses_open : Refuses (b.open message) := by
  rw [«open»]
  simp only [raises_bind, refuses_reject, refuses_parseSessionOpenObject, true_and]
  intro _ _ _ _ opened _ _ _
  split
  · exact raises_throw.mpr (isBinding_binding _)
  · simp

/-- Without a grant the answer to `session.open` is within the limit. -/
theorem opened_fits {opened : SessionOpen} (h : parseSessionOpenObject message = .ok opened) :
    (ServerEvent.sessionOpened opened.requestId b.mediaIdHex b.config.mediaEpoch .wssOpus none).Fits b := by
  refine encoded_fits b.config.sessionId_valid b.config.sessionEpoch_valid ?_ trivial ?_ ?_
  · exact ⟨(parseSessionOpenObject_ok h).2, ⟨b.config.mediaId, b.config.mediaId_length, rfl⟩, b.config.mediaEpoch_range, rfl⟩
  · simp
  · simp

theorem atomic_open (reply : ServerEvent → Reply) :
    Atomic b (b.emit (b.open message) reply) ↔ ∀ opened grant, b.opened = false → b.closed = false →
      parseSessionOpenObject message = .ok opened → opened.deviceId = b.config.expectedDeviceId →
      b.selection opened = some .udpOpusGcm → b.config.udpGrant = some grant →
      (ServerEvent.sessionOpened opened.requestId b.mediaIdHex b.config.mediaEpoch .udpOpusGcm (some grant)).Fits b := by
  have hmoved : ∀ b' e, b.open message = .ok (b', e) → b' ≠ b := by
    intro b' e h heq
    obtain ⟨hopened, -, opened, selected, -, -, -, -, rfl, -⟩ := open_iff.mp h
    rw [← heq] at hopened
    cases hopened
  rw [atomic_emit hmoved, and_iff_right refuses_open]
  constructor
  · intro h opened grant hopened hclosed hparse hdevice hselection hgrant
    have hok : b.open message = .ok _ := open_iff.mpr ⟨hopened, hclosed, opened, .udpOpusGcm, hparse, hdevice,
      hselection, by simp [hgrant], rfl, rfl⟩
    have hfits := h _ _ hok
    rw [if_pos rfl, hgrant] at hfits
    exact hfits
  · intro h b' e hok
    obtain ⟨hopened, hclosed, opened, selected, hparse, hdevice, hselection, hgrant, rfl, rfl⟩ := open_iff.mp hok
    cases selected with
    | wssOpus => exact opened_fits (b := b) hparse
    | udpOpusGcm =>
      cases hudp : b.config.udpGrant with
      | none => simp [hudp] at hgrant
      | some grant =>
        rw [if_pos rfl]
        exact h opened grant hopened hclosed hparse hdevice hselection hudp

theorem refuses_playbackOutcome? {value : Json} : Refuses (playbackOutcome? value) ↔ value.hashable = true := by
  rw [playbackOutcome?.eq_def]
  cases value.hashable with
  | false => simp
  | true => simp [raises_ite]

theorem refuses_closeReason? {value : Json} : Refuses (closeReason? value) ↔ value.hashable = true := by
  rw [closeReason?.eq_def]
  cases value.hashable with
  | false => simp
  | true =>
    simp only [Bool.not_true, Bool.false_eq_true, if_false, iff_true]
    split
    · split
      · exact raises_ok
      · exact raises_error.mpr (isBinding_binding _)
    · exact raises_error.mpr (isBinding_binding _)

/-- Checks that come before, all of which refuse, leave the next one to decide. -/
theorem refuses_parsePlaybackEnded (htype : field message "type" = .str "playback.ended") :
    Refuses (b.parsePlaybackEnded message) ↔ (b.EndedHead message → (field message "outcome").hashable = true) := by
  rw [parsePlaybackEnded]
  simp only [raises_bind, refuses_requireFields, refuses_requireContext, refuses_parseTarget, true_and,
    requireFields_ok, requireContext_ok, parseTarget_iff, refuses_playbackOutcome?, refuses_requireUint53]
  constructor
  · intro h hhead
    obtain ⟨key, hkey⟩ := hhead.target
    exact (h () hhead.fields () hhead.context key hkey).1
  · intro h _ hfields _ hcontext key hkey
    refine ⟨h ⟨htype, hfields, hcontext, key, hkey⟩, ?_⟩
    intro outcome _ samples _
    split <;> simp [raises_bind, raises_map]

theorem refuses_parseClose (htype : field message "type" = .str "session.close") :
    Refuses (b.parseClose message) ↔ (b.CloseHead message → (field message "reason").hashable = true) := by
  rw [parseClose]
  simp only [raises_bind, refuses_requireFields, refuses_requireContext, refuses_reject, true_and, requireFields_ok,
    requireContext_ok, reject_ok, Bool.not_eq_true', Bool.not_eq_false, eqStr_iff, refuses_closeReason?]
  constructor
  · intro h hhead
    exact (h () hhead.fields () hhead.context () hhead.initiatedBy).1
  · intro h _ hfields _ hcontext _ hdevice
    refine ⟨h ⟨htype, hfields, hcontext, hdevice⟩, ?_⟩
    intro reason _
    split <;> simp

theorem refuses_cancelRequest : Refuses (b.cancelRequest message) := by
  rw [cancelRequest]
  simp only [raises_bind, refuses_requireExactFields, refuses_requireContext, refuses_requireIdentifier, refuses_reject,
    refuses_parseTarget, true_and]
  intro _ _ _ _ id _ _ _ key _
  split <;> simp

theorem atomic_playbackStarted : Atomic b (b.playbackStarted message) := by
  rw [playbackStarted, atomic_commit]
  simp [raises_bind, Coordinator.refuses_playbackStarted]

theorem atomic_playbackEnded (hc : b.responses.Consistent) (hlive : b.Live) :
    Atomic b (b.playbackEnded message) ↔ Refuses (b.parsePlaybackEnded message) := by
  rw [playbackEnded]
  cases b.parsePlaybackEnded message with
  | error e => exact atomic_error.trans refuses_error.symm
  | ok m =>
    refine iff_of_true ?_ raises_ok
    intro e he
    cases hresult : (b.responses.playbackEnded m.target.1 m.target.2 m.outcome m.playedSamples m.lastMediaSequence).2 with
    | error e' =>
      obtain ⟨hbinding, hsame⟩ := hc.playbackEnded_refused hlive.2 hresult
      dsimp only at he ⊢
      rw [hresult] at he
      cases he
      rw [hsame]
      exact ⟨hbinding, rfl⟩
    | ok fact =>
      dsimp only at he
      rw [hresult] at he
      cases he

/-- `cancel_active_response` fails after its first change exactly if the stop of a playback
that was not stopped is too large. -/
theorem atomic_cancelEffect (hc : b.responses.Consistent) (hlive : b.Live) {cause : StopCause}
    (hcause : cause ≠ .responseFailed) : Atomic b (b.cancelEffect cause.text) ↔ b.StopFits cause := by
  cases hplayback : b.responses.playback with
  | none =>
    have heq : b.cancelEffect cause.text = (b, .ok {}) := by
      rw [cancelEffect, show b.ensureOpen = .ok () from ensureOpen_ok.mpr hlive, hplayback]
    rw [heq]
    refine iff_of_true atomic_ok ?_
    intro r rec hr
    cases hplayback.symm.trans hr
  | some r =>
    obtain ⟨rec, hrec, -⟩ := hc.current r hplayback
    have hstops : b.StopFits cause ↔ (rec.stopSent = false → (b.stopEvent rec cause).Fits b) := by
      refine ⟨fun h => h r rec hplayback hrec, fun h r' rec' hr hrec' => ?_⟩
      obtain rfl := Option.some.inj (hplayback.symm.trans hr)
      obtain rfl := Option.some.inj (hrec.symm.trans hrec')
      exact h
    have heq : b.cancelEffect cause.text = b.fencePlayback r cause := by
      rw [cancelEffect, show b.ensureOpen = .ok () from ensureOpen_ok.mpr hlive, hplayback, stopCause?_text]
    have hiff := cancelEffect_iff hc hlive hplayback hrec hcause
    rw [hstops]
    rw [heq, fencePlayback] at hiff ⊢
    cases hstop : rec.stopSent with
    | true =>
      rw [Coordinator.fence_stopSent hrec hstop]
      exact iff_of_true (atomic_error.mpr (isBinding_binding _)) fun htrue => Bool.noConfusion htrue
    | false =>
      obtain ⟨responses, hfence⟩ := hc.fence_ok hplayback hrec hlive.2 hstop (stopOutcome cause) (stopErrorCode cause)
      obtain ⟨rec₀, outcome, code, -, -, -, -, -, -, hrec'⟩ :=
        Coordinator.moves_fenced (Coordinator.fence_moves hfence (stopOutcome_ne cause))
      rw [hfence] at hiff ⊢
      simp only [hstop, true_and] at hiff
      simp only [forall_const]
      rw [← hiff]
      constructor
      · intro h
        cases hresult : fenceEffect { b with responses := responses } r (b.responses.session.generation + 1) cause with
        | ok effect => exact ⟨_, effect, rfl⟩
        | error e =>
          -- the playback is marked as stopped by then
          have hsame : responses = b.responses := congrArg Binding.responses (h e hresult).2
          rw [hsame, hrec] at hrec'
          rw [Option.some.inj hrec'] at hstop
          cases hstop
      · rintro ⟨b', effect, heffect⟩
        rw [heffect]
        exact atomic_ok

theorem atomic_receiveClose (hc : b.responses.Consistent) (hlive : b.Live) :
    Atomic b (b.receiveClose message) ↔ Refuses (b.parseClose message) ∧
      ((∃ reason, b.parseClose message = .ok reason) → b.StopFits .sessionClose) := by
  rw [← atomic_cancelEffect hc hlive (by decide)]
  cases hparse : b.parseClose message with
  | error e =>
    rw [receiveClose, hparse]
    rw [atomic_error, refuses_error, iff_self_and]
    rintro - ⟨reason, ⟨⟩⟩
  | ok reason =>
    have hsent := receiveClose_iff (parseClose_ok hparse) hparse
    rw [and_iff_right raises_ok, forall_prop_of_true ⟨reason, rfl⟩]
    cases hresult : b.cancelEffect StopCause.sessionClose.text with
    | mk b' effect =>
      cases effect with
      | error e =>
        rw [receiveClose, hparse]
        dsimp only
        rw [hresult]
        exact atomic_failed.trans atomic_failed.symm
      | ok effect =>
        obtain ⟨reply, hreply⟩ := hsent.mpr ⟨b', effect, hresult⟩
        refine iff_of_true ?_ atomic_ok
        intro e he
        rw [hreply] at he
        cases he

theorem CancelRequest.of_fields {id : String} {key : Key} (htype : field message "type" = .str "response.cancel.request")
    (h : b.cancelRequest message = .ok (some (id, key))) :
    b.CancelRequest message id key ∧ b.cancelRequests.get? id = none ∧
      ∃ r rec, b.responses.playback = some r ∧ b.responses.heap[r]? = some rec ∧ rec.key = key := by
  obtain ⟨id', key', hfields, hcontext, hid, hcause, htarget, hrequest⟩ := cancelRequest_fields h
  obtain ⟨⟨⟩, -⟩ | ⟨hrequest, hfresh, hplayback⟩ := hrequest
  obtain ⟨rfl, rfl⟩ := Prod.mk.inj (Option.some.inj hrequest)
  refine ⟨⟨hfields, htype, hcontext.1, hcontext.2, hid, hcause, htarget, ?_⟩, hfresh, ?_⟩
  · intro previous hprevious
    cases hfresh.symm.trans hprevious
  · rw [Option.any_eq_true] at hplayback
    obtain ⟨rec, hrec, hkey⟩ := hplayback
    obtain ⟨r, hr, hheap⟩ := Option.bind_eq_some_iff.mp hrec
    exact ⟨r, rec, hr, hheap, beq_iff_eq.mp hkey⟩

theorem atomic_cancel (hc : b.responses.Consistent) (hlive : b.Live)
    (htype : field message "type" = .str "response.cancel.request") :
    Atomic b (b.cancel message) ↔ ∀ id r rec, b.CancelRequest message id rec.key → b.cancelRequests.get? id = none →
      b.responses.playback = some r → b.responses.heap[r]? = some rec → rec.stopSent = false →
      (b.stopEvent rec .explicitUserRequest).Fits b := by
  have hcause : StopCause.explicitUserRequest ≠ .responseFailed := by decide
  have hstops := atomic_cancelEffect hc hlive hcause
  have hserved : ∀ {id : String} {key : Key}, b.cancelRequest message = .ok (some (id, key)) →
      (Atomic b (b.cancel message) ↔ Atomic b (b.cancelEffect StopCause.explicitUserRequest.text)) := by
    intro id key hrequest
    rw [cancel, hrequest]
    cases b.cancelEffect StopCause.explicitUserRequest.text with
    | mk b' effect =>
      cases effect with
      | error e => exact atomic_failed.trans atomic_failed.symm
      | ok effect => exact iff_of_true atomic_ok atomic_ok
  constructor
  · intro h id r rec hrequest hfresh hplayback hrec hstop
    have hpass := cancelRequest_eq hplayback hrec hrequest
    rw [hfresh, if_neg (Option.some_ne_none _).symm] at hpass
    exact hstops.mp ((hserved hpass).mp h) r rec hplayback hrec hstop
  · intro h
    cases hrequest : b.cancelRequest message with
    | error e =>
      rw [cancel, hrequest]
      exact atomic_error.mpr (refuses_cancelRequest e hrequest)
    | ok request =>
      cases request with
      | none =>
        rw [cancel, hrequest]
        exact atomic_ok
      | some request =>
        obtain ⟨id, key⟩ := request
        obtain ⟨hcancel, hfresh, r, rec, hplayback, hrec, rfl⟩ := CancelRequest.of_fields htype hrequest
        refine (hserved hrequest).mpr (hstops.mpr ?_)
        intro r' rec' hr hrec' hstop
        obtain rfl := Option.some.inj (hplayback.symm.trans hr)
        obtain rfl := Option.some.inj (hrec.symm.trans hrec')
        exact h id r rec hcancel hfresh hplayback hrec hstop

theorem refuses_ensureOpen : Refuses b.ensureOpen := by
  rw [ensureOpen]
  simp [raises_ite]

theorem receiveControl_open (htype : field message "type" = .str "session.open") :
    b.receiveControl message = b.emit (b.open message) fun e => .control { outbound := [e] } := by
  rw [receiveControl, htype]
  exact if_pos (eqStr_self _)

/-- Nothing but `session.open` is taken before the session is open. -/
theorem atomic_not_live (htype : field message "type" ≠ .str "session.open") (hlive : ¬b.Live) :
    Atomic b (b.receiveControl message) := by
  rw [receiveControl, if_neg (mt eqStr_iff.mp htype)]
  cases hopen : b.ensureOpen with
  | error e => exact atomic_error.mpr (refuses_ensureOpen e hopen)
  | ok u => exact absurd (ensureOpen_ok.mp hopen) hlive

theorem atomic_unknown (hlive : b.Live) (hopen : field message "type" ≠ .str "session.open")
    (hcancel : field message "type" ≠ .str "response.cancel.request")
    (hstarted : field message "type" ≠ .str "playback.started")
    (hended : field message "type" ≠ .str "playback.ended") (hclose : field message "type" ≠ .str "session.close") :
    Atomic b (b.receiveControl message) := by
  rw [receiveControl, if_neg (mt eqStr_iff.mp hopen), show b.ensureOpen = .ok () from ensureOpen_ok.mpr hlive,
    if_neg (mt eqStr_iff.mp hcancel), if_neg (mt eqStr_iff.mp hstarted), if_neg (mt eqStr_iff.mp hended),
    if_neg (mt eqStr_iff.mp hclose)]
  exact atomic_error.mpr (isBinding_binding _)

/-- Where the message is of another type, a part of `Orderly` says nothing. -/
theorem Orderly.of_type {type : String} (htype : field message "type" = .str type)
    (hopening : type = "session.open" → ∀ opened grant, b.opened = false → b.closed = false →
      parseSessionOpenObject message = .ok opened → opened.deviceId = b.config.expectedDeviceId →
      b.selection opened = some .udpOpusGcm → b.config.udpGrant = some grant →
      (ServerEvent.sessionOpened opened.requestId b.mediaIdHex b.config.mediaEpoch .udpOpusGcm (some grant)).Fits b)
    (houtcome : type = "playback.ended" → b.EndedHead message → (field message "outcome").hashable = true)
    (hreason : type = "session.close" → b.CloseHead message → (field message "reason").hashable = true)
    (hcancelling : type = "response.cancel.request" → ∀ id r rec, b.CancelRequest message id rec.key →
      b.cancelRequests.get? id = none → b.responses.playback = some r → b.responses.heap[r]? = some rec →
      rec.stopSent = false → (b.stopEvent rec .explicitUserRequest).Fits b)
    (hclosing : type = "session.close" → b.CloseRequest message → b.StopFits .sessionClose) : b.Orderly message where
  opening opened grant h := hopening (Json.str.inj (htype.symm.trans h)) opened grant
  outcome _ h := houtcome (Json.str.inj (htype.symm.trans h.type)) h
  reason _ h := hreason (Json.str.inj (htype.symm.trans h.type)) h
  cancelling _ id r rec h := hcancelling (Json.str.inj (htype.symm.trans h.type)) id r rec h
  closing _ h := hclosing (Json.str.inj (htype.symm.trans h.type)) h

theorem atomic_receiveControl (hc : b.responses.Consistent) :
    Atomic b (b.receiveControl message) ↔ b.Orderly message := by
  by_cases hopen : field message "type" = .str "session.open"
  · rw [receiveControl_open hopen, atomic_open]
    refine ⟨fun h => .of_type hopen (fun _ => h) (absurd · (by decide)) (absurd · (by decide)) (absurd · (by decide))
      (absurd · (by decide)), fun h => ?_⟩
    intro opened grant
    exact h.opening opened grant hopen
  by_cases hlive : b.Live
  swap
  · refine iff_of_true (atomic_not_live hopen hlive) ?_
    exact ⟨fun _ _ h => absurd h hopen, fun h => absurd h hlive, fun h => absurd h hlive, fun h => absurd h hlive,
      fun h => absurd h hlive⟩
  by_cases hcancel : field message "type" = .str "response.cancel.request"
  · rw [receiveControl_type hlive hcancel (by decide), if_pos rfl, atomic_cancel hc hlive hcancel]
    exact ⟨fun h => .of_type hcancel (absurd · (by decide)) (absurd · (by decide)) (absurd · (by decide)) (fun _ => h)
      (absurd · (by decide)), fun h => h.cancelling hlive⟩
  by_cases hstarted : field message "type" = .str "playback.started"
  · rw [receiveControl_type hlive hstarted (by decide), if_neg (by decide), if_pos rfl]
    exact iff_of_true atomic_playbackStarted (.of_type hstarted (absurd · (by decide)) (absurd · (by decide))
      (absurd · (by decide)) (absurd · (by decide)) (absurd · (by decide)))
  by_cases hended : field message "type" = .str "playback.ended"
  · rw [receiveControl_type hlive hended (by decide), if_neg (by decide), if_neg (by decide), if_pos rfl,
      atomic_playbackEnded hc hlive, refuses_parsePlaybackEnded hended]
    exact ⟨fun h => .of_type hended (absurd · (by decide)) (fun _ => h) (absurd · (by decide)) (absurd · (by decide))
      (absurd · (by decide)), fun h => h.outcome hlive⟩
  by_cases hclose : field message "type" = .str "session.close"
  · rw [receiveControl_type hlive hclose (by decide), if_neg (by decide), if_neg (by decide), if_neg (by decide),
      if_pos rfl, atomic_receiveClose hc hlive, refuses_parseClose hclose, parseClose_iff hclose]
    exact ⟨fun h => .of_type hclose (absurd · (by decide)) (absurd · (by decide)) (fun _ => h.1) (absurd · (by decide))
      (fun _ => h.2), fun h => ⟨h.reason hlive, h.closing hlive⟩⟩
  · refine iff_of_true (atomic_unknown hlive hopen hcancel hstarted hended hclose) ?_
    exact ⟨fun _ _ h => absurd h hopen, fun _ h => absurd h.type hended, fun _ h => absurd h.type hclose,
      fun _ _ _ _ h => absurd h.type hcancel, fun _ h => absurd h.type hclose⟩

theorem effect_control {b' : Binding} {reply : Reply} (h : Effect b (.receiveControl message) b' (.ok reply)) :
    ∃ effect, reply = .control effect := by
  generalize hcall : Call.receiveControl message = c at h
  generalize hresult : (Except.ok reply : Result) = result at h
  cases h with
  | rejected => cases hresult
  | opened =>
    obtain ⟨e, -, rfl⟩ := map_ok.mp hresult.symm
    exact ⟨_, rfl⟩
  | unmoved =>
    cases hresult
    exact ⟨_, rfl⟩
  | fenced => cases hcall
  | fenceFailed => cases hresult
  | fencedOnRequest =>
    cases hresult
    exact ⟨_, rfl⟩
  | fencedOnClose =>
    obtain ⟨e, -, rfl⟩ := map_ok.mp hresult.symm
    exact ⟨_, rfl⟩
  | closing =>
    obtain ⟨e, -, rfl⟩ := map_ok.mp hresult.symm
    exact ⟨_, rfl⟩
  | started =>
    cases hresult
    exact ⟨_, rfl⟩
  | ended =>
    obtain ⟨fact, -, rfl⟩ := map_ok.mp hresult.symm
    exact ⟨_, rfl⟩
  | transcribed final _ _ _ _ _ _ _ hcalled =>
    subst hcall
    cases final <;> cases hcalled
  | _ => cases hcall

theorem decodeControl_error {e : ControlError} (h : decodeControl p raw = .error e) :
    (∃ code, e = .rva (.binding code)) ∨ ∃ text, raw.text? = some text ∧ utf8Length text.toList ≤ controlMaxBytes ∧
      (loads p uniqueObject raw = .error .recursion ∨ loads p uniqueObject raw = .error .digits) := by
  rw [decodeControl.eq_def] at h
  cases htext : raw.text? with
  | none =>
    rw [htext] at h
    cases h
    exact .inl ⟨_, rfl⟩
  | some text =>
    rw [htext] at h
    dsimp only at h
    split_ifs at h with hsize
    · cases h
      exact .inl ⟨_, rfl⟩
    · split at h
      · cases h
        exact .inl ⟨_, rfl⟩
      · cases h
        exact .inl ⟨_, rfl⟩
      · rename_i hloads
        exact .inr ⟨text, rfl, Nat.le_of_not_lt hsize, .inl hloads⟩
      · rename_i hloads
        exact .inr ⟨text, rfl, Nat.le_of_not_lt hsize, .inr hloads⟩
      · cases h
      · cases h
        exact .inl ⟨_, rfl⟩

theorem decodeControl_raises {text : String} (htext : raw.text? = some text)
    (hsize : utf8Length text.toList ≤ controlMaxBytes) :
    (loads p uniqueObject raw = .error .recursion → decodeControl p raw = .error .recursion) ∧
      (loads p uniqueObject raw = .error .digits → decodeControl p raw = .error .digits) := by
  rw [decodeControl.eq_def, htext]
  dsimp only
  rw [if_neg (Nat.not_lt.mpr hsize)]
  constructor <;> intro h <;> rw [h]

/-- A text is handled as documented exactly if `json.loads` gets through it (or refuses it)
and its message is orderly. -/
theorem receive_control_total_iff (p : Interpreter) {config : BindingConfig} {es : List Event}
    (h : Run Step (.init config) es b) (raw : PyStr) :
    b.Total p raw ↔ Scannable p raw ∧ ∀ message, decodeControl p raw = .ok message → b.Orderly message := by
  have hc := run_consistent h
  rw [Total, receiveText]
  cases hdecode : decodeControl p raw with
  | error e =>
    simp only [reduceCtorEq, false_implies, implies_true, and_true, true_and]
    constructor
    · intro hraises text htext hsize
      obtain ⟨hrecursion, hdigits⟩ := decodeControl_raises (p := p) htext hsize
      obtain ⟨code, rfl⟩ := hraises e rfl
      refine ⟨fun hloads => ?_, fun hloads => ?_⟩
      · cases hdecode.symm.trans (hrecursion hloads)
      · cases hdecode.symm.trans (hdigits hloads)
    · rintro hscan _ ⟨⟩
      obtain hcode | ⟨text, htext, hsize, hloads⟩ := decodeControl_error hdecode
      · exact hcode
      · obtain ⟨hrecursion, hdigits⟩ := hscan text htext hsize
        exact absurd hloads (not_or.mpr ⟨hrecursion, hdigits⟩)
  | ok message =>
    have hscan : Scannable p raw := by
      intro text htext hsize
      obtain ⟨hrecursion, hdigits⟩ := decodeControl_raises (p := p) htext hsize
      refine ⟨fun hloads => ?_, fun hloads => ?_⟩
      · cases hdecode.symm.trans (hrecursion hloads)
      · cases hdecode.symm.trans (hdigits hloads)
    rw [and_iff_right hscan]
    simp only [Except.ok.injEq, forall_eq']
    rw [← atomic_receiveControl hc]
    have hcontrol := receiveControl_effect (b := b) message
    cases hresult : (b.receiveControl message).2 with
    | error e =>
      have heq : b.receiveControl message = ((b.receiveControl message).1, .error e) := Prod.ext rfl hresult
      rw [heq, atomic_failed]
      simp [Except.mapError, RvaError.IsBinding]
    | ok reply =>
      rw [hresult] at hcontrol
      have heq : b.receiveControl message = ((b.receiveControl message).1, .ok reply) := Prod.ext rfl hresult
      rw [heq]
      refine iff_of_true ⟨?_, ?_⟩ atomic_ok
      · rintro _ ⟨⟩
        exact effect_control hcontrol
      · rintro e ⟨⟩

def demoInterpreter : Interpreter where
  cRecursionLimit := 10000
  floatRepr := PyStr.key
  cRecursionLimit_pos := by decide

/-- The text of a `playback.ended` with this outcome. -/
def demoEnded (outcome : String) : PyStr :=
  .ofString ("\x7b\"type\":\"playback.ended\",\"session_id\":\"s1\",\"session_epoch\":\"e1\",\"target\":" ++
    "\x7b\"response_id\":\"r1\",\"generation\":1\x7d,\"outcome\":" ++ outcome ++ ",\"played_samples\":0\x7d")

theorem receive_control_total_stopped :
    (after call (.init demoConfig) [.receiveControl demoOpen]).Total demoInterpreter (demoEnded "\"stopped\"") := by
  have hdecode : (decodeControl demoInterpreter (demoEnded "\"stopped\"")).map (fun message =>
      (field message "type").eqStr "playback.ended" && (field message "outcome").hashable) = .ok true := by
    decide +kernel
  cases hmessage : decodeControl demoInterpreter (demoEnded "\"stopped\"") with
  | error e =>
    rw [hmessage] at hdecode
    cases hdecode
  | ok message =>
    rw [hmessage] at hdecode
    obtain ⟨htype, hhashable⟩ := Bool.and_eq_true_iff.mp (Except.ok.inj hdecode)
    refine (receive_control_total_iff demoInterpreter (run_history call (.init demoConfig) [.receiveControl demoOpen])
      (demoEnded "\"stopped\"")).mpr ⟨fun text htext hsize => ?_, fun message' hmessage' => ?_⟩
    · obtain ⟨hrecursion, hdigits⟩ := decodeControl_raises (p := demoInterpreter) htext hsize
      refine ⟨fun hloads => ?_, fun hloads => ?_⟩
      · cases hmessage.symm.trans (hrecursion hloads)
      · cases hmessage.symm.trans (hdigits hloads)
    · obtain rfl := Except.ok.inj (hmessage.symm.trans hmessage')
      exact .of_type (eqStr_iff.mp htype) (absurd · (by decide)) (fun _ _ => hhashable) (absurd · (by decide))
        (absurd · (by decide)) (absurd · (by decide))

/-- A list for an outcome is looked up in a set. -/
theorem outcome_list_raises :
    let b := after call (.init demoConfig) [.receiveControl demoOpen]
    (∃ es, Run Step (.init demoConfig) es b) ∧
      (b.receiveText demoInterpreter (demoEnded "[]")).2 = .error (.rva .typeError) ∧
      ¬b.Total demoInterpreter (demoEnded "[]") := by
  have hraises : ((after call (.init demoConfig) [.receiveControl demoOpen]).receiveText demoInterpreter
      (demoEnded "[]")).2.map (fun _ => ()) = .error (.rva .typeError) := by
    decide +kernel
  intro b
  cases hresult : (b.receiveText demoInterpreter (demoEnded "[]")).2 with
  | ok reply =>
    rw [hresult] at hraises
    cases hraises
  | error e =>
    rw [hresult] at hraises
    obtain rfl := Except.error.inj hraises
    refine ⟨⟨_, run_history call (.init demoConfig) [.receiveControl demoOpen]⟩, rfl, fun htotal => ?_⟩
    obtain ⟨⟨code, hcode⟩, -⟩ := htotal.2 _ hresult
    cases hcode

end RealtimeVoice.Rva.Binding
