import RealtimeVoice.Rva.Binding
import RealtimeVoice.Rva.ResponseMoves

namespace RealtimeVoice.Rva

open RealtimeVoice.Base RealtimeVoice.Base.Runs RealtimeVoice.Contracts

theorem bind_ok {α β : Type} {x : Except RvaError α} {f : α → Except RvaError β} {y : β} :
    (x >>= f) = .ok y ↔ ∃ a, x = .ok a ∧ f a = .ok y := by
  cases x with
  | error e => simp [bind, Except.bind]
  | ok a => simp [bind, Except.bind]

theorem ok_bind {ε α β : Type} (a : α) (f : α → Except ε β) : (Except.ok a >>= f) = f a := rfl

@[simp]
theorem reject_ok {p : Prop} [Decidable p] {code : String} {u : Unit} : reject p code = .ok u ↔ ¬p := by
  rw [reject]
  split <;> simp [*]

@[simp]
theorem throw_ok {α : Type} {e : RvaError} {y : α} : (throw e : Except RvaError α) = .ok y ↔ False := by
  simp [throw, throwThe, MonadExceptOf.throw]

@[simp]
theorem pure_ok {α : Type} {x y : α} : (pure x : Except RvaError α) = .ok y ↔ x = y := by
  simp [pure, Except.pure]

theorem map_ok {α β : Type} {x : Except RvaError α} {f : α → β} {y : β} :
    x.map f = .ok y ↔ ∃ a, x = .ok a ∧ f a = y := by
  cases x <;> simp [Except.map]

theorem validateUint32_ok {name : String} {value minimum : Int} {n : Nat} (hmin : 0 ≤ minimum)
    (h : validateUint32 name value minimum = .ok n) : value = n ∧ minimum ≤ n ∧ n ≤ uint32Max := by
  rw [validateUint32] at h
  split at h
  · rename_i hrange
    cases h
    omega
  · cases h

theorem requireIdentifier_ok {value : Json} {name s : String} (h : requireIdentifier value name = .ok s) :
    value = .str s ∧ identifierMatches s = true := by
  rw [requireIdentifier.eq_def] at h
  split at h
  · split at h
    · rename_i hs
      cases h
      exact ⟨rfl, hs⟩
    · cases h
  · cases h

namespace Binding

variable {b : Binding}

/-- The session has been opened and is not closed. -/
def Live (b : Binding) : Prop := b.opened = true ∧ b.closed = false

theorem ensureOpen_ok {u : Unit} : b.ensureOpen = .ok u ↔ b.Live := by
  rw [ensureOpen, Live]
  cases b.closed <;> cases b.opened <;> simp

/-- Everything a call can do. An event that is encoded last appears as `event`,
whose failure leaves the new state in place. -/
inductive Effect (b : Binding) : Call → Binding → Result → Prop
  | rejected (c : Call) (e : RvaError) : Effect b c b (.error e)
  | opened {message : Message} {requestId : String} {profile : TransportProfile} {grant : Option Message}
      {b' : Binding} :
      b.opened = false → b.closed = false → identifierMatches requestId = true →
      field message "request_id" = .str requestId → (profile = .udpOpusGcm → b.config.udpGrant ≠ none) →
      grant = (if profile = .udpOpusGcm then b.config.udpGrant else none) →
      b' = { b with opened := true, selectedMediaProfile := some profile } →
      Effect b (.receiveControl message) b'
        ((b'.event (.sessionOpened requestId b.mediaIdHex b.config.mediaEpoch profile grant)).map
          fun e => .control { outbound := [e] })
  | unmoved {c : Call} : b.Live → (∃ text, c = .cancelActiveResponse text) ∨ (∃ message, c = .receiveControl message) →
      Effect b c b (.ok (.control {}))
  | fenced {r : Ref} {cause : StopCause} {text : String} {responses : Coordinator} {g : Nat}
      {b' : Binding} :
      b.Live → b.responses.playback = some r →
      b.responses.fence r (stopOutcome cause) (stopErrorCode cause) = .ok (responses, g) →
      b' = { b with responses := responses } →
      Effect b (.cancelActiveResponse text) b' ((b'.fenceEffect r g cause).map .control)
  | fenceFailed {r : Ref} {cause : StopCause} {message : Message} {responses : Coordinator} {g : Nat}
      {e : RvaError}
      {b' : Binding} :
      b.Live → b.responses.playback = some r →
      b.responses.fence r (stopOutcome cause) (stopErrorCode cause) = .ok (responses, g) →
      b' = { b with responses := responses } → b'.fenceEffect r g cause = .error e →
      Effect b (.receiveControl message) b' (.error e)
  | fencedOnRequest {r : Ref} {message : Message} {responses : Coordinator} {g : Nat} {requestId : String}
      {identity : Key} {effect : ControlEffect}
      {b' : Binding} :
      b.Live → b.responses.playback = some r →
      b.responses.fence r (stopOutcome .explicitUserRequest) (stopErrorCode .explicitUserRequest) =
        .ok (responses, g) →
      b' = { b with responses := responses } → b'.fenceEffect r g .explicitUserRequest = .ok effect →
      Effect b (.receiveControl message) (b'.rememberCancelRequest requestId identity) (.ok (.control effect))
  | fencedOnClose {r : Ref} {message : Message} {responses : Coordinator} {g : Nat} {reason : String}
      {effect : ControlEffect}
      {b' : Binding} :
      b.Live → b.responses.playback = some r →
      b.responses.fence r (stopOutcome .sessionClose) (stopErrorCode .sessionClose) = .ok (responses, g) →
      b' = { b with responses := responses } → b'.fenceEffect r g .sessionClose = .ok effect →
      reason ∈ closeReasons →
      Effect b (.receiveControl message) b' ((b'.event (.sessionClose reason)).map fun close =>
        .control { effect with outbound := effect.outbound ++ [close], closeAfterSend := true })
  | closing {message : Message} {reason : String} :
      b.Live → b.responses.playback = none → reason ∈ closeReasons →
      Effect b (.receiveControl message) b ((b.event (.sessionClose reason)).map fun close =>
        .control { outbound := [close], closeAfterSend := true })
  | started {message : Message} {responses : Coordinator} {responseId : String} {generation first : Nat} {r : Ref} :
      b.Live → b.responses.playbackStarted responseId generation first = .ok (responses, r) →
      Effect b (.receiveControl message) { b with responses := responses }
        (.ok (.control { playbackStarted := some r }))
  | ended {message : Message} {m : EndedMessage} {responses : Coordinator}
      {result : Except RvaError PlaybackEndedFact} :
      b.Live →
      b.responses.playbackEnded m.target.1 m.target.2 m.outcome m.playedSamples m.lastMediaSequence =
        (responses, result) →
      Effect b (.receiveControl message) { b with responses := responses }
        (result.map fun fact => .control { playbackEnded := some fact })
  | uplink {raw : List UInt8} {packet : InboundAudioPacket} :
      b.Live →
      Effect b (.receiveMedia raw) { b with nextUplinkSequence := b.nextUplinkSequence + 1 } (.ok (.audio packet))
  | reserved {r : Ref} {responses : Coordinator} :
      b.nextDownlinkSequence ≤ uint32Max → b.responses.noteMedia r b.nextDownlinkSequence = .ok responses →
      Effect b (.reserveDownlinkMedia r)
        { b with responses := responses, nextDownlinkSequence := b.nextDownlinkSequence + 1 }
        (.ok (.sequence b.nextDownlinkSequence))
  | serialized {payload : List UInt8} {timestamp : Int} {r : Ref} {responses : Coordinator} {result : Result} :
      b.Live → b.selectedMediaProfile = some .wssOpus → b.nextDownlinkSequence ≤ uint32Max →
      b.responses.noteMedia r b.nextDownlinkSequence = .ok responses →
      result = (do
        let timestamp ← validateUint32 "timestamp" timestamp 0
        match responses.heap[r]? with
        | none => throw (.binding "stale_generation")
        | some rec =>
          let frame ← WssMediaFrame.serialize
            { mediaId := b.config.mediaId, mediaEpoch := b.config.mediaEpoch
              sequence := b.nextDownlinkSequence, timestamp, generation := rec.target.generation, payload }
          return .media frame) →
      Effect b (.serializeAudio payload timestamp r)
        { b with responses := responses, nextDownlinkSequence := b.nextDownlinkSequence + 1 } result
  | noted {r : Ref} {sequence : Int} {n : Nat} {responses : Coordinator} :
      n ≤ uint32Max → b.responses.noteMedia r n = .ok responses →
      Effect b (.noteDownlinkMedia r sequence) { b with responses := responses } (.ok .done)
  | transcribed (final : Bool) {utteranceId text : String} {sequence : Int} {n : Nat} {c : Call} {e : ServerEvent}
      {b' : Binding} :
      b.Live → identifierMatches utteranceId = true → sequence = n → n ≤ uint32Max →
      utf8Length text.toList ≤ (if final then 16384 else 4096) → (final = false → text ≠ "") →
      b.advanceTranscript utteranceId n final = .ok b' →
      c = (if final then .transcriptFinal utteranceId sequence text else .transcriptDelta utteranceId sequence text) →
      e = (if final then .transcriptFinal utteranceId n text else .transcriptDelta utteranceId n text) →
      Effect b c b' ((b'.event e).map .event)
  | begun {responseId : String} {producerEpoch : Int} {responses : Coordinator} {r : Ref} {rec : ResponseRecord}
      {b' : Binding} :
      b.Live → identifierMatches responseId = true →
      b.responses.begin responseId producerEpoch = .ok (responses, r, true) → responses.heap[r]? = some rec →
      b' = { b with responses := responses, nextResponseTextSequence := 0 } →
      Effect b (.responseBegin responseId producerEpoch) b'
        ((b'.event (.responseBegin rec.responseId rec.target.generation)).map fun e => .begun r (some e))
  | again {responseId : String} {producerEpoch : Int} {r : Ref} :
      b.Live → Effect b (.responseBegin responseId producerEpoch) b (.ok (.begun r none))
  | texted {r : Ref} {rec : ResponseRecord} {sequence : Int} {text : String} {b' : Binding} :
      b.Live → b.responses.accepts r = true → b.responses.heap[r]? = some rec →
      sequence = b.nextResponseTextSequence → b.nextResponseTextSequence ≤ uint32Max →
      utf8Length text.toList ≤ 4096 → text ≠ "" →
      b' = { b with nextResponseTextSequence := b.nextResponseTextSequence + 1 } →
      Effect b (.responseText r sequence text) b'
        ((b'.event (.responseText rec.responseId rec.target.generation b.nextResponseTextSequence text)).map .event)
  | completed {r : Ref} {rec : ResponseRecord} {responses : Coordinator} {b' : Binding} :
      b.Live → b.responses.complete r = .ok responses → responses.heap[r]? = some rec →
      b' = { b with responses := responses } →
      Effect b (.responseEnd r) b'
        ((b'.event (.responseEnd rec.responseId rec.target.generation .completed none rec.lastMediaSequence)).map
          .event)
  | errored {code : String} {retryable : Bool} {message : String} :
      b.Live → isValidErrorCode code = true → utf8Length message.toList ≤ 512 →
      Effect b (.sessionError code retryable message) b ((b.event (.sessionError code retryable message)).map .event)
  | closed : Effect b .close { b with responses := b.responses.close } (.ok .done)

theorem requireText_ok {text : String} {maximumBytes : Nat} {allowEmpty : Bool} {u : Unit}
    (h : requireText text maximumBytes allowEmpty = .ok u) :
    utf8Length text.toList ≤ maximumBytes ∧ (allowEmpty = false → text ≠ "") := by
  rw [requireText] at h
  split at h
  · cases h
  rename_i hempty
  split at h
  · cases h
  rename_i hlong
  refine ⟨by omega, ?_⟩
  rintro rfl rfl
  exact hempty (by simp)

theorem parseSessionOpenObject_ok {message : Message} {opened : SessionOpen}
    (h : parseSessionOpenObject message = .ok opened) :
    field message "request_id" = .str opened.requestId ∧ identifierMatches opened.requestId = true := by
  rw [parseSessionOpenObject] at h
  simp only [bind_ok, reject_ok, exists_const] at h
  obtain ⟨_, -, -, h⟩ := h
  split at h
  · simp only [bind_ok, reject_ok, exists_const] at h
    obtain ⟨-, requestId, hid, deviceId, -, profiles, -, h⟩ := h
    split at h
    · simp at h
    · simp only [bind_ok, reject_ok, exists_const, pure_ok] at h
      obtain ⟨-, _, -, _, -, rfl⟩ := h
      exact requireIdentifier_ok hid
  · simp [bind_ok] at h

theorem open_effect (message : Message) :
    Effect b (.receiveControl message) (b.emit (b.open message) fun e => .control { outbound := [e] }).1
      (b.emit (b.open message) fun e => .control { outbound := [e] }).2 := by
  rw [emit.eq_def]
  split
  · exact .rejected _ _
  · rename_i b' e h
    rw [«open»] at h
    simp only [bind_ok, reject_ok, exists_const, Bool.not_eq_true] at h
    obtain ⟨hopened, hclosed, opened, hparse, -, h⟩ := h
    split at h
    · simp at h
    · simp only [bind_ok, reject_ok, exists_const, pure_ok, Prod.mk.injEq] at h
      obtain ⟨hgrant, rfl, rfl⟩ := h
      obtain ⟨hrequest, hid⟩ := parseSessionOpenObject_ok hparse
      dsimp only
      refine .opened hopened hclosed hid hrequest ?_ rfl rfl
      intro hudp hnone
      exact hgrant ⟨hudp, by rw [hnone]; rfl⟩

theorem stopCause?_text (cause : StopCause) : stopCause? cause.text = some cause := by
  cases cause <;> decide +kernel

/-- The possible results of `cancel_active_response`. -/
theorem cancelEffect_cases (text : String) :
    (∃ e, b.cancelEffect text = (b, .error e)) ∨
    b.Live ∧ b.responses.playback = none ∧ b.cancelEffect text = (b, .ok {}) ∨
    ∃ r cause responses g, b.Live ∧ b.responses.playback = some r ∧ stopCause? text = some cause ∧
      b.responses.fence r (stopOutcome cause) (stopErrorCode cause) = .ok (responses, g) ∧
      b.cancelEffect text = ({ b with responses := responses },
        { b with responses := responses }.fenceEffect r g cause) := by
  rw [cancelEffect]
  split
  · exact .inl ⟨_, rfl⟩
  rename_i hopen
  have hlive := ensureOpen_ok.mp hopen
  split
  · rename_i hnone
    exact .inr (.inl ⟨hlive, hnone, rfl⟩)
  rename_i r hr
  split
  · exact .inl ⟨_, rfl⟩
  rename_i cause hcause
  rw [fencePlayback]
  split
  · exact .inl ⟨_, rfl⟩
  · rename_i responses g hfence
    exact .inr (.inr ⟨r, cause, responses, g, hlive, hr, hcause, hfence, rfl⟩)

theorem cancelActiveResponse_effect (text : String) :
    Effect b (.cancelActiveResponse text) (b.cancelActiveResponse text).1 (b.cancelActiveResponse text).2 := by
  rw [cancelActiveResponse]
  obtain ⟨e, he⟩ | ⟨hlive, -, he⟩ | ⟨r, cause, responses, g, hlive, hr, -, hfence, he⟩ :=
    b.cancelEffect_cases text
  · rw [he]
    exact .rejected _ e
  · rw [he]
    exact .unmoved hlive (.inl ⟨text, rfl⟩)
  · rw [he]
    exact .fenced hlive hr hfence rfl

theorem cancelRequest_some {message : Message} {request : String × Key}
    (h : b.cancelRequest message = .ok (some request)) : b.responses.playback ≠ none := by
  rw [cancelRequest] at h
  simp only [bind_ok, reject_ok, exists_const] at h
  obtain ⟨_, -, _, -, requestId, -, -, identity, -, h⟩ := h
  split at h
  · simp only [bind_ok, pure_ok, reduceCtorEq, and_false, exists_false] at h
  · simp only [bind_ok, reject_ok, exists_const, pure_ok] at h
    intro hnone
    rw [hnone] at h
    simp at h

theorem cancel_effect (message : Message) (hlive : b.Live) :
    Effect b (.receiveControl message) (b.cancel message).1 (b.cancel message).2 := by
  rw [cancel.eq_def]
  split
  · exact .rejected _ _
  · exact .unmoved hlive (.inr ⟨message, rfl⟩)
  · rename_i requestId identity hrequest
    obtain ⟨e, he⟩ | ⟨-, hnone, he⟩ | ⟨r, cause, responses, g, -, hr, hcause, hfence, he⟩ :=
      b.cancelEffect_cases StopCause.explicitUserRequest.text
    · rw [he]
      exact .rejected _ e
    · exact absurd hnone (cancelRequest_some hrequest)
    · rw [stopCause?_text, Option.some.injEq] at hcause
      subst hcause
      rw [he]
      split
      · rename_i b' e hresult
        obtain ⟨rfl, hfailed⟩ := Prod.mk.inj hresult
        exact .fenceFailed hlive hr hfence rfl hfailed
      · rename_i b' effect hresult
        obtain ⟨rfl, heffect⟩ := Prod.mk.inj hresult
        exact .fencedOnRequest hlive hr hfence rfl heffect

theorem parseClose_ok {message : Message} {reason : String} (h : b.parseClose message = .ok reason) :
    reason ∈ closeReasons := by
  have hreason : ∀ {value : Json} {reason : String}, closeReason? value = .ok reason → reason ∈ closeReasons := by
    intro value reason hv
    rw [closeReason?.eq_def] at hv
    split at hv
    · cases hv
    · split at hv
      · split at hv
        · rename_i hmem
          cases hv
          exact hmem
        · cases hv
      · cases hv
  rw [parseClose] at h
  simp only [bind_ok, reject_ok, exists_const] at h
  obtain ⟨_, -, _, -, -, reason', hvalue, h⟩ := h
  split at h
  · rw [pure_ok] at h
    exact h ▸ hreason hvalue
  · simp only [bind_ok, pure_ok] at h
    obtain ⟨_, -, rfl⟩ := h
    exact hreason hvalue
  · simp at h

theorem receiveClose_effect (message : Message) (hlive : b.Live) :
    Effect b (.receiveControl message) (b.receiveClose message).1 (b.receiveClose message).2 := by
  rw [receiveClose]
  split
  · exact .rejected _ _
  rename_i reason hreason
  have hmem := parseClose_ok hreason
  obtain ⟨e, he⟩ | ⟨-, hnone, he⟩ | ⟨r, cause, responses, g, -, hr, hcause, hfence, he⟩ :=
    b.cancelEffect_cases StopCause.sessionClose.text
  · rw [he]
    exact .rejected _ e
  · rw [he]
    dsimp only
    exact .closing hlive hnone hmem
  · rw [stopCause?_text, Option.some.injEq] at hcause
    subst hcause
    rw [he]
    split
    · rename_i b' e hresult
      obtain ⟨rfl, hfailed⟩ := Prod.mk.inj hresult
      exact .fenceFailed hlive hr hfence rfl hfailed
    · rename_i b' effect hresult
      obtain ⟨rfl, heffect⟩ := Prod.mk.inj hresult
      dsimp only
      exact .fencedOnClose hlive hr hfence rfl heffect hmem

theorem playbackStarted_effect (message : Message) (hlive : b.Live) :
    Effect b (.receiveControl message) (b.playbackStarted message).1 (b.playbackStarted message).2 := by
  rw [playbackStarted, commit.eq_def]
  split
  · exact .rejected _ _
  · rename_i b' reply h
    simp only [bind_ok, pure_ok] at h
    obtain ⟨_, -, _, -, ⟨responseId, generation⟩, -, first, -, ⟨responses, r⟩, hstarted, h⟩ := h
    obtain ⟨rfl, rfl⟩ := Prod.mk.inj h
    exact .started hlive hstarted

theorem playbackEnded_effect (message : Message) (hlive : b.Live) :
    Effect b (.receiveControl message) (b.playbackEnded message).1 (b.playbackEnded message).2 := by
  rw [playbackEnded]
  split
  · exact .rejected _ _
  · exact .ended hlive rfl

theorem receiveControl_effect (message : Message) :
    Effect b (.receiveControl message) (b.receiveControl message).1 (b.receiveControl message).2 := by
  rw [receiveControl]
  split
  · exact open_effect message
  split
  · exact .rejected _ _
  rename_i hopen
  have hlive := ensureOpen_ok.mp hopen
  split
  · exact cancel_effect message hlive
  split
  · exact playbackStarted_effect message hlive
  split
  · exact playbackEnded_effect message hlive
  split
  · exact receiveClose_effect message hlive
  · exact .rejected _ _

theorem receiveMedia_effect (raw : List UInt8) :
    Effect b (.receiveMedia raw) (b.receiveMedia raw).1 (b.receiveMedia raw).2 := by
  rw [receiveMedia, commit.eq_def]
  split
  · exact .rejected _ _
  · rename_i b' reply h
    simp only [bind_ok, reject_ok, exists_const, pure_ok] at h
    obtain ⟨_, hopen, -, frame, -, -, -, -, h⟩ := h
    obtain ⟨rfl, rfl⟩ := Prod.mk.inj h
    exact .uplink (ensureOpen_ok.mp hopen)

theorem reserve_ok {b' : Binding} {r : Ref} {n : Nat} (h : b.reserve r = .ok (b', n)) :
    ∃ responses, b.nextDownlinkSequence ≤ uint32Max ∧
      b.responses.noteMedia r b.nextDownlinkSequence = .ok responses ∧ n = b.nextDownlinkSequence ∧
      b' = { b with responses := responses, nextDownlinkSequence := b.nextDownlinkSequence + 1 } := by
  rw [reserve] at h
  simp only [bind_ok, reject_ok, exists_const, pure_ok] at h
  obtain ⟨hle, responses, hnote, h⟩ := h
  obtain ⟨rfl, rfl⟩ := Prod.mk.inj h
  exact ⟨responses, Nat.le_of_not_gt hle, hnote, rfl, rfl⟩

theorem reserveDownlinkMedia_effect (r : Ref) :
    Effect b (.reserveDownlinkMedia r) (b.reserveDownlinkMedia r).1 (b.reserveDownlinkMedia r).2 := by
  rw [reserveDownlinkMedia, commit.eq_def]
  split
  · exact .rejected _ _
  · rename_i b' reply h
    rw [map_ok] at h
    obtain ⟨⟨b'', n⟩, hreserve, h⟩ := h
    obtain ⟨rfl, rfl⟩ := Prod.mk.inj h
    obtain ⟨responses, hle, hnote, rfl, rfl⟩ := reserve_ok hreserve
    exact .reserved hle hnote

theorem serializeAudio_effect (payload : List UInt8) (timestamp : Int) (r : Ref) :
    Effect b (.serializeAudio payload timestamp r) (b.serializeAudio payload timestamp r).1
      (b.serializeAudio payload timestamp r).2 := by
  rw [serializeAudio]
  split
  · exact .rejected _ _
  · rename_i b' n h
    simp only [bind_ok, reject_ok, exists_const] at h
    obtain ⟨_, hopen, hprofile, hreserve⟩ := h
    obtain ⟨responses, hle, hnote, rfl, rfl⟩ := reserve_ok hreserve
    exact .serialized (ensureOpen_ok.mp hopen) (not_not.mp hprofile) hle hnote rfl

theorem noteDownlinkMedia_effect (r : Ref) (sequence : Int) :
    Effect b (.noteDownlinkMedia r sequence) (b.noteDownlinkMedia r sequence).1
      (b.noteDownlinkMedia r sequence).2 := by
  rw [noteDownlinkMedia, commit.eq_def]
  split
  · exact .rejected _ _
  · rename_i b' reply h
    simp only [bind_ok, pure_ok] at h
    obtain ⟨n, hn, responses, hnote, h⟩ := h
    obtain ⟨rfl, rfl⟩ := Prod.mk.inj h
    exact .noted (validateUint32_ok le_rfl hn).2.2 hnote

theorem transcript_ok {b' : Binding} {utteranceId text : String} {sequence : Int} {maximumBytes : Nat}
    {final : Bool} {make : String → Nat → String → ServerEvent} {e : ServerEvent}
    (h : b.transcript utteranceId sequence text maximumBytes final make = .ok (b', e)) :
    ∃ n : Nat, b.Live ∧ identifierMatches utteranceId = true ∧ sequence = n ∧ n ≤ uint32Max ∧
      utf8Length text.toList ≤ maximumBytes ∧ (final = false → text ≠ "") ∧
      b.advanceTranscript utteranceId n final = .ok b' ∧ e = make utteranceId n text := by
  rw [transcript] at h
  simp only [bind_ok, pure_ok] at h
  obtain ⟨_, hopen, id, hid, n, hn, _, htext, b'', hadvance, h⟩ := h
  obtain ⟨rfl, rfl⟩ := Prod.mk.inj h
  obtain ⟨hstr, hmatch⟩ := requireIdentifier_ok hid
  obtain rfl := Json.str.inj hstr
  obtain ⟨hseq, -, hle⟩ := validateUint32_ok le_rfl hn
  obtain ⟨hbytes, hnonempty⟩ := requireText_ok htext
  exact ⟨n, ensureOpen_ok.mp hopen, hmatch, hseq, hle, hbytes, hnonempty, hadvance, rfl⟩

theorem transcriptDelta_effect (utteranceId : String) (sequence : Int) (text : String) :
    Effect b (.transcriptDelta utteranceId sequence text) (b.transcriptDelta utteranceId sequence text).1
      (b.transcriptDelta utteranceId sequence text).2 := by
  rw [transcriptDelta, emit.eq_def]
  split
  · exact .rejected _ _
  · rename_i b' e h
    obtain ⟨n, hlive, hid, hseq, hle, hbytes, hnonempty, hadvance, rfl⟩ := transcript_ok h
    dsimp only
    exact .transcribed false hlive hid hseq hle hbytes hnonempty hadvance rfl rfl

theorem transcriptFinal_effect (utteranceId : String) (sequence : Int) (text : String) :
    Effect b (.transcriptFinal utteranceId sequence text) (b.transcriptFinal utteranceId sequence text).1
      (b.transcriptFinal utteranceId sequence text).2 := by
  rw [transcriptFinal, emit.eq_def]
  split
  · exact .rejected _ _
  · rename_i b' e h
    obtain ⟨n, hlive, hid, hseq, hle, hbytes, hnonempty, hadvance, rfl⟩ := transcript_ok h
    dsimp only
    exact .transcribed true hlive hid hseq hle hbytes hnonempty hadvance rfl rfl

theorem responseBegin_effect (responseId : String) (producerEpoch : Int) :
    Effect b (.responseBegin responseId producerEpoch) (b.responseBegin responseId producerEpoch).1
      (b.responseBegin responseId producerEpoch).2 := by
  have hinv : ∀ {x : Coordinator × Ref × Bool}, (do
      b.ensureOpen
      let responseId ← requireIdentifier (.str responseId) "response_id"
      b.responses.begin responseId producerEpoch : Except RvaError (Coordinator × Ref × Bool)) = .ok x →
      b.Live ∧ identifierMatches responseId = true ∧ b.responses.begin responseId producerEpoch = .ok x := by
    intro x h
    simp only [bind_ok] at h
    obtain ⟨_, hopen, id, hid, h⟩ := h
    obtain ⟨hstr, hmatch⟩ := requireIdentifier_ok hid
    obtain rfl := Json.str.inj hstr
    exact ⟨ensureOpen_ok.mp hopen, hmatch, h⟩
  rw [responseBegin]
  split
  · exact .rejected _ _
  · rename_i responses r h
    obtain ⟨hlive, -, hbegin⟩ := hinv h
    rw [(Coordinator.begin_again hbegin).1]
    exact .again hlive
  · rename_i responses r h
    obtain ⟨hlive, hid, hbegin⟩ := hinv h
    dsimp only
    split
    · rename_i hnone
      rw [(Coordinator.begin_moves hbegin).2] at hnone
      cases hnone
    · rename_i rec hrec
      dsimp only
      exact .begun hlive hid hbegin hrec rfl

theorem responseText_effect (r : Ref) (sequence : Int) (text : String) :
    Effect b (.responseText r sequence text) (b.responseText r sequence text).1
      (b.responseText r sequence text).2 := by
  rw [responseText, emit.eq_def]
  split
  · exact .rejected _ _
  · rename_i b' e h
    simp only [bind_ok, reject_ok, exists_const] at h
    obtain ⟨_, hopen, haccepts, n, hn, hseq, _, htext, h⟩ := h
    split at h
    · simp at h
    · rename_i rec hrec
      rw [pure_ok] at h
      obtain ⟨rfl, rfl⟩ := Prod.mk.inj h
      obtain ⟨hint, -, hle⟩ := validateUint32_ok le_rfl hn
      obtain ⟨hbytes, hnonempty⟩ := requireText_ok htext
      obtain rfl : n = b.nextResponseTextSequence := not_not.mp hseq
      dsimp only
      exact .texted (ensureOpen_ok.mp hopen) (by simpa using haccepts) hrec hint hle hbytes (hnonempty rfl) rfl

theorem responseEnd_effect (r : Ref) :
    Effect b (.responseEnd r) (b.responseEnd r).1 (b.responseEnd r).2 := by
  rw [responseEnd, emit.eq_def]
  split
  · exact .rejected _ _
  · rename_i b' e h
    simp only [bind_ok] at h
    obtain ⟨_, hopen, responses, hcomplete, h⟩ := h
    split at h
    · simp at h
    · rename_i rec hrec
      rw [pure_ok] at h
      obtain ⟨rfl, rfl⟩ := Prod.mk.inj h
      dsimp only
      exact .completed (ensureOpen_ok.mp hopen) hcomplete hrec rfl

theorem sessionError_effect (code : String) (retryable : Bool) (message : String) :
    Effect b (.sessionError code retryable message) (b.sessionError code retryable message).1
      (b.sessionError code retryable message).2 := by
  rw [sessionError, emit.eq_def]
  split
  · exact .rejected _ _
  · rename_i b' e h
    simp only [bind_ok, reject_ok, exists_const, pure_ok] at h
    obtain ⟨_, hopen, hcode, _, htext, h⟩ := h
    obtain ⟨rfl, rfl⟩ := Prod.mk.inj h
    dsimp only
    exact .errored (ensureOpen_ok.mp hopen) (by simpa using hcode) (requireText_ok htext).1

theorem call_effect (b : Binding) (c : Call) : Effect b c (b.call c).1 (b.call c).2 := by
  cases c with
  | receiveControl message => exact receiveControl_effect message
  | cancelActiveResponse cause => exact cancelActiveResponse_effect cause
  | receiveMedia raw => exact receiveMedia_effect raw
  | serializeAudio payload timestamp r => exact serializeAudio_effect payload timestamp r
  | reserveDownlinkMedia r => exact reserveDownlinkMedia_effect r
  | noteDownlinkMedia r sequence => exact noteDownlinkMedia_effect r sequence
  | transcriptDelta utteranceId sequence text => exact transcriptDelta_effect utteranceId sequence text
  | transcriptFinal utteranceId sequence text => exact transcriptFinal_effect utteranceId sequence text
  | responseBegin responseId producerEpoch => exact responseBegin_effect responseId producerEpoch
  | responseText r sequence text => exact responseText_effect r sequence text
  | responseEnd r => exact responseEnd_effect r
  | sessionError code retryable message => exact sessionError_effect code retryable message
  | close => exact .closed

theorem step_effect {b b' : Binding} {e : Event} (h : Step b e b') : Effect b e.1 b' e.2 := by
  have he := call_effect b e.1
  rwa [show b.call e.1 = (b', e.2) from h] at he

end Binding

end RealtimeVoice.Rva
