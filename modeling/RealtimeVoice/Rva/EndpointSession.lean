import RealtimeVoice.Base.Deliveries
import RealtimeVoice.Firmware.Supervisor
import RealtimeVoice.Rva.ControlChannel
import RealtimeVoice.Udp.MediaFormat

namespace RealtimeVoice.Rva

open RealtimeVoice.Base RealtimeVoice.Base.Json RealtimeVoice.Base.Runs RealtimeVoice.Contracts RealtimeVoice.Firmware
open RealtimeVoice.Rva.Coordinator (Moves Consistent noted stopped)

/-- What the session of an endpoint knows of the coordinator's state. -/
structure Follows (c : Coordinator) (s : WssSession) : Prop where
  fence : s.playbackFence = c.session.generation
  responding : s.responseActive = c.active.isSome
  playing : c.active.isSome = true → s.mediaActive = true
  target : ∀ (r : Ref) (rec : ResponseRecord), c.playback = some r → c.heap[r]? = some rec →
    s.responseId = rec.responseId ∧ s.responseGeneration = rec.target.generation ∧ s.stopRecorded = rec.stopSent
  level : ∀ target, c.session.activePlayback = some target → target.generation = c.session.generation

namespace Follows

variable {c c' : Coordinator} {s : WssSession} {r : Ref} {rec : ResponseRecord}

theorem init (v : VoiceSession) (hgeneration : v.generation = 0) (hplayback : v.activePlayback = none)
    (openRequestId : String) : Follows { session := v } { openRequestId } where
  fence := hgeneration.symm
  responding := rfl
  playing := by simp
  target := by simp
  level := by simp [hplayback]

/-- A change of one record that leaves its identity and its stop alone. -/
theorem retouch (h : Follows c s) (r : Ref) {f : ResponseRecord → ResponseRecord}
    (hf : ∀ rec, (f rec).responseId = rec.responseId ∧ (f rec).target = rec.target ∧ (f rec).stopSent = rec.stopSent) :
    Follows (c.update r f) s := by
  refine ⟨h.fence, h.responding, h.playing, ?_, h.level⟩
  intro r' rec' hplayback hrec'
  obtain ⟨rec, hrec, rfl⟩ := Coordinator.update_back hrec'
  obtain ⟨hid, htarget, hstop⟩ := h.target r' rec hplayback hrec
  split
  · rw [(hf rec).1, (hf rec).2.1, (hf rec).2.2]
    exact ⟨hid, htarget, hstop⟩
  · exact ⟨hid, htarget, hstop⟩

theorem noted (h : Follows c s) {n : Nat} (hnote : c.noteMedia r n = .ok c') : Follows c' s := by
  cases Coordinator.noteMedia_moves hnote with
  | media _ _ _ => exact h.retouch r fun rec => ⟨rfl, rfl, rfl⟩

/-- The frames of an accepted response are for the playback of the endpoint. -/
theorem accepts (h : Follows c s) (hc : c.Consistent) (haccepts : c.accepts r = true) (hrec : c.heap[r]? = some rec) :
    s.mediaActive = true ∧ s.playbackFence = rec.target.generation ∧ s.responseGeneration = rec.target.generation := by
  obtain ⟨hactive, rec', hrec', -, hplaying⟩ := (Coordinator.accepts_iff c r).mp haccepts
  obtain rfl := Option.some.inj (hrec'.symm.trans hrec)
  obtain ⟨-, htarget, -⟩ := h.target r rec' (hc.active r hactive) hrec
  exact ⟨h.playing (congrArg Option.isSome hactive), h.fence.trans (h.level _ hplaying).symm, htarget⟩

theorem started (h : Follows c s) {responseId : String} {generation first : Nat}
    (hstarted : c.playbackStarted responseId generation first = .ok (c', r)) : Follows c' s := by
  cases Coordinator.playbackStarted_moves hstarted with
  | started _ _ => exact h.retouch r fun rec => ⟨rfl, rfl, rfl⟩

theorem ended (h : Follows c s) (hm : Moves c (.ended r) c') : Follows c' s := by
  cases hm with
  | ended hrec hplayback _ _ =>
    refine ⟨?_, h.responding, h.playing, by simp, ?_⟩
    · rw [h.fence]
      dsimp only
      split <;> rfl
    · intro target htarget
      dsimp only at htarget ⊢
      split at htarget
      · cases htarget
      · rename_i hfinish
        rw [if_neg hfinish]
        exact h.level target htarget

/-- What the end of a playback does, whatever it answers. -/
theorem endedCall (h : Follows c s) (hc : c.Consistent) (hopen : c.session.closed = false) {responseId : String}
    {generation samples : Nat} {outcome : PlaybackOutcome} {last : Option Nat} {result : Except RvaError PlaybackEndedFact}
    (hended : c.playbackEnded responseId generation outcome samples last = (c', result)) : Follows c' s := by
  obtain ⟨e, he⟩ | ⟨d, fact, he, hm⟩ | ⟨d, e, r, he, hm⟩ :=
    c.playbackEnded_moves responseId generation samples outcome last hopen
  · obtain ⟨rfl, -⟩ := Prod.mk.inj (he.symm.trans hended)
    exact h
  · obtain ⟨rfl, -⟩ := Prod.mk.inj (he.symm.trans hended)
    exact h.ended hm
  · cases hm with
    | unfinished hrec hplayback hfinish hsession =>
      exact absurd (hc.finishes hrec hplayback hopen hfinish) hsession

/-- A response that begins in both. -/
theorem begun (h : Follows c s) (hm : Moves c (.begun r) c') (hrec : c'.heap[r]? = some rec)
    (hs : s' = { s with
      playbackFence := rec.target.generation
      responseGeneration := rec.target.generation
      responseId := rec.responseId
      nextResponseTextSequence := 0
      responseActive := true
      mediaActive := true
      stopRecorded := false
      lastStopFenceGeneration := 0
      lastStopCause := .none }) :
    s.responseActive = false ∧ s.playbackFence < rec.target.generation ∧ Follows c' s' := by
  subst hs
  cases hm with
  | begun hactive hplayback hclosed htarget =>
    obtain rfl : rec = _ := Option.some.inj (hrec.symm.trans List.getElem?_concat_length)
    have hgeneration := congrArg PlaybackRef.generation htarget
    dsimp only at hgeneration ⊢
    refine ⟨?_, ?_, hgeneration, rfl, fun _ => rfl, ?_, ?_⟩
    · rw [h.responding, hactive]
      rfl
    · rw [h.fence, hgeneration]
      exact Nat.lt_succ_self _
    · intro r' rec' hr' hrec'
      obtain rfl := Option.some.inj hr'
      obtain rfl := Option.some.inj (hrec.symm.trans hrec')
      exact ⟨rfl, rfl, rfl⟩
    · rintro target ⟨⟩
      exact hgeneration

/-- A response that ends in both, complete. -/
theorem completed (h : Follows c s) (hm : Moves c (.completed r) c')
    (hrec : c'.heap[r]? = some rec) :
    (s.responseActive = true ∧ s.responseId = rec.responseId ∧ s.responseGeneration = rec.target.generation) ∧
      Follows c' { s with responseActive := false, mediaActive := false } := by
  cases hm with
  | @completed _ rec₀ n hrec₀ _ hactive hplayback =>
    rw [Coordinator.rememberTerminal_eq] at hrec ⊢
    have hself := Coordinator.update_self { c with active := none }
      (fun rec => { rec with outcome := some .completed }) rfl hrec₀
    obtain rfl := Option.some.inj (hrec.symm.trans hself)
    obtain ⟨hid, hgeneration, hstop⟩ := h.target r rec₀ hplayback hrec₀
    refine ⟨⟨?_, hid, hgeneration⟩, h.fence, rfl, fun hsome => (by cases hsome), ?_, h.level⟩
    · rw [h.responding, hactive]
      rfl
    · intro r' rec' hr' hrec'
      obtain rfl := Option.some.inj (hplayback.symm.trans hr')
      obtain rfl := Option.some.inj (hrec'.symm.trans hself)
      exact ⟨hid, hgeneration, hstop⟩

/-- The session after the stop of its response. -/
def stoppedAt (s : WssSession) (g : Nat) (cause : PlaybackStopCause) : WssSession :=
  { s with
    playbackFence := g
    lastStopFenceGeneration := g
    lastStopCause := cause
    stopRecorded := true
    mediaActive := false }

theorem moves_fenced_frame {g : Nat} (hm : Moves c (.fenced r g) c') :
    c'.session.generation = g ∧ c'.session.activePlayback = none ∧ c'.playback = some r ∧
      c'.active = if c.active == some r then none else c.active := by
  cases hm with
  | fenced _ hplayback _ _ _ _ => exact ⟨rfl, rfl, hplayback, rfl⟩

/-- A playback that is stopped in both. Its response ends too, unless it was complete. -/
theorem fenced (h : Follows c s) (hc : c.Consistent) {g : Nat} (hm : Moves c (.fenced r g) c')
    (hrec : c'.heap[r]? = some rec) (cause : PlaybackStopCause) :
    (s.responseId = rec.responseId ∧ s.responseGeneration = rec.target.generation ∧ s.stopRecorded = false ∧
      s.playbackFence < g) ∧
    if rec.outcome = some .completed then Follows c' (stoppedAt s g cause)
    else s.responseActive = true ∧ Follows c' { stoppedAt s g cause with responseActive := false } := by
  obtain ⟨rec₀, outcome, code, hrec₀, hplayback, hstop, hg, hgeneration, houtcome, hrec'⟩ :=
    Coordinator.moves_fenced hm
  obtain ⟨-, hsession, hplayback', hactive'⟩ := moves_fenced_frame hm
  obtain rfl := Option.some.inj (hrec.symm.trans hrec')
  obtain ⟨hid, htarget, hrecorded⟩ := h.target r rec₀ hplayback hrec₀
  obtain ⟨rec₁, hrec₁, hcurrent⟩ := hc.current r hplayback
  obtain rfl := Option.some.inj (hrec₁.symm.trans hrec₀)
  refine ⟨⟨hid, htarget, hrecorded.trans hstop, ?_⟩, ?_⟩
  · rw [h.fence, hg]
    exact Nat.lt_succ_self _
  have hfollows : ∀ s' : WssSession, s'.playbackFence = g → s'.responseActive = c'.active.isSome → c'.active = none →
      s'.responseId = s.responseId → s'.responseGeneration = s.responseGeneration → s'.stopRecorded = true →
      Follows c' s' := by
    intro s' hfence hresponding hnone hid' htarget' hrecorded'
    refine ⟨hfence.trans hgeneration.symm, hresponding, fun hsome => ?_, ?_, fun target hsome => ?_⟩
    · rw [hnone] at hsome
      cases hsome
    · intro r' rec' hr' hrec''
      obtain rfl := Option.some.inj (hplayback'.symm.trans hr')
      obtain rfl := Option.some.inj (hrec''.symm.trans hrec')
      exact ⟨hid'.trans hid, htarget'.trans htarget, hrecorded'⟩
    · rw [hsession] at hsome
      cases hsome
  by_cases hlive : c.active = some r
  · have hbeq : (c.active == some r) = true := beq_iff_eq.mpr hlive
    have hnone : c'.active = none := by rw [hactive', if_pos hbeq]
    have hout : (stopped (c.active == some r) outcome code rec₁).outcome = some outcome := by
      rw [stopped, hbeq]
      rfl
    rw [hout, if_neg (fun heq => houtcome (Option.some.inj heq))]
    refine ⟨h.responding.trans (congrArg Option.isSome hlive), hfollows _ rfl ?_ hnone rfl rfl rfl⟩
    rw [hnone]
    rfl
  · have hbeq : (c.active == some r) = false := beq_eq_false_iff_ne.mpr hlive
    have hidle := hc.active_none hplayback hlive
    have hnone : c'.active = none := by rw [hactive', hbeq, if_neg Bool.false_ne_true, hidle]
    have hcompleted : rec₁.outcome = some .completed :=
      (hcurrent.unfenced hstop).resolve_left fun hnot => hlive (hcurrent.live.mpr hnot)
    have hout : (stopped (c.active == some r) outcome code rec₁).outcome = some .completed := by
      rw [stopped, hbeq]
      exact hcompleted
    rw [if_pos hout]
    refine hfollows _ rfl ?_ hnone rfl rfl rfl
    rw [hnone]
    exact h.responding.trans (congrArg Option.isSome hidle)

end Follows

/-- What the binding sends: a control event, or a media frame. -/
inductive Sent.Item
  | event (e : ServerEvent)
  | media (frame : List UInt8)

/-- What a call sends, in its order. -/
def sentItems (e : Binding.Event) : List Sent.Item :=
  (emits e.2).map .event ++
    match e.2 with
    | .ok (.media frame) => [.media frame]
    | _ => []

namespace Sent.Item

/-- The frame on the wire. -/
def frame (config : BindingConfig) : Sent.Item → Supervisor.Frame
  | .event e => .text (dumps (.obj (e.message config.sessionId config.sessionEpoch)))
  | .media frame => .binary frame

/-- The endpoint leaves the session after these. -/
def final : Sent.Item → Bool
  | .event (.sessionError _ _ _) => true
  | .event (.sessionClose _) => true
  | _ => false

/-- What an endpoint has to make of an item, its playback queue answering so. -/
def expected (item : Sent.Item) (r : SupervisorReads) : List RuntimeEvent :=
  match item with
  | .event (.sessionOpened _ _ _ profile _) => [.mediaProfile (if profile = .udpOpusGcm then .udp else .wss)]
  | .event (.transcriptDelta _ _ text) => [.transcript text false]
  | .event (.transcriptFinal _ _ text) => [.transcript text true]
  | .event (.responseBegin responseId generation) => [.begin { responseId, generation }]
  | .event (.responseText _ _ _ text) => [.responseText text]
  | .event (.responseEnd responseId generation .completed _ last) =>
    last.toList.map (.complete { responseId, generation })
  | .event (.responseEnd _ _ _ _ _) => []
  | .event (.playbackStop responseId generation fenceGeneration _) =>
    [.stop { responseId, generation } fenceGeneration]
  | .event (.sessionError _ retryable _) =>
    [.failure (if retryable then "session_error_retryable" else "session_error_terminal")]
  | .event (.sessionClose _) => []
  | .media frame =>
    match WssMediaFrame.parse frame with
    | .ok f => (Supervisor.enqueueMedia r (.media f.sequence f.generation f.payload)).2
    | .error _ => []

theorem expected_event (e : ServerEvent) (r r' : SupervisorReads) : expected (.event e) r = expected (.event e) r' := by
  cases e with
  | responseEnd _ _ outcome _ _ => cases outcome <;> rfl
  | _ => rfl

end Sent.Item

/-- The supervisor of an endpoint at the other end of the connection. -/
def endpoint (cJSON : List Char → Option Json) (config : BindingConfig) :
    Peer Supervisor Sent.Item SupervisorReads RuntimeEvent where
  react s item r := s.handleFrame cJSON r (item.frame config)
  running s := s.running
  stopped s item r h := by rw [Supervisor.handleFrame.eq_def, h, if_neg Bool.false_ne_true]

section Accept

open RealtimeVoice.Firmware.WssSession

variable {s : WssSession} {session : Control.SessionIdentity} (hclosed : s.closed = false)
  (hopened : s.opened = true) (hmatches : s.sessionMatches session = true)

include hclosed hopened hmatches

/-- The next part of the utterance, or the first part of one. -/
theorem accept_transcript {final : Bool} {utteranceId text : String} {n : Nat}
    (hnext : s.utteranceActive = false ∧ n = 0 ∨
      s.utteranceActive = true ∧ s.utteranceId = utteranceId ∧ n = s.nextTranscriptSequence) :
    s.accept (.transcript { final, session, utteranceId, sequence := n, text }) =
      ({ s with
          utteranceId := if final then "" else utteranceId
          nextTranscriptSequence := increment n
          utteranceActive := !final }, .accepted) := by
  rw [accept, if_neg (ne_true_of_eq_false hclosed)]
  obtain ⟨hactive, rfl⟩ | ⟨hactive, rfl, rfl⟩ := hnext
  · cases final <;> simp [acceptTranscript, hopened, hmatches, hactive]
  · cases final <;> simp [acceptTranscript, hopened, hmatches, hactive]

theorem accept_begin (responseId : String) {generation : Nat} (hactive : s.responseActive = false)
    (hfence : s.playbackFence < generation) :
    s.accept (.response { type := .responseBegin, session, responseId, generation }) =
      ({ s with
          playbackFence := generation
          responseGeneration := generation
          responseId := responseId
          nextResponseTextSequence := 0
          responseActive := true
          mediaActive := true
          stopRecorded := false
          lastStopFenceGeneration := 0
          lastStopCause := .none }, .accepted) := by
  rw [accept, if_neg (ne_true_of_eq_false hclosed)]
  simp [acceptResponse, hopened, hmatches, hactive, hfence]

theorem accept_text {responseId text : String} {generation n : Nat} (hactive : s.responseActive = true)
    (hid : s.responseId = responseId) (hgeneration : s.responseGeneration = generation)
    (hn : n = s.nextResponseTextSequence) :
    s.accept (.response { type := .responseText, session, responseId, generation, sequence := n, text }) =
      ({ s with nextResponseTextSequence := increment n }, .accepted) := by
  subst hid hgeneration hn
  rw [accept, if_neg (ne_true_of_eq_false hclosed)]
  simp [acceptResponse, hopened, hmatches, hactive]

theorem accept_end {responseId errorCode : String} {generation : Nat} {outcome : Control.ResponseOutcome}
    {finalMediaSequence : Option Nat} (hactive : s.responseActive = true) (hid : s.responseId = responseId)
    (hgeneration : s.responseGeneration = generation) :
    s.accept (.response { type := .responseEnd, session, responseId, generation, outcome, finalMediaSequence
                          errorCode }) =
      ({ s with responseActive := false, mediaActive := false }, .accepted) := by
  subst hid hgeneration
  rw [accept, if_neg (ne_true_of_eq_false hclosed)]
  simp [acceptResponse, hopened, hmatches, hactive]

theorem accept_stop {responseId : String} {generation g : Nat} {cause : StopCause} (hrecorded : s.stopRecorded = false)
    (hid : s.responseId = responseId) (hgeneration : s.responseGeneration = generation) (hfence : s.playbackFence < g) :
    s.accept (.playbackStop { session, target := { responseId, generation }, fenceGeneration := g
                              cause := cause.text }) =
      (Follows.stoppedAt s g (parsePlaybackStopCause cause.text), .accepted) := by
  subst hid hgeneration
  have hcause : parsePlaybackStopCause cause.text ≠ .none := by cases cause <;> decide
  rw [accept, if_neg (ne_true_of_eq_false hclosed)]
  change s.acceptPlaybackStop _ = _
  simp [acceptPlaybackStop, hopened, hmatches, hrecorded, hcause, hfence, Follows.stoppedAt]

theorem accept_error {code message : String} {retryable : Bool} :
    s.accept (.sessionError { session, code, retryable, message }) = (s, .accepted) := by
  rw [accept, if_neg (ne_true_of_eq_false hclosed)]
  simp [acceptError, hopened, hmatches]

theorem accept_close (reason initiatedBy : String) :
    ∃ s', s.accept (.sessionClose { session, reason, initiatedBy }) = (s', .accepted) := by
  rw [accept, if_neg (ne_true_of_eq_false hclosed)]
  simp [acceptClose, hopened, hmatches]

omit hmatches in
theorem accept_media {frame : List UInt8} {header : MediaHeader} (hparse : MediaHeader.parse frame .downlink = .ok header)
    (hflags : header.flags = 1) (hmediaId : header.mediaId = s.mediaId) (hepoch : header.mediaEpoch.toNat = s.mediaEpoch)
    (hactive : s.mediaActive = true) (hfence : s.playbackFence ≤ header.generation.toNat)
    (hgeneration : header.generation.toNat = s.responseGeneration)
    (hsequence : header.sequence.toNat = s.nextMediaSequence) :
    s.acceptMedia frame = ({ s with nextMediaSequence := increment s.nextMediaSequence }, .accepted, some header) := by
  rw [acceptMedia, if_neg (ne_true_of_eq_false hclosed), if_neg (by simp [hopened]), hparse]
  dsimp only
  rw [if_neg (by rw [hflags]; decide), if_neg (by simp [hmediaId, hepoch]),
    if_neg (by simp [hactive, hgeneration]; omega), if_neg (by simp [hsequence])]

end Accept

end RealtimeVoice.Rva
