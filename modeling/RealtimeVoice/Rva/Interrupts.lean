import RealtimeVoice.Rva.Runtime
import RealtimeVoice.Rva.Lifecycle

namespace RealtimeVoice.Rva

open RealtimeVoice.Base RealtimeVoice.Base.Runs RealtimeVoice.Contracts

namespace Coordinator

theorem moves_active {c c' : Coordinator} {a : Action} (hm : Moves c a c') (hne : ∀ r, a ≠ .begun r) :
    c'.active = c.active ∨ c'.active = none := by
  cases hm with
  | begun _ _ _ _ => exact absurd rfl (hne _)
  | completed _ _ _ _ => exact .inr rfl
  | @fenced r rec outcome code _ _ _ _ _ _ =>
    rw [rememberTerminal_eq]
    by_cases h : c.active == some r
    · exact .inr (if_pos h)
    · exact .inl (if_neg h)
  | _ => exact .inl rfl

/-- The response that is completed or fenced is the active one, if any is. -/
theorem Consistent.active_terminated {c c' : Coordinator} (h : Consistent c) {a : Action} (hm : Moves c a c') {r : Ref}
    (ha : a = .completed r ∨ ∃ g, a = .fenced r g) : c'.active = none := by
  obtain rfl | ⟨g, rfl⟩ := ha
  · cases hm with
    | completed _ _ _ _ => rfl
  · cases hm with
    | fenced _ hplayback _ _ _ _ =>
      rw [rememberTerminal_eq]
      by_cases hactive : c.active == some r
      · exact if_pos hactive
      · refine (if_neg hactive).trans ?_
        exact h.active_none hplayback (by simpa using hactive)

end Coordinator

namespace Binding

variable {b b' : Binding}

def epochOf (b : Binding) (r : Ref) : Option Int := (b.responses.heap[r]?).map (·.producerEpoch)

/-- What a call keeps that begins no response. -/
structure Kept (b b' : Binding) : Prop where
  consistent : b'.responses.Consistent
  active : b'.responses.active = b.responses.active ∨ b'.responses.active = none
  epochs : ∀ r e, b.epochOf r = some e → b'.epochOf r = some e

theorem call_epochs {c : Call} (hc : b.responses.Consistent) (r : Ref) (e : Int) (h : b.epochOf r = some e) :
    (b.call c).1.epochOf r = some e := by
  have hstep : Step b (c, (b.call c).2) (b.call c).1 := rfl
  obtain ⟨a, hmove, -, -⟩ := step_shows hstep hc
  rw [epochOf, Option.map_eq_some_iff] at h ⊢
  obtain ⟨rec, hrec, rfl⟩ := h
  obtain ⟨rec', hrec', hlater⟩ := Coordinator.moves_later hmove hrec
  exact ⟨rec', hrec', hlater.epoch⟩

theorem effect_active {c : Call} {result : Result} (h : Effect b c b' result)
    (hbegin : ∀ responseId producerEpoch, c ≠ .responseBegin responseId producerEpoch) :
    b'.responses.active = b.responses.active ∨ b'.responses.active = none := by
  obtain ⟨a, hmade⟩ := effect_made h
  refine Coordinator.moves_active hmade.moves ?_
  rintro r rfl
  obtain ⟨responseId, producerEpoch, hcall, -⟩ := hmade.begun r rfl
  exact hbegin responseId producerEpoch hcall

theorem call_kept (hc : b.responses.Consistent) {c : Call}
    (hbegin : ∀ responseId producerEpoch, c ≠ .responseBegin responseId producerEpoch) : Kept b (b.call c).1 where
  consistent := step_consistent (e := (c, (b.call c).2)) rfl hc
  active := effect_active (call_effect b c) hbegin
  epochs := call_epochs hc

/-- A call that asks to interrupt leaves no response active. -/
theorem call_interrupt (hc : b.responses.Consistent) {c : Call} {effect : ControlEffect} {r : Ref}
    (hresult : (b.call c).2 = .ok (.control effect)) (hinterrupt : effect.interrupt = some r) :
    (b.call c).1.responses.active = none := by
  have hstep : Step b (c, (b.call c).2) (b.call c).1 := rfl
  obtain ⟨a, hmove, -, hshows⟩ := step_shows hstep hc
  exact hc.active_terminated hmove (hshows.terminates r (.inr ⟨effect, hresult, hinterrupt⟩))

/-- The calls of the packet loop leave the active response and the session alone. -/
structure Quiet (b b' : Binding) : Prop extends Kept b b' where
  same : b'.responses.active = b.responses.active
  closed : b'.closed = b.closed

theorem noteMedia_frame {c c' : Coordinator} {r : Ref} {n : Nat} (h : c.noteMedia r n = .ok c') :
    c'.active = c.active ∧ c'.session = c.session := by
  cases Coordinator.noteMedia_moves h with
  | media _ _ _ => exact ⟨rfl, rfl⟩

/-- The calls that the packet loop makes. -/
def ofPacket : Call → Bool
  | .responseText _ _ _ => true
  | .noteDownlinkMedia _ _ => true
  | .serializeAudio _ _ _ => true
  | _ => false

theorem effect_same {c : Call} {result : Result} (h : Effect b c b' result) (hc : ofPacket c = true) :
    b'.responses.active = b.responses.active ∧ b'.closed = b.closed := by
  cases h with
  | rejected _ e => exact ⟨rfl, rfl⟩
  | unmoved _ _ => exact ⟨rfl, rfl⟩
  | texted _ _ _ _ _ _ _ hb' =>
    subst hb'
    exact ⟨rfl, rfl⟩
  | serialized _ _ _ hnote _ =>
    obtain ⟨hactive, hsession⟩ := noteMedia_frame hnote
    exact ⟨hactive, congrArg VoiceSession.closed hsession⟩
  | noted _ hnote =>
    obtain ⟨hactive, hsession⟩ := noteMedia_frame hnote
    exact ⟨hactive, congrArg VoiceSession.closed hsession⟩
  | transcribed final _ _ _ _ _ _ _ hcall _ =>
    subst hcall
    cases final <;> simp [ofPacket] at hc
  | _ => simp [ofPacket] at hc

theorem call_quiet (hc : b.responses.Consistent) {c : Call} (hpacket : ofPacket c = true) : Quiet b (b.call c).1 := by
  obtain ⟨hactive, hclosed⟩ := effect_same (call_effect b c) hpacket
  refine ⟨call_kept hc ?_, hactive, hclosed⟩
  rintro responseId producerEpoch rfl
  simp [ofPacket] at hpacket

/-- The active response of an open session accepts media. -/
theorem accepts_active (hc : b.responses.Consistent) {r : Ref} (hactive : b.responses.active = some r)
    (hopen : b.closed = false) : b.responses.accepts r = true := by
  obtain ⟨rec, hrec, hcur⟩ := hc.current r (hc.active r hactive)
  rw [Coordinator.accepts_iff]
  refine ⟨hactive, rec, hrec, hopen, hcur.holds hopen ?_⟩
  by_contra hstop
  rw [Bool.not_eq_false] at hstop
  exact hc.stopped r rec hrec hstop (hcur.live.mp hactive)

theorem noteMedia_stale {c : Coordinator} {r : Ref} {n : Nat} {e : RvaError} (h : c.noteMedia r n = .error e) :
    c.accepts r = false := by
  rw [Coordinator.noteMedia] at h
  split at h
  · rename_i hnot
    simpa using hnot
  · cases h

theorem bind_error {α β : Type} {x : Except RvaError α} {f : α → Except RvaError β} {e : RvaError} :
    (x >>= f) = .error e ↔ x = .error e ∨ ∃ a, x = .ok a ∧ f a = .error e := by
  cases x with
  | error e' => simp [bind, Except.bind]
  | ok a => simp [bind, Except.bind]

theorem reject_error {p : Prop} [Decidable p] {code : String} {e : RvaError} (h : reject p code = .error e) :
    e = .binding code := by
  rw [reject] at h
  split at h
  · exact (Except.error.inj h).symm
  · cases h

theorem validateUint32_error {field : String} {value minimum : Int} {e : RvaError}
    (h : validateUint32 field value minimum = .error e) : e = .binding ("invalid_" ++ field) := by
  rw [validateUint32] at h
  split at h
  · cases h
  · exact (Except.error.inj h).symm

theorem serialize_error {f : WssMediaFrame} {e : RvaError} (h : f.serialize = .error e) :
    e ≠ .binding "stale_generation" := by
  rw [WssMediaFrame.serialize] at h
  simp only [bind_error] at h
  obtain h | ⟨_, -, h⟩ := h
  · rw [validateUint32_error h]
    decide
  obtain h | ⟨_, -, h⟩ := h
  · rw [validateUint32_error h]
    decide
  obtain h | ⟨_, -, h⟩ := h
  · rw [validateUint32_error h]
    decide
  obtain h | ⟨_, -, h⟩ := h
  · rw [validateUint32_error h]
    decide
  obtain h | ⟨_, -, h⟩ := h
  · rw [reject_error h]
    decide
  obtain h | ⟨_, -, h⟩ := h
  · rw [reject_error h]
    decide
  · cases h

/-- A media sequence is refused as stale only for a response that is not accepted. -/
theorem noteDownlinkMedia_stale {r : Ref} {sequence : Int}
    (h : (b.call (.noteDownlinkMedia r sequence)).2 = .error (.binding "stale_generation")) :
    b.responses.accepts r = false := by
  have herror : (do
      let sequence ← validateUint32 "sequence" sequence 0
      let responses ← b.responses.noteMedia r sequence
      return ({ b with responses := responses }, .done) : Except RvaError (Binding × Reply)) =
      .error (.binding "stale_generation") := by
    rw [call, noteDownlinkMedia, commit.eq_def] at h
    split at h
    · rename_i e he
      rw [he, Except.error.inj h]
    · cases h
  simp only [bind_error] at herror
  obtain hrange | ⟨n, -, hnote | ⟨_, -, hdone⟩⟩ := herror
  · exact absurd (validateUint32_error hrange) (by decide)
  · exact noteMedia_stale hnote
  · cases hdone

theorem ensureOpen_error {e : RvaError} (h : b.ensureOpen = .error e) : e ≠ .binding "stale_generation" := by
  rw [ensureOpen] at h
  split at h
  · rw [← Except.error.inj h]
    decide
  · split at h
    · rw [← Except.error.inj h]
      decide
    · cases h

theorem noteMedia_accepts {c c' : Coordinator} {r : Ref} {n : Nat} (h : c.noteMedia r n = .ok c') :
    ∃ rec, c'.heap[r]? = some rec := by
  cases Coordinator.noteMedia_moves h with
  | @media _ rec _ _ hrec _ => exact ⟨_, by rw [Coordinator.update_heap, if_pos rfl, hrec, Option.map_some]⟩

theorem serializeAudio_stale {payload : List UInt8} {timestamp : Int} {r : Ref}
    (h : (b.call (.serializeAudio payload timestamp r)).2 = .error (.binding "stale_generation")) :
    b.responses.accepts r = false := by
  rw [call, serializeAudio] at h
  split at h
  · rename_i e he
    obtain rfl := Except.error.inj h
    simp only [bind_error, reserve] at he
    obtain hopen | ⟨_, -, htransport | ⟨_, -, hexhausted | ⟨_, -, hnote | ⟨_, -, hdone⟩⟩⟩⟩ := he
    · exact absurd rfl (ensureOpen_error hopen)
    · exact absurd (reject_error htransport) (by decide)
    · exact absurd (reject_error hexhausted) (by decide)
    · exact noteMedia_stale hnote
    · cases hdone
  · rename_i b' n hreserve
    simp only [bind_ok] at hreserve
    obtain ⟨_, -, _, -, hreserve⟩ := hreserve
    obtain ⟨responses, -, hnote, -, rfl⟩ := reserve_ok hreserve
    obtain ⟨rec, hrec⟩ := noteMedia_accepts hnote
    simp only [hrec, bind_error] at h
    obtain hrange | ⟨_, -, hserialize | ⟨_, -, hdone⟩⟩ := h
    · exact absurd (validateUint32_error hrange) (by decide)
    · exact absurd rfl (serialize_error hserialize)
    · cases hdone

/-- `response_begin` answers with the response that is active then: one already
active, or one it has made active. -/
theorem responseBegin_active (responseId : String) (producerEpoch : Int) :
    ((b.call (.responseBegin responseId producerEpoch)).1 = b ∧
      ∀ r e, (b.call (.responseBegin responseId producerEpoch)).2 = .ok (.begun r e) →
        b.responses.active = some r ∧ b.epochOf r = some producerEpoch) ∨
    b.responses.active = none ∧
      ∃ r, (b.call (.responseBegin responseId producerEpoch)).1.responses.active = some r ∧
      (b.call (.responseBegin responseId producerEpoch)).1.epochOf r = some producerEpoch ∧
      ∀ r' e, (b.call (.responseBegin responseId producerEpoch)).2 = .ok (.begun r' e) → r' = r := by
  rw [call, responseBegin]
  split
  · exact .inl ⟨rfl, by simp⟩
  · rename_i responses r h
    simp only [bind_ok] at h
    obtain ⟨_, -, _, -, hbegin⟩ := h
    obtain ⟨rfl, hactive, rec, hrec, hepoch⟩ := Coordinator.begin_again hbegin
    refine .inl ⟨rfl, ?_⟩
    rintro r' e heq
    cases heq
    exact ⟨hactive, by rw [epochOf, hrec, Option.map_some, hepoch]⟩
  · rename_i responses r h
    simp only [bind_ok] at h
    obtain ⟨_, -, _, -, hbegin⟩ := h
    obtain ⟨hmoves, hrec⟩ := Coordinator.begin_moves hbegin
    obtain ⟨hnone, hactive⟩ : b.responses.active = none ∧ responses.active = some r := by
      cases hmoves with
      | begun hnone _ _ _ => exact ⟨hnone, rfl⟩
    dsimp only
    rw [hrec]
    refine .inr ⟨hnone, r, hactive, by rw [epochOf, hrec, Option.map_some], ?_⟩
    intro r' e heq
    dsimp only at heq
    cases hevent : Binding.event _ _ with
    | error e => rw [hevent] at heq; cases heq
    | ok e => rw [hevent] at heq; cases heq; rfl

end Binding


namespace Runtime

/-- The segment that the segment task is sending, with the record it belongs to. -/
def SegmentTask.current : SegmentTask → Option (Segment × Ref)
  | .beginning segment r _ => some (segment, r)
  | .textFirst segment r => some (segment, r)
  | .textPacket segment r _ => some (segment, r)
  | .encoding segment r _ => some (segment, r)
  | .waiting segment r _ _ => some (segment, r)
  | .sending segment r _ => some (segment, r)
  | _ => none

/-- The record for which `_wait_playback_deadline` waits. -/
def SegmentTask.waitsFor : SegmentTask → Option Ref
  | .waiting _ r _ _ => some r
  | _ => none

namespace Connection

variable {s t u : Connection}

/-- The active response is not below the minimum producer epoch. -/
structure Admitted (s : Connection) : Prop where
  consistent : s.binding.responses.Consistent
  admitted : ∀ r, s.activeResponse = some r → ∃ e, s.producerEpochOf r = some e ∧ s.minimumProducerEpoch ≤ e

structure Spared (s : Connection) : Prop extends Admitted s where
  belongs : ∀ segment r, s.segmentTask.current = some (segment, r) → s.producerEpochOf r = some segment.producerEpoch
  unset : ∀ r, s.segmentTask.waitsFor = some r → s.activeResponse = some r → s.generationChanged = false

/-- The note does not concern a segment of the active response. -/
def Spares (s : Connection) : Note → Prop
  | .dropped epoch => ∀ r e, s.activeResponse = some r → s.producerEpochOf r = some e → epoch < e
  | .cut r => s.activeResponse = some r → s.binding.closed = true
  | .waited r released => s.activeResponse = some r → released = true

structure Good (s : Connection) (d : Connection × List Note) : Prop where
  spared : d.1.Spared
  spares : ∀ note ∈ d.2, s.Spares note

/-- What the packet loop keeps between two awaits. -/
structure Within (s t : Connection) : Prop where
  consistent : t.binding.responses.Consistent
  active : t.activeResponse = s.activeResponse
  closed : t.binding.closed = s.binding.closed
  epochs : ∀ r e, s.producerEpochOf r = some e → t.producerEpochOf r = some e
  minimum : t.minimumProducerEpoch = s.minimumProducerEpoch

theorem Within.refl (h : s.binding.responses.Consistent) : Within s s := ⟨h, rfl, rfl, fun _ _ h => h, rfl⟩

theorem Within.trans (h : Within s t) (h' : Within t u) : Within s u where
  consistent := h'.consistent
  active := h'.active.trans h.active
  closed := h'.closed.trans h.closed
  epochs r e he := h'.epochs r e (h.epochs r e he)
  minimum := h'.minimum.trans h.minimum

theorem Within.admitted (h : Within s t) (hs : s.Admitted) : t.Admitted where
  consistent := h.consistent
  admitted r hr := by
    rw [h.active] at hr
    obtain ⟨e, he, hle⟩ := hs.admitted r hr
    exact ⟨e, h.epochs r e he, by rwa [h.minimum]⟩

theorem Within.spares (h : Within s t) {note : Note} (hnote : t.Spares note) : s.Spares note := by
  cases note with
  | dropped epoch => exact fun r e hr he => hnote r e (h.active.trans hr) (h.epochs r e he)
  | cut r => exact fun hr => h.closed.symm.trans (hnote (h.active.trans hr))
  | waited r released => exact fun hr => hnote (h.active.trans hr)

theorem Within.good (h : Within s t) {d : Connection × List Note} (hd : t.Good d) : s.Good d :=
  ⟨hd.spared, fun note hnote => h.spares (hd.spares note hnote)⟩

/-- The binding of a call of the packet loop, put back. -/
theorem within_quiet {binding : Binding} (h : Binding.Quiet s.binding binding) : Within s { s with binding := binding } where
  consistent := h.consistent
  active := h.same
  closed := h.closed
  epochs := h.epochs
  minimum := rfl

theorem spared_parked {task : SegmentTask} (h : s.Admitted) (hcurrent : task.current = none)
    (hwaits : task.waitsFor = none) : Spared { s with segmentTask := task } where
  consistent := h.consistent
  admitted := h.admitted
  belongs segment r heq := by rw [hcurrent] at heq; cases heq
  unset r heq := by rw [hwaits] at heq; cases heq

theorem spared_sending {task : SegmentTask} {segment : Segment} {r : Ref} (h : s.Admitted)
    (hepoch : s.producerEpochOf r = some segment.producerEpoch) (hcurrent : task.current = some (segment, r))
    (hwaits : task.waitsFor = none) : Spared { s with segmentTask := task } where
  consistent := h.consistent
  admitted := h.admitted
  belongs segment' r' heq := by
    rw [hcurrent] at heq
    obtain ⟨rfl, rfl⟩ := Prod.mk.inj (Option.some.inj heq)
    exact hepoch
  unset r' heq := by rw [hwaits] at heq; cases heq

def TextResult.connection : TextResult → Connection
  | .nothing s => s
  | .sent s => s
  | .failed s _ => s

theorem sendPendingAssistantText_within (h : s.binding.responses.Consistent) (r : Ref) :
    Within s (s.sendPendingAssistantText r).connection := by
  rw [sendPendingAssistantText.eq_def]
  split
  · exact .refl h
  rename_i current _
  split
  · exact .refl h
  dsimp only
  generalize (if s.assistantTextSent.toList.isPrefixOf current.toList then
    String.ofList (current.toList.drop s.assistantTextSent.toList.length) else current) = delta
  have hquiet := Binding.call_quiet h (c := .responseText r s.responseTextSequence delta) rfl
  split
  · exact ⟨h, rfl, rfl, fun _ _ h => h, rfl⟩
  split
  · rename_i binding e hcall
    rw [hcall] at hquiet
    exact ⟨hquiet.consistent, hquiet.same, hquiet.closed, hquiet.epochs, rfl⟩
  · rename_i binding reply hcall
    rw [hcall] at hquiet
    exact ⟨hquiet.consistent, hquiet.same, hquiet.closed, hquiet.epochs, rfl⟩

theorem finishSegment_spared (h : s.Admitted) (r : Ref) : (s.finishSegment r).Spared := by
  have hwithin := sendPendingAssistantText_within h.consistent r
  rw [finishSegment.eq_def]
  cases htext : s.sendPendingAssistantText r with
  | nothing t =>
    rw [htext] at hwithin
    exact spared_parked (hwithin.admitted h) rfl rfl
  | sent t =>
    rw [htext] at hwithin
    exact spared_parked (hwithin.admitted h) rfl rfl
  | failed t e =>
    rw [htext] at hwithin
    exact spared_parked (hwithin.admitted h) rfl rfl

theorem cutSegment_good (h : s.Admitted) {r : Ref} (hcut : s.Spares (.cut r)) : s.Good (s.cutSegment r) where
  spared := finishSegment_spared h r
  spares note hnote := by
    obtain rfl := List.mem_singleton.mp hnote
    exact hcut

section

variable {segment : Segment} {r : Ref}

theorem good_sending (h : s.Admitted) (hepoch : s.producerEpochOf r = some segment.producerEpoch)
    {task : SegmentTask} (hcurrent : task.current = some (segment, r)) (hwaits : task.waitsFor = none) :
    s.Good ({ s with segmentTask := task }, []) :=
  ⟨spared_sending h hepoch hcurrent hwaits, by simp⟩

theorem good_parked (h : s.Admitted) {task : SegmentTask} (hcurrent : task.current = none)
    (hwaits : task.waitsFor = none) : s.Good ({ s with segmentTask := task }, []) :=
  ⟨spared_parked h hcurrent hwaits, by simp⟩

theorem nextPacket_good (h : s.Admitted) (hepoch : s.producerEpochOf r = some segment.producerEpoch) (packet : Nat) :
    s.Good (s.nextPacket segment r packet) := by
  rw [nextPacket]
  split
  · exact ⟨finishSegment_spared h r, by simp⟩
  split
  · rename_i hstale
    refine cutSegment_good h (fun hactive => ?_)
    -- the active response is admitted, and this segment is its own
    obtain ⟨e, he, hle⟩ := h.admitted r hactive
    rw [hepoch] at he
    obtain rfl := Option.some.inj he
    obtain hlow | hother := hstale
    · exact absurd hle (not_le.mpr hlow)
    · exact absurd hactive hother
  · have hwithin := sendPendingAssistantText_within h.consistent r
    cases htext : s.sendPendingAssistantText r with
    | nothing t =>
      rw [htext] at hwithin
      exact hwithin.good (good_sending (hwithin.admitted h) (hwithin.epochs r _ hepoch) rfl rfl)
    | sent t =>
      rw [htext] at hwithin
      exact hwithin.good (good_sending (hwithin.admitted h) (hwithin.epochs r _ hepoch) rfl rfl)
    | failed t e =>
      rw [htext] at hwithin
      exact hwithin.good (good_parked (hwithin.admitted h) rfl rfl)

/-- A response whose media is stale is not the active one of an open session. -/
theorem spares_stale (h : s.Admitted) (hstale : s.binding.responses.accepts r = false) : s.Spares (.cut r) := by
  intro hactive
  by_contra hopen
  have haccepts := Binding.accepts_active h.consistent hactive (by simpa using hopen)
  rw [hstale] at haccepts
  cases haccepts

theorem refused_good {binding : Binding} {e : RvaError} (h : s.Admitted) (hquiet : Binding.Quiet s.binding binding)
    (hstale : e = .binding "stale_generation" → s.binding.responses.accepts r = false) :
    s.Good (sendMedia.refused r { s with binding := binding } e) := by
  have hwithin := within_quiet hquiet
  rw [sendMedia.refused]
  split
  · rename_i heq
    refine hwithin.good (cutSegment_good (hwithin.admitted h) (fun hactive => ?_))
    exact hwithin.closed.trans (spares_stale h (hstale heq) (hwithin.active.symm.trans hactive))
  · exact hwithin.good (good_parked (hwithin.admitted h) rfl rfl)

theorem advanceTimestamp_within (h : s.binding.responses.Consistent) : Within s s.advanceTimestamp := by
  rw [advanceTimestamp]
  generalize (s.downlinkTimestamp + 960) % 2 ^ 32 = timestamp
  exact ⟨h, rfl, rfl, fun _ _ h => h, rfl⟩

variable (payload : List UInt8) (udpSequence : Nat) (packet : Nat)

theorem sendMedia_good (h : s.Admitted) (hepoch : s.producerEpochOf r = some segment.producerEpoch) :
    s.Good (s.sendMedia segment r packet payload udpSequence) := by
  rw [sendMedia]
  split
  · have hquiet := Binding.call_quiet h.consistent (c := .noteDownlinkMedia r udpSequence) rfl
    have hstale := @Binding.noteDownlinkMedia_stale s.binding r udpSequence
    split
    · rename_i binding reply hcall
      rw [hcall] at hquiet
      have hwithin := (within_quiet hquiet).trans (advanceTimestamp_within hquiet.consistent)
      exact hwithin.good (nextPacket_good (hwithin.admitted h) (hwithin.epochs r _ hepoch) _)
    · rename_i binding e hcall
      rw [hcall] at hquiet hstale
      exact refused_good h hquiet (fun he => hstale (by rw [he]))
  · have hquiet := Binding.call_quiet h.consistent (c := .serializeAudio payload s.downlinkTimestamp r) rfl
    have hstale := @Binding.serializeAudio_stale s.binding payload s.downlinkTimestamp r
    split
    · rename_i binding reply hcall
      rw [hcall] at hquiet
      have hwithin := within_quiet hquiet
      exact hwithin.good (good_sending (hwithin.admitted h) (hwithin.epochs r _ hepoch) rfl rfl)
    · rename_i binding e hcall
      rw [hcall] at hquiet hstale
      exact refused_good h hquiet (fun he => hstale (by rw [he]))

/-- The wait may return false once its response is no longer active. -/
theorem released_good (h : s.Admitted) (hepoch : s.producerEpochOf r = some segment.producerEpoch) {result : Bool}
    (hresult : s.activeResponse = some r → result = true) :
    s.Good (s.released segment r packet payload udpSequence result) := by
  have hgood : s.Good (if result then s.sendMedia segment r packet payload udpSequence else s.cutSegment r) := by
    split
    · exact sendMedia_good payload udpSequence packet h hepoch
    · rename_i hfalse
      exact cutSegment_good h (fun hactive => absurd (hresult hactive) hfalse)
  refine ⟨hgood.spared, ?_⟩
  intro note hnote
  obtain rfl | hnote := List.mem_cons.mp hnote
  · exact hresult
  · exact hgood.spares note hnote

theorem encoded_good (h : s.Admitted) (hepoch : s.producerEpochOf r = some segment.producerEpoch) (late : Bool) :
    s.Good (s.encoded segment r packet payload udpSequence late) := by
  rw [encoded]
  split
  · exact sendMedia_good payload udpSequence packet h hepoch
  split
  · exact released_good payload udpSequence packet h hepoch (by simp)
  · refine ⟨⟨⟨h.consistent, h.admitted⟩, ?_, fun _ _ _ => rfl⟩, by simp⟩
    intro segment' r' heq
    obtain ⟨rfl, rfl⟩ := Prod.mk.inj (Option.some.inj heq)
    exact hepoch

theorem startPackets_good (h : s.Admitted) (hepoch : s.producerEpochOf r = some segment.producerEpoch)
    (text : Option String) : s.Good (s.startPackets segment r text) := by
  rw [startPackets.eq_def]
  dsimp only
  generalize hset : { s with activeProducerEpoch := some segment.producerEpoch, pendingAssistantText := _ } = t
  have hset' : Within s t := by
    subst hset
    exact ⟨h.consistent, rfl, rfl, fun _ _ h => h, rfl⟩
  have hwithin := hset'.trans (sendPendingAssistantText_within hset'.consistent r)
  cases htext : t.sendPendingAssistantText r with
  | nothing u =>
    rw [htext] at hwithin
    exact hwithin.good (nextPacket_good (hwithin.admitted h) (hwithin.epochs r _ hepoch) 0)
  | sent u =>
    rw [htext] at hwithin
    exact hwithin.good (good_sending (hwithin.admitted h) (hwithin.epochs r _ hepoch) rfl rfl)
  | failed u e =>
    rw [htext] at hwithin
    exact hwithin.good (good_parked (hwithin.admitted h) rfl rfl)

end

/-- A dropped segment is older than the active response. -/
theorem spares_dropped (h : s.Admitted) {epoch : Int} (hlow : epoch < s.minimumProducerEpoch) :
    s.Spares (.dropped epoch) := by
  intro r e hactive he
  obtain ⟨e', he', hle⟩ := h.admitted r hactive
  rw [he] at he'
  obtain rfl := Option.some.inj he'
  exact lt_of_lt_of_le hlow hle

theorem Spared.good (h : s.Spared) : s.Good (s, []) := ⟨h, by simp⟩

theorem dropped_good (h : s.Spared) {epoch : Int} (hlow : epoch < s.minimumProducerEpoch) :
    s.Good (s, [.dropped epoch]) := by
  refine ⟨h, ?_⟩
  intro note hnote
  obtain rfl := List.mem_singleton.mp hnote
  exact spares_dropped h.toAdmitted hlow

theorem spares_of_none (h : s.activeResponse = none) (note : Note) : s.Spares note := by
  cases note with
  | dropped epoch => exact fun r e hr => absurd (h.symm.trans hr) (by simp)
  | cut r => exact fun hr => absurd (h.symm.trans hr) (by simp)
  | waited r released => exact fun hr => absurd (h.symm.trans hr) (by simp)

/-- `response_begin` for a segment that is not below the minimum. -/
theorem responseBegin_admitted (h : s.Admitted) (responseId : String) {epoch : Int}
    (hle : s.minimumProducerEpoch ≤ epoch) :
    Admitted { s with binding := (s.binding.call (.responseBegin responseId epoch)).1 } ∧
      (∀ r e, (s.binding.call (.responseBegin responseId epoch)).2 = .ok (.begun r e) →
        (s.binding.call (.responseBegin responseId epoch)).1.epochOf r = some epoch) ∧
      ((s.binding.call (.responseBegin responseId epoch)).1 = s.binding ∨ s.activeResponse = none) := by
  have hconsistent := Binding.step_consistent (e := (.responseBegin responseId epoch,
    (s.binding.call (.responseBegin responseId epoch)).2)) rfl h.consistent
  obtain ⟨hsame, hbegun⟩ | ⟨hnone, r, hactive, hepoch, hbegun⟩ :=
    Binding.responseBegin_active (b := s.binding) responseId epoch
  · rw [hsame]
    exact ⟨h, fun r e heq => (hbegun r e heq).2, .inl rfl⟩
  · refine ⟨⟨hconsistent, ?_⟩, ?_, .inr hnone⟩
    · intro r' hr'
      obtain rfl := Option.some.inj (hactive.symm.trans hr')
      exact ⟨epoch, hepoch, hle⟩
    · intro r' e heq
      rw [hbegun r' e heq]
      exact hepoch

theorem beginSegment_good (h : s.Admitted) (segment : Segment) (text : Option String) (responseId : String)
    (hle : s.minimumProducerEpoch ≤ segment.producerEpoch) : s.Good (s.beginSegment segment text responseId) := by
  obtain ⟨hadmitted, hbegun, hsame⟩ := responseBegin_admitted h responseId hle
  rw [beginSegment.eq_def]
  split
  · rename_i binding r hcall
    rw [hcall] at hadmitted hbegun hsame
    have hgood := startPackets_good hadmitted (hbegun r none rfl) text
    refine ⟨hgood.spared, fun note hnote => ?_⟩
    obtain rfl | hnone := hsame
    · exact hgood.spares note hnote
    · exact spares_of_none hnone note
  · rename_i binding r e hcall
    rw [hcall] at hadmitted hbegun
    exact ⟨spared_sending hadmitted (hbegun _ _ rfl) rfl rfl, by simp⟩
  · rename_i binding result _ _ hcall
    rw [hcall] at hadmitted
    exact ⟨spared_parked hadmitted rfl rfl, by simp⟩

theorem sendSegment_good (h : s.Spared) (segment : Segment) (text : Option String) :
    s.Good (s.sendSegment segment text) := by
  rw [sendSegment.eq_def]
  split
  · exact h.good
  split
  · rename_i hlow
    exact dropped_good h hlow
  rename_i hle
  have hsame : ∀ n, Within s { s with responseSequence := n } := fun n =>
    ⟨h.consistent, rfl, rfl, fun _ _ h => h, rfl⟩
  exact (hsame _).good (beginSegment_good ((hsame _).admitted h.toAdmitted) segment text _ (not_lt.mp hle))

theorem Admitted.kept (h : s.Admitted) {binding : Binding} (hk : Binding.Kept s.binding binding) :
    Admitted { s with binding := binding } where
  consistent := hk.consistent
  admitted r hr := by
    obtain hsame | hnone := hk.active
    · obtain ⟨e, he, hle⟩ := h.admitted r (hsame.symm.trans hr)
      exact ⟨e, hk.epochs r e he, hle⟩
    · exact absurd (hnone.symm.trans hr) (by simp)

theorem Spared.kept (h : s.Spared) {binding : Binding} (hk : Binding.Kept s.binding binding) :
    Spared { s with binding := binding } where
  toAdmitted := h.toAdmitted.kept hk
  belongs segment r heq := hk.epochs r _ (h.belongs segment r heq)
  unset r heq hr := by
    obtain hsame | hnone := hk.active
    · exact h.unset r heq (hsame.symm.trans hr)
    · exact absurd (hnone.symm.trans hr) (by simp)

theorem endResponse_spared (h : s.Admitted) (r : Ref) (epoch : Int) : (s.endResponse r epoch).Spared := by
  have hkept := Binding.call_kept h.consistent (c := .responseEnd r) (by simp)
  rw [endResponse.eq_def]
  split
  · rename_i binding reply hcall
    rw [hcall] at hkept
    exact spared_parked (h.kept hkept) rfl rfl
  · rename_i binding e hcall
    rw [hcall] at hkept
    split
    · exact spared_parked (h.kept hkept) rfl rfl
    · exact spared_parked (h.kept hkept) rfl rfl

theorem finishResponse_spared (h : s.Spared) (epoch : Int) : (s.finishResponse epoch).Spared := by
  rw [finishResponse.eq_def]
  split
  · exact h
  rename_i r _
  split
  · exact h
  have hwithin := sendPendingAssistantText_within h.consistent r
  cases htext : s.sendPendingAssistantText r with
  | nothing t =>
    rw [htext] at hwithin
    exact endResponse_spared (hwithin.admitted h.toAdmitted) r epoch
  | sent t =>
    rw [htext] at hwithin
    exact spared_parked (hwithin.admitted h.toAdmitted) rfl rfl
  | failed t e =>
    rw [htext] at hwithin
    dsimp only
    split
    · exact spared_parked (hwithin.admitted h.toAdmitted) rfl rfl
    · exact spared_parked (hwithin.admitted h.toAdmitted) rfl rfl

/-- The minimum may rise up to the epoch of the active response, and the event may
be set unless the packets of that response wait. -/
theorem Spared.raised (h : s.Spared) {minimum runnerEpoch : Int} {changed : Bool}
    (hminimum : ∀ r e, s.activeResponse = some r → s.producerEpochOf r = some e → s.minimumProducerEpoch ≤ e →
      minimum ≤ e)
    (hchanged : ∀ r, s.segmentTask.waitsFor = some r → s.activeResponse = some r → changed = false) :
    Spared { s with minimumProducerEpoch := minimum, generationChanged := changed, runnerEpoch := runnerEpoch } where
  consistent := h.consistent
  admitted r hr := by
    obtain ⟨e, he, hle⟩ := h.admitted r hr
    exact ⟨e, he, hminimum r e hr he hle⟩
  belongs := h.belongs
  unset := hchanged

theorem applyControlEffect_spared (h : s.Spared) (owner : Owner) {effect : ControlEffect}
    (hnone : ∀ r, effect.interrupt = some r → s.activeResponse = none) :
    (s.applyControlEffect owner effect).Spared := by
  have hset : ∀ {t : Connection} (applying : Owner → Option Applier), t.Spared →
      Spared { t with applying := applying } := fun _ ht => ⟨⟨ht.consistent, ht.admitted⟩, ht.belongs, ht.unset⟩
  rw [applyControlEffect]
  apply hset
  split
  · rename_i epoch hepoch
    obtain ⟨r, hr, -⟩ := Option.bind_eq_some_iff.mp hepoch
    have hidle := hnone r hr
    exact h.raised (fun r' e hr' => absurd (hidle.symm.trans hr') (by simp))
      (fun r' _ hr' => absurd (hidle.symm.trans hr') (by simp))
  · exact h

/-- A stretch of the reader or the coordinator: the call of the binding and the
start of its effect. -/
theorem call_applyControlEffect_spared (h : s.Spared) (owner : Owner) {c : Call}
    (hbegin : ∀ responseId producerEpoch, c ≠ .responseBegin responseId producerEpoch) {effect : ControlEffect}
    {binding : Binding} (hcall : s.binding.call c = (binding, .ok (.control effect))) :
    ({ s with binding := binding }.applyControlEffect owner effect).Spared := by
  have hkept := Binding.call_kept h.consistent hbegin
  rw [hcall] at hkept
  refine applyControlEffect_spared (h.kept hkept) owner (fun r hr => ?_)
  have hnone := Binding.call_interrupt h.consistent (by rw [hcall]) hr
  rwa [hcall] at hnone

/-- The start of an interrupt task reaches a response whose packets wait for their
deadline, or whose producer epoch is not above `_active_producer_epoch`. -/
def startReaches (s : Connection) (r : Ref) : Bool :=
  s.segmentTask.waitsFor == some r ||
    s.activeProducerEpoch.any fun active => (s.producerEpochOf r).any (· ≤ active)

/-- Its end reaches a response that the runner has produced by then. -/
def returnReaches (s : Connection) (r : Ref) : Bool := (s.producerEpochOf r).any (· ≤ s.runnerEpoch)

/-- The next stretch is one of an interrupt task that reaches the active response. -/
def disturbs (s : Connection) : Event → Bool
  | .interruptStart index =>
    (s.interrupts[index]?).any fun task =>
      match task with
      | .created _ => s.activeResponse.any s.startReaches
      | .awaiting _ => false
  | .interruptReturn index =>
    (s.interrupts[index]?).any fun task =>
      match task with
      | .awaiting _ => s.activeResponse.any s.returnReaches
      | .created _ => false
  | _ => false

theorem interrupt_spared (h : s.Spared) (hreach : s.activeResponse.any s.startReaches = false) : s.interrupt.Spared := by
  have hspared : ∀ r, s.activeResponse = some r → s.segmentTask.waitsFor ≠ some r ∧
      ∀ active e, s.activeProducerEpoch = some active → s.producerEpochOf r = some e → active < e := by
    intro r hr
    rw [hr, Option.any_some, startReaches, Bool.or_eq_false_iff] at hreach
    refine ⟨by simpa using hreach.1, ?_⟩
    intro active e hactive he
    simpa [hactive, he] using hreach.2
  have hchanged : ∀ r, s.segmentTask.waitsFor = some r → s.activeResponse = some r → true = false :=
    fun r hwaits hr => absurd hwaits (hspared r hr).1
  rw [interrupt]
  split
  · rename_i active hactive
    exact h.raised (fun r e hr he hle => max_le hle ((hspared r hr).2 active e hactive he)) hchanged
  · exact h.raised (fun _ _ _ _ hle => hle) hchanged

theorem interrupted_spared (h : s.Spared) (hreach : s.activeResponse.any s.returnReaches = false) :
    s.interrupted.Spared := by
  refine h.raised (fun r e hr he hle => max_le hle ?_) h.unset
  rw [hr, Option.any_some, returnReaches, he, Option.any_some] at hreach
  have hlt : s.runnerEpoch < e := by simpa using hreach
  exact hlt

theorem emitSegment_good (h : s.Spared) (segment : Segment) : s.Good (s.emitSegment segment) := by
  rw [emitSegment]
  split
  · exact h.good
  split
  · rename_i hlow
    exact dropped_good h hlow
  split
  · exact h.good
  · exact ⟨⟨⟨h.consistent, h.admitted⟩, h.belongs, h.unset⟩, by simp⟩

/-- A step that does not disturb the active response keeps it spared, and does
nothing to its segments. -/
theorem call_good (h : s.Spared) (e : Event) (hcalm : s.disturbs e = false) : s.Good (s.call e) := by
  have hframe : ∀ {t : Connection}, t.Spared → s.Good (t, []) := fun ht => ⟨ht, by simp⟩
  cases e with
  | control message =>
    rw [call]
    split
    · exact h.good
    split
    · rename_i binding effect hcall
      exact hframe (call_applyControlEffect_spared h .reader (by simp) hcall)
    · rename_i binding _ _ hcall
      have hkept := Binding.call_kept h.consistent (c := .receiveControl message) (by simp)
      rw [hcall] at hkept
      exact hframe (h.kept hkept)
  | acceptInterruption responseId generation =>
    rw [call]
    split
    · exact h.good
    dsimp only
    split
    · split
      · rename_i binding effect hcall
        exact hframe (call_applyControlEffect_spared h .coordinator (by simp) hcall)
      · rename_i binding _ _ hcall
        have hkept := Binding.call_kept h.consistent (c := .cancelActiveResponse StopCause.recognizedInterrupt.text)
          (by simp)
        rw [hcall] at hkept
        exact hframe (h.kept hkept)
    · exact h.good
  | controlSent owner =>
    rw [call]
    split
    · exact h.good
    · exact hframe ⟨⟨h.consistent, h.admitted⟩, h.belongs, h.unset⟩
  | applyDone owner =>
    rw [call]
    split
    · exact h.good
    split
    · exact hframe ⟨⟨h.consistent, h.admitted⟩, h.belongs, h.unset⟩
    · exact h.good
  | interruptStart index =>
    rw [call]
    split
    · rename_i target htask
      rw [disturbs, htask, Option.any_some] at hcalm
      have hset : ∀ interrupts, Spared { s with interrupts := interrupts } := fun _ =>
        ⟨⟨h.consistent, h.admitted⟩, h.belongs, h.unset⟩
      exact hframe (interrupt_spared (hset _) hcalm)
    · exact h.good
  | interruptReturn index =>
    rw [call]
    split
    · rename_i target htask
      rw [disturbs, htask, Option.any_some] at hcalm
      have hset : ∀ interrupts, Spared { s with interrupts := interrupts } := fun _ =>
        ⟨⟨h.consistent, h.admitted⟩, h.belongs, h.unset⟩
      exact hframe (interrupted_spared (hset _) hcalm)
    · exact h.good
  | interruptFail index => exact hframe ⟨⟨h.consistent, h.admitted⟩, h.belongs, h.unset⟩
  | take =>
    rw [call]
    have hset : ∀ segments, Spared { s with segments := segments } := fun _ =>
      ⟨⟨h.consistent, h.admitted⟩, h.belongs, h.unset⟩
    have hwithin : ∀ segments, Within s { s with segments := segments } := fun _ =>
      ⟨h.consistent, rfl, rfl, fun _ _ h => h, rfl⟩
    split
    · exact (hwithin _).good (sendSegment_good (hset _) _ _)
    · exact hframe (finishResponse_spared (hset _) _)
    · exact h.good
  | beginSent =>
    rw [call]
    split
    · rename_i segment r text htask
      have hepoch := h.belongs segment r (by rw [htask]; rfl)
      have hwithin : Within s { s with assistantTextSent := "", responseTextSequence := 0 } :=
        ⟨h.consistent, rfl, rfl, fun _ _ h => h, rfl⟩
      exact hwithin.good (startPackets_good (hwithin.admitted h.toAdmitted) hepoch text)
    · exact h.good
  | textSent =>
    rw [call]
    split
    · rename_i segment r htask
      exact nextPacket_good h.toAdmitted (h.belongs segment r (by rw [htask]; rfl)) 0
    · rename_i segment r packet htask
      exact good_sending h.toAdmitted (h.belongs segment r (by rw [htask]; rfl)) rfl rfl
    · exact good_parked h.toAdmitted rfl rfl
    · exact hframe (endResponse_spared h.toAdmitted _ _)
    · exact h.good
  | encoded payload udpSequence late =>
    rw [call]
    split
    · rename_i segment r packet htask
      exact encoded_good payload udpSequence packet h.toAdmitted (h.belongs segment r (by rw [htask]; rfl)) late
    · exact h.good
  | deadline udpSequence =>
    rw [call]
    split
    · rename_i segment r packet payload htask
      split
      · exact h.good
      · exact released_good payload udpSequence packet h.toAdmitted (h.belongs segment r (by rw [htask]; rfl)) (by simp)
    · exact h.good
  | woken =>
    rw [call]
    split
    · rename_i segment r packet payload htask
      split
      · rename_i hset
        refine released_good payload 0 packet h.toAdmitted (h.belongs segment r (by rw [htask]; rfl)) (fun hr => ?_)
        rw [h.unset r (by rw [htask]; rfl) hr] at hset
        cases hset
      · exact h.good
    · exact h.good
  | mediaSent =>
    rw [call]
    split
    · rename_i segment r packet htask
      have hwithin := advanceTimestamp_within h.consistent
      exact hwithin.good (nextPacket_good (hwithin.admitted h.toAdmitted)
        (hwithin.epochs r _ (h.belongs segment r (by rw [htask]; rfl))) _)
    · exact h.good
  | endSent =>
    rw [call]
    split
    · rename_i epoch htask
      have hparked : Spared { s with segmentTask := .idle } := spared_parked h.toAdmitted rfl rfl
      exact hframe ⟨⟨hparked.consistent, hparked.admitted⟩, hparked.belongs, hparked.unset⟩
    · exact h.good
  | emitSegment segment =>
    rw [call]
    split
    · exact emitSegment_good h segment
    · exact h.good
  | assistantText text =>
    rw [call]
    split
    · exact h.good
    · exact hframe ⟨⟨h.consistent, h.admitted⟩, h.belongs, h.unset⟩
  | requestResponseEnd epoch =>
    rw [call]
    split
    · exact h.good
    · exact hframe ⟨⟨h.consistent, h.admitted⟩, h.belongs, h.unset⟩
  | advanceProducerEpoch => exact hframe ⟨⟨h.consistent, h.admitted⟩, h.belongs, h.unset⟩
  | close =>
    have hkept := h.kept (Binding.call_kept h.consistent (c := .close) (by simp))
    exact hframe ⟨⟨hkept.consistent, hkept.admitted⟩, hkept.belongs, hkept.unset⟩

/-- A step of the event loop in which no interrupt task reaches the active response. -/
def CalmStep (s : Connection) (e : Event × List Note) (t : Connection) : Prop := s.disturbs e.1 = false ∧ Step s e t

theorem init_spared (limits : Limits) (config : BindingConfig) : Spared { limits, binding := .init config } where
  consistent := Binding.init_consistent config
  admitted r hr := by cases hr
  belongs segment r heq := by cases heq
  unset r heq := by cases heq

/-- In every run of such steps the active response stays at or above the minimum
producer epoch, and no step drops or cuts one of its segments or ends its wait
with false. -/
theorem active_response_spared {limits : Limits} {config : BindingConfig} {es : List (Event × List Note)}
    (hrun : Run CalmStep { limits, binding := .init config } es s) :
    (∀ r, s.activeResponse = some r → ∃ e, s.producerEpochOf r = some e ∧ s.minimumProducerEpoch ≤ e) ∧
      ∀ e, s.disturbs e = false → ∀ note ∈ (s.call e).2, s.Spares note := by
  have hspared : s.Spared := by
    refine hrun.state_invariant (init_spared limits config) ?_
    intro t e u ht hstep
    obtain ⟨hcalm, hcall⟩ := hstep
    have hgood := (call_good ht e.1 hcalm).spared
    rwa [show t.call e.1 = (u, e.2) from hcall] at hgood
  exact ⟨hspared.admitted, fun e he => (call_good hspared e he).spares⟩

def demoStart : Connection where
  limits := { maxSegmentFrames := 100, playbackPrebufferPackets := 1 }
  binding := .init Binding.demoConfig

/-- The first response, interrupted during its second packet: the stop is out and
the end still waits when the device reports that playback has stopped. The runner
goes on to its next epoch, and the second response begins. -/
def demoCrossing : List Event :=
  [.control Binding.demoOpen, .controlSent .reader, .applyDone .reader,
    .emitSegment { producerEpoch := 1, frames := 6 }, .take, .beginSent, .encoded [7] 0 false, .mediaSent,
    .acceptInterruption "resp-00000001" 1, .controlSent .coordinator, .encoded [7] 0 true,
    .control (Binding.demoStopped "resp-00000001"), .applyDone .reader, .advanceProducerEpoch,
    .emitSegment { producerEpoch := 2, frames := 6 }, .take]

/-- The interrupt task starts before the second response is under way. -/
def demoEarly : List Event :=
  demoCrossing ++ [.controlSent .coordinator, .applyDone .coordinator, .interruptStart 0, .beginSent,
    .encoded [7] 0 false, .mediaSent]

theorem active_response_spared_early :
    (after call demoStart demoEarly).activeResponse = some 1 ∧
      (after call demoStart demoEarly).minimumProducerEpoch = 2 ∧
      ∀ e, (after call demoStart demoEarly).disturbs e = false →
        ∀ note ∈ ((after call demoStart demoEarly).call e).2, (after call demoStart demoEarly).Spares note := by
  have hrun : Run CalmStep demoStart (history call demoStart demoEarly) (after call demoStart demoEarly) :=
    run_history_along (P := fun (s : Connection) (e : Event) => s.disturbs e = false) (by decide +kernel)
  refine ⟨by decide +kernel, by decide +kernel, ?_⟩
  exact (active_response_spared hrun).2

/-- It starts just after: the second response is active in epoch 2, the minimum
becomes 3, and the segment is cut after its first packet. -/
def demoLate : List Event :=
  demoCrossing ++ [.controlSent .coordinator, .applyDone .coordinator, .beginSent]

theorem late_interrupt_cuts_later_response :
    let s := after call demoStart demoLate
    let t := (s.call (.interruptStart 0)).1
    let u := after call t [.encoded [7] 0 false]
    s.interrupts = [.created 0] ∧ s.activeResponse = some 1 ∧ s.producerEpochOf 1 = some 2 ∧
      s.minimumProducerEpoch = 2 ∧ t.minimumProducerEpoch = 3 ∧ u.activeResponse = some 1 ∧
      (u.call .mediaSent).2 = [.cut 1] ∧ (u.call .mediaSent).1.activeResponse = some 1 ∧
      (u.call .mediaSent).1.binding.closed = false := by
  decide +kernel

end Connection

end Runtime

end RealtimeVoice.Rva
