import RealtimeVoice.Rva.Wire
import RealtimeVoice.Rva.StopOutcome

namespace RealtimeVoice.Rva

open RealtimeVoice.Base RealtimeVoice.Base.Runs RealtimeVoice.Contracts

namespace Coordinator

variable {c c' : Coordinator} {r : Ref}

def lastMedia (c : Coordinator) (r : Ref) : Option Nat := (c.heap[r]?).bind (·.lastMediaSequence)

theorem lastMedia_of_heap {r₁ : Ref} {f : ResponseRecord → ResponseRecord} (hheap : c'.heap = c.heap.modify r₁ f)
    (hf : ∀ rec, (f rec).lastMediaSequence = rec.lastMediaSequence) (r : Ref) : c'.lastMedia r = c.lastMedia r := by
  rw [lastMedia, hheap, List.getElem?_modify, lastMedia]
  cases c.heap[r]? with
  | none => rfl
  | some rec =>
    by_cases h : r₁ = r
    · simp [h, hf]
    · simp [h]

/-- Only noting media changes the last sequence of a record. -/
theorem moves_lastMedia {a : Action} (hm : Moves c a c') (hmedia : ∀ r n, a ≠ .media r n) (r : Ref) :
    c'.lastMedia r = c.lastMedia r := by
  cases hm with
  | idle => rfl
  | begun _ _ _ _ =>
    rw [lastMedia, lastMedia]
    dsimp only
    obtain hlt | heq | hgt := lt_trichotomy r c.heap.length
    · rw [List.getElem?_append_left hlt]
    · rw [heq, List.getElem?_concat_length, List.getElem?_eq_none le_rfl]
      rfl
    · rw [List.getElem?_eq_none (by simp; omega), List.getElem?_eq_none hgt.le]
  | media _ _ _ => exact absurd rfl (hmedia _ _)
  | completed _ _ _ _ =>
    apply lastMedia_of_heap rfl
    exact fun _ => rfl
  | fenced _ _ _ _ _ _ =>
    apply lastMedia_of_heap rfl
    exact fun _ => rfl
  | started _ _ =>
    apply lastMedia_of_heap rfl
    exact fun _ => rfl
  | ended _ _ _ _ =>
    apply lastMedia_of_heap rfl
    exact fun _ => rfl
  | unfinished _ _ _ _ =>
    apply lastMedia_of_heap rfl
    exact fun _ => rfl
  | closed => rfl

theorem moves_closed {a : Action} (hm : Moves c a c') (hclosed : a ≠ .closed) :
    c'.session.closed = c.session.closed := by
  cases hm with
  | ended _ _ _ _ =>
    dsimp only
    split <;> rfl
  | closed => exact absurd rfl hclosed
  | _ => rfl

theorem noteMedia_accepted (h : c.accepts r = true) (n : Nat) : c.noteMedia r n = .ok (c.update r (noted n)) := by
  rw [noteMedia, h]
  rfl

theorem lastMedia_noted (h : c.accepts r = true) (n : Nat) (r' : Ref) :
    (c.update r (noted n)).lastMedia r' = if r' = r then some n else c.lastMedia r' := by
  obtain ⟨-, rec, hrec, -, -⟩ := (accepts_iff c r).mp h
  rw [lastMedia, update_heap]
  by_cases heq : r' = r
  · rw [if_pos heq.symm, if_pos heq, heq, hrec]
    rfl
  · rw [if_neg (Ne.symm heq), if_neg heq, lastMedia]

end Coordinator

namespace Wire

open RealtimeVoice.Rva.Runtime (Connection Owner SegmentTask Segment)

section

variable {b b' b'' : Binding} {c : Call}

/-- What holds of the binding until the session closes. -/
structure Sane (b : Binding) : Prop where
  consistent : b.responses.Consistent
  opened : b.closed = false

/-- What a call keeps that neither notes media nor closes the session. -/
structure Unheard (b b' : Binding) : Prop where
  sane : Sane b'
  last : ∀ r, lastOf b' r = lastOf b r
  fenced : ∀ g, Fenced b g → Fenced b' g

theorem Unheard.refl (h : Sane b) : Unheard b b := ⟨h, fun _ => rfl, fun _ => id⟩

theorem Unheard.trans (h : Unheard b b') (h' : Unheard b' b'') : Unheard b b'' where
  sane := h'.sane
  last r := (h'.last r).trans (h.last r)
  fenced g hg := h'.fenced g (h.fenced g hg)

theorem moves_fenced_stay {a : Coordinator.Action} (hm : b.responses.Moves a b'.responses) {g : Nat}
    (h : Fenced b g) : Fenced b' g := by
  obtain ⟨r, rec, hrec, hg, hstop⟩ := h
  obtain ⟨rec', hrec', hlater⟩ := Coordinator.moves_later hm hrec
  exact ⟨r, rec', hrec', (congrArg Prod.snd hlater.key).trans hg, hlater.stopSent hstop⟩

theorem call_unheard (h : Sane b) (hmedia : mediaRef c = none) (hclose : c ≠ .close) : Unheard b (b.call c).1 := by
  obtain ⟨a, hmade, hnoted, hclosed⟩ := Binding.effect_action (Binding.call_effect b c)
  have hquiet : ∀ r n, a ≠ .media r n := by
    intro r n ha
    rw [hnoted r n ha] at hmedia
    cases hmedia
  refine ⟨⟨Binding.step_consistent (e := (c, (b.call c).2)) rfl h.consistent, ?_⟩, ?_, ?_⟩
  · exact (Coordinator.moves_closed hmade.moves (fun ha => hclose (hclosed ha))).trans h.opened
  · exact Coordinator.moves_lastMedia hmade.moves hquiet
  · exact fun g => moves_fenced_stay hmade.moves

/-- The binding once it has noted a packet of the response. -/
structure Heard (r : Ref) (n : Nat) (b b' : Binding) : Prop where
  sane : Sane b'
  last : ∀ r', lastOf b' r' = if r' = r then some n else lastOf b r'
  fenced : ∀ g, Fenced b g → Fenced b' g

theorem Heard.trans {r : Ref} {n : Nat} (h : Heard r n b b') (h' : Unheard b' b'') : Heard r n b b'' where
  sane := h'.sane
  last r' := (h'.last r').trans (h.last r')
  fenced g hg := h'.fenced g (h.fenced g hg)

theorem heard_of_noted {r : Ref} {n : Nat} (h : Sane b) (haccepts : b.responses.accepts r = true)
    (hb' : b'.responses = b.responses.update r (Coordinator.noted n)) : Heard r n b b' := by
  have hm : b.responses.Moves (.media r n) b'.responses := by
    rw [hb']
    exact Coordinator.noteMedia_moves (Coordinator.noteMedia_accepted haccepts n)
  refine ⟨⟨h.consistent.step hm (by simp), ?_⟩, ?_, fun g => moves_fenced_stay hm⟩
  · exact (Coordinator.moves_closed hm (by simp)).trans h.opened
  · intro r'
    have hlast := Coordinator.lastMedia_noted haccepts n r'
    rwa [← hb'] at hlast

/-- A response that accepts media has not been fenced. -/
theorem accepts_unfenced (h : Sane b) {r : Ref} {rec : ResponseRecord} (haccepts : b.responses.accepts r = true)
    (hrec : b.responses.heap[r]? = some rec) : ¬Fenced b rec.target.generation := by
  rintro ⟨r', rec', hrec', hg, hstop⟩
  obtain rfl := h.consistent.distinct r' r rec' rec hrec' hrec hg
  obtain ⟨hactive, -⟩ := (Coordinator.accepts_iff b.responses r').mp haccepts
  exact h.consistent.stopped r' rec' hrec' hstop (h.consistent.outcome_of_active hactive hrec')

/-- If the event stops a playback, that response has been fenced. -/
def Told (b : Binding) (e : ServerEvent) : Prop := ∀ g, stopTarget e = some g → Fenced b g

theorem Told.later {e : ServerEvent} (h : Told b e) (hfenced : ∀ g, Fenced b g → Fenced b' g) : Told b' e :=
  fun g hg => hfenced g (h g hg)

theorem control_told {effect : ControlEffect} (hcall : b.call c = (b', .ok (.control effect))) :
    ∀ e ∈ effect.outbound, Told b' e := by
  intro e he g hg
  cases e with
  | playbackStop responseId generation f cause =>
    obtain rfl := Option.some.inj hg
    obtain ⟨r, rec, -, hfence, hrec, hkey⟩ := Binding.step_stop (e := (c, .ok (.control effect))) hcall he
    obtain ⟨rec₀, -, -, -, -, hrec₀⟩ := Coordinator.fence_record hfence
    refine ⟨r, rec, hrec, congrArg Prod.snd hkey, ?_⟩
    rw [Option.some.inj (hrec.symm.trans hrec₀)]
    rfl
  | _ => cases hg

end

def sends : SegmentTask → Bool
  | .sending _ _ _ => true
  | _ => false

section

variable {s t u : Connection}

/-- What a task keeps that sends text and no packet. -/
structure Spoke (s t : Connection) : Prop where
  binding : Unheard s.binding t.binding
  applying : t.applying = s.applying
  timestamp : t.downlinkTimestamp = s.downlinkTimestamp

theorem Spoke.trans (h : Spoke s t) (h' : Spoke t u) : Spoke s u where
  binding := h.binding.trans h'.binding
  applying := h'.applying.trans h.applying
  timestamp := h'.timestamp.trans h.timestamp

structure Parked (s t : Connection) : Prop extends Spoke s t where
  parked : sends t.segmentTask = false

theorem Spoke.parked (h : Spoke s t) {task : SegmentTask} (htask : sends task = false) :
    Parked s { t with segmentTask := task } :=
  ⟨⟨h.binding, h.applying, h.timestamp⟩, htask⟩

theorem sendPendingAssistantText_spoke (h : Sane s.binding) (r : Ref) :
    Spoke s (s.sendPendingAssistantText r).connection := by
  have hrefl : Spoke s s := ⟨.refl h, rfl, rfl⟩
  unfold Connection.sendPendingAssistantText
  split
  · exact hrefl
  rename_i current _
  split
  · exact hrefl
  dsimp only
  generalize (if s.assistantTextSent.toList.isPrefixOf current.toList then
    String.ofList (current.toList.drop s.assistantTextSent.toList.length) else current) = delta
  have hcall := call_unheard h (c := .responseText r s.responseTextSequence delta) rfl (by simp)
  split
  · exact ⟨.refl h, rfl, rfl⟩
  split
  · rename_i binding e heq
    rw [heq] at hcall
    exact ⟨hcall, rfl, rfl⟩
  · rename_i binding reply heq
    rw [heq] at hcall
    exact ⟨hcall, rfl, rfl⟩

theorem finishSegment_parked (h : Sane s.binding) (r : Ref) : Parked s (s.finishSegment r) := by
  have hspoke := sendPendingAssistantText_spoke h r
  unfold Connection.finishSegment
  cases htext : s.sendPendingAssistantText r with
  | nothing t =>
    rw [htext] at hspoke
    exact hspoke.parked rfl
  | sent t =>
    rw [htext] at hspoke
    exact hspoke.parked rfl
  | failed t e =>
    rw [htext] at hspoke
    exact hspoke.parked rfl

theorem nextPacket_parked (h : Sane s.binding) (segment : Segment) (r : Ref) (packet : Nat) :
    Parked s (s.nextPacket segment r packet).1 := by
  rw [Connection.nextPacket]
  split
  · exact finishSegment_parked h r
  split
  · exact finishSegment_parked h r
  · have hspoke := sendPendingAssistantText_spoke h r
    cases htext : s.sendPendingAssistantText r with
    | nothing t =>
      rw [htext] at hspoke
      exact hspoke.parked rfl
    | sent t =>
      rw [htext] at hspoke
      exact hspoke.parked rfl
    | failed t e =>
      rw [htext] at hspoke
      exact hspoke.parked rfl

theorem startPackets_parked (h : Sane s.binding) (segment : Segment) (r : Ref) (text : Option String) :
    Parked s (s.startPackets segment r text).1 := by
  unfold Connection.startPackets
  dsimp only
  generalize hset : { s with activeProducerEpoch := some segment.producerEpoch, pendingAssistantText := _ } = t
  have hspoke : Spoke s t := by
    subst hset
    exact ⟨.refl h, rfl, rfl⟩
  have hspoke := hspoke.trans (sendPendingAssistantText_spoke hspoke.binding.sane r)
  cases htext : t.sendPendingAssistantText r with
  | nothing u =>
    rw [htext] at hspoke
    have hnext := nextPacket_parked hspoke.binding.sane segment r 0
    exact ⟨hspoke.trans hnext.toSpoke, hnext.parked⟩
  | sent u =>
    rw [htext] at hspoke
    exact hspoke.parked rfl
  | failed u e =>
    rw [htext] at hspoke
    exact hspoke.parked rfl

theorem beginSegment_parked (h : Sane s.binding) (segment : Segment) (text : Option String) (responseId : String) :
    Parked s (s.beginSegment segment text responseId).1 := by
  have hcall := call_unheard h (c := .responseBegin responseId segment.producerEpoch) rfl (by simp)
  unfold Connection.beginSegment
  split
  · rename_i binding r heq
    rw [heq] at hcall
    have hspoke : Spoke s { s with binding := binding } := ⟨hcall, rfl, rfl⟩
    have hstart := startPackets_parked hspoke.binding.sane segment r text
    exact ⟨hspoke.trans hstart.toSpoke, hstart.parked⟩
  · rename_i binding r e heq
    rw [heq] at hcall
    exact ⟨⟨hcall, rfl, rfl⟩, rfl⟩
  · rename_i binding result _ _ heq
    rw [heq] at hcall
    exact ⟨⟨hcall, rfl, rfl⟩, rfl⟩

theorem sendSegment_parked (h : Sane s.binding) (hidle : sends s.segmentTask = false) (segment : Segment)
    (text : Option String) : Parked s (s.sendSegment segment text).1 := by
  have hrefl : Parked s s := ⟨⟨.refl h, rfl, rfl⟩, hidle⟩
  unfold Connection.sendSegment
  split
  · exact hrefl
  split
  · exact hrefl
  dsimp only
  generalize hset : { s with responseSequence := _ } = t
  have hspoke : Spoke s t := by
    subst hset
    exact ⟨.refl h, rfl, rfl⟩
  have hbegin := beginSegment_parked hspoke.binding.sane segment text
  exact ⟨hspoke.trans (hbegin _).toSpoke, (hbegin _).parked⟩

theorem endResponse_parked (h : Sane s.binding) (r : Ref) (epoch : Int) : Parked s (s.endResponse r epoch) := by
  have hcall := call_unheard h (c := .responseEnd r) rfl (by simp)
  unfold Connection.endResponse
  split
  · rename_i binding reply heq
    rw [heq] at hcall
    exact ⟨⟨hcall, rfl, rfl⟩, rfl⟩
  · rename_i binding e heq
    rw [heq] at hcall
    split
    · exact ⟨⟨hcall, rfl, rfl⟩, rfl⟩
    · exact ⟨⟨hcall, rfl, rfl⟩, rfl⟩

theorem finishResponse_parked (h : Sane s.binding) (hidle : sends s.segmentTask = false) (epoch : Int) :
    Parked s (s.finishResponse epoch) := by
  have hrefl : Parked s s := ⟨⟨.refl h, rfl, rfl⟩, hidle⟩
  unfold Connection.finishResponse
  split
  · exact hrefl
  rename_i r _
  split
  · exact hrefl
  have hspoke := sendPendingAssistantText_spoke h r
  cases htext : s.sendPendingAssistantText r with
  | nothing t =>
    rw [htext] at hspoke
    have hend := endResponse_parked hspoke.binding.sane r epoch
    exact ⟨hspoke.trans hend.toSpoke, hend.parked⟩
  | sent t =>
    rw [htext] at hspoke
    exact hspoke.parked rfl
  | failed t e =>
    rw [htext] at hspoke
    dsimp only
    split
    · exact hspoke.parked rfl
    · exact hspoke.parked rfl

/-- What a stretch keeps that brings no packet to a transport: the task that sends
one still sends it, and a stop that is to be sent is one of a fenced response. -/
structure Silent (s t : Connection) : Prop where
  binding : Unheard s.binding t.binding
  timestamp : t.downlinkTimestamp = s.downlinkTimestamp
  applying : ∀ owner a, t.applying owner = some a →
    (∃ a', s.applying owner = some a' ∧ a'.effect = a.effect) ∨ ∀ e ∈ a.effect.outbound, Told t.binding e
  sends : sends t.segmentTask = sends s.segmentTask

theorem Silent.frame (h : Unheard s.binding t.binding) (happlying : t.applying = s.applying)
    (htimestamp : t.downlinkTimestamp = s.downlinkTimestamp) (htask : t.segmentTask = s.segmentTask) : Silent s t where
  binding := h
  timestamp := htimestamp
  applying owner a ha := by
    rw [happlying] at ha
    exact .inl ⟨a, ha, rfl⟩
  sends := by rw [htask]

theorem Silent.refl (h : Sane s.binding) : Silent s s := .frame (.refl h) rfl rfl rfl

theorem Parked.silent (h : Parked s t) (hidle : Wire.sends s.segmentTask = false) : Silent s t where
  binding := h.binding
  timestamp := h.timestamp
  applying owner a ha := by
    rw [h.applying] at ha
    exact .inl ⟨a, ha, rfl⟩
  sends := h.parked.trans hidle.symm

/-- The start of the effect of a call: its stops are those of the response it fenced. -/
theorem applyControlEffect_silent (h : Sane s.binding) (owner : Owner) {c : Call} {binding : Binding}
    {effect : ControlEffect} (hmedia : mediaRef c = none) (hclose : c ≠ .close)
    (hcall : s.binding.call c = (binding, .ok (.control effect))) :
    Silent s ({ s with binding := binding }.applyControlEffect owner effect) := by
  have hunheard := call_unheard h hmedia hclose
  have htold := control_told hcall
  rw [hcall] at hunheard
  have hset : ∀ t : Connection, t.binding = binding → t.applying = s.applying →
      t.downlinkTimestamp = s.downlinkTimestamp → t.segmentTask = s.segmentTask →
      Silent s { t with applying := Function.update t.applying owner (some ⟨effect, effect.outbound.length⟩) } := by
    rintro t rfl happlying htimestamp htask
    refine ⟨hunheard, htimestamp, ?_, by rw [htask]⟩
    intro owner' a ha
    dsimp only at ha
    by_cases hsame : owner' = owner
    · rw [hsame, Function.update_self] at ha
      obtain rfl := Option.some.inj ha
      exact .inr htold
    · rw [Function.update_of_ne hsame, happlying] at ha
      exact .inl ⟨a, ha, rfl⟩
  rw [Connection.applyControlEffect]
  apply hset
  all_goals split <;> rfl

theorem call_binding_silent (h : Sane s.binding) {c : Call} (hmedia : mediaRef c = none) (hclose : c ≠ .close) :
    Silent s { s with binding := (s.binding.call c).1 } :=
  .frame (call_unheard h hmedia hclose) rfl rfl rfl

/-- A change of an applier that keeps its effect, or its end. -/
theorem update_applying_silent (h : Sane s.binding) (owner : Owner) {next : Option Runtime.Applier} {t : Connection}
    (hbinding : t.binding = s.binding) (happlying : t.applying = Function.update s.applying owner next)
    (htimestamp : t.downlinkTimestamp = s.downlinkTimestamp) (htask : t.segmentTask = s.segmentTask)
    (hnext : ∀ a, next = some a → ∃ a', s.applying owner = some a' ∧ a'.effect = a.effect) : Silent s t where
  binding := by
    rw [hbinding]
    exact .refl h
  timestamp := htimestamp
  applying owner' a ha := by
    rw [happlying] at ha
    by_cases hsame : owner' = owner
    · subst hsame
      rw [Function.update_self] at ha
      exact .inl (hnext a ha)
    · rw [Function.update_of_ne hsame] at ha
      exact .inl ⟨a, ha, rfl⟩
  sends := by rw [htask]

theorem encoded_silent (h : Sane s.binding) {payload : List UInt8} {n : Nat} {late : Bool}
    (hnone : handsOver s (.encoded payload n late) = none) : Silent s (s.call (.encoded payload n late)).1 := by
  rw [Connection.call]
  split
  · rename_i segment r packet htask
    have hidle : Wire.sends s.segmentTask = false := by rw [htask]; rfl
    have hparked : ¬(packet < s.limits.playbackPrebufferPackets ∨ late = true ∧ s.activeResponse = some r) := by
      intro hgoes
      rw [handsOver, htask] at hnone
      dsimp only at hnone
      rw [if_pos hgoes] at hnone
      cases hnone
    obtain ⟨hprebuffered, hinactive⟩ := not_or.mp hparked
    rw [Connection.encoded, if_neg hprebuffered]
    by_cases hlate : late = true
    · have hgone : decide (s.activeResponse = some r) = false := by simpa using fun hr => hinactive ⟨hlate, hr⟩
      rw [if_pos hlate, hgone]
      exact (finishSegment_parked h r).silent hidle
    · rw [if_neg hlate]
      exact Parked.silent ⟨⟨.refl h, rfl, rfl⟩, rfl⟩ hidle
  · exact .refl h

theorem deadline_silent (h : Sane s.binding) {n : Nat} (hnone : handsOver s (.deadline n) = none) :
    Silent s (s.call (.deadline n)).1 := by
  rw [Connection.call]
  split
  · rename_i segment r packet payload htask
    have hidle : Wire.sends s.segmentTask = false := by rw [htask]; rfl
    by_cases hchanged : s.generationChanged = true
    · rw [if_pos hchanged]
      exact .refl h
    · have hgone : decide (s.activeResponse = some r) = false := by
        rw [decide_eq_false_iff_not]
        intro hr
        rw [handsOver, htask] at hnone
        dsimp only at hnone
        rw [if_pos ⟨by simpa using hchanged, hr⟩] at hnone
        cases hnone
      rw [if_neg hchanged, hgone]
      exact (finishSegment_parked h r).silent hidle
  · exact .refl h

theorem take_silent (h : Sane s.binding) : Silent s (s.call .take).1 := by
  have hset : ∀ segments, Spoke s { s with segments := segments } := fun _ => ⟨.refl h, rfl, rfl⟩
  rw [Connection.call]
  split
  · rename_i segment text rest htask hqueue
    have hidle : Wire.sends s.segmentTask = false := by rw [htask]; rfl
    have hsend := sendSegment_parked (hset rest).binding.sane hidle segment text
    exact Parked.silent ⟨(hset rest).trans hsend.toSpoke, hsend.parked⟩ hidle
  · rename_i epoch rest htask hqueue
    have hidle : Wire.sends s.segmentTask = false := by rw [htask]; rfl
    have hfinish := finishResponse_parked (hset rest).binding.sane hidle epoch
    exact Parked.silent ⟨(hset rest).trans hfinish.toSpoke, hfinish.parked⟩ hidle
  · exact .refl h

theorem textSent_silent (h : Sane s.binding) : Silent s (s.call .textSent).1 := by
  have hrefl : Spoke s s := ⟨.refl h, rfl, rfl⟩
  rw [Connection.call]
  split
  · rename_i segment r htask
    exact (nextPacket_parked h segment r 0).silent (by rw [htask]; rfl)
  · rename_i segment r packet htask
    exact (hrefl.parked rfl).silent (by rw [htask]; rfl)
  · rename_i htask
    exact (hrefl.parked rfl).silent (by rw [htask]; rfl)
  · rename_i r epoch htask
    exact (endResponse_parked h r epoch).silent (by rw [htask]; rfl)
  · exact .refl h

/-- A stretch that brings no packet to a transport is silent. -/
theorem call_silent (h : Sane s.binding) (e : Runtime.Event) (hnone : handsOver s e = none) (hsent : e ≠ .mediaSent)
    (hclose : e ≠ .close) : Silent s (s.call e).1 := by
  have hrefl : Silent s s := .refl h
  cases e with
  | control message =>
    rw [Connection.call]
    split
    · exact hrefl
    split
    · rename_i binding effect hcall
      exact applyControlEffect_silent h .reader rfl (by simp) hcall
    · rename_i binding _ _ hcall
      have hsilent := call_binding_silent h (c := .receiveControl message) rfl (by simp)
      rwa [hcall] at hsilent
  | acceptInterruption responseId generation =>
    rw [Connection.call]
    split
    · exact hrefl
    dsimp only
    split
    · split
      · rename_i binding effect hcall
        exact applyControlEffect_silent h .coordinator rfl (by simp) hcall
      · rename_i binding _ _ hcall
        have hsilent := call_binding_silent h (c := .cancelActiveResponse StopCause.recognizedInterrupt.text) rfl
          (by simp)
        rwa [hcall] at hsilent
    · exact hrefl
  | controlSent owner =>
    rw [Connection.call]
    split
    · exact hrefl
    · rename_i a ha
      refine update_applying_silent h owner rfl rfl rfl rfl ?_
      rintro a' ha'
      obtain rfl := Option.some.inj ha'
      exact ⟨a, ha, rfl⟩
  | applyDone owner =>
    rw [Connection.call]
    split
    · exact hrefl
    split
    · refine update_applying_silent h owner rfl rfl rfl rfl ?_
      simp
    · exact hrefl
  | interruptStart index =>
    rw [Connection.call]
    split
    · have hinterrupt : ∀ t : Connection, t.binding = s.binding → t.applying = s.applying →
          t.downlinkTimestamp = s.downlinkTimestamp → t.segmentTask = s.segmentTask → Silent s t.interrupt := by
        intro t hbinding happlying htimestamp htask
        rw [Connection.interrupt]
        split
        · exact .frame (by rw [← hbinding] at h ⊢; exact .refl h) happlying htimestamp htask
        · exact .frame (by rw [← hbinding] at h ⊢; exact .refl h) happlying htimestamp htask
      exact hinterrupt _ rfl rfl rfl rfl
    · exact hrefl
  | interruptReturn index =>
    rw [Connection.call]
    split
    · exact .frame (.refl h) rfl rfl rfl
    · exact hrefl
  | interruptFail index => exact .frame (.refl h) rfl rfl rfl
  | take => exact take_silent h
  | beginSent =>
    rw [Connection.call]
    split
    · rename_i segment r text htask
      have hset : Spoke s { s with assistantTextSent := "", responseTextSequence := 0 } := ⟨.refl h, rfl, rfl⟩
      have hstart := startPackets_parked hset.binding.sane segment r text
      exact Parked.silent ⟨hset.trans hstart.toSpoke, hstart.parked⟩ (by rw [htask]; rfl)
    · exact hrefl
  | textSent => exact textSent_silent h
  | encoded payload n late => exact encoded_silent h hnone
  | deadline n => exact deadline_silent h hnone
  | woken =>
    rw [Connection.call]
    split
    · rename_i segment r packet payload htask
      split
      · exact (finishSegment_parked h r).silent (by rw [htask]; rfl)
      · exact hrefl
    · exact hrefl
  | mediaSent => exact absurd rfl hsent
  | endSent =>
    rw [Connection.call]
    split
    · rename_i epoch htask
      exact Parked.silent ⟨⟨.refl h, rfl, rfl⟩, rfl⟩ (by rw [htask]; rfl)
    · exact hrefl
  | emitSegment segment =>
    rw [Connection.call]
    split
    · rw [Connection.emitSegment]
      split
      · exact hrefl
      split
      · exact hrefl
      split
      · exact hrefl
      · exact .frame (.refl h) rfl rfl rfl
    · exact hrefl
  | assistantText text =>
    rw [Connection.call]
    split
    · exact hrefl
    · exact .frame (.refl h) rfl rfl rfl
  | requestResponseEnd epoch =>
    rw [Connection.call]
    split
    · exact hrefl
    · exact .frame (.refl h) rfl rfl rfl
  | advanceProducerEpoch => exact .frame (.refl h) rfl rfl rfl
  | close => exact absurd rfl hclose

/-- A packet of the segment task comes to the transport inside `sendMedia`. -/
theorem handsOver_call {e : Runtime.Event} {r : Ref} {payload : List UInt8} (h : handsOver s e = some (r, payload)) :
    Wire.sends s.segmentTask = false ∧ (prebuffered s = true ∨ s.activeResponse = some r) ∧
      ∃ segment packet, ∀ n, (s.call (numbered n e)).1 = (s.sendMedia segment r packet payload n).1 := by
  cases e with
  | encoded payload' m late =>
    rw [handsOver] at h
    split at h
    · rename_i segment r' packet htask
      split at h
      · rename_i hgoes
        obtain ⟨rfl, rfl⟩ := Prod.mk.inj (Option.some.inj h)
        refine ⟨by rw [htask]; rfl, ?_, segment, packet, fun n => ?_⟩
        · rw [prebuffered, htask]
          exact hgoes.imp (fun hlt => decide_eq_true hlt) And.right
        · rw [numbered, Connection.call, htask]
          dsimp only
          rw [Connection.encoded]
          split
          · rfl
          · rename_i hlate
            obtain ⟨hlate, hactive⟩ := hgoes.resolve_left hlate
            rw [if_pos hlate, Connection.released, decide_eq_true hactive]
            rfl
      · cases h
    · cases h
  | deadline m =>
    rw [handsOver] at h
    split at h
    · rename_i segment r' packet payload' htask
      split at h
      · rename_i hgoes
        obtain ⟨rfl, rfl⟩ := Prod.mk.inj (Option.some.inj h)
        refine ⟨by rw [htask]; rfl, .inr hgoes.2, segment, packet, fun n => ?_⟩
        rw [numbered, Connection.call, htask]
        dsimp only
        rw [if_neg (by simp [hgoes.1]), Connection.released, decide_eq_true hgoes.2]
        rfl
      · cases h
    · cases h
  | _ => cases h

theorem numbered_self {e : Runtime.Event} {r : Ref} {payload : List UInt8} (h : handsOver s e = some (r, payload)) :
    ∃ n, numbered n e = e := by
  cases e with
  | encoded payload' n late => exact ⟨n, rfl⟩
  | deadline n => exact ⟨n, rfl⟩
  | _ => cases h

theorem validateUint32_nat (name : String) {n : Nat} {minimum : Int} (hmin : minimum ≤ n) (hmax : n ≤ uint32Max) :
    validateUint32 name n minimum = .ok n := by
  rw [validateUint32, if_pos ⟨hmin, by exact_mod_cast hmax⟩, Int.toNat_natCast]

theorem noteDownlinkMedia_accepted {b : Binding} {r : Ref} {n : Nat} (haccepts : b.responses.accepts r = true)
    (hn : n ≤ uint32Max) : b.call (.noteDownlinkMedia r n) =
      ({ b with responses := b.responses.update r (Coordinator.noted n) }, .ok .done) := by
  rw [Binding.call, Binding.noteDownlinkMedia, validateUint32_nat "sequence" (by simp) hn]
  simp only [ok_bind, Coordinator.noteMedia_accepted haccepts]
  rfl

theorem advanceTimestamp_frame (s : Connection) :
    s.advanceTimestamp.binding = s.binding ∧ s.advanceTimestamp.applying = s.applying ∧
      s.advanceTimestamp.downlinkTimestamp ≤ uint32Max := by
  have hle : (s.downlinkTimestamp + 960) % 2 ^ 32 ≤ uint32Max := Nat.le_pred_of_lt (Nat.mod_lt _ (by decide))
  rw [Connection.advanceTimestamp]
  generalize (s.downlinkTimestamp + 960) % 2 ^ 32 = timestamp at hle ⊢
  exact ⟨rfl, rfl, hle⟩

/-- Over UDP the packet of an accepted response is noted with the number it was sent with. -/
theorem sendMedia_udp (h : Sane s.binding) (hudp : overUdp s = true) {r : Ref}
    (haccepts : s.binding.responses.accepts r = true) {n : Nat} (hn : n ≤ uint32Max) (segment : Segment) (packet : Nat)
    (payload : List UInt8) :
    ∃ t, Heard r n s.binding t.binding ∧ t.applying = s.applying ∧ t.downlinkTimestamp ≤ uint32Max ∧
      Parked t (s.sendMedia segment r packet payload n).1 := by
  have hheard : Heard r n s.binding { s.binding with responses := s.binding.responses.update r (Coordinator.noted n) } :=
    heard_of_noted h haccepts rfl
  rw [Connection.sendMedia, if_pos (by simpa [overUdp] using hudp), noteDownlinkMedia_accepted haccepts hn]
  dsimp only
  generalize { s.binding with responses := s.binding.responses.update r (Coordinator.noted n) } = b at hheard ⊢
  obtain ⟨hbinding, happlying, htimestamp⟩ := advanceTimestamp_frame { s with binding := b }
  generalize { s with binding := b }.advanceTimestamp = t at hbinding happlying htimestamp ⊢
  refine ⟨t, ?_, happlying, htimestamp, nextPacket_parked ?_ segment r (packet + 1)⟩
  · rwa [hbinding]
  · rw [hbinding]
    exact hheard.sane

theorem serialize_carried {f : WssMediaFrame} (hepoch : 1 ≤ f.mediaEpoch ∧ f.mediaEpoch ≤ uint32Max)
    (hsequence : f.sequence ≤ uint32Max) (htimestamp : f.timestamp ≤ uint32Max) (hid : f.mediaId.length = 8)
    (hcarries : carries f.payload f.generation = true) : ∃ bytes, f.serialize = .ok bytes := by
  simp only [carries, Bool.and_eq_true, decide_eq_true_eq] at hcarries
  obtain ⟨⟨hne, hlen⟩, hgeneration⟩ := hcarries
  rw [WssMediaFrame.serialize, validateUint32_nat _ (by exact_mod_cast hepoch.1) hepoch.2,
    validateUint32_nat _ (by simp) hsequence, validateUint32_nat _ (by simp) htimestamp,
    validateUint32_nat _ (by simp) hgeneration, reject, if_neg (by simp [hid]), reject, if_neg (by simp [hne]; omega)]
  exact ⟨_, rfl⟩

/-- Over the websocket a packet of an accepted response is noted with the sequence of its
frame, which then waits for the lock; any other packet goes no further. -/
theorem sendMedia_wss (h : Sane s.binding) (hwss : overUdp s = false) {r : Ref} {payload : List UInt8}
    (hcarries : s.binding.responses.accepts r = true → carries payload (generationOf s r) = true)
    (htimestamp : s.downlinkTimestamp ≤ uint32Max) (segment : Segment) (packet n : Nat) :
    (s.binding.responses.accepts r = true ∧ ∃ binding, Heard r s.binding.nextDownlinkSequence s.binding binding ∧
      (s.sendMedia segment r packet payload n).1 =
        { s with binding := binding, segmentTask := .sending segment r packet }) ∨
      Parked s (s.sendMedia segment r packet payload n).1 := by
  have hrefused : ∀ e, Parked s (Connection.sendMedia.refused r s e).1 := by
    intro e
    rw [Connection.sendMedia.refused]
    split
    · exact finishSegment_parked h r
    · exact ⟨⟨.refl h, rfl, rfl⟩, rfl⟩
  have heffect := Binding.call_effect s.binding (.serializeAudio payload s.downlinkTimestamp r)
  rw [Connection.sendMedia, if_neg (by simpa [overUdp] using hwss)]
  generalize hcall : s.binding.call (.serializeAudio payload s.downlinkTimestamp r) = made at heffect ⊢
  obtain ⟨binding, result⟩ := made
  dsimp only at heffect
  cases heffect with
  | rejected _ e => exact .inr (hrefused e)
  | unmoved _ hkind => simp at hkind
  | transcribed final _ _ _ _ _ _ _ hkind _ => cases final <;> simp at hkind
  | serialized hlive hprofile hlimit hnote hresult =>
    rename_i responses
    obtain ⟨rec, hrec⟩ := Binding.noteMedia_accepts hnote
    have haccepts : s.binding.responses.accepts r = true := by
      by_contra hnot
      rw [Coordinator.noteMedia, if_pos (by simpa using hnot)] at hnote
      cases hnote
    obtain rfl := Except.ok.inj ((Coordinator.noteMedia_accepted haccepts _).symm.trans hnote)
    have hgeneration : generationOf s r = rec.target.generation := by
      rw [Coordinator.update_heap, if_pos rfl, Option.map_eq_some_iff] at hrec
      obtain ⟨rec₀, hrec₀, rfl⟩ := hrec
      rw [generationOf, hrec₀]
      rfl
    have hcarries := hcarries haccepts
    rw [hgeneration] at hcarries
    obtain ⟨bytes, hbytes⟩ := serialize_carried (f := { mediaId := s.binding.config.mediaId
                                                        mediaEpoch := s.binding.config.mediaEpoch
                                                        sequence := s.binding.nextDownlinkSequence
                                                        timestamp := s.downlinkTimestamp
                                                        generation := rec.target.generation, payload })
      s.binding.config.mediaEpoch_range hlimit htimestamp s.binding.config.mediaId_length hcarries
    rw [validateUint32_nat _ (by simp) htimestamp, ok_bind, hrec] at hresult
    dsimp only at hresult
    rw [hbytes] at hresult
    subst hresult
    exact .inl ⟨haccepts, _, heard_of_noted h haccepts rfl, rfl⟩

end

end Wire

end RealtimeVoice.Rva
