import RealtimeVoice.Rva.Lifecycle
import RealtimeVoice.Firmware.PlaybackFacts
import RealtimeVoice.Desktop.App

namespace RealtimeVoice.Rva

open RealtimeVoice.Base RealtimeVoice.Base.Runs

namespace Coordinator

variable {c c' : Coordinator} {r : Ref} {rec : ResponseRecord}

/-- The endpoint's `playback.ended` is taken. -/
def Accepts (c : Coordinator) (k : Key) (outcome : PlaybackOutcome) (playedSamples : Nat) (last : Option Nat) : Prop :=
  ∃ c' fact, c.playbackEnded k.1 k.2 outcome playedSamples last = (c', .ok fact)

/-- The sequence number is one the server has counted for the response. -/
def Noted (rec : ResponseRecord) (last : Option Nat) : Prop :=
  ∀ n, last = some n → ∃ m, rec.lastMediaSequence = some m ∧ n ≤ m

theorem any_noted (rec : ResponseRecord) (last : Option Nat) {playedSamples : Nat}
    (hplayed : ∀ n, last = some n → playedSamples ≠ 0) :
    last.any (fun n => playedSamples == 0 || !rec.lastMediaSequence.any (n ≤ ·)) = false ↔ Noted rec last := by
  cases last with
  | none => simp [Noted]
  | some n =>
    have hne : (playedSamples == 0) = false := beq_eq_false_iff_ne.mpr (hplayed n rfl)
    cases hlast : rec.lastMediaSequence <;> simp [Noted, hne, hlast]

/-- For a playback that was stopped, the server's table accepts "stopped" unless the
response failed. -/
theorem Consistent.accepts_stopped (h : Consistent c) (hplayback : c.playback = some r)
    (hrec : c.heap[r]? = some rec) (hstop : rec.stopSent = true) {playedSamples : Nat} {last : Option Nat}
    (hplayed : ∀ n, last = some n → playedSamples ≠ 0) :
    c.Accepts rec.key .stopped playedSamples last ↔ rec.outcome ≠ some .failed ∧ Noted rec last := by
  obtain ⟨rec', hrec', hcurrent⟩ := h.current r hplayback
  obtain rfl := Option.some.inj (hrec.symm.trans hrec')
  have hrecord : c.record rec.key.1 rec.key.2 = .ok (r, rec) := by
    rw [record, show c.records.get? (rec.key.1, rec.key.2) = some r from hcurrent.known]
    dsimp only
    rw [hrec]
  have hexpected : PlaybackOutcome.stopped ∉ expectedOutcomes rec ↔ rec.outcome = some .failed := by
    have hset := h.stopped r rec hrec hstop
    rw [expectedOutcomes, hstop]
    cases hout : rec.outcome with
    | none => exact absurd hout hset
    | some outcome => cases outcome <;> simp
  have hunfinished : needsFinish rec = false := by simp [needsFinish, hstop]
  have hended : c.endedRecord rec.key.1 rec.key.2 .stopped playedSamples last = .ok (r, rec) ↔
      rec.outcome ≠ some .failed ∧ Noted rec last := by
    rw [endedRecord, hrecord]
    dsimp only
    rw [if_neg (by simp [hcurrent.unended]), if_neg (not_not.mpr hplayback)]
    by_cases hfailed : rec.outcome = some .failed
    · rw [if_pos (hexpected.mpr hfailed)]
      simp [hfailed]
    · rw [if_neg (fun hnot => hfailed (hexpected.mp hnot)), if_neg (by simp), if_neg (by simp)]
      rw [← any_noted rec last hplayed]
      by_cases hany : last.any (fun n => playedSamples == 0 || !rec.lastMediaSequence.any (n ≤ ·)) = true
      · rw [if_pos ⟨by simp, hany⟩]
        simp [hany]
      · rw [if_neg (fun hboth => hany hboth.2)]
        simp [hfailed, hany]
  rw [← hended, Accepts, playbackEnded]
  cases hresult : c.endedRecord rec.key.1 rec.key.2 .stopped playedSamples last with
  | error e => simp
  | ok found =>
    obtain ⟨hheap, hcur, -⟩ := endedRecord_ok hresult
    obtain rfl : found.1 = r := Option.some.inj (hcur.symm.trans hplayback)
    obtain rfl : found.2 = rec := Option.some.inj (hheap.symm.trans hrec)
    simp [hunfinished]

theorem fence_record {outcome : ResponseOutcome} {code : Option String} {g : Nat}
    (h : c.fence r outcome code = .ok (c', g)) :
    ∃ rec, c.heap[r]? = some rec ∧ c.playback = some r ∧ rec.stopSent = false ∧ g = c.session.generation + 1 ∧
      c'.heap[r]? = some (stopped (c.active == some r) outcome code rec) := by
  rw [fence] at h
  split at h
  · cases h
  rename_i rec hrec
  split at h
  · cases h
  rename_i hcurrent
  simp only [ne_eq, not_or, not_not, Bool.not_eq_true] at hcurrent
  rw [VoiceSession.cancelPlayback] at h
  by_cases hclosed : c.session.closed = true
  · simp [hclosed] at h
  by_cases hactive : c.session.activePlayback = some rec.target
  · rw [if_neg hclosed, if_neg (not_not.mpr hactive)] at h
    cases h
    exact ⟨rec, hrec, hcurrent.1, hcurrent.2, rfl, update_self { c with session := _, active := _ } _ rfl hrec⟩
  · simp [hclosed, hactive] at h

/-- After the stop nothing changes the outcome the record got. -/
theorem Consistent.outcome_kept (h : Consistent c) {a : Action} (hm : Moves c a c') (hrec : c.heap[r]? = some rec)
    (hstop : rec.stopSent = true) :
    ∃ rec', c'.heap[r]? = some rec' ∧ rec'.key = rec.key ∧ rec'.stopSent = true ∧ rec'.outcome = rec.outcome := by
  have hset := h.stopped r rec hrec hstop
  have hupdate : ∀ (c₁ : Coordinator) (r₁ : Ref) (f : ResponseRecord → ResponseRecord), c₁.heap = c.heap →
      (r₁ = r → (f rec).key = rec.key ∧ (f rec).stopSent = true ∧ (f rec).outcome = rec.outcome) →
      ∃ rec', (c₁.update r₁ f).heap[r]? = some rec' ∧ rec'.key = rec.key ∧ rec'.stopSent = true ∧
        rec'.outcome = rec.outcome := by
    intro c₁ r₁ f hheap hf
    refine ⟨_, update_forth f (by rwa [hheap]), ?_⟩
    split
    · rename_i heq
      exact hf heq
    · exact ⟨rfl, hstop, rfl⟩
  have hkept : ∃ rec', c.heap[r]? = some rec' ∧ rec'.key = rec.key ∧ rec'.stopSent = true ∧
      rec'.outcome = rec.outcome := ⟨rec, hrec, rfl, hstop, rfl⟩
  cases hm with
  | idle => exact hkept
  | begun _ _ _ _ =>
    have hlt : r < c.heap.length := (List.getElem?_eq_some_iff.mp hrec).1
    exact ⟨rec, by rwa [List.getElem?_append_left hlt], rfl, hstop, rfl⟩
  | media _ _ _ => exact hupdate c _ _ rfl (fun _ => ⟨rfl, hstop, rfl⟩)
  | completed _ _ hactive _ =>
    refine hupdate { c with active := none } _ _ rfl (fun heq => ?_)
    subst heq
    exact absurd (h.outcome_of_active hactive hrec) hset
  | fenced hrec₁ _ hunstopped _ _ _ =>
    refine hupdate { c with session := _, active := _ } _ _ rfl (fun heq => ?_)
    subst heq
    rw [Option.some.inj (hrec₁.symm.trans hrec), hstop] at hunstopped
    cases hunstopped
  | started _ _ => exact hupdate c _ _ rfl (fun _ => ⟨rfl, hstop, rfl⟩)
  | ended _ _ _ _ => exact hupdate c _ _ rfl (fun _ => ⟨rfl, hstop, rfl⟩)
  | unfinished _ _ _ _ => exact hupdate c _ _ rfl (fun _ => ⟨rfl, hstop, rfl⟩)
  | closed => exact hkept

end Coordinator

namespace Binding

variable {b b' b'' : Binding}

theorem fenceEffect_stop {r : Ref} {g f : Nat} {cause cause' : StopCause} {effect : ControlEffect} {responseId : String}
    {generation : Nat} (h : b.fenceEffect r g cause = .ok effect)
    (hstop : .playbackStop responseId generation f cause' ∈ effect.outbound) :
    f = g ∧ cause' = cause ∧ ∃ rec : ResponseRecord, b.responses.heap[r]? = some rec ∧
      rec.key = (responseId, generation) := by
  obtain ⟨rec, hrec, rfl⟩ := fenceEffect_ok h
  rw [List.mem_cons] at hstop
  obtain hstop | hstop := hstop
  · obtain ⟨hid, hgeneration, hfence, hcause⟩ := ServerEvent.playbackStop.inj hstop
    refine ⟨hfence, hcause, rec, hrec, ?_⟩
    rw [ResponseRecord.key, hid, hgeneration]
  · split at hstop <;> simp at hstop

theorem not_stop_event {e : ServerEvent} {f : ServerEvent → Reply} {responseId : String} {generation g : Nat}
    {cause : StopCause} (hf : ∀ e, (f e).emits = [e]) (he : ∀ i n m c, e ≠ .playbackStop i n m c) :
    ServerEvent.playbackStop responseId generation g cause ∉ emits ((b.event e).map f) := by
  obtain ⟨error, h⟩ | h := b.event_map e f
  · rw [h]
    exact List.not_mem_nil
  · rw [h, emits, hf, List.mem_singleton]
    exact fun heq => he _ _ _ _ heq.symm

/-- The only way to a `playback.stop` is a fence with the outcome of its cause. -/
theorem step_stop {e : Event} (h : Step b e b') {responseId : String} {generation g : Nat} {cause : StopCause}
    (hstop : .playbackStop responseId generation g cause ∈ emits e.2) :
    ∃ r rec, b.responses.playback = some r ∧
      b.responses.fence r (stopOutcome cause) (stopErrorCode cause) = .ok (b'.responses, g) ∧
      b'.responses.heap[r]? = some rec ∧ rec.key = (responseId, generation) := by
  obtain ⟨call, result⟩ := e
  have heffect : Effect b call b' result := step_effect h
  dsimp only at hstop
  cases heffect with
  | rejected | unmoved | fenceFailed | started | uplink | reserved | noted | again | closed =>
    simp [emits, Reply.emits] at hstop
  | fenced hlive hplayback hfence hb' =>
    subst hb'
    rename_i r cause' text responses g'
    cases hresult : { b with responses := responses }.fenceEffect r g' cause' with
    | error e =>
      rw [hresult] at hstop
      simp [emits, Except.map] at hstop
    | ok effect =>
      rw [hresult] at hstop
      obtain ⟨rfl, rfl, rec, hrec, hkey⟩ := fenceEffect_stop hresult hstop
      exact ⟨r, rec, hplayback, hfence, hrec, hkey⟩
  | fencedOnRequest hlive hplayback hfence hb' hresult =>
    subst hb'
    obtain ⟨rfl, rfl, rec, hrec, hkey⟩ := fenceEffect_stop hresult hstop
    exact ⟨_, rec, hplayback, hfence, hrec, hkey⟩
  | fencedOnClose hlive hplayback hfence hb' hresult hreason =>
    subst hb'
    rename_i r message responses g' reason effect
    obtain ⟨error, hevent⟩ | hevent := event_map (b := { b with responses := responses }) (.sessionClose reason)
        fun close => .control { effect with outbound := effect.outbound ++ [close], closeAfterSend := true }
    · rw [hevent] at hstop
      simp [emits] at hstop
    · rw [hevent] at hstop
      simp only [emits, Reply.emits, List.mem_append, List.mem_singleton, reduceCtorEq, or_false] at hstop
      obtain ⟨rfl, rfl, rec, hrec, hkey⟩ := fenceEffect_stop hresult hstop
      exact ⟨r, rec, hplayback, hfence, hrec, hkey⟩
  | opened | closing => exact absurd hstop (not_stop_event (fun _ => rfl) (by simp))
  | ended _ hresult =>
    rename_i result _
    cases result <;> simp [emits, Reply.emits, Except.map] at hstop
  | serialized _ _ _ _ hresult =>
    cases result with
    | error e => simp [emits] at hstop
    | ok reply =>
      obtain ⟨frame, rfl⟩ := serialized_media hresult.symm
      simp [emits, Reply.emits] at hstop
  | transcribed final _ _ _ _ _ _ _ _ he =>
    subst he
    exact absurd hstop (not_stop_event (fun _ => rfl) (by cases final <;> simp))
  | begun => exact absurd hstop (not_stop_event (fun _ => rfl) (by simp))
  | texted | completed | errored => exact absurd hstop (not_stop_event (fun _ => rfl) (by simp))

/-- What the fence writes into the record that the endpoint's answer is checked against. -/
theorem fence_outcome (hc : b.responses.Consistent) {r : Ref} {cause : StopCause} {responses : Coordinator} {g : Nat}
    (hfence : b.responses.fence r (stopOutcome cause) (stopErrorCode cause) = .ok (responses, g)) :
    ∃ rec, responses.heap[r]? = some rec ∧ rec.stopSent = true ∧ rec.target.generation < g ∧
      (rec.outcome = some .failed ↔ b.responses.active ≠ none ∧ cause = .responseFailed) := by
  obtain ⟨rec, hrec, hplayback, hunstopped, rfl, hrec'⟩ := Coordinator.fence_record hfence
  obtain ⟨rec₀, hrec₀, hcurrent⟩ := hc.current r hplayback
  obtain rfl := Option.some.inj (hrec.symm.trans hrec₀)
  refine ⟨_, hrec', rfl, Nat.lt_succ_of_le (hc.generation_le r rec hrec), ?_⟩
  by_cases hactive : b.responses.active = some r
  · have hfailed : stopOutcome cause = .failed ↔ cause = .responseFailed := by cases cause <;> decide
    simp [Coordinator.stopped, hactive, hfailed]
  · have hnone : b.responses.active = none := by
      cases hother : b.responses.active with
      | none => rfl
      | some r' =>
        have hsame := hc.active r' hother
        rw [hplayback] at hsame
        exact absurd (hother.trans hsame.symm) hactive
    have hdone : rec.outcome = some .completed := by
      refine (hcurrent.unfenced hunstopped).resolve_left (fun hlive => hactive ?_)
      exact hcurrent.live.mpr hlive
    simp [Coordinator.stopped, hnone, hdone]

/-- From the stop on, the record of its target keeps the outcome of the fence. -/
theorem run_stopped {fs : List Event} (hc : b.responses.Consistent) (h : Run Step b fs b') {r : Ref}
    {rec : ResponseRecord} (hrec : b.responses.heap[r]? = some rec) (hstop : rec.stopSent = true) :
    b'.responses.Consistent ∧ ∃ rec', b'.responses.heap[r]? = some rec' ∧ rec'.key = rec.key ∧
      rec'.stopSent = true ∧ rec'.outcome = rec.outcome := by
  refine h.state_invariant (P := fun b' => b'.responses.Consistent ∧ ∃ rec', b'.responses.heap[r]? = some rec' ∧
    rec'.key = rec.key ∧ rec'.stopSent = true ∧ rec'.outcome = rec.outcome) ⟨hc, rec, hrec, rfl, hstop, rfl⟩ ?_
  rintro t e u ⟨ht, rec₁, hrec₁, hkey, hstop₁, hout⟩ hs
  obtain ⟨a, hmove, -, -⟩ := step_shows hs ht
  obtain ⟨rec₂, hrec₂, hkey₂, hstop₂, hout₂⟩ := ht.outcome_kept hmove hrec₁ hstop₁
  exact ⟨step_consistent hs ht, rec₂, hrec₂, hkey₂.trans hkey, hstop₂, hout₂.trans hout⟩

/-- The server has sent this stop and still waits for the end of the playback it names;
`fenced` is the server at the stop, `rec` the record as it is now. -/
structure Awaits (fenced b : Binding) (rec : ResponseRecord) (g : Nat) (cause : StopCause) : Prop where
  stop : ∃ config es e b' fs, Run Step (.init config) es fenced ∧ Step fenced e b' ∧
    .playbackStop rec.responseId rec.target.generation g cause ∈ emits e.2 ∧ Run Step b' fs b
  waits : ∃ r, b.responses.playback = some r ∧ b.responses.heap[r]? = some rec

/-- The response had not completed when it was stopped for a failure. -/
def FailedLive (fenced : Binding) (cause : StopCause) : Prop :=
  fenced.responses.active ≠ none ∧ cause = .responseFailed

/-- The record the server checks the answer against. -/
theorem Awaits.stopped {rec : ResponseRecord} {g : Nat} {cause : StopCause} (h : Awaits b b'' rec g cause) :
    ∃ r, b''.responses.Consistent ∧ b''.responses.playback = some r ∧ b''.responses.heap[r]? = some rec ∧
      rec.stopSent = true ∧ rec.target.generation < g ∧ (rec.outcome = some .failed ↔ FailedLive b cause) := by
  obtain ⟨config, es, e, b', fs, hrun, hstep, hstop, hlater⟩ := h.stop
  obtain ⟨r, hwaits, hrec⟩ := h.waits
  obtain ⟨r₀, rec₀, hplayback, hfence, hrec₀, hkey⟩ := step_stop hstep hstop
  obtain ⟨rec₁, hrec₁, hstopped, hlt, hfailed⟩ := fence_outcome (run_consistent hrun) hfence
  obtain rfl := Option.some.inj (hrec₀.symm.trans hrec₁)
  have hc' := step_consistent hstep (run_consistent hrun)
  obtain ⟨hc, rec₂, hrec₂, hkey₂, hstopped₂, hout⟩ := run_stopped hc' hlater hrec₀ hstopped
  -- the generation identifies the record, so the server waits for the one it fenced
  have hgeneration : rec₂.target.generation = rec.target.generation := congrArg Prod.snd (hkey₂.trans hkey)
  obtain rfl := hc.distinct r₀ r rec₂ rec hrec₂ hrec hgeneration
  obtain rfl := Option.some.inj (hrec₂.symm.trans hrec)
  refine ⟨r₀, hc, hwaits, hrec, hstopped₂, ?_, ?_⟩
  · rwa [show rec₀.target.generation = rec₂.target.generation from congrArg Prod.snd hkey₂.symm] at hlt
  · rw [hout, hfailed, FailedLive]

theorem Awaits.accepts_iff {rec : ResponseRecord} {g : Nat} {cause : StopCause} (h : Awaits b b'' rec g cause)
    {playedSamples : Nat} {last : Option Nat} (hplayed : ∀ n, last = some n → playedSamples ≠ 0) :
    b''.responses.Accepts rec.key .stopped playedSamples last ↔ ¬FailedLive b cause ∧ Coordinator.Noted rec last := by
  obtain ⟨r, hc, hwaits, hrec, hstopped, -, hfailed⟩ := h.stopped
  rw [hc.accepts_stopped hwaits hrec hstopped hplayed, ne_eq, hfailed]

open RealtimeVoice.Firmware

/-- The word that the firmware's `playback.ended` carries. -/
def outcomeWord : PlaybackState.PlaybackEndedOutcome → PlaybackOutcome
  | .completed => .completed
  | .stopped => .stopped
  | .failed => .failed

/-- The server takes the terminal fact of the firmware. -/
def TakesFirmware (b : Binding) (f : PlaybackState.PlaybackFact) : Prop :=
  f.type = .ended ∧
    b.responses.Accepts (f.target.responseId, f.target.generation) (outcomeWord f.outcome) f.playedSamples
      f.lastMediaSequence

/-- The server takes the terminal fact of the desktop client. -/
def TakesDesktop (b : Binding) : Desktop.PlaybackFact → Prop
  | .started .. => False
  | .ended target outcome playedSamples last =>
    b.responses.Accepts (target.responseId, target.generation) outcome playedSamples last

/-- Stop outcome agreement. An endpoint that still plays answers every stop of the server
with a fact that the server takes, if and only if the stop was not for the failure of a
response still active and the endpoint has played no frame that the server had not yet counted. -/
theorem stopped_accepted_iff {rec : ResponseRecord} {g : Nat} {cause : StopCause} (h : Awaits b b'' rec g cause) :
    (∀ (es : List PlaybackState.Event) (s : PlaybackState.State), Run PlaybackState.Step {} es s → s.active = true →
      s.target = ⟨rec.responseId, rec.target.generation⟩ →
      ∃ f, (PlaybackState.stop s s.target g true).2 = { ok := true, fact := some f } ∧
        (b''.TakesFirmware f ↔ ¬FailedLive b cause ∧ Coordinator.Noted rec s.lastSampleSequence)) ∧
    ∀ (app : Desktop.App) (r : Nat) (p : Desktop.AppPlayback) (owner : Bool) (fact : Desktop.PlaybackFact),
      app.heap[r]? = some p → p.ended = false → p.target = ⟨rec.responseId, rec.target.generation⟩ →
      (app.stopAfterReset r owner).2 = .ok (some fact) →
        (b''.TakesDesktop fact ↔ ¬FailedLive b cause ∧ Coordinator.Noted rec p.lastMediaSequence) := by
  refine ⟨?_, ?_⟩
  · intro es s hrun hactive htarget
    have hg : s.target.generation < g := by
      obtain ⟨r, -, -, -, -, hlt, -⟩ := h.stopped
      rwa [htarget]
    obtain ⟨hreply, hplayed⟩ := PlaybackState.stop_answered hrun hactive hg
    refine ⟨_, hreply, ?_⟩
    rw [TakesFirmware, htarget]
    exact (and_iff_right rfl).trans (h.accepts_iff hplayed)
  · intro app r p owner fact hp hplaying htarget hfact
    obtain ⟨rfl, known, -, -, hevidence⟩ := (Desktop.App.stopAfterReset_iff hp hplaying owner fact).mp hfact
    rw [TakesDesktop, htarget]
    refine h.accepts_iff ?_
    intro n hn hzero
    rw [hevidence.silent hzero] at hn
    cases hn

/-- A response with one frame sent, still active. -/
def demoActive : List Call := [.receiveControl demoOpen, .responseBegin "r1" 1, .serializeAudio [7] 0 0]

def demoBefore : Binding := after call (.init demoConfig) demoActive

def demoAfter (cause : StopCause) : Binding := (demoBefore.cancelActiveResponse cause.text).1

def demoRecord (cause : StopCause) : ResponseRecord :=
  { responseId := "r1", target := { connectionEpoch := "e1", generation := 1 }, producerEpoch := 1
    firstMediaSequence := some 0, lastMediaSequence := some 0, outcome := some (stopOutcome cause)
    errorCode := stopErrorCode cause, stopSent := true }

/-- The firmware has played that frame. -/
def demoPlaying : PlaybackState.State :=
  after PlaybackState.call {} [.begin ⟨"r1", 1⟩, .recordWritten 0 960 true, .finishFrame 0 true]

/-- So has the desktop client, whose session state has seen the stop. -/
def demoDesktop : Desktop.App :=
  { session := { opened := { sessionId := "s1", sessionEpoch := "e1", mediaId := [0, 1, 2, 3, 4, 5, 6, 7]
                             mediaEpoch := 1, selectedProfile := .wssOpus }
                 nextDownlinkSequence := 1, fenceGeneration := 2, highestGeneration := 1
                 currentPlayback := some ⟨"r1", 1⟩, responseTextSequence := Dict.set {} 1 0
                 lastMediaTimestamp := Dict.set {} 1 0
                 playbacks := Dict.set {} 1
                   { target := ⟨"r1", 1⟩, started := true, stopped := true, firstMediaSequence := some 0
                     lastMediaSequence := some 0, stopFence := some 2, stopCause := some .responseFailed } }
    heap := [{ target := ⟨"r1", 1⟩, started := true, playedSamples := 960, lastMediaSequence := some 0
               lastMediaTimestamp := some 0 }]
    playbacks := Dict.set {} 1 0, sinkOwner := none, fenceGeneration := 2 }

theorem mem_of_any {l : List ServerEvent} {responseId : String} {generation g : Nat} {cause : StopCause}
    (h : l.any (fun e => match e with
      | .playbackStop i n f c => decide (i = responseId ∧ n = generation ∧ f = g ∧ c = cause)
      | _ => false) = true) : .playbackStop responseId generation g cause ∈ l := by
  obtain ⟨e, he, htest⟩ := List.any_eq_true.mp h
  cases e with
  | playbackStop i n f c =>
    obtain ⟨rfl, rfl, rfl, rfl⟩ := of_decide_eq_true htest
    exact he
  | _ => cases htest

theorem demo_awaits (cause : StopCause) : Awaits demoBefore (demoAfter cause) (demoRecord cause) 2 cause where
  stop := by
    refine ⟨demoConfig, _, (.cancelActiveResponse cause.text, _), _, [], run_history call (.init demoConfig) demoActive,
      rfl, ?_, .nil⟩
    apply mem_of_any
    cases cause <;> decide +kernel
  waits := ⟨0, by cases cause <;> rfl, by cases cause <;> rfl⟩

theorem stopped_accepted_interrupt :
    ∃ f, (PlaybackState.stop demoPlaying ⟨"r1", 1⟩ 2 true).2 = { ok := true, fact := some f } ∧
      (demoAfter .recognizedInterrupt).TakesFirmware f := by
  obtain ⟨f, hreply, hiff⟩ := (stopped_accepted_iff (demo_awaits .recognizedInterrupt)).1 _ demoPlaying
    (run_history _ _ _) rfl rfl
  refine ⟨f, hreply, hiff.mpr ⟨by simp [FailedLive], ?_⟩⟩
  intro n hn
  exact ⟨0, rfl, (Option.some.inj hn).ge⟩

/-- The stop of a failed response: both endpoints answer "stopped" and the server waits
for "failed". -/
theorem stop_of_failure_refused :
    Awaits demoBefore (demoAfter .responseFailed) (demoRecord .responseFailed) 2 .responseFailed ∧
      (∃ es, Run PlaybackState.Step {} es demoPlaying) ∧ demoPlaying.active = true ∧
      (∃ f, (PlaybackState.stop demoPlaying ⟨"r1", 1⟩ 2 true).2 = { ok := true, fact := some f } ∧
        ¬(demoAfter .responseFailed).TakesFirmware f) ∧
      ∃ fact, (demoDesktop.stopPlayback ⟨"r1", 1⟩ 2).2 = some 0 ∧
        (demoDesktop.stopAfterReset 0 false).2 = .ok (some fact) ∧ ¬(demoAfter .responseFailed).TakesDesktop fact := by
  have hawaits := demo_awaits .responseFailed
  have hlive : FailedLive demoBefore .responseFailed := ⟨by decide +kernel, rfl⟩
  have hrefused : ¬(demoAfter .responseFailed).responses.Accepts ("r1", 1) .stopped 960 (some 0) :=
    fun h => ((hawaits.accepts_iff (by simp)).mp h).1 hlive
  refine ⟨hawaits, ⟨_, run_history _ _ _⟩, rfl, ⟨_, rfl, fun h => hrefused h.2⟩,
    .ended ⟨"r1", 1⟩ .stopped 960 (some 0), ?_, ?_, hrefused⟩
  · decide +kernel
  · decide +kernel

end Binding

end RealtimeVoice.Rva
