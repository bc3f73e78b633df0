import RealtimeVoice.Rva.Response

namespace RealtimeVoice.Rva.Coordinator

open RealtimeVoice.Base

/-- The transitions of the coordinator, by the record they concern. -/
inductive Action
  | idle
  | begun (r : Ref)
  | media (r : Ref) (sequence : Nat)
  | completed (r : Ref)
  | fenced (r : Ref) (fenceGeneration : Nat)
  | started (r : Ref)
  | ended (r : Ref)
  | unfinished (r : Ref)
  | closed
deriving DecidableEq

def noted (sequence : Nat) (rec : ResponseRecord) : ResponseRecord :=
  { rec with
    firstMediaSequence := some (rec.firstMediaSequence.getD sequence)
    lastMediaSequence := some sequence }

/-- The record of a fenced playback; only a response still active gets an outcome. -/
def stopped (active : Bool) (outcome : ResponseOutcome) (errorCode : Option String) (rec : ResponseRecord) :
    ResponseRecord :=
  { rec with
    outcome := if active then some outcome else rec.outcome
    errorCode := if active then errorCode else rec.errorCode
    stopSent := true }

/-- Every way in which an operation changes the coordinator, with its guards. -/
inductive Moves (c : Coordinator) : Action → Coordinator → Prop
  | idle : Moves c .idle c
  | begun {responseId : String} {producerEpoch : Int} {target : PlaybackRef} :
      c.active = none → c.playback = none → c.session.closed = false →
      target = { connectionEpoch := c.session.connectionEpoch, generation := c.session.generation + 1 } →
      Moves c (.begun c.heap.length)
        { c with
          session := { c.session with generation := c.session.generation + 1, activePlayback := some target }
          heap := c.heap ++ [{ responseId, target, producerEpoch }]
          active := some c.heap.length
          playback := some c.heap.length
          records := c.records.set (responseId, target.generation) c.heap.length }
  | media {r : Ref} {rec : ResponseRecord} {n : Nat} :
      c.active = some r → c.heap[r]? = some rec → c.session.closed = false →
      Moves c (.media r n) (c.update r (noted n))
  | completed {r : Ref} {rec : ResponseRecord} {n : Nat} :
      c.heap[r]? = some rec → rec.lastMediaSequence = some n → c.active = some r → c.playback = some r →
      Moves c (.completed r)
        (({ c with active := none }.update r fun rec => { rec with outcome := some .completed }).rememberTerminal
          rec.key)
  | fenced {r : Ref} {rec : ResponseRecord} {outcome : ResponseOutcome} {errorCode : Option String} :
      c.heap[r]? = some rec → c.playback = some r → rec.stopSent = false → c.session.closed = false →
      c.session.activePlayback = some rec.target → outcome ≠ .completed →
      Moves c (.fenced r (c.session.generation + 1))
        (({ c with
            session := { c.session with generation := c.session.generation + 1, activePlayback := none }
            active := if c.active == some r then none else c.active }.update r
          (stopped (c.active == some r) outcome errorCode)).rememberTerminal rec.key)
  | started {r : Ref} {rec : ResponseRecord} :
      c.heap[r]? = some rec → rec.playbackStarted = false →
      Moves c (.started r) (c.update r fun rec => { rec with playbackStarted := true })
  | ended {r : Ref} {rec : ResponseRecord} :
      c.heap[r]? = some rec → c.playback = some r → rec.playbackEnded = false → rec.outcome ≠ none →
      Moves c (.ended r)
        { c.update r (fun rec => { rec with playbackEnded := true }) with
          session := if needsFinish rec then { c.session with activePlayback := none } else c.session
          playback := none }
  | unfinished {r : Ref} {rec : ResponseRecord} :
      c.heap[r]? = some rec → c.playback = some r → needsFinish rec = true →
      c.session.activePlayback ≠ some rec.target →
      Moves c (.unfinished r) (c.update r fun rec => { rec with playbackEnded := true })
  | closed : Moves c .closed c.close

theorem begin_moves {c c' : Coordinator} {responseId : String} {producerEpoch : Int} {r : Ref}
    (h : c.begin responseId producerEpoch = .ok (c', r, true)) :
    Moves c (.begun r) c' ∧ c'.heap[r]? = some
      { responseId, producerEpoch
        target := { connectionEpoch := c.session.connectionEpoch, generation := c.session.generation + 1 } } := by
  rw [begin] at h
  split at h
  · split at h <;> cases h
  rename_i hactive
  split at h
  · cases h
  rename_i hplayback
  rw [Bool.not_eq_true, Option.isSome_eq_false_iff, Option.isNone_iff_eq_none] at hplayback
  rw [VoiceSession.beginPlayback] at h
  split at h
  · cases h
  rename_i session target hbegin
  split at hbegin
  · cases hbegin
  rename_i hclosed
  split at hbegin
  · cases hbegin
  cases hbegin
  cases h
  refine ⟨.begun hactive hplayback (by simpa using hclosed) rfl, ?_⟩
  simp

theorem begin_again {c c' : Coordinator} {responseId : String} {producerEpoch : Int} {r : Ref}
    (h : c.begin responseId producerEpoch = .ok (c', r, false)) :
    c' = c ∧ c.active = some r ∧ ∃ rec, c.heap[r]? = some rec ∧ rec.producerEpoch = producerEpoch := by
  rw [begin] at h
  split at h
  · rename_i active hactive
    split at h
    · rename_i hany
      cases h
      rw [Option.any_eq_true] at hany
      obtain ⟨rec, hrec, hepoch⟩ := hany
      exact ⟨rfl, hactive, rec, hrec, eq_of_beq hepoch⟩
    · cases h
  · split at h
    · cases h
    · split at h <;> cases h

theorem accepts_iff (c : Coordinator) (r : Ref) :
    c.accepts r = true ↔ c.active = some r ∧ ∃ rec, c.heap[r]? = some rec ∧ c.session.closed = false ∧
      c.session.activePlayback = some rec.target := by
  rw [accepts, Bool.and_eq_true, beq_iff_eq]
  cases c.heap[r]? <;> simp [VoiceSession.acceptsCallback]

theorem noteMedia_moves {c c' : Coordinator} {r : Ref} {n : Nat} (h : c.noteMedia r n = .ok c') :
    Moves c (.media r n) c' := by
  rw [noteMedia] at h
  split at h
  · cases h
  · rename_i haccepts
    rw [Bool.not_eq_true, Bool.not_eq_false', accepts_iff] at haccepts
    obtain ⟨ha, rec, hr, hclosed, -⟩ := haccepts
    cases h
    exact .media ha hr hclosed

theorem complete_moves {c c' : Coordinator} {r : Ref} (h : c.complete r = .ok c') :
    Moves c (.completed r) c' := by
  rw [complete] at h
  split at h
  · cases h
  rename_i rec hrec
  split at h
  · cases h
  rename_i hmedia
  split at h
  · cases h
  rename_i hcurrent
  cases h
  simp only [Bool.or_eq_true, not_or, Option.isNone_iff_eq_none] at hmedia
  obtain ⟨n, hn⟩ := Option.ne_none_iff_exists'.mp hmedia.2
  simp only [ne_eq, not_or, not_not] at hcurrent
  exact .completed hrec hn hcurrent.1 hcurrent.2

theorem fence_moves {c c' : Coordinator} {r : Ref} {outcome : ResponseOutcome} {errorCode : Option String}
    {g : Nat} (h : c.fence r outcome errorCode = .ok (c', g)) (houtcome : outcome ≠ .completed) :
    Moves c (.fenced r g) c' := by
  rw [fence] at h
  split at h
  · cases h
  rename_i rec hrec
  split at h
  · cases h
  rename_i hcurrent
  simp only [ne_eq, not_or, not_not, Bool.not_eq_true] at hcurrent
  rw [VoiceSession.cancelPlayback] at h
  by_cases hclosed : c.session.closed = true
  · simp [hclosed] at h
  by_cases hactive : c.session.activePlayback = some rec.target
  · rw [if_neg hclosed, if_neg (not_not.mpr hactive)] at h
    cases h
    exact @Moves.fenced c r rec outcome errorCode hrec hcurrent.1 hcurrent.2 (by simpa using hclosed) hactive
      houtcome
  · simp [hclosed, hactive] at h

theorem record_ok {c : Coordinator} {responseId : String} {generation : Nat} {r : Ref} {rec : ResponseRecord}
    (h : c.record responseId generation = .ok (r, rec)) :
    c.records.get? (responseId, generation) = some r ∧ c.heap[r]? = some rec := by
  rw [record] at h
  split at h
  · cases h
  rename_i hget
  split at h
  · cases h
  rename_i hheap
  cases h
  exact ⟨hget, hheap⟩

theorem playbackStarted_moves {c c' : Coordinator} {responseId : String} {generation first : Nat} {r : Ref}
    (h : c.playbackStarted responseId generation first = .ok (c', r)) : Moves c (.started r) c' := by
  rw [playbackStarted] at h
  split at h
  · cases h
  rename_i rec hrec
  split at h
  · cases h
  rename_i hstarted
  simp only [Bool.or_eq_true, not_or, Bool.not_eq_true] at hstarted
  split at h
  · cases h
  cases h
  exact .started (record_ok hrec).2 hstarted.1

theorem endedRecord_ok {c : Coordinator} {responseId : String} {generation samples : Nat}
    {outcome : PlaybackOutcome} {last : Option Nat} {r : Ref} {rec : ResponseRecord}
    (h : c.endedRecord responseId generation outcome samples last = .ok (r, rec)) :
    c.heap[r]? = some rec ∧ c.playback = some r ∧ rec.playbackEnded = false ∧
      outcome ∈ expectedOutcomes rec := by
  rw [endedRecord] at h
  split at h
  · cases h
  rename_i r' rec' hrec
  split at h
  · cases h
  rename_i hended
  split at h
  · cases h
  rename_i hplayback
  split at h
  · cases h
  rename_i houtcome
  repeat' split at h
  all_goals cases h
  exact ⟨(record_ok hrec).2, not_not.mp hplayback, by simpa using hended, not_not.mp houtcome⟩

theorem outcome_of_expected {rec : ResponseRecord} {outcome : PlaybackOutcome}
    (h : outcome ∈ expectedOutcomes rec) : rec.outcome ≠ none := by
  intro hnone
  rw [expectedOutcomes, hnone] at h
  cases h

/-- What a call of `playback_ended` on an open session does. -/
theorem playbackEnded_moves (c : Coordinator) (responseId : String) (generation samples : Nat)
    (outcome : PlaybackOutcome) (last : Option Nat) (hopen : c.session.closed = false) :
    (∃ e, c.playbackEnded responseId generation outcome samples last = (c, .error e)) ∨
    (∃ c' fact, c.playbackEnded responseId generation outcome samples last = (c', .ok fact) ∧
      Moves c (.ended fact.record) c') ∨
    ∃ c' e r, c.playbackEnded responseId generation outcome samples last = (c', .error e) ∧
      Moves c (.unfinished r) c' := by
  rw [playbackEnded]
  split
  · exact .inl ⟨_, rfl⟩
  rename_i r rec hrec
  obtain ⟨hheap, hplayback, hended, hexpected⟩ := endedRecord_ok hrec
  have houtcome := outcome_of_expected hexpected
  right
  have hmove := Moves.ended hheap hplayback hended houtcome
  simp only [VoiceSession.finishPlayback]
  split
  · rename_i hfinish
    by_cases hholds : c.session.activePlayback = some rec.target
    · left
      rw [if_pos hfinish] at hmove
      refine ⟨_, ⟨r, outcome, samples, last⟩, ?_, hmove⟩
      simp [update, hopen, hholds]
    · right
      refine ⟨_, .binding "stale_generation", r, ?_, .unfinished hheap hplayback hfinish hholds⟩
      simp [update, hholds]
  · rename_i hfinish
    left
    rw [if_neg hfinish] at hmove
    exact ⟨_, ⟨r, outcome, samples, last⟩, rfl, hmove⟩

end RealtimeVoice.Rva.Coordinator
