import RealtimeVoice.Rva.BindingEffects
import RealtimeVoice.Rva.ResponseInvariant

namespace RealtimeVoice.Rva

open RealtimeVoice.Base RealtimeVoice.Base.Runs

def Reply.emits : Reply → List ServerEvent
  | .control effect => effect.outbound
  | .begun _ e => e.toList
  | .event e => [e]
  | _ => []

def emits (result : Result) : List ServerEvent :=
  match result with
  | .ok reply => reply.emits
  | .error _ => []

/-- The events of a run, in the order they leave the binding. -/
def emitted (es : List Binding.Event) : List ServerEvent := es.flatMap (fun e => emits e.2)

def ServerEvent.stops (k : Key) : ServerEvent → Bool
  | .playbackStop responseId generation _ _ => (responseId, generation) == k
  | _ => false

def ServerEvent.ends (k : Key) : ServerEvent → Bool
  | .responseEnd responseId generation _ _ _ => (responseId, generation) == k
  | _ => false

/-- The generation a begin assigns or a fence moves to. -/
def ServerEvent.generation? : ServerEvent → Option Nat
  | .responseBegin _ generation => some generation
  | .playbackStop _ _ fenceGeneration _ => some fenceGeneration
  | _ => none

/-- An event that announces nothing of a response's lifecycle. -/
def ServerEvent.Quiet (e : ServerEvent) : Prop :=
  e.generation? = none ∧ ∀ k, e.stops k = false ∧ e.ends k = false

def startedRef : Result → Option Ref
  | .ok (.control effect) => effect.playbackStarted
  | _ => none

def endedRef : Result → Option Ref
  | .ok (.control effect) => effect.playbackEnded.map (·.record)
  | _ => none

def mediaRef : Call → Option Ref
  | .serializeAudio _ _ r => some r
  | .reserveDownlinkMedia r => some r
  | .noteDownlinkMedia r _ => some r
  | _ => none

/-- The call admitted a media sequence for the record. -/
def Admits (r : Ref) (e : Binding.Event) : Prop := mediaRef e.1 = some r ∧ ∃ reply, e.2 = .ok reply

/-- The call completed the response or fenced its playback. -/
def Terminates (r : Ref) (e : Binding.Event) : Prop :=
  e.1 = .responseEnd r ∧ (∃ reply, e.2 = .ok reply) ∨
    ∃ effect : ControlEffect, e.2 = .ok (.control effect) ∧ effect.interrupt = some r

namespace Coordinator

/-- The lifecycle events that a transition of the coordinator is announced by. -/
inductive Announced (c' : Coordinator) : Action → List ServerEvent → Prop
  | silent {a : Action} {l : List ServerEvent} :
      (∀ e ∈ l, e.Quiet) → Announced c' a l
  | begun {r : Ref} {rec : ResponseRecord} :
      c'.heap[r]? = some rec →
      Announced c' (.begun r) [.responseBegin rec.responseId rec.target.generation]
  | completed {r : Ref} {rec : ResponseRecord} {last : Option Nat} :
      c'.heap[r]? = some rec →
      Announced c' (.completed r) [.responseEnd rec.responseId rec.target.generation .completed none last]
  | fenced {r : Ref} {rec : ResponseRecord} {g : Nat} {cause : StopCause} {outcome : ResponseOutcome}
      {code : Option String} {tail : List ServerEvent} :
      c'.heap[r]? = some rec →
      (∀ e ∈ tail, e.Quiet) →
      Announced c' (.fenced r g)
        (.playbackStop rec.responseId rec.target.generation g cause ::
          (if rec.outcome = some .completed then []
            else [.responseEnd rec.responseId rec.target.generation outcome code none]) ++ tail)

theorem Announced.stop {c' : Coordinator} {a : Action} {l : List ServerEvent} (h : Announced c' a l) {k : Key}
    (hk : 0 < l.countP (·.stops k)) :
    ∃ r g rec, a = .fenced r g ∧ c'.heap[r]? = some rec ∧ rec.key = k := by
  rw [List.countP_pos_iff] at hk
  obtain ⟨e, he, hk⟩ := hk
  cases h with
  | silent hl => simp [((hl e he).2 k).1] at hk
  | begun hrec => simp_all [ServerEvent.stops]
  | completed hrec => simp_all [ServerEvent.stops]
  | @fenced r rec g cause outcome code tail hrec htail =>
    refine ⟨r, g, rec, rfl, hrec, ?_⟩
    rw [List.mem_append, List.mem_cons] at he
    rcases he with (rfl | he) | he
    · simpa [ServerEvent.stops, ResponseRecord.key] using hk
    · split at he <;> simp_all [ServerEvent.stops]
    · simp [((htail e he).2 k).1] at hk

theorem Announced.end {c' : Coordinator} {a : Action} {l : List ServerEvent} (h : Announced c' a l) {k : Key}
    (hk : 0 < l.countP (·.ends k)) :
    (∃ r rec, a = .completed r ∧ c'.heap[r]? = some rec ∧ rec.key = k) ∨
      ∃ r g rec, a = .fenced r g ∧ c'.heap[r]? = some rec ∧ rec.key = k ∧ rec.outcome ≠ some .completed := by
  rw [List.countP_pos_iff] at hk
  obtain ⟨e, he, hk⟩ := hk
  cases h with
  | silent hl => simp [((hl e he).2 k).2] at hk
  | begun hrec => simp_all [ServerEvent.ends]
  | @completed r rec last hrec =>
    obtain rfl := List.mem_singleton.mp he
    exact .inl ⟨r, rec, rfl, hrec, by simpa [ServerEvent.ends, ResponseRecord.key] using hk⟩
  | @fenced r rec g cause outcome code tail hrec htail =>
    rw [List.mem_append, List.mem_cons] at he
    rcases he with (rfl | he) | he
    · simp [ServerEvent.ends] at hk
    · split at he
      · cases he
      · rename_i hout
        obtain rfl := List.mem_singleton.mp he
        exact .inr ⟨r, g, rec, rfl, hrec, by simpa [ServerEvent.ends, ResponseRecord.key] using hk, hout⟩
    · simp [((htail e he).2 k).2] at hk

theorem Announced.stops_le {c' : Coordinator} {a : Action} {l : List ServerEvent} (h : Announced c' a l) (k : Key) :
    l.countP (·.stops k) ≤ 1 := by
  cases h with
  | silent hl =>
    rw [List.countP_eq_zero.mpr (fun e he => by simp [((hl e he).2 k).1])]
    exact Nat.zero_le 1
  | begun hrec => simp [ServerEvent.stops]
  | completed hrec => simp [ServerEvent.stops]
  | fenced hrec htail =>
    have hzero := List.countP_eq_zero.mpr fun e he => Bool.eq_false_iff.mp ((htail e he).2 k).1
    rw [List.countP_append, hzero]
    split
    · rw [List.countP_singleton]
      split <;> simp
    · simp only [List.countP_cons, List.countP_nil, ServerEvent.stops, Bool.false_eq_true, if_false]
      split <;> simp

theorem Announced.ends_le {c' : Coordinator} {a : Action} {l : List ServerEvent} (h : Announced c' a l) (k : Key) :
    l.countP (·.ends k) ≤ 1 := by
  cases h with
  | silent hl =>
    rw [List.countP_eq_zero.mpr (fun e he => by simp [((hl e he).2 k).2])]
    exact Nat.zero_le 1
  | begun hrec => simp [ServerEvent.ends]
  | completed hrec =>
    simp only [List.countP_cons, List.countP_nil, ServerEvent.ends]
    split <;> simp
  | fenced hrec htail =>
    have hzero := List.countP_eq_zero.mpr fun e he => Bool.eq_false_iff.mp ((htail e he).2 k).2
    rw [List.countP_append, hzero]
    split
    · simp [ServerEvent.ends]
    · simp only [List.countP_cons, List.countP_nil, ServerEvent.ends]
      split <;> simp

/-- A step assigns at most one generation. -/
theorem Announced.generations {c' : Coordinator} {a : Action} {l : List ServerEvent} (h : Announced c' a l) :
    l.filterMap ServerEvent.generation? = [] ∨
      (∃ r rec, a = .begun r ∧ c'.heap[r]? = some rec ∧
        l.filterMap ServerEvent.generation? = [rec.target.generation]) ∨
      ∃ r g, a = .fenced r g ∧ l.filterMap ServerEvent.generation? = [g] := by
  cases h with
  | silent hl => exact .inl (List.filterMap_eq_nil_iff.mpr fun e he => (hl e he).1)
  | begun hrec => exact .inr (.inl ⟨_, _, rfl, hrec, by simp [ServerEvent.generation?]⟩)
  | completed hrec => simp [ServerEvent.generation?]
  | fenced hrec htail =>
    refine .inr (.inr ⟨_, _, rfl, ?_⟩)
    have hnil := List.filterMap_eq_nil_iff.mpr fun e he => (htail e he).1
    rw [List.filterMap_append, hnil]
    split <;> simp [ServerEvent.generation?]

theorem Announced.fence {c' : Coordinator} {a : Action} {l : List ServerEvent} (h : Announced c' a l)
    {responseId : String} {generation f : Nat} {cause : StopCause}
    (he : .playbackStop responseId generation f cause ∈ l) :
    ∃ r rec, a = .fenced r f ∧ c'.heap[r]? = some rec ∧ rec.target.generation = generation := by
  cases h with
  | silent hl => simpa [ServerEvent.generation?] using (hl _ he).1
  | begun hrec => simp at he
  | completed hrec => simp at he
  | @fenced r rec g _ outcome code tail hrec htail =>
    rw [List.mem_append, List.mem_cons] at he
    rcases he with (he | he) | he
    · obtain ⟨-, rfl, rfl, -⟩ := ServerEvent.playbackStop.inj he
      exact ⟨r, rec, rfl, hrec, rfl⟩
    · split at he <;> simp at he
    · simpa [ServerEvent.generation?] using (htail _ he).1

theorem Announced.nil (c' : Coordinator) (a : Action) : Announced c' a [] := .silent (by simp)

end Coordinator

/-- How the reply of a call shows the transition of the coordinator. -/
structure Shows (c' : Coordinator) (call : Call) (result : Result) (a : Coordinator.Action) : Prop where
  events : Coordinator.Announced c' a (emits result)
  started : ∀ r, startedRef result = some r → a = .started r
  ended : ∀ r, endedRef result = some r → a = .ended r
  admits : ∀ r, Admits r (call, result) → ∃ n, a = .media r n
  terminates : ∀ r, Terminates r (call, result) → a = .completed r ∨ ∃ g, a = .fenced r g

theorem shows_error (c' : Coordinator) (call : Call) (e : RvaError) (a : Coordinator.Action) :
    Shows c' call (.error e) a where
  events := .nil c' a
  started := by simp [startedRef]
  ended := by simp [endedRef]
  admits := by simp [Admits]
  terminates := by simp [Terminates]

/-- A reply that shows nothing of the response lifecycle. -/
theorem shows_silent {c' : Coordinator} {call : Call} {reply : Reply} {a : Coordinator.Action}
    (hevents : ∀ e ∈ reply.emits, e.Quiet)
    (hstarted : startedRef (.ok reply) = none) (hended : endedRef (.ok reply) = none)
    (hmedia : mediaRef call = none) (hend : ∀ r, call ≠ .responseEnd r)
    (hinterrupt : ∀ effect : ControlEffect, reply = .control effect → effect.interrupt = none) :
    Shows c' call (.ok reply) a where
  events := .silent hevents
  started r hr := by rw [hstarted] at hr; cases hr
  ended r hr := by rw [hended] at hr; cases hr
  admits r hr := by rw [Admits, hmedia] at hr; cases hr.1
  terminates r hr := by
    rcases hr with ⟨hcall, -⟩ | ⟨effect, heffect, hr⟩
    · exact absurd hcall (hend r)
    · rw [hinterrupt effect (Except.ok.inj heffect)] at hr
      cases hr

/-- The reply to a fence, possibly followed by the close of the session. -/
theorem shows_fenced {c' : Coordinator} {call : Call} {r : Ref} {rec : ResponseRecord} {g : Nat}
    {effect : ControlEffect} (cause : StopCause) (tail : List ServerEvent)
    (hrec : c'.heap[r]? = some rec) (hmedia : mediaRef call = none) (hend : ∀ r, call ≠ .responseEnd r)
    (htail : ∀ e ∈ tail, e.Quiet)
    (hinterrupt : effect.interrupt = some r) (hstarted : effect.playbackStarted = none)
    (hended : effect.playbackEnded = none)
    (houtbound : effect.outbound = .playbackStop rec.responseId rec.target.generation g cause ::
      (if rec.outcome = some .completed then []
        else [.responseEnd rec.responseId rec.target.generation (Binding.stopOutcome cause)
          (Binding.stopErrorCode cause) none]) ++ tail) :
    Shows c' call (.ok (.control effect)) (.fenced r g) where
  events := by
    rw [emits, Reply.emits, houtbound]
    exact .fenced hrec htail
  started r hr := by rw [startedRef, hstarted] at hr; cases hr
  ended r hr := by rw [endedRef, hended] at hr; cases hr
  admits r hr := by rw [Admits, hmedia] at hr; cases hr.1
  terminates r' hr := by
    rcases hr with ⟨hcall, -⟩ | ⟨effect', heffect, hr⟩
    · exact absurd hcall (hend r')
    · cases heffect
      rw [hinterrupt] at hr
      cases hr
      exact .inr ⟨g, rfl⟩

namespace Binding

variable {b b' : Binding}

theorem event_ok {e e' : ServerEvent} (h : b.event e = .ok e') : e' = e := by
  rw [event] at h
  split at h
  · cases h
  · cases h
    rfl

theorem event_map (e : ServerEvent) (f : ServerEvent → Reply) :
    (∃ error, (b.event e).map f = .error error) ∨ (b.event e).map f = .ok (f e) := by
  cases h : b.event e with
  | error error => exact .inl ⟨error, rfl⟩
  | ok e' =>
    rw [event_ok h]
    exact .inr rfl

/-- The events of an applied fence. -/
theorem fenceEffect_ok {r : Ref} {g : Nat} {cause : StopCause} {effect : ControlEffect}
    (h : b.fenceEffect r g cause = .ok effect) :
    ∃ rec : ResponseRecord, b.responses.heap[r]? = some rec ∧
      effect = { interrupt := some r, outbound :=
        .playbackStop rec.responseId rec.target.generation g cause ::
          if rec.outcome = some .completed then []
          else [.responseEnd rec.responseId rec.target.generation (stopOutcome cause) (stopErrorCode cause) none] } := by
  rw [fenceEffect] at h
  split at h
  · simp at h
  · rename_i rec hrec
    simp only [bind_ok] at h
    obtain ⟨stop, hstop, h⟩ := h
    obtain rfl := event_ok hstop
    refine ⟨rec, hrec, ?_⟩
    split at h
    · rename_i hcompleted
      rw [pure_ok] at h
      rw [if_pos hcompleted, ← h]
    · rename_i hcompleted
      simp only [bind_ok, pure_ok] at h
      obtain ⟨e, he, h⟩ := h
      obtain rfl := event_ok he
      rw [if_neg hcompleted, ← h]

theorem advanceTranscript_ok {utteranceId : String} {n : Nat} {final : Bool}
    (h : b.advanceTranscript utteranceId n final = .ok b') :
    (b.activeUtteranceId = none ∧ n = 0 ∨ b.activeUtteranceId = some utteranceId ∧ n = b.nextTranscriptSequence) ∧
      b' = if final then
          { b with lastFinalizedUtterance := some utteranceId, activeUtteranceId := none, nextTranscriptSequence := 0 }
        else { b with activeUtteranceId := some utteranceId, nextTranscriptSequence := n + 1 } := by
  rw [advanceTranscript] at h
  split at h
  · cases h
  split at h
  · cases h
  rename_i active next hstart
  split at h
  · cases h
  rename_i hsame
  rw [not_or, not_not, not_not] at hsame
  obtain ⟨rfl, rfl⟩ := hsame
  refine ⟨?_, ?_⟩
  · split at hstart
    · rename_i hnone
      split at hstart
      · cases hstart
      · cases hstart
        exact .inl ⟨hnone, rfl⟩
    · rename_i hsome
      cases hstart
      exact .inr ⟨hsome, rfl⟩
  · split at h
    · rename_i hfinal
      rw [if_pos hfinal]
      exact (Except.ok.inj h).symm
    · rename_i hfinal
      rw [if_neg hfinal]
      exact (Except.ok.inj h).symm

theorem advanceTranscript_frame {utteranceId : String} {n : Nat} {final : Bool}
    (h : b.advanceTranscript utteranceId n final = .ok b') : b'.responses = b.responses ∧ b'.config = b.config := by
  obtain ⟨-, rfl⟩ := advanceTranscript_ok h
  cases final <;> exact ⟨rfl, rfl⟩

theorem serialized_media {timestamp : Int} {record : Option ResponseRecord} {frame : Nat → ResponseRecord → WssMediaFrame}
    {reply : Reply}
    (h : (do
      let timestamp ← validateUint32 "timestamp" timestamp 0
      match record with
      | none => throw (.binding "stale_generation")
      | some rec =>
        let frame ← (frame timestamp rec).serialize
        return .media frame : Result) = .ok reply) : ∃ frame, reply = .media frame := by
  simp only [bind_ok] at h
  obtain ⟨n, -, h⟩ := h
  split at h
  · simp at h
  · simp only [bind_ok, pure_ok] at h
    obtain ⟨bytes, -, rfl⟩ := h
    exact ⟨bytes, rfl⟩

theorem stopOutcome_ne (cause : StopCause) : stopOutcome cause ≠ .completed := by
  cases cause <;> decide

/-- The transition of a call: only `response_begin` begins a response, under its own
identifier, and a noted sequence is in range. -/
structure Made (b b' : Binding) (c : Call) (a : Coordinator.Action) : Prop where
  moves : b.responses.Moves a b'.responses
  begun : ∀ r, a = .begun r → ∃ responseId producerEpoch, c = .responseBegin responseId producerEpoch ∧
    identifierMatches responseId = true ∧ b'.responses.heap[r]? = some
      { responseId, producerEpoch
        target := { connectionEpoch := b.responses.session.connectionEpoch
                    generation := b.responses.session.generation + 1 } }
  media : ∀ r n, a = .media r n → n ≤ uint32Max

/-- The transition of a call, which notes media or closes the session only if the
call is one for that. -/
theorem effect_action {c : Call} {result : Result} (h : Effect b c b' result) :
    ∃ a, Made b b' c a ∧ (∀ r n, a = .media r n → mediaRef c = some r) ∧ (a = .closed → c = .close) := by
  have hquiet : ∀ {a : Coordinator.Action}, b.responses.Moves a b'.responses → (∀ r, a ≠ .begun r) →
      (∀ r n, a ≠ .media r n) → (a = .closed → c = .close) →
      ∃ a, Made b b' c a ∧ (∀ r n, a = .media r n → mediaRef c = some r) ∧ (a = .closed → c = .close) :=
    fun hm hbegun hmedia hclosed =>
      ⟨_, ⟨hm, fun r hr => absurd hr (hbegun r), fun r n hr => absurd hr (hmedia r n)⟩,
        fun r n hr => absurd hr (hmedia r n), hclosed⟩
  have hnoted : ∀ {r : Ref} {n : Nat}, b.responses.noteMedia r n = .ok b'.responses → n ≤ uint32Max →
      mediaRef c = some r →
      ∃ a, Made b b' c a ∧ (∀ r n, a = .media r n → mediaRef c = some r) ∧ (a = .closed → c = .close) := by
    intro r n hnote hn hc
    refine ⟨_, ⟨Coordinator.noteMedia_moves hnote, by simp, ?_⟩, ?_, by simp⟩
    · rintro r' n' heq
      cases heq
      exact hn
    · rintro r' n' heq
      cases heq
      exact hc
  cases h with
  | begun _ hid hbegin _ hb' =>
    subst hb'
    obtain ⟨hm, hfresh⟩ := Coordinator.begin_moves hbegin
    refine ⟨_, ⟨hm, ?_, by simp⟩, by simp, by simp⟩
    rintro r' heq
    cases heq
    exact ⟨_, _, rfl, hid, hfresh⟩
  | fenced _ _ hfence hb' =>
    subst hb'
    exact hquiet (Coordinator.fence_moves hfence (stopOutcome_ne _)) (by simp) (by simp) (by simp)
  | fenceFailed _ _ hfence hb' _ =>
    subst hb'
    exact hquiet (Coordinator.fence_moves hfence (stopOutcome_ne _)) (by simp) (by simp) (by simp)
  | fencedOnRequest _ _ hfence hb' _ =>
    subst hb'
    exact hquiet (Coordinator.fence_moves hfence (stopOutcome_ne _)) (by simp) (by simp) (by simp)
  | fencedOnClose _ _ hfence hb' _ _ =>
    subst hb'
    exact hquiet (Coordinator.fence_moves hfence (stopOutcome_ne _)) (by simp) (by simp) (by simp)
  | started _ hstarted => exact hquiet (Coordinator.playbackStarted_moves hstarted) (by simp) (by simp) (by simp)
  | ended hlive hended =>
    obtain ⟨e, heq⟩ | ⟨c', fact, heq, hmove⟩ | ⟨c', e, r, heq, hmove⟩ :=
      Coordinator.playbackEnded_moves b.responses _ _ _ _ _ hlive.2
    · rw [heq] at hended
      obtain ⟨rfl, -⟩ := Prod.mk.inj hended
      exact hquiet .idle (by simp) (by simp) (by simp)
    · rw [heq] at hended
      obtain ⟨rfl, -⟩ := Prod.mk.inj hended
      exact hquiet hmove (by simp) (by simp) (by simp)
    · rw [heq] at hended
      obtain ⟨rfl, -⟩ := Prod.mk.inj hended
      exact hquiet hmove (by simp) (by simp) (by simp)
  | reserved hn hnote => exact hnoted hnote hn rfl
  | serialized _ _ hn hnote _ => exact hnoted hnote hn rfl
  | noted hn hnote => exact hnoted hnote hn rfl
  | completed _ hcomplete _ hb' =>
    subst hb'
    exact hquiet (Coordinator.complete_moves hcomplete) (by simp) (by simp) (by simp)
  | transcribed final _ _ _ _ _ _ hadvance _ _ =>
    refine hquiet ?_ (a := .idle) (by simp) (by simp) (by simp)
    rw [(advanceTranscript_frame hadvance).1]
    exact .idle
  | opened _ _ _ _ _ _ hb' =>
    subst hb'
    exact hquiet .idle (by simp) (by simp) (by simp)
  | texted _ _ _ _ _ _ _ hb' =>
    subst hb'
    exact hquiet .idle (by simp) (by simp) (by simp)
  | closed => exact hquiet .closed (by simp) (by simp) (fun _ => rfl)
  | _ => exact hquiet .idle (by simp) (by simp) (by simp)

theorem effect_made {c : Call} {result : Result} (h : Effect b c b' result) : ∃ a, Made b b' c a := by
  obtain ⟨a, hmade, -⟩ := effect_action h
  exact ⟨a, hmade⟩

/-- A last event outside the response lifecycle. -/
theorem shows_event {c' : Coordinator} {call : Call} {a : Coordinator.Action} {e : ServerEvent}
    {f : ServerEvent → Reply} (hf : Shows c' call (.ok (f e)) a) : Shows c' call ((b.event e).map f) a := by
  obtain ⟨error, he⟩ | he := event_map (b := b) e f
  · rw [he]
    exact shows_error _ _ _ _
  · rw [he]
    exact hf

/-- Every call is one transition of the coordinator, and its reply shows which. -/
theorem effect_shows {call : Call} {result : Result} (h : Effect b call b' result)
    (hc : b.responses.Consistent) :
    ∃ a, b.responses.Moves a b'.responses ∧ (∀ r, a ≠ .unfinished r) ∧ Shows b'.responses call result a := by
  have hidle : ∀ {result : Result}, Shows b.responses call result .idle →
      ∃ a, b.responses.Moves a b.responses ∧ (∀ r, a ≠ .unfinished r) ∧ Shows b.responses call result a :=
    fun hs => ⟨.idle, .idle, by simp, hs⟩
  cases h with
  | rejected _ e => exact hidle (shows_error _ _ e _)
  | opened _ _ _ _ _ _ hb' =>
    rw [show b'.responses = b.responses by rw [hb']]
    refine hidle (shows_event (shows_silent ?_ rfl rfl rfl (by simp) (by simp)))
    simp [Reply.emits, ServerEvent.Quiet, ServerEvent.generation?, ServerEvent.stops, ServerEvent.ends]
  | unmoved _ hcall =>
    obtain ⟨text, rfl⟩ | ⟨message, rfl⟩ := hcall
    · exact hidle (shows_silent (by simp [Reply.emits]) rfl rfl rfl (by simp) (by simp))
    · exact hidle (shows_silent (by simp [Reply.emits]) rfl rfl rfl (by simp) (by simp))
  | @fenced r cause _ _ g _ _ _ hfence hb' =>
    have hmove := Coordinator.fence_moves hfence (stopOutcome_ne cause)
    refine ⟨_, by rwa [hb'], by simp, ?_⟩
    cases heffect : b'.fenceEffect r g cause with
    | error e => exact shows_error _ _ e _
    | ok effect =>
      obtain ⟨rec, hrec, rfl⟩ := fenceEffect_ok heffect
      exact shows_fenced cause [] hrec rfl (by simp) (by simp) rfl rfl rfl (List.append_nil _).symm
  | @fenceFailed r cause _ _ _ _ _ _ _ hfence hb' _ =>
    exact ⟨_, by rw [hb']; exact Coordinator.fence_moves hfence (stopOutcome_ne cause), by simp,
      shows_error _ _ _ _⟩
  | fencedOnRequest _ _ hfence hb' heffect =>
    have hmove := Coordinator.fence_moves hfence (stopOutcome_ne _)
    obtain ⟨rec, hrec, rfl⟩ := fenceEffect_ok heffect
    subst hb'
    refine ⟨_, hmove, by simp, ?_⟩
    exact shows_fenced .explicitUserRequest [] hrec rfl (by simp) (by simp) rfl rfl rfl (List.append_nil _).symm
  | @fencedOnClose _ _ _ _ reason _ _ _ _ hfence hb' heffect _ =>
    have hmove := Coordinator.fence_moves hfence (stopOutcome_ne _)
    obtain ⟨rec, hrec, rfl⟩ := fenceEffect_ok heffect
    refine ⟨_, by rwa [hb'], by simp, shows_event ?_⟩
    refine shows_fenced .sessionClose [.sessionClose reason] hrec rfl (by simp) ?_ rfl rfl rfl rfl
    simp [ServerEvent.Quiet, ServerEvent.generation?, ServerEvent.stops, ServerEvent.ends]
  | closing _ _ _ =>
    refine hidle (shows_event (shows_silent ?_ rfl rfl rfl (by simp) (by simp)))
    simp [Reply.emits, ServerEvent.Quiet, ServerEvent.generation?, ServerEvent.stops, ServerEvent.ends]
  | @started _ _ _ _ _ r _ hs =>
    refine ⟨.started r, Coordinator.playbackStarted_moves hs, by simp, ⟨.nil _ _, ?_, ?_, ?_, ?_⟩⟩
    · intro r' hr'
      cases hr'
      rfl
    · simp [endedRef]
    · simp [Admits, mediaRef]
    · simp [Terminates]
  | @ended _ m _ _ hlive hended =>
    obtain ⟨e, he⟩ | ⟨c', fact, he, hmove⟩ | ⟨c', e, r, he, hmove⟩ := b.responses.playbackEnded_moves m.target.1
      m.target.2 m.playedSamples m.outcome m.lastMediaSequence hlive.2
    · obtain ⟨rfl, rfl⟩ := Prod.mk.inj (he.symm.trans hended)
      exact hidle (shows_error _ _ e _)
    · obtain ⟨rfl, rfl⟩ := Prod.mk.inj (he.symm.trans hended)
      refine ⟨_, hmove, by simp, ⟨.nil _ _, by simp [startedRef, Except.map], ?_, by simp [Admits, mediaRef], ?_⟩⟩
      · intro r hr
        cases hr
        rfl
      · simp [Terminates, Except.map]
    · cases hmove with
      | unfinished hrec hplayback hfinish hsession =>
        exact absurd (hc.finishes hrec hplayback hlive.2 hfinish) hsession
  | uplink _ => exact hidle (shows_silent (by simp [Reply.emits]) rfl rfl rfl (by simp) (by simp))
  | @reserved r _ _ hnote =>
    refine ⟨_, Coordinator.noteMedia_moves hnote, by simp, ⟨.nil _ _, by simp [startedRef], by simp [endedRef], ?_,
      by simp [Terminates]⟩⟩
    rintro r' ⟨hr', -⟩
    cases hr'
    exact ⟨_, rfl⟩
  | @serialized _ _ r _ _ _ _ _ hnote hresult =>
    refine ⟨_, Coordinator.noteMedia_moves hnote, by simp, ?_⟩
    cases result with
    | error e => exact shows_error _ _ e _
    | ok reply =>
      obtain ⟨frame, rfl⟩ := serialized_media hresult.symm
      refine ⟨.nil _ _, by simp [startedRef], by simp [endedRef], ?_, by simp [Terminates]⟩
      rintro r' ⟨hr', -⟩
      cases hr'
      exact ⟨_, rfl⟩
  | @noted r _ n _ _ hnote =>
    refine ⟨_, Coordinator.noteMedia_moves hnote, by simp, ⟨.nil _ _, by simp [startedRef], by simp [endedRef], ?_,
      by simp [Terminates]⟩⟩
    rintro r' ⟨hr', -⟩
    cases hr'
    exact ⟨_, rfl⟩
  | transcribed final _ _ _ _ _ _ hadvance hcall he =>
    rw [(advanceTranscript_frame hadvance).1]
    refine hidle (shows_event (shows_silent ?_ rfl rfl ?_ ?_ (by simp)))
    · subst he
      cases final <;> simp [Reply.emits, ServerEvent.Quiet, ServerEvent.generation?, ServerEvent.stops, ServerEvent.ends]
    · subst hcall
      cases final <;> rfl
    · subst hcall
      cases final <;> simp
  | begun _ _ hbegin hrec hb' =>
    subst hb'
    refine ⟨_, (Coordinator.begin_moves hbegin).1, by simp, shows_event ⟨.begun hrec, by simp [startedRef],
      by simp [endedRef], by simp [Admits, mediaRef], by simp [Terminates]⟩⟩
  | again _ => exact hidle (shows_silent (by simp [Reply.emits]) rfl rfl rfl (by simp) (by simp))
  | texted _ _ _ _ _ _ _ hb' =>
    rw [show b'.responses = b.responses by rw [hb']]
    refine hidle (shows_event (shows_silent ?_ rfl rfl rfl (by simp) (by simp)))
    simp [Reply.emits, ServerEvent.Quiet, ServerEvent.generation?, ServerEvent.stops, ServerEvent.ends]
  | @completed r _ _ _ _ hcomplete hrec hb' =>
    subst hb'
    refine ⟨_, Coordinator.complete_moves hcomplete, by simp, shows_event ⟨.completed hrec, by simp [startedRef],
      by simp [endedRef], by simp [Admits, mediaRef], ?_⟩⟩
    intro r' hr'
    simp [Terminates] at hr'
    exact .inl (by rw [hr'])
  | errored _ _ _ =>
    refine hidle (shows_event (shows_silent ?_ rfl rfl rfl (by simp) (by simp)))
    simp [Reply.emits, ServerEvent.Quiet, ServerEvent.generation?, ServerEvent.stops, ServerEvent.ends]
  | closed =>
    exact ⟨.closed, .closed, by simp, shows_silent (by simp [Reply.emits]) rfl rfl rfl (by simp) (by simp)⟩

theorem step_shows {e : Event} (h : Step b e b') (hc : b.responses.Consistent) :
    ∃ a, b.responses.Moves a b'.responses ∧ (∀ r, a ≠ .unfinished r) ∧ Shows b'.responses e.1 e.2 a :=
  effect_shows (step_effect h) hc

theorem step_consistent {e : Event} (h : Step b e b') (hc : b.responses.Consistent) : b'.responses.Consistent := by
  obtain ⟨a, hmove, hfinish, -⟩ := step_shows h hc
  exact hc.step hmove (fun r hr => absurd hr (hfinish r))

theorem init_consistent (config : BindingConfig) : (Binding.init config).responses.Consistent :=
  Coordinator.consistent_init _ rfl

/-- If an event of the first kind leaves a mark on the coordinator, the mark
stays, and a marked coordinator shows no event of the second kind, then none of
these follows one of those. -/
theorem run_never_after {config : BindingConfig} {es : List Event} {P : Coordinator → Prop} {X Y : Event → Prop}
    (h : Run Step (.init config) es b)
    (hmark : ∀ (c c' : Coordinator) (e : Event) (a : Coordinator.Action), c.Consistent → c.Moves a c' →
      Shows c' e.1 e.2 a → X e → P c')
    (hstay : ∀ (c c' : Coordinator) (a : Coordinator.Action), c.Moves a c' → P c → P c')
    (hblock : ∀ (c c' : Coordinator) (e : Event) (a : Coordinator.Action), c.Consistent → c.Moves a c' →
      Shows c' e.1 e.2 a → P c → ¬Y e) :
    es.Pairwise (fun e f => X e → ¬Y f) := by
  refine h.never_after (I := fun b => b.responses.Consistent) (P := fun b => P b.responses)
    (init_consistent config) (fun _ _ _ hc hs => step_consistent hs hc) ?_ ?_ ?_
  · intro t e u hc hs hX
    obtain ⟨a, hmove, -, hshows⟩ := step_shows hs hc
    exact hmark _ _ e a hc hmove hshows hX
  · intro t e u hc hs hP
    obtain ⟨a, hmove, -, -⟩ := step_shows hs hc
    exact hstay _ _ a hmove hP
  · intro t e u hc hs hP
    obtain ⟨a, hmove, -, hshows⟩ := step_shows hs hc
    exact hblock _ _ e a hc hmove hshows hP

/-- Some record with this key has the property. -/
def Marked (p : ResponseRecord → Prop) (k : Key) (c : Coordinator) : Prop :=
  ∃ (r : Ref) (rec : ResponseRecord), c.heap[r]? = some rec ∧ rec.key = k ∧ p rec

theorem marked_stay {p : ResponseRecord → Prop} (hp : ∀ rec rec', Coordinator.Later rec rec' → p rec → p rec')
    (k : Key) (c c' : Coordinator) (a : Coordinator.Action) (hm : c.Moves a c') (h : Marked p k c) :
    Marked p k c' := by
  obtain ⟨r, rec, hrec, hkey, hprec⟩ := h
  obtain ⟨rec', hrec', hlater⟩ := Coordinator.moves_later hm hrec
  exact ⟨r, rec', hrec', hlater.key.trans hkey, hp rec rec' hlater hprec⟩

/-- In a consistent coordinator the key determines the record. -/
theorem Marked.at {p : ResponseRecord → Prop} {k : Key} {c : Coordinator} (h : Marked p k c)
    (hc : c.Consistent) {r : Ref} {rec : ResponseRecord} (hrec : c.heap[r]? = some rec) (hkey : rec.key = k) :
    p rec := by
  obtain ⟨r', rec', hrec', hkey', hp⟩ := h
  have hgen : rec'.target.generation = rec.target.generation := congrArg Prod.snd (hkey'.trans hkey.symm)
  obtain rfl := hc.distinct r' r rec' rec hrec' hrec hgen
  rwa [Option.some.inj (hrec'.symm.trans hrec)] at hp

theorem run_stop_once {config : BindingConfig} {es : List Event} (h : Run Step (.init config) es b) (k : Key) :
    es.Pairwise (fun e f => 0 < (emits e.2).countP (·.stops k) → ¬0 < (emits f.2).countP (·.stops k)) := by
  refine run_never_after (P := Marked (·.stopSent = true) k) h ?_
    (marked_stay (fun _ _ hl => hl.stopSent) k) ?_
  · intro c c' e a hc hmove hshows hX
    obtain ⟨r, g, rec, rfl, hrec, hkey⟩ := hshows.events.stop hX
    obtain ⟨rec₀, outcome, code, -, -, -, -, -, -, hrec'⟩ := Coordinator.moves_fenced hmove
    refine ⟨r, rec, hrec, hkey, ?_⟩
    rw [Option.some.inj (hrec.symm.trans hrec')]
    rfl
  · intro c c' e a hc hmove hshows hP hY
    obtain ⟨r, g, rec, rfl, hrec, hkey⟩ := hshows.events.stop hY
    obtain ⟨rec₀, outcome, code, hrec₀, -, hstop, -, -, -, hrec'⟩ := Coordinator.moves_fenced hmove
    rw [Option.some.inj (hrec.symm.trans hrec')] at hkey
    have hstopped := hP.at hc hrec₀ hkey
    rw [hstop] at hstopped
    cases hstopped

/-- A response that has not completed when it is fenced had no outcome before. -/
theorem outcome_before_fence {c c' : Coordinator} {r : Ref} {g : Nat} {rec : ResponseRecord}
    (hc : c.Consistent) (hmove : c.Moves (.fenced r g) c') (hrec : c'.heap[r]? = some rec)
    (hout : rec.outcome ≠ some .completed) :
    ∃ rec₀, c.heap[r]? = some rec₀ ∧ rec₀.key = rec.key ∧ rec₀.outcome = none ∧ rec.outcome ≠ none := by
  obtain ⟨rec₀, outcome, code, hrec₀, hplayback, hstop, -, -, -, hrec'⟩ := Coordinator.moves_fenced hmove
  obtain rfl := Option.some.inj (hrec.symm.trans hrec')
  obtain ⟨rec₁, hrec₁, hcur⟩ := hc.current r hplayback
  obtain rfl := Option.some.inj (hrec₁.symm.trans hrec₀)
  refine ⟨rec₁, hrec₀, rfl, ?_⟩
  simp only [Coordinator.stopped] at hout ⊢
  split at hout
  · rename_i hactive
    rw [if_pos hactive]
    exact ⟨hcur.live.mp (by simpa using hactive), by simp⟩
  · rename_i hactive
    rcases hcur.unfenced hstop with hnone | hcompleted
    · exact absurd (hcur.live.mpr hnone) (by simpa using hactive)
    · exact absurd hcompleted hout

theorem run_end_once {config : BindingConfig} {es : List Event} (h : Run Step (.init config) es b) (k : Key) :
    es.Pairwise (fun e f => 0 < (emits e.2).countP (·.ends k) → ¬0 < (emits f.2).countP (·.ends k)) := by
  refine run_never_after (P := Marked (·.outcome ≠ none) k) h ?_
    (marked_stay (fun _ _ hl => hl.outcome) k) ?_
  · intro c c' e a hc hmove hshows hX
    obtain ⟨r, rec, rfl, hrec, hkey⟩ | ⟨r, g, rec, rfl, hrec, hkey, hout⟩ := hshows.events.end hX
    · obtain ⟨rec₀, -, -, -, hrec'⟩ := Coordinator.moves_completed hmove
      refine ⟨r, rec, hrec, hkey, ?_⟩
      rw [Option.some.inj (hrec.symm.trans hrec')]
      simp
    · obtain ⟨-, -, -, -, hset⟩ := outcome_before_fence hc hmove hrec hout
      exact ⟨r, rec, hrec, hkey, hset⟩
  · intro c c' e a hc hmove hshows hP hY
    obtain ⟨r, rec, rfl, hrec, hkey⟩ | ⟨r, g, rec, rfl, hrec, hkey, hout⟩ := hshows.events.end hY
    · obtain ⟨rec₀, hrec₀, hactive, -, hrec'⟩ := Coordinator.moves_completed hmove
      rw [Option.some.inj (hrec.symm.trans hrec')] at hkey
      exact hP.at hc hrec₀ hkey (hc.outcome_of_active hactive hrec₀)
    · obtain ⟨rec₀, hrec₀, hkey₀, hnone, -⟩ := outcome_before_fence hc hmove hrec hout
      exact hP.at hc hrec₀ (hkey₀.trans hkey) hnone

/-- The record at this reference has the property. -/
def MarkedRef (p : ResponseRecord → Prop) (r : Ref) (c : Coordinator) : Prop :=
  ∃ rec : ResponseRecord, c.heap[r]? = some rec ∧ p rec

theorem markedRef_stay {p : ResponseRecord → Prop} (hp : ∀ rec rec', Coordinator.Later rec rec' → p rec → p rec')
    (r : Ref) (c c' : Coordinator) (a : Coordinator.Action) (hm : c.Moves a c') (h : MarkedRef p r c) :
    MarkedRef p r c' := by
  obtain ⟨rec, hrec, hprec⟩ := h
  obtain ⟨rec', hrec', hlater⟩ := Coordinator.moves_later hm hrec
  exact ⟨rec', hrec', hp rec rec' hlater hprec⟩

theorem run_started_once {config : BindingConfig} {es : List Event} (h : Run Step (.init config) es b) (r : Ref) :
    es.Pairwise (fun e f => startedRef e.2 = some r → startedRef f.2 ≠ some r) := by
  refine run_never_after (P := MarkedRef (·.playbackStarted = true) r) h ?_
    (markedRef_stay (fun _ _ hl => hl.started) r) ?_
  · intro c c' e a hc hmove hshows hX
    obtain rfl := hshows.started r hX
    obtain ⟨rec, -, -, hrec'⟩ := Coordinator.moves_started hmove
    exact ⟨_, hrec', rfl⟩
  · rintro c c' e a hc hmove hshows ⟨rec, hrec, hstarted⟩ hY
    obtain rfl := hshows.started r hY
    obtain ⟨rec₀, hrec₀, hunstarted, -⟩ := Coordinator.moves_started hmove
    rw [Option.some.inj (hrec.symm.trans hrec₀), hunstarted] at hstarted
    cases hstarted

theorem run_ended_once {config : BindingConfig} {es : List Event} (h : Run Step (.init config) es b) (r : Ref) :
    es.Pairwise (fun e f => endedRef e.2 = some r → endedRef f.2 ≠ some r) := by
  refine run_never_after (P := MarkedRef (·.playbackEnded = true) r) h ?_
    (markedRef_stay (fun _ _ hl => hl.ended) r) ?_
  · intro c c' e a hc hmove hshows hX
    obtain rfl := hshows.ended r hX
    obtain ⟨rec, -, -, hrec'⟩ := Coordinator.moves_ended hmove
    exact ⟨_, hrec', rfl⟩
  · rintro c c' e a hc hmove hshows ⟨rec, hrec, hended⟩ hY
    obtain rfl := hshows.ended r hY
    obtain ⟨rec₀, hrec₀, hunended, -⟩ := Coordinator.moves_ended hmove
    rw [Option.some.inj (hrec.symm.trans hrec₀), hunended] at hended
    cases hended

theorem run_media {config : BindingConfig} {es : List Event} (h : Run Step (.init config) es b) (r : Ref) :
    es.Pairwise (fun e f => Terminates r e → ¬Admits r f) := by
  refine run_never_after (P := MarkedRef (·.outcome ≠ none) r) h ?_
    (markedRef_stay (fun _ _ hl => hl.outcome) r) ?_
  · intro c c' e a hc hmove hshows hX
    obtain rfl | ⟨g, rfl⟩ := hshows.terminates r hX
    · obtain ⟨rec, -, -, -, hrec'⟩ := Coordinator.moves_completed hmove
      exact ⟨_, hrec', by simp⟩
    · obtain ⟨rec₀, outcome, code, hrec₀, -, -, -, -, -, hrec'⟩ := Coordinator.moves_fenced hmove
      refine ⟨_, hrec', fun hnone => ?_⟩
      obtain ⟨-, -, -, -, hset⟩ := outcome_before_fence hc hmove hrec' (by rw [hnone]; simp)
      exact hset hnone
  · rintro c c' e a hc hmove hshows ⟨rec, hrec, hout⟩ hY
    obtain ⟨n, rfl⟩ := hshows.admits r hY
    exact hout (hc.outcome_of_active (Coordinator.moves_media hmove) hrec)

theorem emitted_snoc (es : List Event) (e : Event) : emitted (es ++ [e]) = emitted es ++ emits e.2 := by
  simp [emitted]

/-- The generations assigned so far are increasing and below the session's counter. -/
structure Numbered (es : List Event) (b : Binding) : Prop where
  increasing : ((emitted es).filterMap ServerEvent.generation?).Pairwise (· < ·)
  bounded : ∀ g ∈ (emitted es).filterMap ServerEvent.generation?, g ≤ b.responses.session.generation
  fences : ∀ responseId generation f cause, .playbackStop responseId generation f cause ∈ emitted es →
    generation < f

theorem Numbered.step {es : List Event} {e : Event} (h : Numbered es b) (hc : b.responses.Consistent)
    (hs : Step b e b') : Numbered (es ++ [e]) b' := by
  obtain ⟨a, hmove, -, hshows⟩ := step_shows hs hc
  have hmono := Coordinator.moves_generation hmove
  -- at most one new generation, and it is the counter's new value
  have hnew : ∀ g ∈ (emits e.2).filterMap ServerEvent.generation?,
      b.responses.session.generation < g ∧ g = b'.responses.session.generation := by
    obtain hnil | ⟨r, rec, rfl, hrec, hone⟩ | ⟨r, g, rfl, hone⟩ := hshows.events.generations
    · simp [hnil]
    · obtain ⟨rec', hrec', hgen, hnext⟩ := Coordinator.moves_begun hmove
      obtain rfl := Option.some.inj (hrec.symm.trans hrec')
      intro g hg
      rw [hone, List.mem_singleton] at hg
      omega
    · obtain ⟨-, -, -, -, -, -, hgen, hnext, -⟩ := Coordinator.moves_fenced hmove
      intro g' hg
      rw [hone, List.mem_singleton] at hg
      omega
  have hsingle : ((emits e.2).filterMap ServerEvent.generation?).Pairwise (· < ·) := by
    obtain hnil | ⟨r, rec, -, -, hone⟩ | ⟨r, g, -, hone⟩ := hshows.events.generations
    · simp [hnil]
    · simp [hone]
    · simp [hone]
  refine ⟨?_, ?_, ?_⟩
  · rw [emitted_snoc, List.filterMap_append, List.pairwise_append]
    refine ⟨h.increasing, hsingle, fun g hg g' hg' => ?_⟩
    have hle := h.bounded g hg
    have hlt := (hnew g' hg').1
    omega
  · intro g hg
    rw [emitted_snoc, List.filterMap_append, List.mem_append] at hg
    rcases hg with hg | hg
    · exact Nat.le_trans (h.bounded g hg) hmono
    · exact (hnew g hg).2.le
  · intro responseId generation f cause hmem
    rw [emitted_snoc, List.mem_append] at hmem
    rcases hmem with hmem | hmem
    · exact h.fences responseId generation f cause hmem
    · obtain ⟨r, rec, rfl, hrec, rfl⟩ := hshows.events.fence hmem
      obtain ⟨rec₀, outcome, code, hrec₀, -, -, hgen, -, -, hrec'⟩ := Coordinator.moves_fenced hmove
      rw [Option.some.inj (hrec.symm.trans hrec')]
      have hle := hc.generation_le r rec₀ hrec₀
      simp only [Coordinator.stopped]
      omega

theorem run_consistent {config : BindingConfig} {es : List Event} (h : Run Step (.init config) es b) :
    b.responses.Consistent :=
  h.state_invariant (P := fun b => b.responses.Consistent) (init_consistent config)
    (fun _ _ _ hc hs => step_consistent hs hc)

theorem run_announced {config : BindingConfig} {es : List Event} (h : Run Step (.init config) es b) :
    ∀ e ∈ es, ∃ c' a, Coordinator.Announced c' a (emits e.2) := by
  refine h.invariant (R := fun es _ => ∀ e ∈ es, ∃ c' a, Coordinator.Announced c' a (emits e.2)) (by simp) ?_
  intro es t e u hr hall hs e' he'
  rw [List.mem_append, List.mem_singleton] at he'
  rcases he' with he' | rfl
  · exact hall e' he'
  · obtain ⟨a, -, -, hshows⟩ := step_shows hs (run_consistent hr)
    exact ⟨_, a, hshows.events⟩

theorem run_numbered {config : BindingConfig} {es : List Event} (h : Run Step (.init config) es b) :
    Numbered es b := by
  refine h.invariant (R := fun es b => Numbered es b) ⟨by simp [emitted], by simp [emitted], by simp [emitted]⟩ ?_
  intro es t e u hr hn hs
  exact hn.step (run_consistent hr) hs

/-- The lifecycle of the responses over the calls `es`, which led to `b`. -/
structure Lifecycle (es : List Event) (b : Binding) : Prop where
  active_is_playback : ∀ r, b.responses.active = some r → b.responses.playback = some r
  one_unended : ∀ (r r' : Ref) (rec rec' : ResponseRecord), b.responses.heap[r]? = some rec →
    b.responses.heap[r']? = some rec' → rec.playbackEnded = false → rec'.playbackEnded = false → r = r'
  generations : ((emitted es).filterMap ServerEvent.generation?).Pairwise (· < ·)
  fences : ∀ responseId generation f cause, .playbackStop responseId generation f cause ∈ emitted es →
    generation < f
  stop_once : ∀ k, (emitted es).countP (·.stops k) ≤ 1
  end_once : ∀ k, (emitted es).countP (·.ends k) ≤ 1
  started_once : ∀ r, es.Pairwise (fun e f => startedRef e.2 = some r → startedRef f.2 ≠ some r)
  ended_once : ∀ r, es.Pairwise (fun e f => endedRef e.2 = some r → endedRef f.2 ≠ some r)
  media : ∀ r, es.Pairwise (fun e f => Terminates r e → ¬Admits r f)
  no_media : ∀ (r : Ref) (rec : ResponseRecord) (n : Nat), b.responses.heap[r]? = some rec →
    rec.outcome ≠ none ∨ rec.stopSent = true → ∃ e, b.responses.noteMedia r n = .error e
  playback_recorded : ∀ r, b.responses.playback = some r →
    ∃ rec, b.responses.heap[r]? = some rec ∧ b.responses.records.get? rec.key = some r
  records_bounded : b.responses.records.size ≤ 33
  finish_succeeds : b.closed = false →
    ∀ (responseId : String) (generation samples : Nat) (outcome : PlaybackOutcome) (last : Option Nat) (r : Ref)
      (rec : ResponseRecord),
      b.responses.endedRecord responseId generation outcome samples last = .ok (r, rec) →
      Coordinator.needsFinish rec = true → (b.responses.session.finishPlayback rec.target).2 = true

theorem noteMedia_refused {c : Coordinator} (hc : c.Consistent) {r : Ref} {rec : ResponseRecord} (n : Nat)
    (hrec : c.heap[r]? = some rec) (h : rec.outcome ≠ none ∨ rec.stopSent = true) :
    ∃ e, c.noteMedia r n = .error e := by
  have hout : rec.outcome ≠ none := h.elim id (hc.stopped r rec hrec)
  cases hnote : c.noteMedia r n with
  | error e => exact ⟨e, rfl⟩
  | ok c' =>
    have hactive := Coordinator.moves_media (Coordinator.noteMedia_moves hnote)
    exact absurd (hc.outcome_of_active hactive hrec) hout

/-- Every run of the binding keeps the response lifecycle. -/
theorem response_lifecycle {config : BindingConfig} {es : List Event} (h : Run Step (.init config) es b) :
    Lifecycle es b := by
  have hc := run_consistent h
  refine ⟨hc.active, ?_, (run_numbered h).increasing, (run_numbered h).fences, ?_, ?_, run_started_once h,
    run_ended_once h, run_media h, fun _ _ n hrec hs => noteMedia_refused hc n hrec hs, ?_, hc.records_size, ?_⟩
  · intro r r' rec rec' hrec hrec' hend hend'
    have hplays : ∀ {r : Ref} {rec : ResponseRecord}, b.responses.heap[r]? = some rec →
        rec.playbackEnded = false → b.responses.playback = some r := by
      intro r rec hrec hend
      by_contra hne
      rw [(hc.others r rec hrec hne).1] at hend
      cases hend
    exact Option.some.inj ((hplays hrec hend).symm.trans (hplays hrec' hend'))
  · intro k
    refine countP_flatMap_le_one (fun e he => ?_) (run_stop_once h k)
    obtain ⟨c', a, ha⟩ := run_announced h e he
    exact ha.stops_le k
  · intro k
    refine countP_flatMap_le_one (fun e he => ?_) (run_end_once h k)
    obtain ⟨c', a, ha⟩ := run_announced h e he
    exact ha.ends_le k
  · intro r hr
    obtain ⟨rec, hrec, hcur⟩ := hc.current r hr
    exact ⟨rec, hrec, hcur.known⟩
  · intro hopen responseId generation samples outcome last r rec hended hfinish
    obtain ⟨hrec, hplayback, -, -⟩ := Coordinator.endedRecord_ok hended
    have hholds := hc.finishes hrec hplayback hopen hfinish
    simp [VoiceSession.finishPlayback, hholds, show b.responses.session.closed = false from hopen]

def demoConfig : BindingConfig where
  expectedDeviceId := "lamp"
  sessionId := "s1"
  sessionEpoch := "e1"
  mediaId := [0, 1, 2, 3, 4, 5, 6, 7]
  mediaEpoch := 1
  expectedDeviceId_valid := by decide
  sessionId_valid := by decide
  sessionEpoch_valid := by decide
  mediaId_length := rfl
  mediaEpoch_range := by decide

def demoOpen : Message :=
  [("type", .str "session.open"), ("protocol_version", .int 1), ("request_id", .str "q1"),
    ("device_id", .str "lamp"), ("supported_media_profiles", .arr [.str "wss-opus/1"]),
    ("preferred_media_profile", .str "wss-opus/1"),
    ("audio", .obj [("codec", .str "opus"), ("sample_rate_hz", .int 16000), ("channels", .int 1),
      ("frame_duration_ms", .int 60)]),
    ("capabilities", .obj [])]

def demoUdpOpen : Message :=
  [("type", .str "session.open"), ("protocol_version", .int 1), ("request_id", .str "q1"),
    ("device_id", .str "lamp"), ("supported_media_profiles", .arr [.str "udp-opus-gcm/1"]),
    ("preferred_media_profile", .str "udp-opus-gcm/1"),
    ("audio", .obj [("codec", .str "opus"), ("sample_rate_hz", .int 16000), ("channels", .int 1),
      ("frame_duration_ms", .int 60)]),
    ("capabilities", .obj [])]

def demoStopped (responseId : String) : Message :=
  [("type", .str "playback.ended"), ("session_id", .str "s1"), ("session_epoch", .str "e1"),
    ("target", .obj [("response_id", .str responseId), ("generation", .int 1)]), ("outcome", .str "stopped"),
    ("played_samples", .int 0)]

/-- A response completed, then interrupted while the device still plays it, and
the next response. -/
def demoCalls : List Call :=
  [.receiveControl demoOpen, .responseBegin "r1" 1, .serializeAudio [7] 0 0, .responseEnd 0,
    .cancelActiveResponse "recognized_interrupt",
    .receiveControl (demoStopped "r1"), .responseBegin "r2" 2]

theorem response_lifecycle_interrupted :
    (emitted (history call (.init demoConfig) demoCalls)).filterMap ServerEvent.generation? = [1, 2, 3] ∧
      Lifecycle (history call (.init demoConfig) demoCalls) (after call (.init demoConfig) demoCalls) :=
  ⟨by decide +kernel, response_lifecycle (run_history call (.init demoConfig) demoCalls)⟩

end Binding

end RealtimeVoice.Rva
