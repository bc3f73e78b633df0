import RealtimeVoice.Base.Raises
import RealtimeVoice.Rva.ControlInput

namespace RealtimeVoice.Rva

open RealtimeVoice.Base RealtimeVoice.Base.Runs RealtimeVoice.Contracts

/-- An `RvaBindingError` -/
def RvaError.IsBinding (e : RvaError) : Prop := ∃ code, e = .binding code

@[simp]
theorem isBinding_binding (code : String) : (RvaError.binding code).IsBinding := ⟨code, rfl⟩

@[simp]
theorem not_isBinding_typeError : ¬RvaError.typeError.IsBinding := by
  rintro ⟨code, ⟨⟩⟩

/-- Whatever is raised is an `RvaBindingError`. -/
abbrev Refuses {α : Type} (x : Except RvaError α) : Prop := Raises RvaError.IsBinding x

theorem refuses_error {α : Type} {e : RvaError} : Refuses (.error e : Except RvaError α) ↔ e.IsBinding := raises_error

section Fields

variable {message : Message} {names : List String} {name : String} {value : Json}

@[simp]
theorem refuses_reject (p : Prop) [Decidable p] (code : String) : Refuses (reject p code) := by
  rw [reject]
  split
  · exact raises_error.mpr (isBinding_binding code)
  · exact raises_ok

@[simp]
theorem refuses_requireExactFields : Refuses (requireExactFields message names) := by
  rw [requireExactFields]
  split
  · exact raises_ok
  · split <;> exact raises_error.mpr (isBinding_binding _)

@[simp]
theorem refuses_requireFields : Refuses (requireFields message names name) := by
  rw [requireFields]
  split
  · exact raises_ok
  · split <;> exact raises_error.mpr (isBinding_binding _)

@[simp]
theorem refuses_requireIdentifier : Refuses (requireIdentifier value name) := by
  rw [requireIdentifier.eq_def]
  split
  · split
    · exact raises_ok
    · exact raises_error.mpr (isBinding_binding _)
  · exact raises_error.mpr (isBinding_binding _)

@[simp]
theorem refuses_validateUint32 (n minimum : Int) : Refuses (validateUint32 name n minimum) := by
  rw [validateUint32]
  split
  · exact raises_ok
  · exact raises_error.mpr (isBinding_binding _)

@[simp]
theorem refuses_requireUint32 (minimum : Int) : Refuses (requireUint32 value name minimum) := by
  rw [requireUint32.eq_def]
  split
  · exact refuses_validateUint32 _ _
  · exact raises_error.mpr (isBinding_binding _)

@[simp]
theorem refuses_requireUint53 : Refuses (Binding.requireUint53 value name) := by
  rw [Binding.requireUint53.eq_def]
  split
  · split
    · exact raises_ok
    · exact raises_error.mpr (isBinding_binding _)
  · exact raises_error.mpr (isBinding_binding _)

@[simp]
theorem refuses_parseTarget : Refuses (Binding.parseTarget value) := by
  rw [Binding.parseTarget.eq_def]
  split
  · simp [raises_bind]
  · exact raises_error.mpr (isBinding_binding _)

@[simp]
theorem refuses_requireText (text : String) (maximumBytes : Nat) (allowEmpty : Bool) :
    Refuses (Binding.requireText text maximumBytes allowEmpty) := by
  rw [Binding.requireText]
  split
  · exact raises_error.mpr (isBinding_binding _)
  · split
    · exact raises_error.mpr (isBinding_binding _)
    · exact raises_ok

theorem refuses_parseProfiles : Refuses (parseProfiles value) := by
  rw [parseProfiles.eq_def]
  split
  · simp [raises_ite]
  · exact raises_error.mpr (isBinding_binding _)

theorem refuses_validateAudio : Refuses (validateAudio value) := by
  rw [validateAudio.eq_def]
  split
  · simp [raises_ite]
  · exact raises_error.mpr (isBinding_binding _)

theorem refuses_validateCapabilities : Refuses (validateCapabilities value) := by
  rw [validateCapabilities.eq_def]
  split
  · simp [raises_ite]
  · exact raises_error.mpr (isBinding_binding _)

theorem refuses_parseSessionOpenObject : Refuses (parseSessionOpenObject message) := by
  rw [parseSessionOpenObject]
  simp only [raises_bind, refuses_requireExactFields, refuses_reject, true_and]
  intro _ _ _ _
  split
  · simp only [raises_bind, refuses_reject, refuses_requireIdentifier, refuses_parseProfiles, true_and]
    intro _ _ requestId _ deviceId _ profiles _
    split
    · exact raises_throw.mpr (isBinding_binding _)
    · simp [raises_bind, refuses_validateAudio, refuses_validateCapabilities]
  · simp [raises_bind]

@[simp]
theorem Binding.refuses_requireContext {b : Binding} : Refuses (b.requireContext message) := by
  rw [Binding.requireContext]
  split
  · exact raises_ok
  · exact raises_error.mpr (isBinding_binding _)

end Fields

namespace Coordinator

variable {c : Coordinator}

theorem refuses_record (responseId : String) (generation : Nat) : Refuses (c.record responseId generation) := by
  rw [record]
  split
  · exact raises_error.mpr (isBinding_binding _)
  · split
    · exact raises_error.mpr (isBinding_binding _)
    · exact raises_ok

theorem refuses_playbackStarted (responseId : String) (generation first : Nat) :
    Refuses (c.playbackStarted responseId generation first) := by
  rw [playbackStarted]
  split
  · rename_i e he
    exact raises_error.mpr (refuses_record responseId generation e he)
  · split
    · exact raises_error.mpr (isBinding_binding _)
    · split
      · exact raises_error.mpr (isBinding_binding _)
      · exact raises_ok

theorem refuses_endedRecord (responseId : String) (generation samples : Nat) (outcome : PlaybackOutcome)
    (last : Option Nat) : Refuses (c.endedRecord responseId generation outcome samples last) := by
  rw [endedRecord]
  split
  · rename_i e he
    exact raises_error.mpr (refuses_record responseId generation e he)
  · simp [raises_ite]

/-- In a consistent coordinator with an open session a `playback.ended` that is refused
changes nothing: what it could fail after its first change does not fail. -/
theorem Consistent.playbackEnded_refused (h : Consistent c) (hopen : c.session.closed = false) {responseId : String}
    {generation samples : Nat} {outcome : PlaybackOutcome} {last : Option Nat} {e : RvaError}
    (he : (c.playbackEnded responseId generation outcome samples last).2 = .error e) :
    e.IsBinding ∧ (c.playbackEnded responseId generation outcome samples last).1 = c := by
  rw [playbackEnded] at he ⊢
  split at he
  · rename_i e' hrecord
    cases he
    exact ⟨refuses_endedRecord _ _ _ _ _ e hrecord, rfl⟩
  · rename_i r rec hrecord
    obtain ⟨hrec, hplayback, -, -⟩ := endedRecord_ok hrecord
    dsimp only at he
    split at he
    · rename_i hfinish
      have hholds := h.finishes hrec hplayback hopen hfinish
      simp [VoiceSession.finishPlayback, update, hopen, hholds] at he
    · cases he

end Coordinator

end RealtimeVoice.Rva
