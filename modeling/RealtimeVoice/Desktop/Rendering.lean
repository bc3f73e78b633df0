import RealtimeVoice.Base.Runs
import RealtimeVoice.Base.Tally

namespace RealtimeVoice.Desktop

open RealtimeVoice.Base.Runs RealtimeVoice.Base.Tally

def wireSamplesPerFrame : Nat := 960

/-- One playback of the app at the sink. `current` is the frame that `_render_pcm` waits
for, with the samples that have crossed the render boundary; `frames` are those before it,
and `reported` is what `_end_playback` has sent. -/
structure Rendering where
  playedSamples : Nat := 0
  reported : Option Nat := none
  current : Option Nat := none
  frames : List Portion := []
deriving DecidableEq

namespace Rendering

/-- The steps of `_render_pcm` and of the sink, and the end of the playback, which any task
may bring. A frame that the receiver gave up may still be played by the sink. -/
inductive Action
  | writeFrame
  | cross (samples : Nat)
  | count
  | abandon
  | crossLate (frame samples : Nat)
  | endPlayback
deriving DecidableEq

def advance (samples crossed : Nat) : Nat := min wireSamplesPerFrame (crossed + samples)

/-- An acknowledgement covers the whole frame. What is counted once the report is out is
not in it. -/
def act (s : Rendering) : Action → Rendering
  | .writeFrame => if s.current.isSome then s else { s with current := some 0 }
  | .cross samples => { s with current := s.current.map (advance samples) }
  | .count =>
    if s.current = some wireSamplesPerFrame then
      { s with
        playedSamples := s.playedSamples + wireSamplesPerFrame
        current := none
        frames := s.frames ++ [{ amount := wireSamplesPerFrame, counted := s.reported.isNone }] }
    else s
  | .abandon =>
    match s.current with
    | none => s
    | some crossed => { s with current := none, frames := s.frames ++ [{ amount := crossed, counted := false }] }
  | .crossLate frame samples => { s with frames := s.frames.modify frame fun f => f.grow (advance samples) }
  | .endPlayback => if s.reported.isSome then s else { s with reported := some s.playedSamples }

/-- The frames and, uncounted, the one in flight. -/
def rendered (s : Rendering) : List Portion :=
  s.frames ++ s.current.toList.map fun crossed => { amount := crossed, counted := false }

/-- A step that leaves uncounted nothing that has crossed: the playback is ended and a frame given
up before anything of the frame in flight crosses, nothing crosses of a frame that was given up,
and nothing at all once the playback has ended. -/
def Timely (s : Rendering) : Action → Prop
  | .writeFrame | .count => True
  | .cross samples => s.reported.isSome = true → s.current = none ∨ samples = 0
  | .abandon => s.current.getD 0 = 0
  | .crossLate frame samples => ∀ f, s.frames[frame]? = some f → f.counted = true ∨ samples = 0
  | .endPlayback => s.reported.isSome = true ∨ s.current.getD 0 = 0

abbrev step (s : Rendering) (a : Action) : Rendering × Unit := (s.act a, ())

section
variable {s : Rendering}

/-- The counter is the sum of the counted frames until it is reported, and so is the report. -/
def Exact (s : Rendering) : Prop := s.reported.getD s.playedSamples = counted s.frames

theorem exact_act (h : Exact s) (a : Action) : Exact (s.act a) := by
  unfold Exact at h ⊢
  cases a with
  | writeFrame =>
    rw [act]
    split_ifs
    · exact h
    · exact h
  | cross samples => exact h
  | count =>
    rw [act]
    split_ifs
    · rw [counted_snoc, ← h]
      cases s.reported with
      | none => rfl
      | some n => rfl
    · exact h
  | abandon =>
    rw [act]
    split
    · exact h
    · rw [counted_snoc]
      exact h
  | crossLate frame samples =>
    rw [act, counted_grow]
    exact h
  | endPlayback =>
    rw [act]
    split_ifs with hreported
    · exact h
    · rw [Option.not_isSome_iff_eq_none.mp hreported] at h
      exact h

theorem counted_rendered (s : Rendering) : counted s.rendered = counted s.frames := by
  rw [rendered]
  cases s.current with
  | none => exact congrArg counted (List.append_nil _)
  | some crossed => exact counted_snoc _ _

/-- What is reported is what has crossed but for the samples of uncounted frames. -/
theorem reported_counted (actions : List Action) {n : Nat} (hreported : (actions.foldl act {}).reported = some n) :
    n = counted (actions.foldl act {}).rendered := by
  have hexact : Exact (actions.foldl act {}) :=
    List.foldlRecOn actions act rfl fun s hs a _ => exact_act hs a
  rw [Exact, hreported] at hexact
  rw [counted_rendered]
  exact hexact

theorem advance_zero {samples : Nat} : advance samples 0 = 0 ↔ samples = 0 := by
  rw [advance, wireSamplesPerFrame]
  omega

theorem advance_ne {samples crossed : Nat} (h : crossed ≠ 0) : advance samples crossed ≠ 0 := by
  rw [advance, wireSamplesPerFrame]
  omega

/-- Nothing that has crossed is lost for the report: the frames are counted, and once the
playback has ended nothing of the frame in flight has crossed. -/
def Settled (s : Rendering) : Prop :=
  uncounted s.frames = 0 ∧ (s.reported.isSome = true → s.current.getD 0 = 0)

theorem settled_act (h : Settled s) (a : Action) : Settled (s.act a) ↔ Timely s a := by
  obtain ⟨hframes, hcurrent⟩ := h
  cases a with
  | writeFrame =>
    refine iff_of_true ?_ trivial
    rw [act]
    split_ifs
    · exact ⟨hframes, hcurrent⟩
    · exact ⟨hframes, fun _ => rfl⟩
  | cross samples =>
    rw [Settled, act, Timely, and_iff_right hframes]
    refine imp_congr_right fun hended => ?_
    have hzero := hcurrent hended
    cases hflight : s.current with
    | none => exact iff_of_true rfl (.inl rfl)
    | some crossed =>
      rw [hflight] at hzero
      obtain rfl : crossed = 0 := hzero
      simp [advance_zero]
  | count =>
    refine iff_of_true ?_ trivial
    rw [act]
    split_ifs with hwhole
    · have hrunning : s.reported = none := by
        cases hreported : s.reported with
        | none => rfl
        | some n =>
          rw [hreported, hwhole] at hcurrent
          exact absurd (hcurrent rfl) (by decide)
      refine ⟨?_, fun _ => rfl⟩
      rw [uncounted_snoc, hframes, hrunning]
      rfl
    · exact ⟨hframes, hcurrent⟩
  | abandon =>
    rw [act, Timely]
    split
    · rename_i hnone
      exact iff_of_true ⟨hframes, hcurrent⟩ (by rw [hnone]; rfl)
    · rename_i crossed hflight
      rw [Settled, uncounted_snoc, hframes, hflight]
      simp
  | crossLate frame samples =>
    rw [Settled, act, Timely, and_iff_left hcurrent, uncounted_grow_iff _ _ _ hframes]
    simp only [advance_zero]
  | endPlayback =>
    rw [act, Timely]
    split_ifs with hended
    · exact iff_of_true ⟨hframes, hcurrent⟩ (.inl hended)
    · rw [Settled, and_iff_right hframes]
      simp [hended]

/-- What is lost for the report stays lost. -/
theorem unsettled_act (h : ¬Settled s) (a : Action) : ¬Settled (s.act a) := by
  rw [Settled, not_and_or, Classical.not_imp] at h ⊢
  cases a with
  | writeFrame =>
    rw [act]
    split_ifs with hflight
    · exact h
    · refine h.imp_right fun ⟨hended, hcrossed⟩ => ?_
      rw [Option.not_isSome_iff_eq_none.mp hflight] at hcrossed
      exact absurd rfl hcrossed
  | cross samples =>
    refine h.imp_right fun ⟨hended, hcrossed⟩ => ⟨hended, ?_⟩
    rw [act]
    cases hflight : s.current with
    | none =>
      rw [hflight] at hcrossed
      exact absurd rfl hcrossed
    | some crossed =>
      rw [hflight] at hcrossed
      exact advance_ne hcrossed
  | count =>
    rw [act]
    split_ifs with hwhole
    · left
      rw [uncounted_snoc]
      obtain hlost | ⟨hended, -⟩ := h
      · omega
      · obtain ⟨n, hn⟩ := Option.isSome_iff_exists.mp hended
        simp [hn, wireSamplesPerFrame]
    · exact h
  | abandon =>
    rw [act]
    split
    · exact h
    · rename_i crossed hflight
      left
      rw [uncounted_snoc]
      obtain hlost | ⟨-, hcrossed⟩ := h
      · omega
      · rw [hflight] at hcrossed
        change ¬crossed = 0 at hcrossed
        change ¬uncounted s.frames + crossed = 0
        omega
  | crossLate frame samples =>
    exact h.imp_left fun hlost => uncounted_grow_ne _ _ _ (fun _ => advance_ne) hlost
  | endPlayback =>
    rw [act]
    split_ifs with hended
    · exact h
    · exact h.imp_right fun ⟨hended', _⟩ => absurd hended' hended

theorem unsettled_foldl (actions : List Action) (h : ¬Settled s) : ¬Settled (actions.foldl act s) := by
  induction actions generalizing s with
  | nil => exact h
  | cons a actions ih => exact ih (unsettled_act h a)

theorem settled_iff (actions : List Action) (h : Settled s) :
    Settled (actions.foldl act s) ↔ Along Timely step s actions := by
  induction actions generalizing s with
  | nil => exact iff_of_true h trivial
  | cons a actions ih =>
    rw [List.foldl_cons, Along]
    by_cases htimely : Timely s a
    · rw [ih ((settled_act h a).mpr htimely), and_iff_right htimely]
    · have hlost : ¬Settled (s.act a) := fun hs => htimely ((settled_act h a).mp hs)
      exact iff_of_false (unsettled_foldl actions hlost) fun hall => htimely hall.1

/-- The report is what has crossed exactly if every step was timely. -/
theorem reported_total_iff (actions : List Action) {n : Nat} (hreported : (actions.foldl act {}).reported = some n) :
    n = total (actions.foldl act {}).rendered ↔ Along Timely step {} actions := by
  have hsettled := settled_iff (s := {}) actions ⟨rfl, fun h => by cases h⟩
  have hcounted := reported_counted actions hreported
  have hlost : uncounted (actions.foldl act {}).rendered =
      uncounted (actions.foldl act {}).frames + (actions.foldl act {}).current.getD 0 := by
    rw [rendered]
    cases (actions.foldl act {}).current with
    | none => rw [Option.toList_none, List.map_nil, List.append_nil]; rfl
    | some crossed => exact uncounted_snoc _ _
  rw [← hsettled, Settled, hreported, total_eq, ← hcounted]
  simp only [Option.isSome_some, true_implies]
  omega

end

end Rendering

end RealtimeVoice.Desktop
