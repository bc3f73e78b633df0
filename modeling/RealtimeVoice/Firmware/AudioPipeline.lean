import RealtimeVoice.Base.Runs

namespace RealtimeVoice.Firmware.Audio

open RealtimeVoice.Base.Runs

inductive PortResult
  | ok | invalidArgument | invalidState | resourceExhausted | timeout | ioFailure | internalFailure
deriving DecidableEq

inductive PipelineState
  | stopped | starting | running | stopping | faulted
deriving DecidableEq

inductive PipelineStage
  | none | playback | frontend | capture | pipeline
deriving DecidableEq

structure PipelineResult where
  stage : PipelineStage := .none
  error : PortResult := .ok
deriving DecidableEq

def PipelineResult.ok (r : PipelineResult) : Bool := r.error = .ok

def failure (stage : PipelineStage) (error : PortResult) : PipelineResult := { stage := stage, error := error }

inductive Port
  | playback | frontend | capture
deriving DecidableEq

def Port.stage : Port → PipelineStage
  | .playback => .playback
  | .frontend => .frontend
  | .capture => .capture

/-- What the last call of a port left: a call that failed may have done its work or not. -/
inductive PortState
  | idle | started | unsure
deriving DecidableEq

/-- Where a call of `Start` or `Stop` stands: before which port call, or before which store. -/
inductive Call
  | returned (result : PipelineResult)
  | starting (port : Port)
  | started
  /-- In `StopStartedStages`, with the ports left to stop, the first error and, if it is a
  `Start` that failed, its result. -/
  | cleaning (port : Port) (left : List Port) (firstError : PipelineResult) (result : Option PipelineResult)
  | cleaned (result : Option PipelineResult)
  /-- A `Stop` that found the pipeline stopped. -/
  | unneeded
  /-- A `Stop` that found another call in progress and is about to put the state back. -/
  | rejected (prior : PipelineState)
deriving DecidableEq

namespace Call

/-- The call has taken the state and is the one to publish the next. -/
def owns : Call → Bool
  | .returned _ => false
  | .rejected _ => false
  | _ => true

/-- The call is among its port calls. -/
def operates : Call → Bool
  | .starting _ => true
  | .cleaning .. => true
  | _ => false

theorem owns_of_operates {c : Call} (h : c.operates = true) : c.owns = true := by
  cases c with
  | starting | cleaning => rfl
  | _ => cases h

end Call

structure Pipeline (ι : Type) where
  state : PipelineState := .stopped
  lastCleanupError : PipelineResult := {}
  calls : ι → Call := fun _ => .returned {}
  ports : Port → PortState := fun _ => .idle

inductive Event (ι : Type)
  | start (i : ι)
  | stop (i : ι)
  | port (i : ι) (result : PortResult)
  | store (i : ι)
deriving DecidableEq

namespace Pipeline

variable {ι : Type} [DecidableEq ι]

def goto (s : Pipeline ι) (i : ι) (c : Call) : Pipeline ι := { s with calls := Function.update s.calls i c }

/-- The compare and exchange of `Start`. -/
def start (s : Pipeline ι) (i : ι) : Pipeline ι :=
  if s.state = .stopped then
    { s with state := .starting, lastCleanupError := {} }.goto i (.starting .playback)
  else s.goto i (.returned (if s.state = .running then {} else failure .pipeline .invalidState))

/-- The exchange of `Stop`. -/
def stop (s : Pipeline ι) (i : ι) : Pipeline ι :=
  { s with state := .stopping }.goto i (
    match s.state with
    | .stopped => .unneeded
    | .starting => .rejected .starting
    | .stopping => .rejected .stopping
    | .running => .cleaning .capture [.frontend, .playback] {} none
    | .faulted => .cleaning .capture [.frontend, .playback] {} none)

/-- What `Start` does once a port's `Start` has answered. -/
def startPort (s : Pipeline ι) (i : ι) (port : Port) (result : PortResult) : Pipeline ι :=
  if result ≠ .ok then
    { s with ports := Function.update s.ports port .unsure }.goto i (
      match port with
      | .playback => .cleaning .playback [] {} (some (failure .playback result))
      | .frontend => .cleaning .frontend [.playback] {} (some (failure .frontend result))
      | .capture => .cleaning .capture [.frontend, .playback] {} (some (failure .capture result)))
  else
    { s with ports := Function.update s.ports port .started }.goto i (
      match port with
      | .playback => .starting .frontend
      | .frontend => .starting .capture
      | .capture => .started)

/-- What `StopStartedStages` does once a port's `Stop` has answered. -/
def stopPort (s : Pipeline ι) (i : ι) (port : Port) (left : List Port) (firstError : PipelineResult)
    (answer : Option PipelineResult) (result : PortResult) : Pipeline ι :=
  let s := { s with ports := Function.update s.ports port (if result = PortResult.ok then .idle else .unsure) }
  let firstError := if firstError.ok = true ∧ result ≠ PortResult.ok then failure port.stage result else firstError
  match left with
  | [] => { s with lastCleanupError := firstError }.goto i (.cleaned answer)
  | next :: left => s.goto i (.cleaning next left firstError answer)

/-- One atomic operation on the state, or one port call with what it answers. -/
def next (s : Pipeline ι) : Event ι → Option (Pipeline ι)
  | .start i =>
    match s.calls i with
    | .returned _ => some (s.start i)
    | _ => none
  | .stop i =>
    match s.calls i with
    | .returned _ => some (s.stop i)
    | _ => none
  | .port i result =>
    match s.calls i with
    | .starting port => some (s.startPort i port result)
    | .cleaning port left firstError answer => some (s.stopPort i port left firstError answer result)
    | _ => none
  | .store i =>
    match s.calls i with
    | .started => some ({ s with state := .running }.goto i (.returned {}))
    | .cleaned answer =>
      some ({ s with state := if s.lastCleanupError.ok then .stopped else .faulted }.goto i
        (.returned (answer.getD s.lastCleanupError)))
    | .unneeded => some ({ s with state := .stopped }.goto i (.returned {}))
    | .rejected prior =>
      some ({ s with state := prior }.goto i (.returned (failure .pipeline .invalidState)))
    | _ => none

def Step (s : Pipeline ι) (e : Event ι) (t : Pipeline ι) : Prop := s.next e = some t

/-- No call is in progress. -/
def Quiescent (s : Pipeline ι) : Prop := ∀ i, ∃ result, s.calls i = .returned result

variable {s t : Pipeline ι} {e : Event ι} {i : ι} {c : Call}

@[simp]
theorem goto_state : (s.goto i c).state = s.state := rfl

@[simp]
theorem goto_ports : (s.goto i c).ports = s.ports := rfl

@[simp]
theorem goto_lastCleanupError : (s.goto i c).lastCleanupError = s.lastCleanupError := rfl

@[simp]
theorem goto_self : (s.goto i c).calls i = c := Function.update_self ..

theorem goto_of_ne {j : ι} (h : j ≠ i) : (s.goto i c).calls j = s.calls j := Function.update_of_ne h ..

/-- No call has taken the state. -/
def Free (s : Pipeline ι) : Prop := ∀ i, (s.calls i).owns = false

def Busy (state : PipelineState) : Prop := state = .starting ∨ state = .stopping

/-- Another call than this one has not taken the state. -/
def Alone (s : Pipeline ι) (i : ι) : Prop := ∀ j, j ≠ i → (s.calls j).owns = false

/-- What a call that has taken the state knows of the ports. -/
def Knows (s : Pipeline ι) : Call → Prop
  | .starting .playback => ∀ p, s.ports p = .idle
  | .starting .frontend => s.ports .playback = .started ∧ s.ports .frontend = .idle ∧ s.ports .capture = .idle
  | .starting .capture => s.ports .playback = .started ∧ s.ports .frontend = .started ∧ s.ports .capture = .idle
  | .started => ∀ p, s.ports p = .started
  | .cleaning port left firstError _ => ∀ p, p ≠ port → p ∉ left →
      s.ports p ≠ .started ∧ (firstError.ok = true → s.ports p = .idle)
  | .cleaned _ => ∀ p, s.ports p ≠ .started ∧ (s.lastCleanupError.ok = true → s.ports p = .idle)
  | .unneeded => ∀ p, s.ports p = .idle
  | .returned _ => True
  | .rejected prior => Busy prior

/-- What a published state says of the ports. -/
def Settled (s : Pipeline ι) : Prop :=
  match s.state with
  | .stopped => ∀ p, s.ports p = .idle
  | .running => ∀ p, s.ports p = .started
  | .faulted => ∃ p, s.ports p ≠ .started
  | _ => False

/-- At most one call has taken the state, and the state says so. -/
structure Orderly (s : Pipeline ι) : Prop where
  alone : ∀ i, (s.calls i).owns = true → s.Alone i
  busy : ∀ i, (s.calls i).owns = true → Busy s.state
  knows : ∀ i, s.Knows (s.calls i)

/-- A rejected `Stop` puts the state back only while another call has taken it. -/
def Meets (s : Pipeline ι) (e : Event ι) : Prop :=
  ∀ i prior, e = .store i → s.calls i = .rejected prior → ∃ j, (s.calls j).owns = true

/-- A call takes the state or goes on with it. -/
theorem Orderly.takes (h : s.Orderly) (halone : s.Alone i) {u : Pipeline ι} (hcalls : u.calls = s.calls)
    (hbusy : Busy u.state) (hknows : u.Knows c) : (u.goto i c).Orderly := by
  have hothers : ∀ j, j ≠ i → ((u.goto i c).calls j).owns = false := by
    intro j hj
    rw [goto_of_ne hj, hcalls]
    exact halone j hj
  refine ⟨?_, fun _ _ => hbusy, ?_⟩
  · intro j howns k hk
    by_cases hj : j = i
    · exact hothers k (hj ▸ hk)
    · rw [hothers j hj] at howns
      cases howns
  · intro j
    by_cases hj : j = i
    · subst hj
      rw [goto_self]
      cases c <;> exact hknows
    · rw [goto_of_ne hj, hcalls]
      have hj' := halone j hj
      have hknown := h.knows j
      revert hj' hknown
      cases s.calls j with
      | returned | rejected => exact fun _ hknown => hknown
      | _ =>
        intro hj'
        cases hj'

/-- The call that has taken the state publishes the next one and returns. -/
theorem Orderly.publishes (h : s.Orderly) (halone : s.Alone i) {u : Pipeline ι} (hcalls : u.calls = s.calls)
    (result : PipelineResult) : (u.goto i (.returned result)).Orderly ∧ (u.goto i (.returned result)).Free := by
  have hfree : (u.goto i (.returned result)).Free := by
    intro j
    by_cases hj : j = i
    · rw [hj, goto_self]
      rfl
    · rw [goto_of_ne hj, hcalls]
      exact halone j hj
  refine ⟨⟨?_, ?_, ?_⟩, hfree⟩
  · intro j howns
    rw [hfree j] at howns
    cases howns
  · intro j howns
    rw [hfree j] at howns
    cases howns
  · intro j
    by_cases hj : j = i
    · rw [hj, goto_self]
      trivial
    · have hknown := h.knows j
      have hj' := halone j hj
      rw [goto_of_ne hj, hcalls]
      revert hj' hknown
      cases s.calls j with
      | returned | rejected => exact fun hknown _ => hknown
      | _ =>
        intro _ hj'
        cases hj'

omit [DecidableEq ι] in
theorem knows_congr {u : Pipeline ι} (hports : u.ports = s.ports) (hlast : u.lastCleanupError = s.lastCleanupError)
    (h : s.Knows c) : u.Knows c := by
  revert h
  cases c with
  | starting port => cases port <;> simp only [Knows, hports] <;> exact id
  | _ => (simp only [Knows, hports, hlast]; exact id)

/-- A call that has not taken the state goes on without it. -/
theorem Orderly.passes (h : s.Orderly) {u : Pipeline ι} (hcalls : u.calls = s.calls) (hports : u.ports = s.ports)
    (hlast : u.lastCleanupError = s.lastCleanupError) (hstate : u.state = s.state ∨ Busy u.state)
    (hi : (s.calls i).owns = false) (hc : c.owns = false) (hknows : u.Knows c) :
    (u.goto i c).Orderly ∧ ((u.goto i c).Free ↔ s.Free) := by
  have howns : ∀ j, ((u.goto i c).calls j).owns = (s.calls j).owns := by
    intro j
    by_cases hj : j = i
    · rw [hj, goto_self, hc, hi]
    · rw [goto_of_ne hj, hcalls]
  refine ⟨⟨?_, ?_, ?_⟩, ?_⟩
  · intro j hj k hk
    rw [howns] at hj ⊢
    exact h.alone j hj k hk
  · intro j hj
    rw [howns] at hj
    obtain hstate | hbusy := hstate
    · rw [goto_state, hstate]
      exact h.busy j hj
    · exact hbusy
  · intro j
    by_cases hj : j = i
    · rw [hj, goto_self]
      exact knows_congr rfl rfl hknows
    · rw [goto_of_ne hj, hcalls]
      exact knows_congr hports hlast (h.knows j)
  · exact forall_congr' fun j => by rw [howns]

/-- The state was published by the last call that took it. -/
structure Sound (s : Pipeline ι) : Prop where
  orderly : s.Orderly
  settled : s.Free → s.Settled

/-- The state says that a call has taken it, but none has. -/
structure Stuck (s : Pipeline ι) : Prop where
  orderly : s.Orderly
  free : s.Free
  busy : Busy s.state

omit [DecidableEq ι] in
theorem not_busy_of_settled (h : s.Settled) : ¬Busy s.state := by
  rintro (hstate | hstate) <;> rw [Settled, hstate] at h <;> exact h

/-- What one step can do to the state. -/
inductive Moved (s t : Pipeline ι) : Prop
  | took (ht : ¬t.Free) (hs : ¬Busy s.state ∨ ¬s.Free)
  | published (hs : ¬s.Free) (ht : t.Settled)
  | passed (hfree : t.Free ↔ s.Free) (hstate : t.state = s.state) (hports : t.ports = s.ports)
  | rejected (hfree : t.Free ↔ s.Free) (hs : Busy s.state) (ht : Busy t.state)

omit [DecidableEq ι] in
theorem Moved.sound (h : Moved s t) (ht : t.Orderly) (hs : s.Sound) : t.Sound := by
  refine ⟨ht, fun hfree => ?_⟩
  cases h with
  | took htaken => exact absurd hfree htaken
  | published _ hsettled => exact hsettled
  | passed hsame hstate hports =>
    have hsettled := hs.settled (hsame.mp hfree)
    rwa [Settled, hports, hstate]
  | rejected hsame hbusy => exact absurd hbusy (not_busy_of_settled (hs.settled (hsame.mp hfree)))

omit [DecidableEq ι] in
theorem Moved.stuck (h : Moved s t) (ht : t.Orderly) (hs : s.Stuck) : t.Stuck := by
  cases h with
  | took _ htook =>
    obtain hnot | hnot := htook
    · exact absurd hs.busy hnot
    · exact absurd hs.free hnot
  | published htaken => exact absurd hs.free htaken
  | passed hsame hstate _ => exact ⟨ht, hsame.mpr hs.free, hstate ▸ hs.busy⟩
  | rejected hsame _ hbusy => exact ⟨ht, hsame.mpr hs.free, hbusy⟩

theorem not_free_goto (hc : c.owns = true) : ¬(s.goto i c).Free := by
  intro hfree
  have hi := hfree i
  rw [goto_self, hc] at hi
  cases hi

omit [DecidableEq ι] in
/-- A published state: no call has taken it, and it is settled. -/
theorem published_of_not_busy (h : s.Orderly) (hsettled : s.Free → s.Settled ∨ Busy s.state) (hstate : ¬Busy s.state) :
    s.Free ∧ s.Settled := by
  have hfree : s.Free := fun i => Bool.eq_false_iff.mpr fun howns => hstate (h.busy i howns)
  exact ⟨hfree, (hsettled hfree).resolve_right hstate⟩

theorem start_moved (h : s.Orderly) (hsettled : s.Free → s.Settled ∨ Busy s.state) {result : PipelineResult}
    (hi : s.calls i = .returned result) : (s.start i).Orderly ∧ Moved s (s.start i) := by
  rw [start]
  by_cases hstate : s.state = .stopped
  · rw [if_pos hstate]
    have hbusy : ¬Busy s.state := by simp [Busy, hstate]
    obtain ⟨hfree, hidle⟩ := published_of_not_busy h hsettled hbusy
    rw [Settled, hstate] at hidle
    exact ⟨h.takes (fun j _ => hfree j) rfl (.inl rfl) hidle, .took (not_free_goto rfl) (.inl hbusy)⟩
  · rw [if_neg hstate]
    obtain ⟨horderly, hfree⟩ := h.passes (u := s) rfl rfl rfl (.inl rfl) (by rw [hi]; rfl)
      (c := .returned (if s.state = .running then {} else failure .pipeline .invalidState)) rfl trivial
    exact ⟨horderly, .passed hfree rfl rfl⟩

theorem stop_moved (h : s.Orderly) (hsettled : s.Free → s.Settled ∨ Busy s.state) {result : PipelineResult}
    (hi : s.calls i = .returned result) : (s.stop i).Orderly ∧ Moved s (s.stop i) := by
  have hreturned : (s.calls i).owns = false := by
    rw [hi]
    rfl
  have hevery : ∀ p, p ≠ Port.capture → p ∉ [Port.frontend, Port.playback] → False := by
    rintro ⟨⟩ <;> simp
  have htakes : ∀ c, ¬Busy s.state → c.owns = true → (s.Free → s.Settled → s.Knows c) →
      ({ s with state := .stopping }.goto i c).Orderly ∧ Moved s ({ s with state := .stopping }.goto i c) := by
    intro c hbusy howns hknows
    obtain ⟨hfree, hpublished⟩ := published_of_not_busy h hsettled hbusy
    exact ⟨h.takes (fun j _ => hfree j) rfl (.inr rfl) (knows_congr rfl rfl (hknows hfree hpublished)),
      .took (not_free_goto howns) (.inl hbusy)⟩
  have hrejects : ∀ prior, Busy prior → Busy s.state →
      ({ s with state := .stopping }.goto i (.rejected prior)).Orderly ∧
        Moved s ({ s with state := .stopping }.goto i (.rejected prior)) := by
    intro prior hprior hbusy
    obtain ⟨horderly, hfree⟩ := h.passes (u := { s with state := .stopping }) rfl rfl rfl (.inr (.inr rfl)) hreturned
      (c := .rejected prior) rfl hprior
    exact ⟨horderly, .rejected hfree hbusy (.inr rfl)⟩
  rw [stop]
  cases hstate : s.state with
  | stopped =>
    refine htakes _ (by simp [Busy, hstate]) rfl ?_
    intro _ hidle
    rwa [Settled, hstate] at hidle
  | starting => exact hrejects _ (.inl rfl) (.inl hstate)
  | stopping => exact hrejects _ (.inr rfl) (.inr hstate)
  | running | faulted =>
    refine htakes _ (by simp [Busy, hstate]) rfl ?_
    intro _ _ p hp hleft
    exact absurd hleft fun hleft => hevery p hp hleft

/-- The call that has taken the state goes on. -/
theorem Orderly.goesOn (h : s.Orderly) (howns : (s.calls i).owns = true) {u : Pipeline ι} (hcalls : u.calls = s.calls)
    (hstate : u.state = s.state) (hknows : u.Knows c) (hc : c.owns = true) :
    (u.goto i c).Orderly ∧ Moved s (u.goto i c) := by
  refine ⟨h.takes (h.alone i howns) hcalls (hstate ▸ h.busy i howns) hknows, .took (not_free_goto hc) (.inr ?_)⟩
  intro hfree
  rw [hfree i] at howns
  cases howns

theorem startPort_moved (h : s.Orderly) {port : Port} (hi : s.calls i = .starting port) (result : PortResult) :
    (s.startPort i port result).Orderly ∧ Moved s (s.startPort i port result) := by
  have howns : (s.calls i).owns = true := by
    rw [hi]
    rfl
  have hknown := h.knows i
  rw [hi] at hknown
  unfold startPort
  by_cases hfailed : result ≠ .ok
  · rw [if_pos hfailed]
    refine h.goesOn howns ?_ ?_ ?_ ?_
    · rfl
    · rfl
    · -- the ports that `StopStartedStages` leaves out were never started
      cases port with
      | playback =>
        intro p hp _
        simp [Function.update_of_ne hp, hknown p]
      | frontend =>
        rintro ⟨⟩ hp hleft <;> simp_all [Knows]
      | capture =>
        rintro ⟨⟩ hp hleft <;> simp_all
    · cases port <;> rfl
  · rw [if_neg hfailed]
    refine h.goesOn howns ?_ ?_ ?_ ?_
    · rfl
    · rfl
    · cases port with
      | playback => exact ⟨by simp, by simpa using hknown .frontend, by simpa using hknown .capture⟩
      | frontend => exact ⟨by simpa using hknown.1, by simp, by simpa using hknown.2.2⟩
      | capture =>
        rintro ⟨⟩
        · simpa using hknown.1
        · simpa using hknown.2.1
        · simp
    · cases port <;> rfl

theorem stopPort_moved (h : s.Orderly) {port : Port} {left : List Port} {firstError : PipelineResult}
    {answer : Option PipelineResult} (hi : s.calls i = .cleaning port left firstError answer) (result : PortResult) :
    (s.stopPort i port left firstError answer result).Orderly ∧
      Moved s (s.stopPort i port left firstError answer result) := by
  have howns : (s.calls i).owns = true := by
    rw [hi]
    rfl
  have hknown := h.knows i
  rw [hi] at hknown
  have hstopped : ∀ p, p ∉ left →
      Function.update s.ports port (if result = PortResult.ok then .idle else .unsure) p ≠ .started ∧
        ((if firstError.ok = true ∧ result ≠ PortResult.ok then failure port.stage result else firstError).ok = true →
          Function.update s.ports port (if result = PortResult.ok then .idle else .unsure) p = .idle) := by
    intro p hleft
    by_cases hp : p = port
    · subst hp
      by_cases hok : result = .ok
      · simp [hok]
      · have hunsure : ∀ firstError : PipelineResult,
            (if firstError.ok = true ∧ result ≠ PortResult.ok then failure p.stage result else firstError).ok = false := by
          intro firstError
          split_ifs with hfirst
          · simp [failure, PipelineResult.ok, hok]
          · simpa [hok] using hfirst
        refine ⟨by simp [hok], fun hnone => ?_⟩
        rw [hunsure] at hnone
        cases hnone
    · obtain ⟨hne, hidle⟩ := hknown p hp hleft
      rw [Function.update_of_ne hp]
      refine ⟨hne, fun hok => hidle ?_⟩
      split_ifs at hok with hfirst
      · exact hfirst.1
      · exact hok
  cases left with
  | nil =>
    refine h.goesOn howns ?_ ?_ ?_ ?_
    · rfl
    · rfl
    · exact fun p => hstopped p (by simp)
    · rfl
  | cons next left =>
    refine h.goesOn howns ?_ ?_ ?_ ?_
    · rfl
    · rfl
    · intro p hp hleft
      exact hstopped p (by simp [hp, hleft])
    · rfl

/-- A rejected `Stop` puts the state back. -/
theorem putBack_step (h : s.Orderly) {prior : PipelineState} (hi : s.calls i = .rejected prior)
    (hstep : Step s (.store i) t) : t.Orderly ∧ (t.Free ↔ s.Free) ∧ Busy t.state := by
  have hprior := h.knows i
  rw [hi] at hprior
  simp only [Step, next, hi, Option.some.injEq] at hstep
  subst hstep
  obtain ⟨horderly, hfree⟩ := h.passes (u := { s with state := prior }) rfl rfl rfl (.inr hprior) (by rw [hi]; rfl)
    (c := .returned (failure .pipeline .invalidState)) rfl trivial
  exact ⟨horderly, hfree, hprior⟩

theorem store_moved (h : s.Orderly) (howns : (s.calls i).owns = true) (hstep : Step s (.store i) t) :
    t.Orderly ∧ Moved s t := by
  have hknown := h.knows i
  have halone := h.alone i howns
  have htaken : ¬s.Free := fun hfree => by
    rw [hfree i] at howns
    cases howns
  have hpublishes : ∀ (u : Pipeline ι) result, u.calls = s.calls → u.Settled →
      (u.goto i (.returned result)).Orderly ∧ Moved s (u.goto i (.returned result)) :=
    fun u result hcalls hsettled => ⟨(h.publishes halone hcalls result).1, .published htaken hsettled⟩
  cases hi : s.calls i with
  | started =>
    rw [hi] at hknown
    simp only [Step, next, hi, Option.some.injEq] at hstep
    subst hstep
    exact hpublishes _ _ rfl hknown
  | cleaned answer =>
    rw [hi] at hknown
    simp only [Step, next, hi, Option.some.injEq] at hstep
    subst hstep
    refine hpublishes _ _ ?_ ?_
    · rfl
    · cases hok : s.lastCleanupError.ok with
      | true => exact fun p => (hknown p).2 hok
      | false => exact ⟨.playback, (hknown .playback).1⟩
  | unneeded =>
    rw [hi] at hknown
    simp only [Step, next, hi, Option.some.injEq] at hstep
    subst hstep
    exact hpublishes _ _ rfl hknown
  | returned | rejected =>
    rw [hi] at howns
    cases howns
  | starting | cleaning => simp [Step, next, hi] at hstep

/-- A step other than a rejected `Stop` putting the state back. -/
theorem step_moved (h : s.Orderly) (hsettled : s.Free → s.Settled ∨ Busy s.state) (hstep : Step s e t)
    (hnot : ∀ i prior, e = .store i → s.calls i ≠ .rejected prior) : t.Orderly ∧ Moved s t := by
  cases e with
  | start i =>
    cases hi : s.calls i with
    | returned =>
      simp only [Step, next, hi, Option.some.injEq] at hstep
      subst hstep
      exact start_moved h hsettled hi
    | _ => simp [Step, next, hi] at hstep
  | stop i =>
    cases hi : s.calls i with
    | returned =>
      simp only [Step, next, hi, Option.some.injEq] at hstep
      subst hstep
      exact stop_moved h hsettled hi
    | _ => simp [Step, next, hi] at hstep
  | port i result =>
    cases hi : s.calls i with
    | starting =>
      simp only [Step, next, hi, Option.some.injEq] at hstep
      subst hstep
      exact startPort_moved h hi result
    | cleaning =>
      simp only [Step, next, hi, Option.some.injEq] at hstep
      subst hstep
      exact stopPort_moved h hi result
    | _ => simp [Step, next, hi] at hstep
  | store i =>
    cases hi : s.calls i with
    | rejected prior => exact absurd hi (hnot i prior rfl)
    | returned => simp [Step, next, hi] at hstep
    | _ => exact store_moved h (by rw [hi]; rfl) hstep

theorem sound_step (h : s.Sound) (hstep : Step s e t) (hmeets : s.Meets e) : t.Sound := by
  by_cases hback : ∃ i prior, e = .store i ∧ s.calls i = .rejected prior
  · obtain ⟨i, prior, rfl, hi⟩ := hback
    obtain ⟨horderly, hfree, -⟩ := putBack_step h.orderly hi hstep
    refine ⟨horderly, fun ht => ?_⟩
    obtain ⟨j, hj⟩ := hmeets i prior rfl hi
    rw [hfree.mp ht j] at hj
    cases hj
  · obtain ⟨horderly, hmoved⟩ := step_moved h.orderly (fun hfree => .inl (h.settled hfree)) hstep
      (fun i prior he hi => hback ⟨i, prior, he, hi⟩)
    exact hmoved.sound horderly h

theorem stuck_of_not_meets (h : s.Sound) (hstep : Step s e t) (hmeets : ¬s.Meets e) : t.Stuck := by
  simp only [Meets, not_forall, not_exists, Bool.not_eq_true] at hmeets
  obtain ⟨i, prior, rfl, hi, hfree⟩ := hmeets
  obtain ⟨horderly, hsame, hbusy⟩ := putBack_step h.orderly hi hstep
  exact ⟨horderly, hsame.mpr hfree, hbusy⟩

theorem stuck_step (h : s.Stuck) (hstep : Step s e t) : t.Stuck := by
  by_cases hback : ∃ i prior, e = .store i ∧ s.calls i = .rejected prior
  · obtain ⟨i, prior, rfl, hi⟩ := hback
    obtain ⟨horderly, hfree, hbusy⟩ := putBack_step h.orderly hi hstep
    exact ⟨horderly, hfree.mpr h.free, hbusy⟩
  · obtain ⟨horderly, hmoved⟩ := step_moved h.orderly (fun _ => .inr h.busy) hstep
      (fun i prior he hi => hback ⟨i, prior, he, hi⟩)
    exact hmoved.stuck horderly h

/-- The steps of a `Stop` whose ports succeed, after its exchange. -/
def ByItself (i : ι) (e : Event ι) : Prop := e = .port i .ok ∨ e = .store i

/-- A `Stop` issued alone, with ports that succeed, gets to its end, and then the pipeline is stopped. -/
structure StopsAlone (s : Pipeline ι) (i : ι) : Prop where
  ends : ∃ es t, (∀ e ∈ es, ByItself i e) ∧ Run Step s (.stop i :: es) t ∧ t.Quiescent
  stopped : ∀ es t, (∀ e ∈ es, ByItself i e) → Run Step s (.stop i :: es) t → t.Quiescent → t.state = .stopped

/-- What holds when no call is in progress. -/
structure Lifecycle (s : Pipeline ι) : Prop where
  published : s.state = .stopped ∨ s.state = .running ∨ s.state = .faulted
  running : s.state = .running ↔ ∀ p, s.ports p = .started
  stopped : s.state = .stopped → ∀ p, s.ports p = .idle
  stop : ∀ i, s.StopsAlone i

/-- From here the call `i`, on its own, only gets to a quiescent state in which the pipeline is stopped, and it does. -/
structure LeadsToStopped (s : Pipeline ι) (i : ι) : Prop where
  ends : ∃ es t, (∀ e ∈ es, ByItself i e) ∧ Run Step s es t ∧ t.Quiescent
  stopped : ∀ es t, (∀ e ∈ es, ByItself i e) → Run Step s es t → t.Quiescent → t.state = .stopped

omit [DecidableEq ι] in
theorem quiescent_free (h : s.Quiescent) : s.Free := by
  intro i
  obtain ⟨result, hi⟩ := h i
  rw [hi]
  rfl

theorem LeadsToStopped.of_next {u : Pipeline ι} (hc : ∀ result, s.calls i ≠ .returned result)
    (hnext : ∀ e t, ByItself i e → Step s e t → t = u) (hstep : ∃ e, ByItself i e ∧ Step s e u)
    (h : u.LeadsToStopped i) : s.LeadsToStopped i := by
  obtain ⟨e, he, hu⟩ := hstep
  refine ⟨?_, ?_⟩
  · obtain ⟨es, t, hes, hrun, hquiet⟩ := h.ends
    exact ⟨e :: es, t, by simpa [he] using hes, Run.cons_iff.mpr ⟨u, hu, hrun⟩, hquiet⟩
  · intro es t hes hrun hquiet
    cases es with
    | nil =>
      obtain rfl := hrun.of_nil
      obtain ⟨result, hi⟩ := hquiet i
      exact absurd hi (hc result)
    | cons f es =>
      obtain ⟨m, hm, hrest⟩ := Run.cons_iff.mp hrun
      obtain rfl := hnext f m (hes f List.mem_cons_self) hm
      exact h.stopped es t (fun g hg => hes g (List.mem_cons_of_mem _ hg)) hrest hquiet

theorem LeadsToStopped.done (hquiet : s.Quiescent) (hstate : s.state = .stopped) : s.LeadsToStopped i := by
  refine ⟨⟨[], s, by simp, .nil, hquiet⟩, ?_⟩
  intro es t hes hrun _
  cases es with
  | nil => rw [hrun.of_nil, hstate]
  | cons e es =>
    obtain ⟨m, hm, -⟩ := Run.cons_iff.mp hrun
    obtain ⟨result, hi⟩ := hquiet i
    obtain rfl | rfl := hes e List.mem_cons_self <;> simp [Step, next, hi] at hm

/-- No other call than this one is in progress. -/
def QuietBut (s : Pipeline ι) (i : ι) : Prop := ∀ j, j ≠ i → ∃ result, s.calls j = .returned result

theorem QuietBut.goto (h : s.QuietBut i) {u : Pipeline ι} (hcalls : u.calls = s.calls) : (u.goto i c).QuietBut i := by
  intro j hj
  rw [goto_of_ne hj, hcalls]
  exact h j hj

theorem QuietBut.quiescent (h : s.QuietBut i) {u : Pipeline ι} (hcalls : u.calls = s.calls) (result : PipelineResult) :
    (u.goto i (.returned result)).Quiescent := by
  intro j
  by_cases hj : j = i
  · exact ⟨result, hj ▸ goto_self⟩
  · exact h.goto hcalls j hj

theorem unneeded_leads (h : s.QuietBut i) (hi : s.calls i = .unneeded) : s.LeadsToStopped i := by
  apply LeadsToStopped.of_next (u := { s with state := .stopped }.goto i (.returned {}))
  · simp [hi]
  · rintro e t (rfl | rfl) hstep
    · simp [Step, next, hi] at hstep
    · simpa [Step, next, hi, eq_comm] using hstep
  · exact ⟨.store i, .inr rfl, by simp [Step, next, hi]⟩
  · exact .done (h.quiescent rfl {}) rfl

theorem cleaned_leads (h : s.QuietBut i) (hi : s.calls i = .cleaned none) (hok : s.lastCleanupError.ok = true) :
    s.LeadsToStopped i := by
  apply LeadsToStopped.of_next (u := { s with state := .stopped }.goto i (.returned s.lastCleanupError))
  · simp [hi]
  · rintro e t (rfl | rfl) hstep
    · simp [Step, next, hi] at hstep
    · simpa [Step, next, hi, hok, eq_comm] using hstep
  · exact ⟨.store i, .inr rfl, by simp [Step, next, hi, hok]⟩
  · exact .done (h.quiescent rfl s.lastCleanupError) rfl

theorem cleaning_leads {left : List Port} {port : Port} {firstError : PipelineResult} (h : s.QuietBut i)
    (hi : s.calls i = .cleaning port left firstError none) (hok : firstError.ok = true) : s.LeadsToStopped i := by
  induction left generalizing s port with
  | nil =>
    apply LeadsToStopped.of_next (u := s.stopPort i port [] firstError none .ok)
    · simp [hi]
    · rintro e t (rfl | rfl) hstep
      · simpa [Step, next, hi, eq_comm] using hstep
      · simp [Step, next, hi] at hstep
    · exact ⟨.port i .ok, .inl rfl, by simp [Step, next, hi]⟩
    · exact cleaned_leads (h.goto rfl) goto_self (by simpa [stopPort] using hok)
  | cons next left ih =>
    apply LeadsToStopped.of_next (u := s.stopPort i port (next :: left) firstError none .ok)
    · simp [hi]
    · rintro e t (rfl | rfl) hstep
      · simpa [Step, Pipeline.next, hi, eq_comm] using hstep
      · simp [Step, Pipeline.next, hi] at hstep
    · exact ⟨.port i .ok, .inl rfl, by simp [Step, Pipeline.next, hi]⟩
    · have hnext : (s.stopPort i port (next :: left) firstError none .ok).calls i = .cleaning next left firstError none := by
        simp [stopPort]
      exact ih (h.goto rfl) hnext

/-- A settled state leaves a lone `Stop` nothing but to stop the pipeline. -/
theorem stopsAlone (hquiet : s.Quiescent) (hsettled : s.Settled) (i : ι) : s.StopsAlone i := by
  obtain ⟨result, hi⟩ := hquiet i
  have hstop : Step s (.stop i) (s.stop i) := by simp [Step, next, hi]
  have hbut : s.QuietBut i := fun j _ => hquiet j
  have hleads : (s.stop i).LeadsToStopped i := by
    rw [stop]
    rw [Settled] at hsettled
    cases hstate : s.state with
    | stopped => exact unneeded_leads (hbut.goto rfl) goto_self
    | running | faulted => exact cleaning_leads (hbut.goto rfl) goto_self rfl
    | starting | stopping =>
      rw [hstate] at hsettled
      exact hsettled.elim
  refine ⟨?_, ?_⟩
  · obtain ⟨es, t, hes, hrun, hdone⟩ := hleads.ends
    exact ⟨es, t, hes, Run.cons_iff.mpr ⟨_, hstop, hrun⟩, hdone⟩
  · intro es t hes hrun hdone
    obtain ⟨m, hm, hrest⟩ := Run.cons_iff.mp hrun
    obtain rfl := Option.some.inj (hstop.symm.trans hm)
    exact hleads.stopped es t hes hrest hdone

theorem lifecycle_of_sound (h : s.Sound) (hquiet : s.Quiescent) : s.Lifecycle := by
  have hsettled := h.settled (quiescent_free hquiet)
  have hstop := stopsAlone hquiet hsettled
  rw [Settled] at hsettled
  cases hstate : s.state with
  | stopped =>
    rw [hstate] at hsettled
    refine ⟨by simp [hstate], ?_, fun _ => hsettled, hstop⟩
    have hidle : s.ports .playback ≠ .started := by simp [hsettled Port.playback]
    exact ⟨fun hrunning => by simp [hstate] at hrunning, fun hall => absurd (hall .playback) hidle⟩
  | running =>
    rw [hstate] at hsettled
    exact ⟨by simp [hstate], by simp [hstate, hsettled], by simp [hstate], hstop⟩
  | faulted =>
    rw [hstate] at hsettled
    refine ⟨by simp [hstate], ?_, by simp [hstate], hstop⟩
    simpa [hstate] using hsettled
  | starting | stopping =>
    rw [hstate] at hsettled
    exact hsettled.elim

omit [DecidableEq ι] in
theorem not_lifecycle_of_busy (h : Busy s.state) : ¬(s.state = .stopped ∨ s.state = .running ∨ s.state = .faulted) := by
  obtain h | h := h <;> simp [h]

omit [DecidableEq ι] in
theorem sound_initial : ({} : Pipeline ι).Sound := by
  refine ⟨⟨?_, ?_, fun _ => trivial⟩, fun _ _ => rfl⟩
  · intro i howns
    cases howns
  · intro i howns
    cases howns

/-- The steps that meet the condition. -/
def MeetingStep (s : Pipeline ι) (e : Event ι) (t : Pipeline ι) : Prop := Meets s e ∧ Step s e t

/-- A run meets the condition at every step, or it gets stuck. -/
theorem run_sound_or_stuck {es : List (Event ι)} (h : Run Step {} es s) :
    s.Sound ∧ Run MeetingStep {} es s ∨ s.Stuck ∧ ¬Run MeetingStep {} es s := by
  refine h.invariant (R := fun es s => s.Sound ∧ Run MeetingStep {} es s ∨ s.Stuck ∧ ¬Run MeetingStep {} es s)
    (.inl ⟨sound_initial, .nil⟩) ?_
  rintro es s e t hrun (⟨hsound, hmeeting⟩ | ⟨hstuck, hnot⟩) hstep
  all_goals
    have hbefore : ∀ u, Run MeetingStep {} es u → u = s := fun u hu =>
      (hu.mono fun _ _ _ hm => hm.2).unique (fun _ _ _ _ h h' => Option.some.inj (h.symm.trans h')) hrun
  · by_cases hmeets : s.Meets e
    · exact .inl ⟨sound_step hsound hstep hmeets, hmeeting.snoc ⟨hmeets, hstep⟩⟩
    · refine .inr ⟨stuck_of_not_meets hsound hstep hmeets, fun hall => ?_⟩
      obtain ⟨u, hu, hlast⟩ := Run.snoc_iff.mp hall
      obtain rfl := hbefore u hu
      exact hmeets hlast.1
  · refine .inr ⟨stuck_step hstuck hstep, fun hall => ?_⟩
    obtain ⟨u, hu, -⟩ := Run.snoc_iff.mp hall
    obtain rfl := hbefore u hu
    exact hnot hu

/-- Two calls are never among their port calls at once, and when no call is in progress the
lifecycle is in order exactly if every rejected `Stop` of the run put the state back while
another call had taken it. -/
theorem lifecycle_iff {es : List (Event ι)} (h : Run Step {} es s) :
    (∀ i j, (s.calls i).operates = true → (s.calls j).operates = true → i = j) ∧
      (s.Quiescent → (s.Lifecycle ↔ Run MeetingStep {} es s)) := by
  have horderly : s.Orderly := by
    obtain ⟨hsound, -⟩ | ⟨hstuck, -⟩ := run_sound_or_stuck h
    · exact hsound.orderly
    · exact hstuck.orderly
  refine ⟨?_, fun hquiet => ?_⟩
  · intro i j hi hj
    by_contra hne
    have hfree := horderly.alone i (Call.owns_of_operates hi) j fun he => hne he.symm
    rw [Call.owns_of_operates hj] at hfree
    cases hfree
  · obtain ⟨hsound, hmeeting⟩ | ⟨hstuck, hnot⟩ := run_sound_or_stuck h
    · exact ⟨fun _ => hmeeting, fun _ => lifecycle_of_sound hsound hquiet⟩
    · exact ⟨fun hlife => absurd hlife.published (not_lifecycle_of_busy hstuck.busy), fun hall => absurd hall hnot⟩

/-- What two calls of `Stop` on a stopped pipeline leave, with the state last stored. -/
def crossed (state : PipelineState) (i j : Nat) (first second : PipelineResult) : Pipeline Nat :=
  { state := state
    calls := Function.update (Function.update (Function.update (Function.update (fun _ => .returned {}) 0 .unneeded) 1
      (.rejected .stopping)) i (.returned first)) j (.returned second) }

theorem crossed_quiescent {state : PipelineState} {first second : PipelineResult} {i j : Nat}
    (hij : i = 0 ∧ j = 1 ∨ i = 1 ∧ j = 0) : (crossed state i j first second).Quiescent := by
  intro k
  by_cases hj : k = j
  · exact ⟨second, by simp [crossed, hj]⟩
  · by_cases hi : k = i
    · have hne : i ≠ j := by omega
      exact ⟨first, by simp [crossed, hi, Function.update_of_ne hne]⟩
    · have h0 : k ≠ 0 := by omega
      have h1 : k ≠ 1 := by omega
      exact ⟨{}, by simp [crossed, Function.update_of_ne, hi, hj, h0, h1]⟩

/-- The second `Stop` puts its state back before the first one publishes. -/
theorem lifecycle_iff_crossed : (crossed .stopped 1 0 (failure .pipeline .invalidState) {}).Lifecycle := by
  have h0 : Step {} (.stop 0) (({} : Pipeline Nat).stop 0) := rfl
  have h1 : Step (({} : Pipeline Nat).stop 0) (.stop 1) ((({} : Pipeline Nat).stop 0).stop 1) := rfl
  have hnone : ∀ (s : Pipeline Nat) i, Meets s (.stop i) := by
    intro s i j prior he
    cases he
  have hmeets : Meets ((({} : Pipeline Nat).stop 0).stop 1) (.store 1) := fun i prior _ _ => ⟨0, rfl⟩
  have hlast : ∀ s : Pipeline Nat, s.calls 0 = .unneeded → Meets s (.store 0) := by
    intro s hs i prior he hi
    obtain rfl := Event.store.inj he
    rw [hs] at hi
    cases hi
  have hrun : Run MeetingStep ({} : Pipeline Nat) [.stop 0, .stop 1, .store 1, .store 0]
      (crossed .stopped 1 0 (failure .pipeline .invalidState) {}) := by
    refine Run.cons_iff.mpr ⟨_, ⟨hnone _ _, h0⟩, Run.cons_iff.mpr ⟨_, ⟨hnone _ _, h1⟩, ?_⟩⟩
    refine Run.cons_iff.mpr ⟨_, ⟨hmeets, rfl⟩, Run.single ⟨hlast _ rfl, rfl⟩⟩
  exact ((lifecycle_iff (hrun.mono fun _ _ _ h => h.2)).2 (crossed_quiescent (.inr ⟨rfl, rfl⟩))).mpr hrun

/-- The second `Stop` puts back what the first one had set, after that has published. -/
theorem crossed_stops_stick : ¬∀ (es : List (Event Nat)) (s : Pipeline Nat), Run Step {} es s → s.Quiescent →
    s.state = .stopped ∨ s.state = .running ∨ s.state = .faulted := by
  intro hclaim
  have hrun : Run Step ({} : Pipeline Nat) [.stop 0, .stop 1, .store 0, .store 1]
      (crossed .stopping 0 1 {} (failure .pipeline .invalidState)) := by
    refine Run.cons_iff.mpr ⟨_, rfl, Run.cons_iff.mpr ⟨_, rfl, Run.cons_iff.mpr ⟨_, rfl, Run.single rfl⟩⟩⟩
  have hstate := hclaim _ _ hrun (crossed_quiescent (.inl ⟨rfl, rfl⟩))
  simp [crossed] at hstate

end Pipeline

end RealtimeVoice.Firmware.Audio
