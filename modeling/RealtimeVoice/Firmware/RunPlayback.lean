import RealtimeVoice.Firmware.PlaybackFacts

namespace RealtimeVoice.Firmware.VoiceRuntime

open RealtimeVoice.Base.Runs RealtimeVoice.Firmware.PlaybackState

def decodedSamplesPerFrame : Nat := 960
def nominalResampledSamplesPerFrame : Nat := 1440
def interruptibleSamples : Nat := 240
def maxIdBytes : Nat := 128

/-- A slice handed to `WritePlayback`. A write that fails may have let a part of it through. -/
structure Write where
  count : Nat
  failed : Option Nat := none
deriving DecidableEq, Repr

/-- The samples of a slice that got through to the codec. -/
def Write.through (w : Write) : Nat :=
  match w.failed with
  | none => w.count
  | some part => min part w.count

/-- What `RunPlayback` works on, with the slices handed to `WritePlayback` since the playback began. -/
structure PlaybackTask where
  playback : PlaybackState.State := {}
  playbackGeneration : Nat := 1
  running : Bool := true
  writes : List Write := []
deriving DecidableEq, Repr

/-- A fact in the queue to the supervisor, and the slices written for it until then. -/
structure Report where
  fact : PlaybackFact
  writes : List Write
deriving DecidableEq, Repr

/-- `queued` says whether the fact queue has room for a fact of the command, `advanced`
and `fenced` what the UDP runtime answers. -/
inductive PlaybackCommand
  | begin (target : ResponseTarget) (advanced : Bool)
  | complete (target : ResponseTarget) (value : Nat) (nowUs : Int) (queued : Bool)
  | stop (target : ResponseTarget) (value : Nat) (fenced queued : Bool)
deriving DecidableEq, Repr

/-- The environment of a slice. A write that fails may have let a part of it through. -/
structure SliceReads where
  commands : List PlaybackCommand := []
  failed : Option Nat := none
  queued : Bool := true
  failQueued : Bool := true

inductive Media
  | none (nowUs : Int)
  | frame (generation sequence : Nat)
deriving DecidableEq, Repr

/-- The environment of a round of the loop. What decoder and resampler give is absent
where they fail. -/
structure Reads where
  degraded : Bool := false
  commands : List PlaybackCommand := []
  media : Media
  frameCommands : List PlaybackCommand := []
  frameDegraded : Bool := false
  decoded : Option Nat := some decodedSamplesPerFrame
  resampled : Option Nat := some nominalResampledSamplesPerFrame
  slice : Nat → SliceReads := fun _ => {}
  queued : Bool := true
  failQueued : Bool := true

namespace PlaybackTask

/-- `PublishPlaybackFact`. -/
def publishPlaybackFact (s : PlaybackTask) (fact : Option PlaybackFact) (queued : Bool) : Bool × List Report :=
  match fact with
  | .none => (true, [])
  | .some fact =>
    if fact.target.responseId = "" ∨ fact.target.responseId.utf8ByteSize > maxIdBytes ∨ queued = false then
      (false, [])
    else (true, [{ fact := fact, writes := s.writes }])

/-- The playback fails and the loop ends. -/
def failActivePlayback (s : PlaybackTask) (queued : Bool) : PlaybackTask × List Report :=
  let (playback, reply) := PlaybackState.fail s.playback true
  let s := { s with playback := playback, running := false }
  (s, (s.publishPlaybackFact reply.fact queued).2)

def observePlayoutQuality (s : PlaybackTask) (degraded : Bool) : PlaybackTask :=
  if degraded && s.playback.active then { s with playback := (markDegraded s.playback).1 } else s

/-- A command with its result, and what it reports. -/
def processPlaybackCommand (s : PlaybackTask) : PlaybackCommand → PlaybackTask × Bool × List Report
  | .begin target advanced =>
    let (playback, reply) := PlaybackState.begin s.playback target
    if reply.ok = false then ({ s with playback := playback }, false, [])
    else
      let s := { s with playback := playback, writes := [] }
      if advanced = false then (s, false, [])
      else ({ s with playbackGeneration := target.generation }, true, [])
  | .complete target value nowUs queued =>
    let (playback, reply) := setFinalMediaSequence s.playback target value nowUs true
    let s := { s with playback := playback }
    if reply.ok = false then (s, false, []) else (s, s.publishPlaybackFact reply.fact queued)
  | .stop target value fenced queued =>
    let (playback, reply) := PlaybackState.stop s.playback target value true
    let s := { s with playback := playback }
    if reply.ok = false ∨ fenced = false then (s, false, [])
    else
      let s := { s with playbackGeneration := value }
      (s, s.publishPlaybackFact reply.fact queued)

def processPlaybackCommands : List PlaybackCommand → PlaybackTask → PlaybackTask × Bool × List Report
  | [], s => (s, true, [])
  | command :: rest, s =>
    match s.processPlaybackCommand command with
    | (s, false, reports) => (s, false, reports)
    | (s, true, reports) =>
      let (s, ok, later) := processPlaybackCommands rest s
      (s, ok, reports ++ later)

/-- One pass of the write loop: the task, how far the frame is written, whether the loop
goes on, and the reports. -/
def writeSlice (s : PlaybackTask) (generation sequence offset : Nat) (r : SliceReads) :
    PlaybackTask × Nat × Bool × List Report :=
  let (s, ok, reports) := processPlaybackCommands r.commands s
  if ok = false then
    let (s, last) := s.failActivePlayback r.failQueued
    (s, offset, false, reports ++ last)
  else if canPlay s.playback generation = false then (s, offset, false, reports)
  else
    let count := min interruptibleSamples (nominalResampledSamplesPerFrame - offset)
    let s : PlaybackTask := { s with writes := s.writes ++ [{ count, failed := r.failed }] }
    match r.failed with
    | some _ =>
      let (s, last) := s.failActivePlayback r.failQueued
      (s, offset, false, reports ++ last)
    | none =>
      let (playback, reply) := recordWritten s.playback sequence count true
      let s : PlaybackTask := { s with playback := playback }
      let (published, started) := s.publishPlaybackFact reply.fact r.queued
      if reply.ok = false ∨ published = false then
        let (s, last) := s.failActivePlayback r.failQueued
        (s, offset + count, false, reports ++ started ++ last)
      else (s, offset + count, true, reports ++ started)

/-- The loop over the slices of a frame. Every pass that goes on writes a sample at least,
so the fuel is what there is to write. -/
def writeSlices (generation sequence : Nat) (slice : Nat → SliceReads) :
    Nat → Nat → PlaybackTask → PlaybackTask × Nat × List Report
  | 0, offset, s => (s, offset, [])
  | fuel + 1, offset, s =>
    if offset < nominalResampledSamplesPerFrame ∧ s.running = true then
      match s.writeSlice generation sequence offset (slice offset) with
      | (s, offset, false, reports) => (s, offset, reports)
      | (s, offset, true, reports) =>
        let (s, offset, later) := writeSlices generation sequence slice fuel offset s
        (s, offset, reports ++ later)
    else (s, offset, [])

/-- A frame from its decoding on. -/
def playFrame (s : PlaybackTask) (generation sequence : Nat) (r : Reads) : PlaybackTask × List Report :=
  if r.decoded ≠ some decodedSamplesPerFrame ∨ r.resampled ≠ some nominalResampledSamplesPerFrame then
    s.failActivePlayback r.failQueued
  else
    let (s, offset, reports) := writeSlices generation sequence r.slice nominalResampledSamplesPerFrame 0 s
    if s.running = true ∧ offset = nominalResampledSamplesPerFrame ∧ canPlay s.playback generation = true then
      let (playback, reply) := finishFrame s.playback sequence true
      let s : PlaybackTask := { s with playback := playback }
      let (published, ended) := s.publishPlaybackFact reply.fact r.queued
      if reply.ok = false ∨ published = false then
        let (s, last) := s.failActivePlayback r.failQueued
        (s, reports ++ ended ++ last)
      else (s, reports ++ ended)
    else (s, reports)

/-- What follows once a round has a frame. -/
def withFrame (s : PlaybackTask) (generation sequence : Nat) (r : Reads) : PlaybackTask × List Report :=
  let (s, ok, reports) := processPlaybackCommands r.frameCommands s
  if ok = false then
    let (s, last) := s.failActivePlayback r.failQueued
    (s, reports ++ last)
  else
    let s := s.observePlayoutQuality r.frameDegraded
    if canPlay s.playback generation = false then (s, reports)
    else
      let (s, later) := s.playFrame generation sequence r
      (s, reports ++ later)

/-- Without media the final frame is concealed, or the drain runs out. -/
def withoutMedia (s : PlaybackTask) (nowUs : Int) (r : Reads) : PlaybackTask × List Report :=
  let (playback, reply) := requestFinalPlc s.playback nowUs true
  match reply.mediaSequence with
  | some sequence => { s with playback := playback }.withFrame s.playbackGeneration sequence r
  | none =>
    let (playback, reply) := expireDrain s.playback nowUs true
    let s : PlaybackTask := { s with playback := playback }
    let (published, reports) := s.publishPlaybackFact reply.fact r.queued
    ({ s with running := published }, reports)

/-- One round of `RunPlayback`. -/
def runPlayback (s : PlaybackTask) (r : Reads) : PlaybackTask × List Report :=
  if s.running = false then (s, [])
  else
    let (s, ok, reports) := processPlaybackCommands r.commands (s.observePlayoutQuality r.degraded)
    if ok = false then
      let (s, last) := s.failActivePlayback r.failQueued
      (s, reports ++ last)
    else
      let (s, later) :=
        match r.media with
        | .frame generation sequence => s.withFrame generation sequence r
        | .none nowUs => s.withoutMedia nowUs r
      (s, reports ++ later)

/-- A slice of which every sample got through. -/
def whole : Write := { count := interruptibleSamples }

/-- A count and the slices it is of: whole ones, before a last one that fails or that
`RecordWritten` refuses, which it does at the first slice of a frame or where the count is full. -/
inductive Matches : Nat → List Write → Prop
  | written (n : Nat) : Matches (240 * n) (List.replicate n whole)
  | failed (n part : Nat) : Matches (240 * n) (List.replicate n whole ++ [{ count := 240, failed := some part }])
  | refused (n : Nat) (h : n % 6 = 0 ∨ uint64Max < 240 + 240 * n) : Matches (240 * n) (List.replicate (n + 1) whole)

/-- What a terminal fact says of the slices. -/
def Told (reports : List Report) : Prop :=
  ∀ report ∈ reports, report.fact.type = .ended → Matches report.fact.playedSamples report.writes

/-- The playback in progress has written whole slices, and counted them. -/
def Tallied (s : PlaybackTask) (n : Nat) : Prop :=
  s.writes = List.replicate n whole ∧ s.playback.playedSamples = 240 * n

/-- Between two frames: the playback in progress has written whole frames. -/
structure Framed (s : PlaybackTask) : Prop where
  coherent : Coherent s.playback
  frames : s.playback.active = true → ∃ m, Tallied s (6 * m)

/-- The playback of a frame, of which some slices are written. -/
structure Current (s : PlaybackTask) (generation sequence slices : Nat) : Prop where
  coherent : Coherent s.playback
  active : s.playback.active = true
  generation : s.playback.target.generation = generation
  tallied : ∃ m, Tallied s (6 * m + slices)
  last : 0 < slices → s.playback.lastSampleSequence = some sequence

/-- In the write loop: the frame is still that of the playback, or its playback is over for good. -/
def Partway (s : PlaybackTask) (generation sequence slices : Nat) : Prop :=
  Current s generation sequence slices ∨ generation ≤ s.playback.fenceGeneration ∧ Framed s

/-- A part of the loop tells the truth, and leaves whole frames if the loop goes on. -/
def Keeps (result : PlaybackTask × List Report) : Prop :=
  (result.1.running = true → Framed result.1) ∧ Told result.2

section

variable {s t : PlaybackTask} {p q : PlaybackState.State} {c : Call} {r : Reply} {reports later : List Report}
  {generation sequence slices : Nat} {fact : Option PlaybackFact}

theorem told_nil : Told [] := fun _ h => absurd h List.not_mem_nil

theorem Told.append (h : Told reports) (h' : Told later) : Told (reports ++ later) := by
  intro report hreport
  obtain hmem | hmem := List.mem_append.mp hreport
  · exact h report hmem
  · exact h' report hmem

theorem told_publish (fact : Option PlaybackFact) (queued : Bool)
    (h : ∀ f, fact = some f → f.type = .ended → Matches f.playedSamples s.writes) :
    Told (s.publishPlaybackFact fact queued).2 := by
  cases fact with
  | none => exact told_nil
  | some fact =>
    rw [publishPlaybackFact]
    split_ifs
    · exact told_nil
    · intro report hreport
      obtain rfl := List.mem_singleton.mp hreport
      exact h fact rfl

/-- What a call other than `Begin` and `RecordWritten` does to the count: nothing, or it ends the
playback and its terminal fact has the count. -/
inductive Counted (p q : PlaybackState.State) (fact : Option PlaybackFact) : Prop
  | kept (active : q.active = p.active) (target : q.target = p.target) (samples : q.playedSamples = p.playedSamples)
      (last : q.lastSampleSequence = p.lastSampleSequence) (none : fact = none)
  | ended (before : p.active = true) (after : q.active = false) (fence : p.target.generation ≤ q.fenceGeneration)
      (samples : ∀ f, fact = some f → f.playedSamples = p.playedSamples)

theorem ends_counted {outcome : PlaybackEndedOutcome} {s' : PlaybackState.State} (ha : p.active = true)
    (h : Ends p c s' outcome) :
    Counted p («end» s' outcome).1 (some («end» s' outcome).2) := by
  have hsamples : ∀ f, some («end» s' outcome).2 = some f → f.playedSamples = p.playedSamples := by
    rintro f ⟨⟩
    exact (ends_frame h).1
  refine .ended ha rfl ?_ hsamples
  cases h with
  | finalSet _ _ _ _ hs' =>
    rw [hs']
    simp only [«end»]
    split <;> simp
  | framePlayed =>
    simp only [«end»]
    split <;> simp
  | stopped _ hlt => simpa [«end»] using hlt.le
  | failed | expired => simp [«end»]

theorem call_counted (p : PlaybackState.State) (c : Call) (hbegin : ∀ target, c ≠ .begin target)
    (hrecord : ∀ n samples out, c ≠ .recordWritten n samples out) :
    Counted p (PlaybackState.call p c).1 (PlaybackState.call p c).2.fact := by
  have heffect := call_effect p c
  generalize (PlaybackState.call p c).1 = q at heffect ⊢
  generalize (PlaybackState.call p c).2 = r at heffect ⊢
  cases heffect with
  | begun => exact absurd rfl (hbegin _)
  | started | written => exact absurd rfl (hrecord _ _ _)
  | refused | stopRepeated | finalKnown | degraded | plcRequested | frameFinished => exact .kept rfl rfl rfl rfl rfl
  | ended ha hends => exact ends_counted ha hends

/-- A call on whole slices: the report of its fact, and what it leaves. -/
theorem told_call (hc : Counted s.playback t.playback fact) (hwrites : t.writes = s.writes)
    (h : s.playback.active = true → ∃ n, Tallied s n) (queued : Bool) :
    Told (t.publishPlaybackFact fact queued).2 := by
  refine told_publish _ _ ?_
  intro f hf _
  cases hc with
  | kept _ _ _ _ hnone =>
    rw [hnone] at hf
    cases hf
  | ended hbefore _ _ hsamples =>
    obtain ⟨n, hslices, hplayed⟩ := h hbefore
    rw [hsamples f hf, hwrites, hplayed, hslices]
    exact .written n

theorem Framed.tallied (h : Framed s) : s.playback.active = true → ∃ n, Tallied s n := by
  intro ha
  obtain ⟨m, hm⟩ := h.frames ha
  exact ⟨_, hm⟩

theorem Current.tally (h : Current s generation sequence slices) : s.playback.active = true → ∃ n, Tallied s n := by
  intro _
  obtain ⟨m, hm⟩ := h.tallied
  exact ⟨_, hm⟩

theorem framed_call (h : Framed s) (hc : Counted s.playback t.playback fact) (hco : Coherent t.playback)
    (hwrites : t.writes = s.writes) : Framed t := by
  refine ⟨hco, fun ha => ?_⟩
  cases hc with
  | kept hactive _ hsamples =>
    obtain ⟨m, hslices, hplayed⟩ := h.frames (hactive.symm.trans ha)
    exact ⟨m, hwrites.trans hslices, hsamples.trans hplayed⟩
  | ended _ hafter =>
    rw [hafter] at ha
    cases ha

theorem current_call (h : Current s generation sequence slices) (hc : Counted s.playback t.playback fact)
    (hco : Coherent t.playback) (hwrites : t.writes = s.writes) : Partway t generation sequence slices := by
  cases hc with
  | kept hactive htarget hsamples hlast =>
    obtain ⟨m, hslices, hplayed⟩ := h.tallied
    exact .inl ⟨hco, hactive.trans h.active, (congrArg _ htarget).trans h.generation,
      ⟨m, hwrites.trans hslices, hsamples.trans hplayed⟩, fun hpos => hlast.trans (h.last hpos)⟩
  | ended _ hafter hfence =>
    refine .inr ⟨h.generation.symm.trans_le hfence, hco, fun ha => ?_⟩
    rw [hafter] at ha
    cases ha

theorem coherent_call (h : Coherent p) (c : Call) : Coherent (PlaybackState.call p c).1 :=
  effect_coherent h (call_effect p c)

/-- The playback in progress fails, and the loop ends. -/
theorem told_fail (queued : Bool)
    (h : s.playback.active = true → ∃ n, s.playback.playedSamples = n ∧ Matches n s.writes) :
    Keeps (s.failActivePlayback queued) := by
  refine ⟨by simp [failActivePlayback], told_publish _ _ ?_⟩
  intro f hf _
  have hc := call_counted s.playback (.fail true) (fun _ => Call.noConfusion) fun _ _ _ => Call.noConfusion
  change (PlaybackState.call s.playback (.fail true)).2.fact = some f at hf
  change Matches f.playedSamples s.writes
  cases hc with
  | kept _ _ _ _ hnone =>
    rw [hnone] at hf
    cases hf
  | ended hbefore _ _ hsamples =>
    obtain ⟨n, hn, hmatches⟩ := h hbefore
    rw [hsamples f hf, hn]
    exact hmatches

theorem keeps_fail (h : s.playback.active = true → ∃ n, Tallied s n) (queued : Bool) :
    Keeps (s.failActivePlayback queued) := by
  refine told_fail queued fun ha => ?_
  obtain ⟨n, hslices, hplayed⟩ := h ha
  refine ⟨_, hplayed, ?_⟩
  rw [hslices]
  exact .written n

/-- A part of the loop that ends with the failure of the playback. -/
theorem Keeps.after (h : Keeps (s, later)) (hreports : Told reports) : Keeps (s, reports ++ later) :=
  ⟨h.1, hreports.append h.2⟩

theorem framed_observe (h : Framed s) (degraded : Bool) : Framed (s.observePlayoutQuality degraded) := by
  rw [observePlayoutQuality]
  split_ifs
  · exact framed_call h (call_counted s.playback .markDegraded (fun _ => Call.noConfusion) fun _ _ _ => Call.noConfusion)
      (coherent_call h.coherent .markDegraded) rfl
  · exact h

/-- A `Begin` that is accepted starts from nothing, above the fence. -/
theorem begin_cases (p : PlaybackState.State) (target : ResponseTarget) :
    PlaybackState.begin p target = (p, { ok := false }) ∨
      p.active = false ∧ p.fenceGeneration < target.generation ∧
      PlaybackState.begin p target =
        ({ fenceGeneration := p.fenceGeneration, target := target, active := true }, { ok := true }) := by
  have heffect := begin_effect p target
  generalize PlaybackState.begin p target = result at heffect ⊢
  obtain ⟨q, r⟩ := result
  dsimp only at heffect
  cases heffect with
  | refused => exact .inl rfl
  | begun hinactive _ hfence hq =>
    subst hq
    exact .inr ⟨hinactive, hfence, rfl⟩
  | ended _ hends => cases hends

/-- A command other than `Begin` makes one call, and publishes its fact or nothing. -/
structure Called (s s' : PlaybackTask) (reports : List Report) : Prop where
  counted : ∃ fact, Counted s.playback s'.playback fact
  writes : s'.writes = s.writes
  coherent : Coherent s.playback → Coherent s'.playback
  fence : Coherent s.playback → s.playback.fenceGeneration ≤ s'.playback.fenceGeneration
  told : (s.playback.active = true → ∃ n, Tallied s n) → Told reports

theorem called (c : Call) (hbegin : ∀ target, c ≠ .begin target) (hrecord : ∀ n samples out, c ≠ .recordWritten n samples out)
    (hplayback : t.playback = (PlaybackState.call s.playback c).1) (hwrites : t.writes = s.writes)
    (hreports : reports = [] ∨
      ∃ queued, reports = (t.publishPlaybackFact (PlaybackState.call s.playback c).2.fact queued).2) :
    Called s t reports := by
  have hc := call_counted s.playback c hbegin hrecord
  rw [← hplayback] at hc
  refine ⟨⟨_, hc⟩, hwrites, ?_, ?_, ?_⟩
  · intro hco
    rw [hplayback]
    exact coherent_call hco c
  · intro hco
    rw [hplayback]
    exact effect_fence hco (call_effect s.playback c)
  · intro h
    obtain rfl | ⟨queued, rfl⟩ := hreports
    · exact told_nil
    · exact told_call hc hwrites h queued

theorem command_called (s : PlaybackTask) (command : PlaybackCommand)
    (hbegin : ∀ target advanced, command ≠ .begin target advanced) :
    Called s (s.processPlaybackCommand command).1 (s.processPlaybackCommand command).2.2 := by
  cases command with
  | begin target advanced => exact absurd rfl (hbegin target advanced)
  | complete target value nowUs queued =>
    rw [processPlaybackCommand]
    dsimp only
    split_ifs
    · exact called (.setFinalMediaSequence target value nowUs true) (by simp) (by simp) rfl rfl (.inl rfl)
    · exact called (.setFinalMediaSequence target value nowUs true) (by simp) (by simp) rfl rfl (.inr ⟨queued, rfl⟩)
  | stop target value fenced queued =>
    rw [processPlaybackCommand]
    dsimp only
    split_ifs
    · exact called (.stop target value true) (by simp) (by simp) rfl rfl (.inl rfl)
    · exact called (.stop target value true) (by simp) (by simp) rfl rfl (.inr ⟨queued, rfl⟩)

/-- What a command tells, and what it keeps of a task between frames. -/
theorem command_framed (h : Framed s) (command : PlaybackCommand) :
    Framed (s.processPlaybackCommand command).1 ∧
      s.playback.fenceGeneration ≤ (s.processPlaybackCommand command).1.playback.fenceGeneration ∧
      Told (s.processPlaybackCommand command).2.2 := by
  by_cases hbegin : ∀ target advanced, command ≠ .begin target advanced
  · have hcalled := command_called s command hbegin
    obtain ⟨fact, hcounted⟩ := hcalled.counted
    exact ⟨framed_call h hcounted (hcalled.coherent h.coherent) hcalled.writes, hcalled.fence h.coherent,
      hcalled.told h.tallied⟩
  · simp only [not_forall, not_not] at hbegin
    obtain ⟨target, advanced, rfl⟩ := hbegin
    rw [processPlaybackCommand]
    obtain hrefused | ⟨-, hfence, hbegun⟩ := begin_cases s.playback target
    · rw [hrefused]
      exact ⟨h, le_rfl, told_nil⟩
    · rw [hbegun]
      have hfresh : Framed { s with
          playback := { fenceGeneration := s.playback.fenceGeneration, target := target, active := true }
          writes := [] } := by
        refine ⟨?_, fun _ => ⟨0, rfl, rfl⟩⟩
        constructor <;> simp [hfence]
      dsimp only
      rw [if_neg (by simp)]
      split_ifs
      · exact ⟨hfresh, le_rfl, told_nil⟩
      · exact ⟨⟨hfresh.coherent, hfresh.frames⟩, le_rfl, told_nil⟩

/-- In the write loop a command cannot bring back the generation of the frame. -/
theorem command_partway (h : Partway s generation sequence slices) (command : PlaybackCommand) :
    Partway (s.processPlaybackCommand command).1 generation sequence slices ∧
      Told (s.processPlaybackCommand command).2.2 := by
  obtain hcurrent | ⟨hstale, hframed⟩ := h
  · by_cases hbegin : ∀ target advanced, command ≠ .begin target advanced
    · have hcalled := command_called s command hbegin
      obtain ⟨fact, hcounted⟩ := hcalled.counted
      exact ⟨current_call hcurrent hcounted (hcalled.coherent hcurrent.coherent) hcalled.writes,
        hcalled.told hcurrent.tally⟩
    · simp only [not_forall, not_not] at hbegin
      obtain ⟨target, advanced, rfl⟩ := hbegin
      obtain hrefused | ⟨hinactive, -⟩ := begin_cases s.playback target
      · rw [processPlaybackCommand, hrefused]
        exact ⟨.inl hcurrent, told_nil⟩
      · rw [hcurrent.active] at hinactive
        cases hinactive
  · obtain ⟨hafter, hfence, htold⟩ := command_framed hframed command
    exact ⟨.inr ⟨hstale.trans hfence, hafter⟩, htold⟩

/-- What every command keeps, all of them keep. -/
theorem commands_keep {P : PlaybackTask → Prop} (hstep : ∀ s command, P s →
      P (processPlaybackCommand s command).1 ∧ Told (processPlaybackCommand s command).2.2)
    (commands : List PlaybackCommand) (h : P s) :
    P (processPlaybackCommands commands s).1 ∧ Told (processPlaybackCommands commands s).2.2 := by
  induction commands generalizing s with
  | nil => exact ⟨h, told_nil⟩
  | cons command rest ih =>
    obtain ⟨hkept, htold⟩ := hstep s command h
    rw [processPlaybackCommands]
    generalize s.processPlaybackCommand command = result at hkept htold ⊢
    obtain ⟨t, ok, reports⟩ := result
    cases ok with
    | false => exact ⟨hkept, htold⟩
    | true =>
      obtain ⟨hlast, hlater⟩ := ih hkept
      exact ⟨hlast, htold.append hlater⟩

theorem commands_framed (h : Framed s) (commands : List PlaybackCommand) :
    Framed (processPlaybackCommands commands s).1 ∧ Told (processPlaybackCommands commands s).2.2 := by
  refine commands_keep (P := Framed) (fun s command hs => ?_) commands h
  obtain ⟨hkept, -, htold⟩ := command_framed hs command
  exact ⟨hkept, htold⟩

theorem commands_partway (h : Partway s generation sequence slices) (commands : List PlaybackCommand) :
    Partway (processPlaybackCommands commands s).1 generation sequence slices ∧
      Told (processPlaybackCommands commands s).2.2 :=
  commands_keep (P := fun s => Partway s generation sequence slices) (fun _ command hs => command_partway hs command)
    commands h

theorem Partway.tally (h : Partway s generation sequence slices) :
    s.playback.active = true → ∃ n, Tallied s n := by
  obtain hcurrent | ⟨-, hframed⟩ := h
  · exact hcurrent.tally
  · exact hframed.tallied

/-- The gate before a write is open exactly for the playback of the frame. -/
theorem Partway.canPlay (h : Partway s generation sequence slices) :
    if canPlay s.playback generation = true then Current s generation sequence slices else Framed s := by
  obtain hcurrent | ⟨hstale, hframed⟩ := h
  · have hopen : PlaybackState.canPlay s.playback generation = true := by
      have hfenced := hcurrent.coherent.fenced hcurrent.active
      rw [hcurrent.generation] at hfenced
      simp [PlaybackState.canPlay, hcurrent.active, hcurrent.generation, hfenced]
    rwa [if_pos hopen]
  · have hclosed : ¬PlaybackState.canPlay s.playback generation = true := by
      simp [PlaybackState.canPlay, hstale]
    rwa [if_neg hclosed]

/-- A slice of a frame is counted, unless it is the first one or the count is full. -/
theorem record_cases (h : Current s generation sequence slices) :
    ((recordWritten s.playback sequence 240 true).2.ok = true ∧
        (recordWritten s.playback sequence 240 true).1 = { s.playback with
          playedSamples := s.playback.playedSamples + 240, lastSampleSequence := some sequence, started := true } ∧
        ∀ f, (recordWritten s.playback sequence 240 true).2.fact = some f → f.type ≠ .ended) ∨
      recordWritten s.playback sequence 240 true = (s.playback, { ok := false }) ∧
        (slices = 0 ∨ uint64Max < 240 + s.playback.playedSamples) := by
  rw [recordWritten]
  split_ifs with hrefused
  · refine .inr ⟨rfl, ?_⟩
    by_contra hnot
    obtain ⟨hslices, hroom⟩ := not_or.mp hnot
    have hlast := h.last (Nat.pos_of_ne_zero hslices)
    have hfinal : ∀ n, s.playback.finalMediaSequence = some n → sequence ≤ n :=
      fun n hn => h.coherent.bounded n hn sequence hlast
    have hroom : ¬240 > uint64Max - s.playback.playedSamples := by omega
    cases hsequence : s.playback.finalMediaSequence with
    | none => simp [h.active, hlast, hsequence, hroom] at hrefused
    | some n =>
      have hle := Nat.not_lt.mpr (hfinal n hsequence)
      simp [h.active, hlast, hsequence, hroom, hle] at hrefused
  · exact .inl ⟨rfl, rfl, by simp⟩
  · refine .inl ⟨rfl, rfl, ?_⟩
    rintro f ⟨⟩ hended
    cases hended

theorem Tallied.append {n : Nat} (h : Tallied s n) : s.writes ++ [whole] = List.replicate (n + 1) whole := by
  rw [h.1, List.replicate_succ']

/-- One pass of the write loop, `slices` of the six slices of the frame being written. -/
theorem slice_keeps (h : Partway s generation sequence slices) (hslices : slices < 6) (r : SliceReads) :
    Told (s.writeSlice generation sequence (240 * slices) r).2.2.2 ∧
      ((s.writeSlice generation sequence (240 * slices) r).2.2.1 = true →
        (s.writeSlice generation sequence (240 * slices) r).2.1 = 240 * (slices + 1) ∧
        Partway (s.writeSlice generation sequence (240 * slices) r).1 generation sequence (slices + 1)) ∧
      ((s.writeSlice generation sequence (240 * slices) r).2.2.1 = false →
        (s.writeSlice generation sequence (240 * slices) r).1.running = true →
        (s.writeSlice generation sequence (240 * slices) r).2.1 < 1440 ∧
        Framed (s.writeSlice generation sequence (240 * slices) r).1) := by
  have hcount : min interruptibleSamples (nominalResampledSamplesPerFrame - 240 * slices) = 240 := by
    simp only [interruptibleSamples, nominalResampledSamplesPerFrame]
    omega
  obtain ⟨hpartway, htold⟩ := commands_partway h r.commands
  rw [writeSlice]
  generalize processPlaybackCommands r.commands s = result at hpartway htold ⊢
  obtain ⟨t, ok, reports⟩ := result
  dsimp only at hpartway htold ⊢
  rw [hcount]
  by_cases hok : ok = false
  · rw [if_pos hok]
    have hfail := keeps_fail hpartway.tally r.failQueued
    exact ⟨htold.append hfail.2, by simp, fun _ hrunning => by cases hrunning⟩
  rw [if_neg hok]
  have hgate := hpartway.canPlay
  by_cases hplay : canPlay t.playback generation = false
  · rw [if_pos hplay]
    rw [hplay, if_neg (by decide)] at hgate
    exact ⟨htold, by simp, fun _ _ => ⟨by dsimp only; omega, hgate⟩⟩
  rw [if_neg hplay]
  rw [if_pos (by simpa using hplay)] at hgate
  obtain ⟨m, htallied⟩ := hgate.tallied
  cases hfailed : r.failed with
  | some part =>
    have hfail : Keeps (failActivePlayback { t with writes := t.writes ++ [{ count := 240, failed := some part }] }
        r.failQueued) := by
      refine told_fail r.failQueued fun _ => ⟨_, htallied.2, ?_⟩
      rw [htallied.1]
      exact .failed _ part
    exact ⟨htold.append hfail.2, by simp, fun _ hrunning => by cases hrunning⟩
  | none =>
    obtain ⟨hrecorded, hplayback, hstarted⟩ | ⟨hrefused, hwhy⟩ := record_cases hgate
    · -- counted: the frame has one slice more
      have hnext : Current { t with
          writes := t.writes ++ [whole], playback := (recordWritten t.playback sequence 240 true).1 } generation sequence
          (slices + 1) := by
        refine ⟨effect_coherent hgate.coherent (recordWritten_effect _ _ _ _), ?_, ?_, ⟨m, htallied.append, ?_⟩, ?_⟩
        · rw [hplayback]
          exact hgate.active
        · rw [hplayback]
          exact hgate.generation
        · rw [hplayback]
          change t.playback.playedSamples + 240 = _
          rw [htallied.2]
          ring
        · intro _
          rw [hplayback]
      have hnone : Told (publishPlaybackFact { t with
          writes := t.writes ++ [whole], playback := (recordWritten t.playback sequence 240 true).1 }
          (recordWritten t.playback sequence 240 true).2.fact r.queued).2 :=
        told_publish _ _ fun f hf hended => absurd hended (hstarted f hf)
      have hfail := keeps_fail hnext.tally r.failQueued
      dsimp only
      split_ifs
      · exact ⟨(htold.append hnone).append hfail.2, by simp, fun _ hrunning => by cases hrunning⟩
      · exact ⟨htold.append hnone, fun _ => ⟨rfl, .inl hnext⟩, by simp⟩
    · -- refused: the slice got through uncounted
      rw [hrefused]
      have hfail : Keeps (failActivePlayback { t with writes := t.writes ++ [whole] } r.failQueued) := by
        refine told_fail r.failQueued fun _ => ⟨_, htallied.2, ?_⟩
        rw [htallied.append]
        refine .refused _ (hwhy.imp (fun hzero => ?_) fun hfull => ?_)
        · omega
        · rwa [htallied.2] at hfull
      dsimp only
      rw [if_pos (.inl rfl)]
      exact ⟨(htold.append told_nil).append hfail.2, by simp, fun _ hrunning => by cases hrunning⟩

/-- The write loop over the slices of a frame. -/
theorem slices_keep (slice : Nat → SliceReads) (fuel : Nat) (h : Partway s generation sequence slices)
    (hslices : slices ≤ 6) (hfuel : 6 - slices ≤ fuel) :
    Told (writeSlices generation sequence slice fuel (240 * slices) s).2.2 ∧
      ((writeSlices generation sequence slice fuel (240 * slices) s).1.running = true →
        (writeSlices generation sequence slice fuel (240 * slices) s).2.1 = 1440 ∧
          Partway (writeSlices generation sequence slice fuel (240 * slices) s).1 generation sequence 6 ∨
        (writeSlices generation sequence slice fuel (240 * slices) s).2.1 < 1440 ∧
          Framed (writeSlices generation sequence slice fuel (240 * slices) s).1) := by
  induction fuel generalizing s slices with
  | zero =>
    obtain rfl : slices = 6 := by omega
    exact ⟨told_nil, fun _ => .inl ⟨rfl, h⟩⟩
  | succ fuel ih =>
    rw [writeSlices]
    by_cases hgo : 240 * slices < nominalResampledSamplesPerFrame ∧ s.running = true
    · rw [if_pos hgo]
      have hlt : slices < 6 := by
        have := hgo.1
        simp only [nominalResampledSamplesPerFrame] at this
        omega
      obtain ⟨htold, hnext, hend⟩ := slice_keeps h hlt (slice (240 * slices))
      generalize s.writeSlice generation sequence (240 * slices) (slice (240 * slices)) = result at htold hnext hend ⊢
      obtain ⟨t, offset, ok, reports⟩ := result
      cases ok with
      | false => exact ⟨htold, fun hrunning => .inr (hend rfl hrunning)⟩
      | true =>
        obtain ⟨rfl, hpartway⟩ := hnext rfl
        obtain ⟨hlater, hdone⟩ := ih hpartway (by omega) (by omega)
        exact ⟨htold.append hlater, hdone⟩
    · rw [if_neg hgo]
      refine ⟨told_nil, fun hrunning => .inl ?_⟩
      have hdone : ¬240 * slices < nominalResampledSamplesPerFrame := fun hlt => hgo ⟨hlt, hrunning⟩
      simp only [nominalResampledSamplesPerFrame] at hdone
      obtain rfl : slices = 6 := by omega
      exact ⟨rfl, h⟩

/-- After the last slice the playback has one frame more. -/
theorem Partway.framed (h : Partway s generation sequence 6) : Framed s := by
  obtain hcurrent | ⟨-, hframed⟩ := h
  · obtain ⟨m, hslices, hplayed⟩ := hcurrent.tallied
    exact ⟨hcurrent.coherent, fun _ => ⟨m + 1, hslices, hplayed⟩⟩
  · exact hframed

theorem keeps_playFrame (h : Current s generation sequence 0) (r : Reads) : Keeps (s.playFrame generation sequence r) := by
  rw [playFrame]
  by_cases hbad : r.decoded ≠ some decodedSamplesPerFrame ∨ r.resampled ≠ some nominalResampledSamplesPerFrame
  · rw [if_pos hbad]
    exact keeps_fail h.tally r.failQueued
  rw [if_neg hbad]
  obtain ⟨htold, hdone⟩ := slices_keep r.slice nominalResampledSamplesPerFrame (.inl h) (by omega) (by decide)
  rw [Nat.mul_zero] at htold hdone
  generalize writeSlices generation sequence r.slice nominalResampledSamplesPerFrame 0 s = result at htold hdone ⊢
  obtain ⟨t, offset, reports⟩ := result
  dsimp only at htold hdone ⊢
  have hframed : t.running = true → Framed t := by
    intro hrunning
    obtain ⟨-, hpartway⟩ | ⟨-, hframed⟩ := hdone hrunning
    · exact hpartway.framed
    · exact hframed
  by_cases hfinished : t.running = true ∧ offset = nominalResampledSamplesPerFrame ∧
      canPlay t.playback generation = true
  · rw [if_pos hfinished]
    have ht := hframed hfinished.1
    have hcounted := call_counted t.playback (.finishFrame sequence true) (by simp) (by simp)
    have hcoherent := coherent_call ht.coherent (.finishFrame sequence true)
    have hafter : Framed { t with playback := (finishFrame t.playback sequence true).1 } :=
      framed_call ht hcounted hcoherent rfl
    have hended : Told (publishPlaybackFact { t with playback := (finishFrame t.playback sequence true).1 }
        (finishFrame t.playback sequence true).2.fact r.queued).2 :=
      told_call (t := { t with playback := (finishFrame t.playback sequence true).1 }) hcounted rfl ht.tallied r.queued
    split_ifs
    · exact (keeps_fail hafter.tallied r.failQueued).after (htold.append hended)
    · exact ⟨fun _ => hafter, htold.append hended⟩
  · rw [if_neg hfinished]
    exact ⟨hframed, htold⟩

theorem keeps_withFrame (h : Framed s) (generation sequence : Nat) (r : Reads) :
    Keeps (s.withFrame generation sequence r) := by
  obtain ⟨hframed, htold⟩ := commands_framed h r.frameCommands
  rw [withFrame]
  generalize processPlaybackCommands r.frameCommands s = result at hframed htold ⊢
  obtain ⟨t, ok, reports⟩ := result
  have hobserved := framed_observe hframed r.frameDegraded
  dsimp only at htold ⊢
  split_ifs with hok hplay
  · exact (keeps_fail hframed.tallied r.failQueued).after htold
  · exact ⟨fun _ => hobserved, htold⟩
  · simp only [PlaybackState.canPlay, Bool.not_eq_false, Bool.and_eq_true, beq_iff_eq] at hplay
    obtain ⟨⟨hactive, hgeneration⟩, -⟩ := hplay
    obtain ⟨m, htallied⟩ := hobserved.frames hactive
    exact (keeps_playFrame ⟨hobserved.coherent, hactive, hgeneration.symm, ⟨m, htallied⟩, by simp⟩ r).after htold

theorem keeps_withoutMedia (h : Framed s) (nowUs : Int) (r : Reads) : Keeps (s.withoutMedia nowUs r) := by
  rw [withoutMedia]
  have hrequested : Framed { s with playback := (requestFinalPlc s.playback nowUs true).1 } :=
    framed_call h (call_counted s.playback (.requestFinalPlc nowUs true) (by simp) (by simp))
      (coherent_call h.coherent (.requestFinalPlc nowUs true)) rfl
  dsimp only
  cases (requestFinalPlc s.playback nowUs true).2.mediaSequence with
  | some sequence => exact keeps_withFrame hrequested s.playbackGeneration sequence r
  | none =>
    have hcounted := call_counted s.playback (.expireDrain nowUs true) (by simp) (by simp)
    have hcoherent := coherent_call h.coherent (.expireDrain nowUs true)
    have htold : Told (publishPlaybackFact { s with playback := (expireDrain s.playback nowUs true).1 }
        (expireDrain s.playback nowUs true).2.fact r.queued).2 :=
      told_call (t := { s with playback := (expireDrain s.playback nowUs true).1 }) hcounted rfl h.tallied r.queued
    exact ⟨fun _ => framed_call h hcounted hcoherent rfl, htold⟩

theorem keeps_round (h : s.running = true → Framed s) (r : Reads) : Keeps (s.runPlayback r) := by
  rw [runPlayback]
  by_cases hrunning : s.running = false
  · rw [if_pos hrunning]
    exact ⟨h, told_nil⟩
  rw [if_neg hrunning]
  have hs := h (by simpa using hrunning)
  obtain ⟨hframed, htold⟩ := commands_framed (framed_observe hs r.degraded) r.commands
  generalize processPlaybackCommands r.commands (s.observePlayoutQuality r.degraded) = result at hframed htold ⊢
  obtain ⟨t, ok, reports⟩ := result
  dsimp only at hframed htold ⊢
  split_ifs
  · exact (keeps_fail hframed.tallied r.failQueued).after htold
  · cases r.media with
    | frame generation sequence => exact (keeps_withFrame hframed generation sequence r).after htold
    | none nowUs => exact (keeps_withoutMedia hframed nowUs r).after htold

/-- In every run of the loop, a terminal fact has the count of the whole slices before the last
one, and of the last one too unless it failed or was refused. -/
theorem reports_told {es : List (Reads × List Report)} (hrun : Run (Answers runPlayback) {} es s) :
    ∀ e ∈ es, Told e.2 := by
  have hall : (s.running = true → Framed s) ∧ ∀ e ∈ es, Told e.2 := by
    refine hrun.invariant (R := fun es s => (s.running = true → Framed s) ∧ ∀ e ∈ es, Told e.2)
      ⟨fun _ => ⟨coherent_init, by simp⟩, by simp⟩ ?_
    rintro es t e u - ⟨hframed, htold⟩ hstep
    have hround := keeps_round hframed e.1
    rw [show t.runPlayback e.1 = (u, e.2) from hstep] at hround
    refine ⟨hround.1, ?_⟩
    intro e' he'
    obtain hmem | hmem := List.mem_append.mp he'
    · exact htold e' hmem
    · rw [List.mem_singleton.mp hmem]
      exact hround.2
  exact hall.2

end

end PlaybackTask

end RealtimeVoice.Firmware.VoiceRuntime
