import RealtimeVoice.Firmware.PlaybackState

namespace RealtimeVoice.Firmware.PlaybackState

open RealtimeVoice.Base.Runs

theorem targetMatches_iff (s : State) (t : ResponseTarget) : targetMatches s t = true ↔ s.target = t := by
  rw [targetMatches, Bool.and_eq_true_iff, beq_iff_eq, beq_iff_eq, ResponseTarget.ext_iff,
    eq_comm, @eq_comm _ t.generation]

/-- How a call ends the playback: the state in which `End` runs, and the outcome. -/
inductive Ends (s : State) : Call → State → PlaybackEndedOutcome → Prop
  | finalSet {t : ResponseTarget} {n : Nat} {now : Int} {s' : State} :
      s.target = t → s.finalMediaSequence = none → (∀ l, s.lastSampleSequence = some l → l ≤ n) →
      s.lastCompletedSequence = some n →
      s' = { s with finalMediaSequence := some n, drainDeadline := s'.drainDeadline } →
      Ends s (.setFinalMediaSequence t n now true) s' (if s.degraded then .failed else .completed)
  | framePlayed {n : Nat} :
      s.started = true → s.lastSampleSequence = some n → s.finalMediaSequence = some n →
      Ends s (.finishFrame n true) { s with lastCompletedSequence := some n }
        (if s.degraded then .failed else .completed)
  | stopped {t : ResponseTarget} {fence : Nat} :
      s.target = t → s.target.generation < fence → s.fenceGeneration < fence →
      Ends s (.stop t fence true)
        { s with lastStopFenceGeneration := fence, stopRecorded := true, fenceGeneration := fence } .stopped
  | failed : Ends s (.fail true) s .failed
  | expired {now : Int} : Ends s (.expireDrain now true) s .failed

/-- Everything a call can do to the state and reply. -/
inductive Effect (s : State) : Call → State → Reply → Prop
  | refused (c : Call) : (s.active = true → c ≠ .markDegraded) → Effect s c s { ok := false }
  | begun {t : ResponseTarget} {s' : State} :
      s.active = false → t.responseId ≠ "" → s.fenceGeneration < t.generation →
      s' = { fenceGeneration := s.fenceGeneration, target := t, active := true } →
      Effect s (.begin t) s' { ok := true }
  | stopRepeated {t : ResponseTarget} :
      s.stopRecorded = true → s.target = t →
      Effect s (.stop t s.lastStopFenceGeneration true) s { ok := true }
  | finalKnown {t : ResponseTarget} {n : Nat} {now deadline : Int} :
      s.active = true → s.target = t → s.finalMediaSequence = none →
      (∀ l, s.lastSampleSequence = some l → l ≤ n) → s.lastCompletedSequence ≠ some n →
      Effect s (.setFinalMediaSequence t n now true)
        { s with finalMediaSequence := some n, drainDeadline := deadline } { ok := true }
  | degraded : s.active = true → Effect s .markDegraded { s with degraded := true } { ok := true }
  | plcRequested {now : Int} :
      s.active = true →
      Effect s (.requestFinalPlc now true) { s with finalPlcRequested := true }
        { ok := true, mediaSequence := s.finalMediaSequence }
  | started {n samples : Nat} :
      s.active = true → s.started = false → 0 < samples → (∀ f, s.finalMediaSequence = some f → n ≤ f) →
      (∀ l, s.lastSampleSequence = some l → l ≤ n) →
      Effect s (.recordWritten n samples true)
        { s with playedSamples := s.playedSamples + samples, lastSampleSequence := some n, started := true }
        { ok := true
          fact := some { type := .started, target := s.target, firstMediaSequence := n
                         playedSamples := s.playedSamples + samples } }
  | written {n samples : Nat} :
      s.active = true → s.started = true → 0 < samples → (∀ f, s.finalMediaSequence = some f → n ≤ f) →
      (∀ l, s.lastSampleSequence = some l → l ≤ n) →
      Effect s (.recordWritten n samples true)
        { s with playedSamples := s.playedSamples + samples, lastSampleSequence := some n, started := true }
        { ok := true }
  | frameFinished {n : Nat} :
      s.active = true → s.started = true → s.lastSampleSequence = some n → s.finalMediaSequence ≠ some n →
      Effect s (.finishFrame n true) { s with lastCompletedSequence := some n } { ok := true }
  | ended {c : Call} {s' : State} {outcome : PlaybackEndedOutcome} :
      s.active = true → Ends s c s' outcome →
      Effect s c («end» s' outcome).1 { ok := true, fact := some («end» s' outcome).2 }

theorem begin_effect (s : State) (t : ResponseTarget) :
    Effect s (.begin t) (begin s t).1 (begin s t).2 := by
  unfold begin
  split
  · exact .refused _ (by simp)
  · rename_i h
    simp only [Bool.or_eq_true, not_or, beq_iff_eq, decide_eq_true_eq, Nat.not_le,
      Bool.not_eq_true] at h
    exact .begun h.1.1.1 h.1.1.2 h.2 rfl

theorem stop_effect (s : State) (t : ResponseTarget) (fence : Nat) (out : Bool) :
    Effect s (.stop t fence out) (stop s t fence out).1 (stop s t fence out).2 := by
  unfold stop
  split
  · exact .refused _ (by simp)
  rename_i hout
  obtain rfl : out = true := by simpa using hout
  split
  · rename_i h
    obtain ⟨hr, ht⟩ := Bool.and_eq_true_iff.mp h
    by_cases hf : fence = s.lastStopFenceGeneration
    · subst hf
      simpa using Effect.stopRepeated hr ((targetMatches_iff s t).mp ht)
    · rw [beq_eq_false_iff_ne.mpr hf]
      exact .refused _ (by simp)
  split
  · exact .refused _ (by simp)
  · rename_i h
    simp only [Bool.or_eq_true, not_or, Bool.not_eq_true', decide_eq_true_eq, Nat.not_le,
      Bool.not_eq_false, targetMatches_iff] at h
    exact .ended h.1.1.1 (.stopped h.1.1.2 h.1.2 h.2)

theorem setFinal_effect (s : State) (t : ResponseTarget) (n : Nat) (now : Int) (out : Bool) :
    Effect s (.setFinalMediaSequence t n now out) (setFinalMediaSequence s t n now out).1
      (setFinalMediaSequence s t n now out).2 := by
  unfold setFinalMediaSequence
  split
  · exact .refused _ (by simp)
  rename_i h
  simp only [Bool.or_eq_true, not_or, Bool.not_eq_true', Bool.not_eq_false, targetMatches_iff,
    Bool.not_eq_true, Option.isSome_eq_false_iff, Option.isNone_iff_eq_none] at h
  obtain ⟨⟨⟨⟨⟨⟨rfl, -⟩, ha⟩, ht⟩, hf⟩, hl⟩, -⟩ := h
  have hle : ∀ l, s.lastSampleSequence = some l → l ≤ n := by
    intro l hl'
    rw [hl'] at hl
    simpa using hl
  dsimp only
  split
  · rename_i hc
    exact .ended ha (.finalSet ht hf hle hc rfl)
  · rename_i hc
    exact .finalKnown ha ht hf hle hc

theorem expireDrain_effect (s : State) (now : Int) (out : Bool) :
    Effect s (.expireDrain now out) (expireDrain s now out).1 (expireDrain s now out).2 := by
  unfold expireDrain
  split
  · exact .refused _ (by simp)
  rename_i h
  simp only [Bool.or_eq_true, not_or, Bool.not_eq_true', Bool.not_eq_false] at h
  obtain ⟨⟨⟨⟨rfl, ha⟩, -⟩, -⟩, -⟩ := h
  split
  · exact .refused _ (by simp)
  · exact .ended ha .expired

theorem recordWritten_effect (s : State) (n samples : Nat) (out : Bool) :
    Effect s (.recordWritten n samples out) (recordWritten s n samples out).1
      (recordWritten s n samples out).2 := by
  unfold recordWritten
  split
  · exact .refused _ (by simp)
  rename_i h
  simp only [Bool.or_eq_true, not_or, Bool.not_eq_true', Bool.not_eq_false, beq_iff_eq,
    Bool.not_eq_true] at h
  obtain ⟨⟨⟨⟨⟨rfl, ha⟩, hn⟩, -⟩, hf⟩, hl⟩ := h
  have hfle : ∀ f, s.finalMediaSequence = some f → n ≤ f := by
    intro f hf'
    rw [hf'] at hf
    simpa using hf
  have hlle : ∀ l, s.lastSampleSequence = some l → l ≤ n := by
    intro l hl'
    rw [hl'] at hl
    simpa using hl
  have hpos : 0 < samples := Nat.pos_of_ne_zero hn
  dsimp only
  split
  · rename_i hs
    exact .written ha hs hpos hfle hlle
  · rename_i hs
    exact .started ha (by simpa using hs) hpos hfle hlle

theorem finishFrame_effect (s : State) (n : Nat) (out : Bool) :
    Effect s (.finishFrame n out) (finishFrame s n out).1 (finishFrame s n out).2 := by
  unfold finishFrame
  split
  · exact .refused _ (by simp)
  rename_i h
  simp only [Bool.or_eq_true, not_or, Bool.not_eq_true', Bool.not_eq_false, bne_iff_ne, ne_eq,
    not_not] at h
  obtain ⟨⟨⟨⟨⟨rfl, ha⟩, hs⟩, hl⟩, -⟩, -⟩ := h
  dsimp only
  split
  · rename_i hf
    exact .ended ha (.framePlayed hs hl hf)
  · rename_i hf
    exact .frameFinished ha hs hl hf

/-- The inversion of one call: every later result about a step starts here. -/
theorem call_effect (s : State) (c : Call) : Effect s c (call s c).1 (call s c).2 := by
  cases c with
  | begin t => exact begin_effect s t
  | setFinalMediaSequence t n now out => exact setFinal_effect s t n now out
  | stop t fence out => exact stop_effect s t fence out
  | fail out =>
    simp only [call, fail]
    split
    · exact .refused _ (by simp)
    · rename_i h
      simp only [Bool.or_eq_true, not_or, Bool.not_eq_true', Bool.not_eq_false] at h
      obtain ⟨rfl, ha⟩ := h
      exact .ended ha .failed
  | markDegraded =>
    simp only [call, markDegraded]
    split
    · rename_i h
      exact .refused _ (fun ha => by simp [ha] at h)
    · rename_i h
      exact .degraded (by simpa using h)
  | requestFinalPlc now out =>
    simp only [call, requestFinalPlc]
    split
    · exact .refused _ (by simp)
    · rename_i h
      simp only [Bool.or_eq_true, not_or, Bool.not_eq_true', Bool.not_eq_false] at h
      obtain ⟨⟨⟨⟨⟨⟨⟨rfl, ha⟩, -⟩, -⟩, -⟩, -⟩, -⟩, -⟩ := h
      exact .plcRequested ha
  | expireDrain now out => exact expireDrain_effect s now out
  | recordWritten n samples out => exact recordWritten_effect s n samples out
  | finishFrame n out => exact finishFrame_effect s n out

theorem step_effect {s t : State} {e : Event} (h : Step s e t) : Effect s e.1 t e.2 := by
  have he := call_effect s e.1
  rw [h] at he
  exact he

/-- A call that opened a playback. -/
def Begun (e : Event) : Prop := (∃ t, e.1 = .begin t) ∧ e.2.ok = true

def facts (es : List Event) : List PlaybackFact := es.filterMap (·.2.fact)

def factTypes (es : List Event) : List PlaybackFactType := (facts es).map (·.type)

def writtenSamples : Event → Nat
  | (.recordWritten _ samples _, r) => if r.ok then samples else 0
  | _ => 0

/-- The samples that `RecordWritten` accepted. -/
def written (es : List Event) : Nat := (es.map writtenSamples).sum

def finalSequence : Event → Option Nat
  | (.setFinalMediaSequence _ n _ _, r) => if r.ok then some n else none
  | _ => none

/-- The final sequences that `SetFinalMediaSequence` accepted. -/
def finals (es : List Event) : List Nat := es.filterMap finalSequence

def Degraded (es : List Event) : Prop := Call.markDegraded ∈ es.map (·.1)

@[simp] theorem facts_append (es fs : List Event) : facts (es ++ fs) = facts es ++ facts fs := by
  simp [facts]

@[simp] theorem factTypes_append (es fs : List Event) :
    factTypes (es ++ fs) = factTypes es ++ factTypes fs := by simp [factTypes]

@[simp] theorem written_append (es fs : List Event) : written (es ++ fs) = written es + written fs := by
  simp [written]

@[simp] theorem finals_append (es fs : List Event) : finals (es ++ fs) = finals es ++ finals fs := by
  simp [finals]

@[simp] theorem facts_single (e : Event) : facts [e] = e.2.fact.toList := by
  cases h : e.2.fact <;> simp [facts, h]

@[simp] theorem factTypes_single (e : Event) : factTypes [e] = e.2.fact.toList.map (·.type) := by
  simp [factTypes]

@[simp] theorem written_single (e : Event) : written [e] = writtenSamples e := by simp [written]

@[simp] theorem finals_single (e : Event) : finals [e] = (finalSequence e).toList := by
  cases h : finalSequence e <;> simp [finals, h]

@[simp] theorem degraded_append (es fs : List Event) :
    Degraded (es ++ fs) ↔ Degraded es ∨ Degraded fs := by simp [Degraded]

/-- What holds between the fields of every reachable state. -/
structure Coherent (s : State) : Prop where
  fenced : s.active = true → s.fenceGeneration < s.target.generation
  sampled : s.started = true ↔ ∃ l, s.lastSampleSequence = some l
  counted : s.started = true ↔ 0 < s.playedSamples
  completed : ∀ n, s.lastCompletedSequence = some n → ∃ l, s.lastSampleSequence = some l ∧ n ≤ l
  bounded : ∀ n, s.finalMediaSequence = some n → ∀ l, s.lastSampleSequence = some l → l ≤ n

theorem coherent_init : Coherent {} := by constructor <;> simp

theorem coherent_end {s : State} {outcome : PlaybackEndedOutcome} : Coherent («end» s outcome).1 := by
  constructor <;> simp [«end»]

theorem effect_coherent {s t : State} {c : Call} {r : Reply} (hs : Coherent s)
    (h : Effect s c t r) : Coherent t := by
  obtain ⟨hf, hsa, hco, hcm, hb⟩ := hs
  cases h with
  | refused | stopRepeated => exact ⟨hf, hsa, hco, hcm, hb⟩
  | begun _ _ hg ht => subst ht; constructor <;> simp [hg]
  | finalKnown _ _ _ hl _ =>
    refine ⟨hf, hsa, hco, hcm, ?_⟩
    intro n hn l hl'
    obtain rfl : _ = n := Option.some.inj hn
    exact hl l hl'
  | degraded | plcRequested => exact ⟨hf, hsa, hco, hcm, hb⟩
  | started _ _ hp hfin hl | written _ _ hp hfin hl =>
    refine ⟨hf, by simp, by simp; omega, ?_, ?_⟩
    · intro n hn
      obtain ⟨l, hl', hle⟩ := hcm n hn
      exact ⟨_, rfl, hle.trans (hl l hl')⟩
    · intro n hn l hl'
      obtain rfl : _ = l := Option.some.inj hl'
      exact hfin n hn
  | frameFinished _ _ hl _ =>
    refine ⟨hf, hsa, hco, ?_, hb⟩
    intro n hn
    obtain rfl : _ = n := Option.some.inj hn
    exact ⟨_, hl, le_rfl⟩
  | ended => exact coherent_end

theorem run_coherent {es : List Event} {s t : State} (h : Run Step s es t) (hs : Coherent s) :
    Coherent t :=
  h.state_invariant hs (fun _ _ _ ht he => effect_coherent ht (step_effect he))

/-- The fence of the state in which a playback ends is never above the one it leaves. -/
theorem ends_fence {s s' : State} {c : Call} {outcome : PlaybackEndedOutcome} (hs : Coherent s)
    (ha : s.active = true) (h : Ends s c s' outcome) :
    s.fenceGeneration ≤ («end» s' outcome).1.fenceGeneration := by
  have hf := (hs.fenced ha).le
  cases h with
  | finalSet _ _ _ _ hs' =>
    rw [hs']
    simp only [«end»]
    split <;> simp [hf]
  | framePlayed =>
    simp only [«end»]
    split <;> simp [hf]
  | stopped _ _ hlt => simpa [«end»] using hlt.le
  | failed | expired => simpa [«end»] using hf

theorem effect_fence {s t : State} {c : Call} {r : Reply} (hs : Coherent s) (h : Effect s c t r) :
    s.fenceGeneration ≤ t.fenceGeneration := by
  cases h with
  | begun _ _ _ ht => subst ht; exact le_rfl
  | ended ha he => exact ends_fence hs ha he
  | _ => exact le_rfl

theorem run_fence {es : List Event} {s t : State} (h : Run Step s es t) (hs : Coherent s) :
    s.fenceGeneration ≤ t.fenceGeneration := by
  have := h.state_invariant (P := fun u => Coherent u ∧ s.fenceGeneration ≤ u.fenceGeneration)
    ⟨hs, le_rfl⟩ (fun t e u ht he =>
      ⟨effect_coherent ht.1 (step_effect he), ht.2.trans (effect_fence ht.1 (step_effect he))⟩)
  exact this.2

/-- While nothing plays, only a successful `Begin` has any effect. -/
theorem effect_quiet {s t : State} {c : Call} {r : Reply} (ha : s.active = false)
    (hb : ¬ Begun (c, r)) (h : Effect s c t r) : t = s ∧ r.fact = none ∧ writtenSamples (c, r) = 0 := by
  cases h with
  | refused c => cases c <;> simp [writtenSamples]
  | begun => exact absurd ⟨⟨_, rfl⟩, rfl⟩ hb
  | stopRepeated => simp [writtenSamples]
  | finalKnown h | degraded h | plcRequested h | started h | written h | frameFinished h | ended h =>
    simp [ha] at h

theorem run_quiet {es : List Event} {s t : State} (h : Run Step s es t) (ha : s.active = false)
    (hb : ∀ e ∈ es, ¬ Begun e) : t = s ∧ facts es = [] ∧ written es = 0 := by
  induction h with
  | nil => simp [facts, written]
  | @snoc es t u e hr he ih =>
    obtain ⟨rfl, hf, hw⟩ := ih (fun e' he' => hb e' (by simp [he']))
    obtain ⟨rfl, hf', hw'⟩ := effect_quiet ha (hb e (by simp)) (step_effect he)
    exact ⟨rfl, by simp [hf, hf'], by simp [hw, hw']⟩

/-- The calls since `Begin` while its playback is still open, against the state. -/
structure Playing (t : ResponseTarget) (es : List Event) (s : State) : Prop where
  active : s.active = true
  target : s.target = t
  types : factTypes es = if s.started then [.started] else []
  samples : written es = s.playedSamples
  finals : finals es = s.finalMediaSequence.toList
  degraded : s.degraded = true ↔ Degraded es

/-- What a terminal fact says about the calls `es` made since `Begin` before the
call `e` that produced it. -/
structure EndFact (t : ResponseTarget) (es : List Event) (e : Event) (f : PlaybackFact) : Prop where
  target : f.target = t
  completed : f.outcome = .completed →
    factTypes es = [.started] ∧ ¬ Degraded es ∧ ∃ n, f.lastMediaSequence = some n ∧ finals (es ++ [e]) = [n]
  samples : f.playedSamples = written es
  last : f.lastMediaSequence = none ↔ written es = 0

theorem playing_begin {s s' : State} {t : ResponseTarget} {r : Reply}
    (h : Effect s (.begin t) s' r) (hr : r.ok = true) : Playing t [] s' := by
  cases h with
  | refused => simp at hr
  | begun _ _ _ hs =>
    subst hs
    constructor <;> simp [factTypes, facts, written, PlaybackState.finals, Degraded]
  | ended _ he => cases he

/-- The last sequence reported is the last one written, or none if nothing was. -/
theorem end_last {s : State} {outcome : PlaybackEndedOutcome} (hs : Coherent s) :
    («end» s outcome).2.lastMediaSequence = none ↔ s.playedSamples = 0 := by
  cases hst : s.started with
  | false =>
    have h0 : ¬ 0 < s.playedSamples := fun h => by simp [hs.counted.mpr h] at hst
    simp [«end», hst]
    omega
  | true =>
    have h0 := hs.counted.mp hst
    obtain ⟨l, hl⟩ := hs.sampled.mp hst
    simp [«end», hst, hl]
    omega

theorem ends_frame {s s' : State} {c : Call} {outcome : PlaybackEndedOutcome}
    (h : Ends s c s' outcome) : s'.playedSamples = s.playedSamples ∧ s'.started = s.started ∧
      s'.lastSampleSequence = s.lastSampleSequence ∧ s'.target = s.target := by
  cases h with
  | finalSet _ _ _ _ hs' => rw [hs']; exact ⟨rfl, rfl, rfl, rfl⟩
  | _ => exact ⟨rfl, rfl, rfl, rfl⟩

theorem playing_ended {s s' : State} {t : ResponseTarget} {es : List Event} {c : Call} {r : Reply}
    {outcome : PlaybackEndedOutcome} (hs : Coherent s) (hp : Playing t es s) (h : Ends s c s' outcome)
    (hr : r.ok = true) : EndFact t es (c, r) («end» s' outcome).2 := by
  obtain ⟨hsam, hsta, hlas, htar⟩ := ends_frame h
  have hlast : («end» s' outcome).2.lastMediaSequence = («end» s outcome).2.lastMediaSequence := by
    simp [«end», hsta, hlas]
  refine ⟨htar.trans hp.target, ?_, hsam.trans hp.samples.symm, ?_⟩
  · intro hc
    have hstarted : ∀ n, s.lastSampleSequence = some n → s.started = true ∧
        («end» s' outcome).2.lastMediaSequence = some n := by
      intro n hn
      have hst := hs.sampled.mpr ⟨n, hn⟩
      exact ⟨hst, by simp [«end», hsta, hlas, hst, hn]⟩
    have hdeg : ∀ d : Bool, (if d then PlaybackEndedOutcome.failed else .completed) = .completed →
        d = false := by decide
    have hundeg : s.degraded = false → ¬ Degraded es := by
      intro hd h'
      simp [hp.degraded.mpr h'] at hd
    cases h with
    | finalSet _ hnone hle hcomp _ =>
      obtain ⟨l, hl, hnl⟩ := hs.completed _ hcomp
      obtain rfl := Nat.le_antisymm (hle l hl) hnl
      obtain ⟨hst, hlm⟩ := hstarted _ hl
      refine ⟨by simp [hp.types, hst], hundeg (hdeg _ hc), _, hlm, ?_⟩
      simp [hp.finals, hnone, finalSequence, hr]
    | framePlayed _ hn hfin =>
      obtain ⟨hst, hlm⟩ := hstarted _ hn
      refine ⟨by simp [hp.types, hst], hundeg (hdeg _ hc), _, hlm, ?_⟩
      simp [hp.finals, hfin, finalSequence]
    | stopped | failed | expired => simp [«end»] at hc
  · rw [hlast, end_last hs, hp.samples]

/-- One call of an open playback keeps it open, or ends it with its terminal fact. -/
theorem playing_step {s s' : State} {t : ResponseTarget} {es : List Event} {e : Event} (hs : Coherent s)
    (hp : Playing t es s) (h : Step s e s') :
    Playing t (es ++ [e]) s' ∧ (∀ f, e.2.fact = some f → f.type = .started) ∨
    s'.active = false ∧ writtenSamples e = 0 ∧
      ∃ f, e.2.fact = some f ∧ f.type = .ended ∧ EndFact t es e f := by
  obtain ⟨c, r⟩ := e
  have heff : Effect s c s' r := step_effect h
  obtain ⟨ha, ht, hty, hsa, hfi, hde⟩ := hp
  cases heff with
  | refused c hc =>
    refine .inl ⟨⟨ha, ht, by simpa using hty, ?_, ?_, ?_⟩, by simp⟩
    · cases c <;> simpa [writtenSamples] using hsa
    · cases c <;> simpa [finalSequence] using hfi
    · rw [hde, degraded_append]
      simp [Degraded, (hc ha).symm]
  | begun hna => simp [ha] at hna
  | stopRepeated =>
    exact .inl ⟨⟨ha, ht, by simpa using hty, by simpa [writtenSamples] using hsa,
      by simpa [finalSequence] using hfi, by simpa [Degraded] using hde⟩, by simp⟩
  | finalKnown _ _ hnone =>
    exact .inl ⟨⟨ha, ht, by simpa using hty, by simpa [writtenSamples] using hsa,
      by simp [finalSequence, hfi, hnone], by simpa [Degraded] using hde⟩, by simp⟩
  | degraded =>
    exact .inl ⟨⟨ha, ht, by simpa using hty, by simpa [writtenSamples] using hsa,
      by simpa [finalSequence] using hfi, by simp [Degraded]⟩, by simp⟩
  | plcRequested =>
    exact .inl ⟨⟨ha, ht, by simpa using hty, by simpa [writtenSamples] using hsa,
      by simpa [finalSequence] using hfi, by simpa [Degraded] using hde⟩, by simp⟩
  | started _ hst =>
    exact .inl ⟨⟨ha, ht, by simp [hty, hst], by simp [writtenSamples, hsa],
      by simpa [finalSequence] using hfi, by simpa [Degraded] using hde⟩, by simp⟩
  | written _ hst =>
    exact .inl ⟨⟨ha, ht, by simp [hty, hst], by simp [writtenSamples, hsa],
      by simpa [finalSequence] using hfi, by simpa [Degraded] using hde⟩, by simp⟩
  | frameFinished =>
    exact .inl ⟨⟨ha, ht, by simpa using hty, by simpa [writtenSamples] using hsa,
      by simpa [finalSequence] using hfi, by simpa [Degraded] using hde⟩, by simp⟩
  | ended _ he =>
    refine .inr ⟨rfl, ?_, _, rfl, rfl, playing_ended hs ⟨ha, ht, hty, hsa, hfi, hde⟩ he rfl⟩
    cases he <;> rfl

theorem episode_types {s s' : State} {t : ResponseTarget} {es : List Event} (hs : Coherent s)
    (hp : Playing t [] s) (h : Run Step s es s') (hb : ∀ e ∈ es, ¬ Begun e) :
    Playing t es s' ∨ s'.active = false ∧ factTypes es ∈ [[.ended], [.started, .ended]] := by
  induction h with
  | nil => exact .inl hp
  | @snoc es u v e hr he ih =>
    rcases ih (fun e' he' => hb e' (by simp [he'])) with hpl | ⟨hna, hty⟩
    · rcases playing_step (run_coherent hr hs) hpl he with h' | ⟨hna, -, f, hf, hft, -⟩
      · exact .inl h'.1
      · refine .inr ⟨hna, ?_⟩
        rw [factTypes_append, hpl.types]
        split <;> simp [hf, hft]
    · obtain ⟨rfl, hf, -⟩ := effect_quiet hna (hb e (by simp)) (step_effect he)
      exact .inr ⟨hna, by simpa [hf] using hty⟩

/-- The facts of one playback, from its `Begin` to the next one. -/
structure Episode (t : ResponseTarget) (es : List Event) (s : State) : Prop where
  once : factTypes es ∈ [[], [.started], [.ended], [.started, .ended]]
  ended : ∀ fs e gs f, es = fs ++ e :: gs → e.2.fact = some f → f.type = .ended →
    EndFact t fs e f ∧ f.playedSamples = written es
  silent : .ended ∈ factTypes es → ∀ generation, canPlay s generation = false

theorem episode {s s' : State} {t : ResponseTarget} {es : List Event} (hs : Coherent s)
    (hp : Playing t [] s) (h : Run Step s es s') (hb : ∀ e ∈ es, ¬ Begun e) : Episode t es s' := by
  refine ⟨?_, ?_, ?_⟩
  · rcases episode_types hs hp h hb with hpl | ⟨-, hty⟩
    · rw [hpl.types]
      split <;> simp
    · simp only [List.mem_cons, List.not_mem_nil, or_false] at hty ⊢
      tauto
  · rintro fs e gs f rfl hf hft
    obtain ⟨u, hu, hrest⟩ := h.split
    obtain ⟨v, he, hv⟩ := Run.cons_iff.mp hrest
    have hbf : ∀ e' ∈ fs, ¬ Begun e' := fun e' he' => hb e' (by simp [he'])
    rcases episode_types hs hp hu hbf with hpl | ⟨hna, -⟩
    · rcases playing_step (run_coherent hu hs) hpl he with ⟨-, hst⟩ | ⟨hna, hw, f', hf', -, hend⟩
      · simp [hst f hf] at hft
      · obtain rfl := Option.some.inj (hf.symm.trans hf')
        obtain ⟨-, -, hq⟩ := run_quiet hv hna (fun e' he' => hb e' (by simp [he']))
        refine ⟨hend, ?_⟩
        rw [← List.singleton_append, written_append, written_append, hq, written_single, hw]
        exact hend.samples
    · obtain ⟨-, hnone, -⟩ := effect_quiet hna (hb e (by simp)) (step_effect he)
      simp [hf] at hnone
  · intro hmem generation
    rcases episode_types hs hp h hb with hpl | ⟨hna, -⟩
    · rw [hpl.types] at hmem
      split at hmem <;> simp at hmem
    · simp [canPlay, hna]

/-- An accepted stop leaves the fence at or above its own. -/
theorem stop_accepted {s s' : State} {t : ResponseTarget} {fence : Nat} {out : Bool} {r : Reply}
    (h : Effect s (.stop t fence out) s' r) (hr : r.ok = true) :
    s'.stopRecorded = true ∧ s'.target = t ∧ s'.lastStopFenceGeneration = fence := by
  cases h with
  | refused => simp at hr
  | stopRepeated hrec ht => exact ⟨hrec, ht, rfl⟩
  | ended _ he => cases he with | stopped ht => simp [«end», ht]

/-- A recorded stop closed its playback below the fence it installed. -/
structure StopRecord (s : State) : Prop where
  inactive : s.stopRecorded = true → s.active = false
  below : s.stopRecorded = true →
    s.target.generation < s.lastStopFenceGeneration ∧ s.lastStopFenceGeneration ≤ s.fenceGeneration

theorem effect_stopRecord {s t : State} {c : Call} {r : Reply} (hs : StopRecord s)
    (h : Effect s c t r) : StopRecord t := by
  obtain ⟨hi, hbl⟩ := hs
  cases h with
  | refused | stopRepeated => exact ⟨hi, hbl⟩
  | begun _ _ _ ht => subst ht; constructor <;> simp
  | finalKnown | degraded | plcRequested | started | written | frameFinished => exact ⟨hi, hbl⟩
  | ended ha he =>
    have hnr : s.stopRecorded = false := by
      cases hr : s.stopRecorded with
      | false => rfl
      | true => simp [hi hr] at ha
    refine ⟨fun _ => rfl, ?_⟩
    cases he with
    | finalSet _ _ _ _ hs' => rw [hs']; simp [«end», hnr]
    | stopped _ hlt => simpa [«end»] using hlt
    | framePlayed | failed | expired => simp [«end», hnr]

theorem run_stopRecord {es : List Event} {s t : State} (h : Run Step s es t) (hs : StopRecord s) :
    StopRecord t :=
  h.state_invariant hs (fun _ _ _ ht he => effect_stopRecord ht (step_effect he))

theorem stop_repeated {s : State} {t : ResponseTarget} {fence : Nat} (hr : s.stopRecorded = true)
    (ht : s.target = t) (hf : s.lastStopFenceGeneration = fence) :
    call s (.stop t fence true) = (s, { ok := true }) := by
  simp [call, stop, hr, (targetMatches_iff s t).mpr ht, hf]

/-- A target whose generation is below the fence is no longer the open playback. -/
theorem stop_stale {s : State} {t : ResponseTarget} (hs : Coherent s)
    (hf : t.generation < s.fenceGeneration) (fence : Nat) (out : Bool) :
    (call s (.stop t fence out)).2.fact = none := by
  have h := call_effect s (.stop t fence out)
  generalize (call s (.stop t fence out)).1 = s' at h
  generalize (call s (.stop t fence out)).2 = r at h ⊢
  cases h with
  | refused | stopRepeated => rfl
  | ended ha he =>
    cases he with
    | stopped ht =>
      have := hs.fenced ha
      rw [ht] at this
      omega

/-- A stop above the generation of the open playback is always answered. -/
theorem stop_answered {es : List Event} {s : State} (h : Run Step {} es s) (hactive : s.active = true) {g : Nat}
    (hg : s.target.generation < g) :
    (stop s s.target g true).2 =
        { ok := true
          fact := some { type := .ended, target := s.target, outcome := .stopped, playedSamples := s.playedSamples
                         lastMediaSequence := s.lastSampleSequence } } ∧
      ∀ n, s.lastSampleSequence = some n → s.playedSamples ≠ 0 := by
  have hco := run_coherent h coherent_init
  have hrecord := run_stopRecord h ⟨by simp, by simp⟩
  have hfence := hco.fenced hactive
  have hfresh : s.stopRecorded = false := by
    by_contra hrecorded
    rw [hrecord.inactive (by simpa using hrecorded)] at hactive
    cases hactive
  have hlast : (if s.started = true then s.lastSampleSequence else none) = s.lastSampleSequence := by
    by_cases hstarted : s.started = true
    · rw [if_pos hstarted]
    · rw [if_neg hstarted]
      cases hsample : s.lastSampleSequence with
      | none => rfl
      | some n => exact absurd (hco.sampled.mpr ⟨n, hsample⟩) hstarted
  refine ⟨?_, ?_⟩
  · have hmatch : targetMatches s s.target = true := (targetMatches_iff s s.target).mpr rfl
    rw [stop, if_neg (by simp), if_neg (by simp [hfresh]), if_neg (by simp [hactive, hmatch]; omega)]
    simp only [«end», hlast]
  · intro n hn
    exact (hco.counted.mp (hco.sampled.mpr ⟨n, hn⟩)).ne'

/-- The ledger of playback facts is exact in every run of the playback task. -/
theorem playback_facts {es : List Event} {s : State} (h : Run Step {} es s) :
    ((∀ e ∈ es, ¬ Begun e) → facts es = []) ∧
    (∀ pre t r fs, es = pre ++ (.begin t, r) :: fs → r.ok = true → (∀ e ∈ fs, ¬ Begun e) →
      Episode t fs s) ∧
    (∀ fs u, Run Step s fs u → s.fenceGeneration ≤ u.fenceGeneration) ∧
    (∀ pre t fence out r fs, es = pre ++ (.stop t fence out, r) :: fs → r.ok = true →
      ((∀ e ∈ fs, ¬ Begun e) → call s (.stop t fence true) = (s, { ok := true })) ∧
      ∀ fence' out', (call s (.stop t fence' out')).2.fact = none) := by
  have hco := run_coherent h coherent_init
  refine ⟨fun hb => (run_quiet h rfl hb).2.1, ?_, fun fs u hu => run_fence hu hco, ?_⟩
  · rintro pre t r fs rfl hr hb
    obtain ⟨u, hu, hrest⟩ := h.split
    obtain ⟨v, he, hv⟩ := Run.cons_iff.mp hrest
    have heff : Effect u (.begin t) v r := step_effect he
    have hv' := effect_coherent (run_coherent hu coherent_init) heff
    exact episode hv' (playing_begin heff hr) hv hb
  · rintro pre t fence out r fs rfl hr
    obtain ⟨u, hu, hrest⟩ := h.split
    obtain ⟨v, he, hv⟩ := Run.cons_iff.mp hrest
    have heff : Effect u (.stop t fence out) v r := step_effect he
    obtain ⟨hrec, ht, hf⟩ := stop_accepted heff hr
    have hsr := effect_stopRecord (run_stopRecord hu ⟨by simp, by simp⟩) heff
    have hvco := effect_coherent (run_coherent hu coherent_init) heff
    refine ⟨fun hb => ?_, fun fence' out' => stop_stale hco ?_ fence' out'⟩
    · obtain ⟨rfl, -, -⟩ := run_quiet hv (hsr.inactive hrec) hb
      exact stop_repeated hrec ht hf
    · have hlt := hsr.below hrec
      have hle := run_fence hv hvco
      rw [ht] at hlt
      omega

/-- Two frames played to the final sequence: one started and one completed fact. -/
theorem playback_facts_two_frames :
    Episode ⟨"response-1", 3⟩
      (history call (begin {} ⟨"response-1", 3⟩).1
        [.setFinalMediaSequence ⟨"response-1", 3⟩ 1 100 true, .recordWritten 0 240 true,
          .recordWritten 0 1200 true, .finishFrame 0 true, .recordWritten 1 1440 true,
          .finishFrame 1 true])
      (after call (begin {} ⟨"response-1", 3⟩).1
        [.setFinalMediaSequence ⟨"response-1", 3⟩ 1 100 true, .recordWritten 0 240 true,
          .recordWritten 0 1200 true, .finishFrame 0 true, .recordWritten 1 1440 true,
          .finishFrame 1 true]) :=
  (playback_facts (run_history call {}
    [.begin ⟨"response-1", 3⟩, .setFinalMediaSequence ⟨"response-1", 3⟩ 1 100 true,
      .recordWritten 0 240 true, .recordWritten 0 1200 true, .finishFrame 0 true,
      .recordWritten 1 1440 true, .finishFrame 1 true])).2.1 [] ⟨"response-1", 3⟩ { ok := true } _
    rfl rfl (by simp [history, Begun])

/-- `Begin` forgets the stop of the playback before it, so that stop is refused when it is repeated. -/
theorem earlier_stop_refused :
    (history call {} [.begin ⟨"response-1", 1⟩, .stop ⟨"response-1", 1⟩ 2 true, .begin ⟨"response-2", 3⟩,
      .stop ⟨"response-1", 1⟩ 2 true]).map (·.2.ok) = [true, true, true, false] := by
  decide

end RealtimeVoice.Firmware.PlaybackState
