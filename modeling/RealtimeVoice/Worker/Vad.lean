import RealtimeVoice.Base.Runs

namespace RealtimeVoice.Worker.Vad

open RealtimeVoice.Base.Runs

inductive VADEventType
  | startOfSpeech
  | inferenceDone
  | endOfSpeech
  deriving DecidableEq, Repr

/-- What the input channel carries. -/
inductive Item (Frame : Type)
  | frame (frame : Frame)
  | flushSentinel
  deriving DecidableEq, Repr

/-- What the delegate stream is asked to do. -/
inductive Request (Frame : Type)
  | pushFrame (frame : Frame)
  | flush
  | endInput
  deriving DecidableEq, Repr

structure ResettingVAD where
  idleResetSeconds : Rat
  positive : 0 < idleResetSeconds

def resettingVAD (idleResetSeconds : Rat) : Except String ResettingVAD :=
  if h : 0 < idleResetSeconds then .ok ⟨idleResetSeconds, h⟩
  else .error "idle_reset_seconds must be positive"

inductive ForwardTask
  | running
  | returned
  | failed
  deriving DecidableEq, Repr

structure ResettingVADStream (Frame : Type) where
  vad : ResettingVAD
  lastResetAt : Rat
  speaking : Bool := false
  resetPending : Bool := false
  inputCh : List (Item Frame) := []
  inputEnded : Bool := false
  mainDone : Bool := false
  forwardTask : ForwardTask := .running

def ResettingVAD.stream (vad : ResettingVAD) (clock : Rat) (Frame : Type) : ResettingVADStream Frame :=
  { vad, lastResetAt := clock }

variable {Frame : Type}

/-- What the two tasks and the user of the stream do next. A clock reading is
an argument, and so is whether the delegate or the event channel raises. -/
inductive Call (Frame : Type)
  | input (item : Item Frame)
  | endInput
  | delegateEvent (type : VADEventType) (channelClosed : Bool)
  | delegateEnded
  | forwardInput (now resetAt : Rat) (flushRaises pushRaises : Bool)

structure Reply (Frame : Type) where
  queued : Option (Item Frame) := none
  handled : Option (Item Frame) := none
  requests : List (Request Frame) := []
  forwarded : Option VADEventType := none
  deriving DecidableEq

namespace ResettingVADStream

def resetDelegate (s : ResettingVADStream Frame) (clock : Rat) (raises : Bool) : ResettingVADStream Frame :=
  if raises then { s with forwardTask := .failed }
  else { s with lastResetAt := clock, resetPending := false }

def resetDue (s : ResettingVADStream Frame) (now : Rat) : Bool :=
  s.resetPending || (!s.speaking && decide (s.vad.idleResetSeconds ≤ now - s.lastResetAt))

def pushFrame (s : ResettingVADStream Frame) (raises : Bool) : ResettingVADStream Frame :=
  if raises then { s with forwardTask := .failed } else s

/-- One turn of the loop over the input channel. -/
def forwardInput (s : ResettingVADStream Frame) (now resetAt : Rat) (flushRaises pushRaises : Bool) :
    ResettingVADStream Frame × Reply Frame :=
  match s.inputCh with
  | [] =>
    if s.inputEnded then ({ s with forwardTask := .returned }, { requests := [.endInput] })
    else (s, {})
  | .flushSentinel :: rest =>
    (resetDelegate { s with inputCh := rest } resetAt flushRaises,
      { handled := some .flushSentinel, requests := [.flush] })
  | .frame frame :: rest =>
    if resetDue s now then
      let reset := resetDelegate { s with inputCh := rest } resetAt flushRaises
      if flushRaises then (reset, { handled := some (.frame frame), requests := [.flush] })
      else (pushFrame reset pushRaises,
        { handled := some (.frame frame), requests := [.flush, .pushFrame frame] })
    else (pushFrame { s with inputCh := rest } pushRaises,
      { handled := some (.frame frame), requests := [.pushFrame frame] })

def noteEvent (s : ResettingVADStream Frame) : VADEventType → ResettingVADStream Frame
  | .startOfSpeech => { s with speaking := true }
  | .endOfSpeech => { s with speaking := false, resetPending := true }
  | .inferenceDone => s

/-- The end of the main task: the delegate's iteration stopped, failed or was
cancelled, and the forwarding task is cancelled with it. -/
def finish (s : ResettingVADStream Frame) : ResettingVADStream Frame :=
  { s with mainDone := true, forwardTask := if s.forwardTask = .running then .failed else s.forwardTask }

def call (s : ResettingVADStream Frame) : Call Frame → ResettingVADStream Frame × Reply Frame
  | .input item =>
    if s.inputEnded then (s, {})
    else ({ s with inputCh := s.inputCh ++ [item] }, { queued := some item })
  | .endInput => ({ s with inputEnded := true }, {})
  | .delegateEvent type channelClosed =>
    if s.mainDone then (s, {})
    else if channelClosed then (finish (noteEvent s type), {})
    else (noteEvent s type, { forwarded := some type })
  | .delegateEnded => (finish s, {})
  | .forwardInput now resetAt flushRaises pushRaises =>
    if s.forwardTask = .running then forwardInput s now resetAt flushRaises pushRaises else (s, {})

end ResettingVADStream

abbrev Step (Frame : Type) := Call Frame × Reply Frame

@[simp] def Item.frame? : Item Frame → Option Frame
  | .frame f => some f
  | .flushSentinel => none

@[simp] def Request.frame? : Request Frame → Option Frame
  | .pushFrame f => some f
  | _ => none

@[simp] def Request.isFlush : Request Frame → Bool
  | .flush => true
  | _ => false

/-- The audio that the user of the stream put in, and the audio that reached the delegate. -/
def inputFrames (es : List (Step Frame)) : List Frame := es.filterMap (fun e => e.2.queued.bind Item.frame?)

def pushedFrames (es : List (Step Frame)) : List Frame := es.flatMap (fun e => e.2.requests.filterMap Request.frame?)

def flushes (e : Step Frame) : Bool := e.2.requests.any Request.isFlush

def handlesFrame (e : Step Frame) : Bool := (e.2.handled.bind Item.frame?).isSome

/-- A speech segment is in progress: its start is forwarded and its end is not. -/
def inProgress (es : List (Step Frame)) : Bool :=
  es.foldl (fun b e => match e.2.forwarded with
    | some .startOfSpeech => true
    | some .endOfSpeech => false
    | _ => b) false

/-- An end of speech is forwarded and the delegate is not flushed since. -/
def resetOwed (es : List (Step Frame)) : Bool :=
  es.foldl (fun b e => !flushes e && (b || decide (e.2.forwarded = some .endOfSpeech))) false

/-- As `resetOwed`, and no new speech has started since either. -/
def resetAwaited (es : List (Step Frame)) : Bool :=
  es.foldl (fun b e => !flushes e && !decide (e.2.forwarded = some .startOfSpeech) &&
    (b || decide (e.2.forwarded = some .endOfSpeech))) false

/-- What is promised of a run. A flush while a frame is handled is one by a rule, a
flush by a sentinel is not. -/
structure SafeResets (es : List (Step Frame)) (s : ResettingVADStream Frame) : Prop where
  outside_speech : ∀ before e later, es = before ++ e :: later → handlesFrame e → flushes e →
    inProgress before = false
  after_end : ∀ before e later, es = before ++ e :: later → resetAwaited before →
    ∀ frame, .pushFrame frame ∈ e.2.requests → e.2.requests = [.flush, .pushFrame frame]
  frames_prefix : pushedFrames es <+: inputFrames es
  frames_kept : s.forwardTask ≠ .failed → pushedFrames es ++ s.inputCh.filterMap Item.frame? = inputFrames es
  frames_all : s.forwardTask = .returned → pushedFrames es = inputFrames es

/-- No frame is handled while a reset is owed and the next speech has started. -/
def ResetsInTime (es : List (Step Frame)) : Prop :=
  ∀ before e later, es = before ++ e :: later → handlesFrame e → resetOwed before → inProgress before = false

section
variable {es : List (Step Frame)} {s t : ResettingVADStream Frame} {e : Step Frame}

theorem inProgress_snoc : inProgress (es ++ [e]) = match e.2.forwarded with
    | some .startOfSpeech => true
    | some .endOfSpeech => false
    | _ => inProgress es := by
  rw [inProgress, List.foldl_append]
  rfl

theorem resetOwed_snoc :
    resetOwed (es ++ [e]) = (!flushes e && (resetOwed es || decide (e.2.forwarded = some .endOfSpeech))) := by
  rw [resetOwed, List.foldl_append]
  rfl

theorem resetAwaited_snoc : resetAwaited (es ++ [e]) = (!flushes e && !decide (e.2.forwarded = some .startOfSpeech) &&
    (resetAwaited es || decide (e.2.forwarded = some .endOfSpeech))) := by
  rw [resetAwaited, List.foldl_append]
  rfl

theorem pushedFrames_snoc : pushedFrames (es ++ [e]) = pushedFrames es ++ e.2.requests.filterMap Request.frame? := by
  simp [pushedFrames]

theorem inputFrames_snoc : inputFrames (es ++ [e]) = inputFrames es ++ (e.2.queued.bind Item.frame?).toList := by
  cases h : e.2.queued.bind Item.frame? <;> simp [inputFrames, List.filterMap_append, h]

theorem resetOwed_of_awaited (h : resetAwaited es) : resetOwed es := by
  induction es using List.reverseRecOn with
  | nil => simp [resetAwaited] at h
  | append_singleton es e ih =>
    rw [resetAwaited_snoc] at h
    rw [resetOwed_snoc]
    simp only [Bool.and_eq_true, Bool.or_eq_true] at h ⊢
    exact ⟨h.1.1, h.2.imp_left ih⟩

/-- What the stream knows about the run so far. -/
structure Tracks (es : List (Step Frame)) (s : ResettingVADStream Frame) : Prop where
  speaking : s.forwardTask = .running → s.speaking = inProgress es
  pending : s.forwardTask = .running → s.resetPending = resetOwed es
  mainDone : s.mainDone → s.forwardTask ≠ .running
  pushed : pushedFrames es <+: inputFrames es
  kept : s.forwardTask ≠ .failed → pushedFrames es ++ s.inputCh.filterMap Item.frame? = inputFrames es
  returned : s.forwardTask = .returned → s.inputCh = [] ∧ s.inputEnded

theorem tracks_stream (vad : ResettingVAD) (clock : Rat) : Tracks [] (vad.stream clock Frame) := by
  constructor <;> simp [ResettingVAD.stream, inProgress, resetOwed, pushedFrames, inputFrames]

namespace Tracks

theorem input (h : Tracks es s) (item : Item Frame) (hended : s.inputEnded = false) :
    Tracks (es ++ [(.input item, { queued := some item })]) { s with inputCh := s.inputCh ++ [item] } := by
  constructor
  · simpa [inProgress_snoc] using h.speaking
  · simpa [resetOwed_snoc, flushes] using h.pending
  · exact h.mainDone
  · rw [pushedFrames_snoc, inputFrames_snoc]
    simpa using h.pushed.trans (List.prefix_append _ _)
  · intro hfailed
    have hkept := h.kept hfailed
    rw [pushedFrames_snoc, inputFrames_snoc, ← hkept]
    cases item <;> simp [List.filterMap_append]
  · intro hreturned
    rw [(h.returned hreturned).2] at hended
    cases hended

/-- A step that puts nothing in, asks nothing of the delegate and forwards nothing. -/
theorem silent {c : Call Frame} (h : Tracks es s) (hch : t.inputCh = s.inputCh)
    (hended : s.inputEnded → t.inputEnded) (hrunning : t.forwardTask = .running → s.forwardTask = .running ∧
      t.speaking = s.speaking ∧ t.resetPending = s.resetPending) (hdone : t.mainDone → t.forwardTask ≠ .running)
    (hfailed : t.forwardTask ≠ .failed → t.forwardTask = s.forwardTask) : Tracks (es ++ [((c, {}) : Step Frame)]) t := by
  constructor
  · intro hr
    rw [inProgress_snoc, (hrunning hr).2.1]
    exact h.speaking (hrunning hr).1
  · intro hr
    rw [resetOwed_snoc, (hrunning hr).2.2, h.pending (hrunning hr).1]
    simp [flushes]
  · exact hdone
  · simpa [pushedFrames_snoc, inputFrames_snoc] using h.pushed
  · intro hf
    rw [pushedFrames_snoc, inputFrames_snoc, hch]
    simpa using h.kept (by rwa [hfailed hf] at hf)
  · intro hr
    have heq := hfailed (by rw [hr]; decide)
    obtain ⟨hempty, hin⟩ := h.returned (by rw [← heq, hr])
    exact ⟨by rw [hch, hempty], hended hin⟩

theorem delegateEvent (h : Tracks es s) (type : VADEventType) (channelClosed : Bool) :
    Tracks (es ++ [(.delegateEvent type channelClosed, { forwarded := some type })]) (s.noteEvent type) := by
  constructor
  · intro hr
    rw [inProgress_snoc]
    cases type with
    | startOfSpeech => rfl
    | endOfSpeech => rfl
    | inferenceDone => exact h.speaking hr
  · intro hr
    rw [resetOwed_snoc]
    cases type with
    | startOfSpeech => simpa [flushes, ResettingVADStream.noteEvent] using h.pending hr
    | endOfSpeech => simp [flushes, ResettingVADStream.noteEvent]
    | inferenceDone => simpa [flushes, ResettingVADStream.noteEvent] using h.pending hr
  · cases type <;> exact h.mainDone
  · simpa [pushedFrames_snoc, inputFrames_snoc] using h.pushed
  · rw [pushedFrames_snoc, inputFrames_snoc]
    cases type <;> simpa [ResettingVADStream.noteEvent] using h.kept
  · cases type <;> exact h.returned

/-- The forwarding task takes an item: what it asks of the delegate is the frame at most, and the
frame unless something raised. -/
theorem taken {c : Call Frame} {item : Item Frame} {rest : List (Item Frame)} {rs : List (Request Frame)}
    (h : Tracks es s) (hrunning : s.forwardTask = .running) (hch : s.inputCh = item :: rest) (hrest : t.inputCh = rest)
    (hspeaking : t.speaking = s.speaking) (hdone : t.mainDone = s.mainDone)
    (htask : t.forwardTask = .failed ∨ t.forwardTask = .running ∧ rs.filterMap Request.frame? = item.frame?.toList ∧
      t.resetPending = (!rs.any Request.isFlush && s.resetPending))
    (hrs : rs.filterMap Request.frame? <+: item.frame?.toList) :
    Tracks (es ++ [(c, { handled := some item, requests := rs })]) t := by
  have hkept := h.kept (by simp [hrunning])
  have hframes : s.inputCh.filterMap Item.frame? = item.frame?.toList ++ rest.filterMap Item.frame? := by
    rw [hch]
    cases item <;> simp [List.filterMap_cons]
  rw [hframes, ← List.append_assoc] at hkept
  constructor
  · intro _
    rw [inProgress_snoc, hspeaking]
    exact h.speaking hrunning
  · intro hr
    obtain hfailed | ⟨-, -, hpending⟩ := htask
    · rw [hfailed] at hr
      cases hr
    · rw [resetOwed_snoc, hpending, h.pending hrunning]
      simp [flushes]
  · intro hmain
    exact absurd hrunning (h.mainDone (by rwa [hdone] at hmain))
  · rw [pushedFrames_snoc, inputFrames_snoc, ← hkept]
    have hprefix := (List.prefix_append_right_inj (pushedFrames es)).mpr hrs
    simpa using hprefix.trans (List.prefix_append _ (rest.filterMap Item.frame?))
  · intro hfailed
    obtain hfailed' | ⟨-, hpushed, -⟩ := htask
    · exact absurd hfailed' hfailed
    · rw [pushedFrames_snoc, inputFrames_snoc, ← hkept, hrest]
      simp [hpushed]
  · intro hreturned
    obtain hfailed | ⟨hr, -⟩ := htask
    · rw [hfailed] at hreturned
      cases hreturned
    · rw [hr] at hreturned
      cases hreturned

theorem forwardInput (h : Tracks es s) (hrunning : s.forwardTask = .running) (now resetAt : Rat)
    (flushRaises pushRaises : Bool) :
    Tracks (es ++ [(.forwardInput now resetAt flushRaises pushRaises,
      (s.forwardInput now resetAt flushRaises pushRaises).2)]) (s.forwardInput now resetAt flushRaises pushRaises).1 := by
  rw [ResettingVADStream.forwardInput]
  split
  · rename_i hch
    split
    · rename_i hended
      have hkept := h.kept (by simp [hrunning])
      constructor
      · intro hr
        cases hr
      · intro hr
        cases hr
      · simp
      · simpa [pushedFrames_snoc, inputFrames_snoc, List.filterMap_cons] using h.pushed
      · intro _
        simpa [pushedFrames_snoc, inputFrames_snoc, List.filterMap_cons] using hkept
      · intro _
        exact ⟨hch, hended⟩
    · exact h.silent rfl id (fun hr => ⟨hr, rfl, rfl⟩) h.mainDone (fun _ => rfl)
  · rename_i rest hch
    cases flushRaises with
    | false => exact h.taken hrunning hch rfl rfl rfl (.inr ⟨hrunning, rfl, rfl⟩) (List.prefix_refl _)
    | true => exact h.taken hrunning hch rfl rfl rfl (.inl rfl) (List.prefix_refl _)
  · rename_i frame rest hch
    split
    · cases flushRaises with
      | true => exact h.taken hrunning hch rfl rfl rfl (.inl rfl) List.nil_prefix
      | false =>
        cases pushRaises with
        | false => exact h.taken hrunning hch rfl rfl rfl (.inr ⟨hrunning, rfl, rfl⟩) (List.prefix_refl _)
        | true => exact h.taken hrunning hch rfl rfl rfl (.inl rfl) (List.prefix_refl _)
    · cases pushRaises with
      | false => exact h.taken hrunning hch rfl rfl rfl (.inr ⟨hrunning, rfl, rfl⟩) (List.prefix_refl _)
      | true => exact h.taken hrunning hch rfl rfl rfl (.inl rfl) (List.prefix_refl _)

theorem finished (c : Call Frame) (h : Tracks es s) (hch : t.inputCh = s.inputCh) (hended : t.inputEnded = s.inputEnded)
    (htask : t.forwardTask = s.forwardTask) : Tracks (es ++ [((c, {}) : Step Frame)]) t.finish := by
  have hstopped : t.finish.forwardTask ≠ .running := by
    rw [ResettingVADStream.finish]
    split
    · simp
    · assumption
  apply h.silent
  · exact hch
  · intro hs
    exact hended.trans hs
  · exact fun hr => absurd hr hstopped
  · exact fun _ => hstopped
  · rw [ResettingVADStream.finish]
    split
    · exact fun hf => absurd rfl hf
    · exact fun _ => htask

theorem step (h : Tracks es s) (he : Answers ResettingVADStream.call s e t) : Tracks (es ++ [e]) t := by
  obtain ⟨c, r⟩ := e
  cases c with
  | input item =>
    simp only [Answers, ResettingVADStream.call] at he
    split at he
    · obtain ⟨rfl, rfl⟩ := Prod.mk.inj he
      exact h.silent rfl id (fun hr => ⟨hr, rfl, rfl⟩) h.mainDone (fun _ => rfl)
    · rename_i hended
      obtain ⟨rfl, rfl⟩ := Prod.mk.inj he
      exact h.input item (by simpa using hended)
  | endInput =>
    obtain ⟨rfl, rfl⟩ := Prod.mk.inj he
    exact h.silent rfl (fun _ => rfl) (fun hr => ⟨hr, rfl, rfl⟩) h.mainDone (fun _ => rfl)
  | delegateEvent type channelClosed =>
    simp only [Answers, ResettingVADStream.call] at he
    split at he
    · obtain ⟨rfl, rfl⟩ := Prod.mk.inj he
      exact h.silent rfl id (fun hr => ⟨hr, rfl, rfl⟩) h.mainDone (fun _ => rfl)
    · split at he
      · obtain ⟨rfl, rfl⟩ := Prod.mk.inj he
        cases type <;> exact h.finished _ rfl rfl rfl
      · obtain ⟨rfl, rfl⟩ := Prod.mk.inj he
        exact h.delegateEvent type channelClosed
  | delegateEnded =>
    obtain ⟨rfl, rfl⟩ := Prod.mk.inj he
    exact h.finished _ rfl rfl rfl
  | forwardInput now resetAt flushRaises pushRaises =>
    simp only [Answers, ResettingVADStream.call] at he
    split at he
    · rename_i hrunning
      obtain ⟨rfl, rfl⟩ := Prod.mk.inj he
      exact h.forwardInput hrunning now resetAt flushRaises pushRaises
    · obtain ⟨rfl, rfl⟩ := Prod.mk.inj he
      exact h.silent rfl id (fun hr => ⟨hr, rfl, rfl⟩) h.mainDone (fun _ => rfl)

end Tracks

theorem tracks_run {vad : ResettingVAD} {clock : Rat}
    (h : Run (Answers ResettingVADStream.call) (vad.stream clock Frame) es s) : Tracks es s := by
  apply h.invariant (R := Tracks)
  · exact tracks_stream vad clock
  · exact fun _ _ _ _ _ ht he => ht.step he

/-- A step that touches a frame: the forwarding task runs, and it flushes exactly when a reset is due. -/
theorem handlesFrame_cases (he : Answers ResettingVADStream.call s e t) (hframe : handlesFrame e) :
    s.forwardTask = .running ∧ (∃ now, flushes e = s.resetDue now) ∧
      ∀ frame, .pushFrame frame ∈ e.2.requests → flushes e → e.2.requests = [.flush, .pushFrame frame] := by
  obtain ⟨c, r⟩ := e
  cases c with
  | input item =>
    simp only [Answers, ResettingVADStream.call] at he
    split at he <;> obtain ⟨rfl, rfl⟩ := Prod.mk.inj he <;> simp [handlesFrame] at hframe
  | endInput =>
    obtain ⟨rfl, rfl⟩ := Prod.mk.inj he
    simp [handlesFrame] at hframe
  | delegateEvent type channelClosed =>
    simp only [Answers, ResettingVADStream.call] at he
    split at he
    · obtain ⟨rfl, rfl⟩ := Prod.mk.inj he
      simp [handlesFrame] at hframe
    · split at he <;> obtain ⟨rfl, rfl⟩ := Prod.mk.inj he <;> simp [handlesFrame] at hframe
  | delegateEnded =>
    obtain ⟨rfl, rfl⟩ := Prod.mk.inj he
    simp [handlesFrame] at hframe
  | forwardInput now resetAt flushRaises pushRaises =>
    simp only [Answers, ResettingVADStream.call] at he
    split at he
    · rename_i hrunning
      refine ⟨hrunning, ⟨now, ?_⟩, ?_⟩
      all_goals
        rw [ResettingVADStream.forwardInput] at he
        split at he
        · split at he <;> obtain ⟨rfl, rfl⟩ := Prod.mk.inj he <;> simp [handlesFrame] at hframe
        · obtain ⟨rfl, rfl⟩ := Prod.mk.inj he
          simp [handlesFrame] at hframe
        · split at he
          · split at he <;> obtain ⟨rfl, rfl⟩ := Prod.mk.inj he <;> simp_all [flushes]
          · obtain ⟨rfl, rfl⟩ := Prod.mk.inj he
            simp_all [flushes]
    · obtain ⟨rfl, rfl⟩ := Prod.mk.inj he
      simp [handlesFrame] at hframe

theorem handlesFrame_of_push (he : Answers ResettingVADStream.call s e t) {frame : Frame}
    (hpush : .pushFrame frame ∈ e.2.requests) : handlesFrame e := by
  obtain ⟨c, r⟩ := e
  cases c with
  | input item =>
    simp only [Answers, ResettingVADStream.call] at he
    split at he <;> obtain ⟨rfl, rfl⟩ := Prod.mk.inj he <;> simp at hpush
  | endInput =>
    obtain ⟨rfl, rfl⟩ := Prod.mk.inj he
    simp at hpush
  | delegateEvent type channelClosed =>
    simp only [Answers, ResettingVADStream.call] at he
    split at he
    · obtain ⟨rfl, rfl⟩ := Prod.mk.inj he
      simp at hpush
    · split at he <;> obtain ⟨rfl, rfl⟩ := Prod.mk.inj he <;> simp at hpush
  | delegateEnded =>
    obtain ⟨rfl, rfl⟩ := Prod.mk.inj he
    simp at hpush
  | forwardInput now resetAt flushRaises pushRaises =>
    simp only [Answers, ResettingVADStream.call, ResettingVADStream.forwardInput] at he
    split at he
    · split at he
      · split at he <;> obtain ⟨rfl, rfl⟩ := Prod.mk.inj he <;> simp at hpush
      · obtain ⟨rfl, rfl⟩ := Prod.mk.inj he
        simp at hpush
      · split at he
        · split at he <;> obtain ⟨rfl, rfl⟩ := Prod.mk.inj he <;> rfl
        · obtain ⟨rfl, rfl⟩ := Prod.mk.inj he
          rfl
    · obtain ⟨rfl, rfl⟩ := Prod.mk.inj he
      simp at hpush

/-- A step of a run, with what the stream knew before it. -/
theorem step_at {vad : ResettingVAD} {clock : Rat} {before later : List (Step Frame)}
    (h : Run (Answers ResettingVADStream.call) (vad.stream clock Frame) es s) (hes : es = before ++ e :: later) :
    ∃ m u, Tracks before m ∧ Answers ResettingVADStream.call m e u := by
  rw [hes] at h
  obtain ⟨m, hm, hrest⟩ := h.split
  obtain ⟨u, hu, -⟩ := Run.cons_iff.mp hrest
  exact ⟨m, u, tracks_run hm, hu⟩

/-- Frames are never lost, doubled or reordered, and a reset owed after an end of speech
comes before the next frame. Resets stay outside speech exactly in the runs where none is
overtaken by the next speech. -/
theorem safeResets_iff (vad : ResettingVAD) (clock : Rat) (es : List (Step Frame)) (s : ResettingVADStream Frame)
    (h : Run (Answers ResettingVADStream.call) (vad.stream clock Frame) es s) : SafeResets es s ↔ ResetsInTime es := by
  constructor
  · intro hsafe before e later hes hframe howed
    obtain ⟨m, u, hm, he⟩ := step_at h hes
    obtain ⟨hrunning, ⟨now, hflushes⟩, -⟩ := handlesFrame_cases he hframe
    have hpending : m.resetPending = true := by rw [hm.pending hrunning, howed]
    apply hsafe.outside_speech before e later hes hframe
    rw [hflushes, ResettingVADStream.resetDue, hpending, Bool.true_or]
  · intro hin
    have htracks := tracks_run h
    constructor
    · intro before e later hes hframe hflush
      obtain ⟨m, u, hm, he⟩ := step_at h hes
      obtain ⟨hrunning, ⟨now, hflushes⟩, -⟩ := handlesFrame_cases he hframe
      rw [hflushes, ResettingVADStream.resetDue, Bool.or_eq_true] at hflush
      obtain hpending | hidle := hflush
      · exact hin before e later hes hframe (by rw [← hm.pending hrunning, hpending])
      · rw [Bool.and_eq_true, Bool.not_eq_true'] at hidle
        rw [← hm.speaking hrunning, hidle.1]
    · intro before e later hes hawaited frame hpush
      obtain ⟨m, u, hm, he⟩ := step_at h hes
      have hframe := handlesFrame_of_push he hpush
      obtain ⟨hrunning, ⟨now, hflushes⟩, hrequests⟩ := handlesFrame_cases he hframe
      have hpending : m.resetPending = true := by rw [hm.pending hrunning, resetOwed_of_awaited hawaited]
      apply hrequests frame hpush
      rw [hflushes, ResettingVADStream.resetDue, hpending, Bool.true_or]
    · exact htracks.pushed
    · exact htracks.kept
    · intro hreturned
      have hkept := htracks.kept (by rw [hreturned]; decide)
      rw [(htracks.returned hreturned).1] at hkept
      simpa using hkept

end

def demoVad : ResettingVAD := ⟨30, by decide⟩

/-- One utterance and the frame after it. -/
def demoUtterance : List (Call Nat) :=
  [.delegateEvent .startOfSpeech false, .input (.frame 1), .forwardInput 1 1 false false,
    .delegateEvent .endOfSpeech false, .input (.frame 2), .forwardInput 2 2 false false]

theorem safeResets_iff_utterance :
    ∃ s, SafeResets (history ResettingVADStream.call (demoVad.stream 0 Nat) demoUtterance) s := by
  refine ⟨_, (safeResets_iff demoVad 0 _ _ (run_history _ _ demoUtterance)).mpr ?_⟩
  intro before e later hes
  refine split_of_take (P := fun before e => handlesFrame e → resetOwed before → inProgress before = false) ?_ hes
  decide +kernel

/-- The next utterance starts before another frame is handled. -/
def demoOvertaken : List (Call Nat) :=
  [.delegateEvent .startOfSpeech false, .delegateEvent .endOfSpeech false, .delegateEvent .startOfSpeech false,
    .input (.frame 1), .forwardInput 1 1 false false]

/-- The delegate is flushed in the middle of the second utterance. -/
theorem reset_in_speech : ∃ es s, Run (Answers ResettingVADStream.call) (demoVad.stream 0 Nat) es s ∧
    es.map Prod.fst = demoOvertaken ∧ ¬SafeResets es s := by
  refine ⟨_, _, run_history _ _ demoOvertaken, rfl, ?_⟩
  intro h
  have hout := h.outside_speech
    (history ResettingVADStream.call (demoVad.stream 0 Nat) (demoOvertaken.take 4)) _ [] rfl (by decide +kernel)
    (by decide +kernel)
  revert hout
  decide +kernel

end RealtimeVoice.Worker.Vad
