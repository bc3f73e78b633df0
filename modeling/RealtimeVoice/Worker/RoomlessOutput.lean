import RealtimeVoice.Base.Runs

namespace RealtimeVoice.Worker.RoomlessOutput

open RealtimeVoice.Base.Runs

abbrev Bytes := List UInt8

def pcmSamples : Nat := 320
def pcmBytes : Nat := pcmSamples * 2

/-- A frame; `__post_init__` lets no other length pass. -/
structure PcmFrame where
  generation : Nat
  sequence : Nat
  timestampSamples : Nat
  pcm : Bytes
  exact : pcm.length = pcmBytes
deriving DecidableEq

structure AgentOutputSegment where
  producerEpoch : Nat
  frames : List PcmFrame
deriving DecidableEq

/-- `RoomlessAudioOutput`, with the flushed segments whose tasks have not begun and whether
`capture_frame` is waiting in the sink. -/
structure RoomlessAudioOutput where
  maxSegmentFrames : Nat
  positive : 0 < maxSegmentFrames
  frames : List PcmFrame := []
  pendingPcm : Bytes := []
  framesEpoch : Option Nat := none
  producerEpoch : Nat := 1
  sequence : Nat := 0
  tasks : List AgentOutputSegment := []
  suspended : Bool := false

namespace RoomlessAudioOutput

/-- Appends a frame and counts it. -/
def addFrame (s : RoomlessAudioOutput) (pcm : Bytes) (h : pcm.length = pcmBytes) : RoomlessAudioOutput :=
  { s with
    framesEpoch := s.framesEpoch.or (some s.producerEpoch)
    frames := s.frames ++ [⟨0, s.sequence, s.sequence * pcmSamples, pcm, h⟩]
    sequence := s.sequence + 1 }

/-- The segment of the buffered frames, if there are any; their epoch was set with the first one. -/
def takeSegment (s : RoomlessAudioOutput) : RoomlessAudioOutput × Option AgentOutputSegment :=
  ({ s with frames := [], framesEpoch := none },
    if s.frames = [] then none else s.framesEpoch.map fun epoch => ⟨epoch, s.frames⟩)

/-- The loop of `capture_frame`, up to a full segment for the sink or to its end. Every round
takes one frame, so the fuel is the number of whole frames. -/
def captureLoop : Nat → RoomlessAudioOutput → RoomlessAudioOutput × Option AgentOutputSegment
  | 0, s => (s, none)
  | fuel + 1, s =>
    if h : pcmBytes ≤ s.pendingPcm.length then
      let s := { s with pendingPcm := s.pendingPcm.drop pcmBytes }.addFrame (s.pendingPcm.take pcmBytes)
        (List.length_take_of_le h)
      if s.frames.length = s.maxSegmentFrames then s.takeSegment else captureLoop fuel s
    else (s, none)

/-- The rest of `capture_frame`; with a full segment it waits in the sink. -/
def captureOn (s : RoomlessAudioOutput) : RoomlessAudioOutput × Option AgentOutputSegment :=
  let (s, segment) := captureLoop (s.pendingPcm.length / pcmBytes) s
  ({ s with suspended := segment.isSome }, segment)

def captureFrame (s : RoomlessAudioOutput) (pcm : Bytes) : RoomlessAudioOutput × Option AgentOutputSegment :=
  { s with pendingPcm := s.pendingPcm ++ pcm }.captureOn

/-- `pending.ljust(PCM_SAMPLES * 2, b"\\x00")` -/
def ljust (pcm : Bytes) : Bytes := pcm ++ List.replicate (pcmBytes - pcm.length) 0

/-- What is pending is padded to a frame. More than a frame, which `PcmFrame` would not take, is
never pending between two calls. -/
def padPending (s : RoomlessAudioOutput) : RoomlessAudioOutput :=
  if h : s.pendingPcm ≠ [] ∧ s.pendingPcm.length ≤ pcmBytes then
    { s with pendingPcm := [] }.addFrame (ljust s.pendingPcm) (by simp [ljust]; omega)
  else s

/-- `flush` makes a task for the segment. -/
def flush (s : RoomlessAudioOutput) : RoomlessAudioOutput :=
  let (s, segment) := s.padPending.takeSegment
  { s with tasks := s.tasks ++ segment.toList }

inductive Op
  | capture (pcm : Bytes)
  /-- The sink lets `capture_frame` go on. -/
  | resume
  | flush
  /-- One of the tasks that have not begun does. The event loop begins them in the order they
  were made, the first one first. -/
  | start (n : Nat)
deriving DecidableEq

/-- One call up to where it waits or ends, or the beginning of one task, with the segment it
hands to the sink. -/
def perform (s : RoomlessAudioOutput) : Op → Option (RoomlessAudioOutput × Option AgentOutputSegment)
  | .capture pcm => if s.suspended then none else some (s.captureFrame pcm)
  | .resume => if s.suspended then some s.captureOn else none
  | .flush => if s.suspended then none else some (s.flush, none)
  | .start n => s.tasks[n]?.map fun segment => ({ s with tasks := s.tasks.eraseIdx n }, some segment)

abbrev Event := Op × Option AgentOutputSegment

def Step (s : RoomlessAudioOutput) (e : Event) (t : RoomlessAudioOutput) : Prop := s.perform e.1 = some (t, e.2)

/-- The segments delivered, in their order. -/
def delivered (es : List Event) : List AgentOutputSegment := es.filterMap Prod.snd

def framesOf (segments : List AgentOutputSegment) : List PcmFrame := segments.flatMap AgentOutputSegment.frames

def pcmOf (frames : List PcmFrame) : Bytes := frames.flatMap PcmFrame.pcm

/-- What was captured so far, with the zeros that a flush adds to it. -/
def extend (pcm : Bytes) : Op → Bytes
  | .capture more => pcm ++ more
  | .flush => pcm ++ List.replicate ((pcmBytes - pcm.length % pcmBytes) % pcmBytes) 0
  | _ => pcm

def captured (es : List Event) : Bytes := es.foldl (fun pcm e => extend pcm e.1) []

/-- What the claimed output looks like: the captured bytes in their order. -/
structure Conserved (es : List Event) (s : RoomlessAudioOutput) : Prop where
  pcm : pcmOf (framesOf (delivered es)) <+: captured es
  complete : s.tasks = [] → s.frames = [] → s.pendingPcm = [] → pcmOf (framesOf (delivered es)) = captured es
  contiguous : (framesOf (delivered es)).map PcmFrame.sequence = List.range (framesOf (delivered es)).length
  whole : ∀ frame ∈ framesOf (delivered es), frame.pcm.length = pcmBytes
  bounded : ∀ segment ∈ delivered es, segment.frames.length ≤ s.maxSegmentFrames

/-- The call fills a segment. -/
def Fills (s : RoomlessAudioOutput) : Op → Prop
  | .capture pcm => s.maxSegmentFrames ≤ s.frames.length + (s.pendingPcm.length + pcm.length) / pcmBytes
  | .resume => s.maxSegmentFrames ≤ s.frames.length + s.pendingPcm.length / pcmBytes
  | _ => False

/-- No segment is filled while the task of a flushed one has not begun, and the tasks begin in
the order they were made. -/
def Meets (s : RoomlessAudioOutput) : Op → Prop
  | .start n => n = 0
  | op => s.Fills op → s.tasks = []

theorem framesOf_append (gs hs : List AgentOutputSegment) : framesOf (gs ++ hs) = framesOf gs ++ framesOf hs :=
  List.flatMap_append

@[simp]
theorem framesOf_nil : framesOf [] = [] := rfl

theorem framesOf_cons (g : AgentOutputSegment) (gs : List AgentOutputSegment) :
    framesOf (g :: gs) = g.frames ++ framesOf gs := rfl

theorem pcmOf_append (fs gs : List PcmFrame) : pcmOf (fs ++ gs) = pcmOf fs ++ pcmOf gs := List.flatMap_append

@[simp]
theorem pcmOf_nil : pcmOf [] = [] := rfl

theorem pcmOf_cons (f : PcmFrame) (fs : List PcmFrame) : pcmOf (f :: fs) = f.pcm ++ pcmOf fs := rfl

theorem pcmOf_length (fs : List PcmFrame) : (pcmOf fs).length = fs.length * pcmBytes := by
  induction fs with
  | nil => simp
  | cons f fs ih => rw [pcmOf_cons, List.length_append, f.exact, ih, List.length_cons, Nat.succ_mul, Nat.add_comm]

theorem delivered_snoc (es : List Event) (e : Event) : delivered (es ++ [e]) = delivered es ++ e.2.toList := by
  rw [delivered, List.filterMap_append]
  rcases e with ⟨op, segment⟩
  cases segment <;> rfl

theorem captured_snoc (es : List Event) (e : Event) : captured (es ++ [e]) = extend (captured es) e.1 := by
  rw [captured, List.foldl_append]
  rfl

variable {s t : RoomlessAudioOutput} {segment : Option AgentOutputSegment} {es : List Event} {e : Event}

/-- What the loop of `capture_frame` did: it moved whole frames, with the next numbers, from
the pending bytes to the buffer or to a full segment. -/
structure Moved (s t : RoomlessAudioOutput) (segment : Option AgentOutputSegment) : Prop where
  settings : t.maxSegmentFrames = s.maxSegmentFrames
  tasks : t.tasks = s.tasks
  epoch : t.frames ≠ [] → t.framesEpoch.isSome = true
  frames : ∃ new, framesOf segment.toList ++ t.frames = s.frames ++ new ∧
    pcmOf new ++ t.pendingPcm = s.pendingPcm ∧ new.map PcmFrame.sequence = List.range' s.sequence new.length ∧
    t.sequence = s.sequence + new.length
  short : t.frames.length < t.maxSegmentFrames
  full : ∀ g ∈ segment, g.frames.length = s.maxSegmentFrames
  emits : segment.isSome = true ↔ s.maxSegmentFrames ≤ s.frames.length + s.pendingPcm.length / pcmBytes
  rest : segment = none → t.pendingPcm.length < pcmBytes

theorem takeSegment_frames (h : s.frames ≠ [] → s.framesEpoch.isSome = true) :
    framesOf s.takeSegment.2.toList = s.frames := by
  rw [takeSegment]
  by_cases hnil : s.frames = []
  · simp [hnil]
  · obtain ⟨epoch, hepoch⟩ := Option.isSome_iff_exists.mp (h hnil)
    simp [hnil, hepoch, framesOf]

theorem takeSegment_mem {g : AgentOutputSegment} (h : g ∈ s.takeSegment.2) : g.frames = s.frames ∧ s.frames ≠ [] := by
  rw [takeSegment] at h
  by_cases hnil : s.frames = []
  · simp [hnil] at h
  · rw [if_neg hnil] at h
    obtain ⟨epoch, -, rfl⟩ := Option.mem_map.mp h
    exact ⟨rfl, hnil⟩

theorem takeSegment_isSome (hnil : s.frames ≠ []) (h : s.framesEpoch.isSome = true) : s.takeSegment.2.isSome = true := by
  rw [takeSegment, if_neg hnil, Option.isSome_map]
  exact h

theorem addFrame_epoch {pcm : Bytes} {h : pcm.length = pcmBytes} : (s.addFrame pcm h).framesEpoch.isSome = true := by
  rw [addFrame]
  cases s.framesEpoch <;> rfl

/-- The round of the loop that takes a frame, in front of what the rest of the loop does. -/
theorem Moved.cons (h : pcmBytes ≤ s.pendingPcm.length)
    (hm : Moved ({ s with pendingPcm := s.pendingPcm.drop pcmBytes }.addFrame (s.pendingPcm.take pcmBytes)
      (List.length_take_of_le h)) t segment) : Moved s t segment := by
  obtain ⟨new, hline, hbytes, hseq, hcount⟩ := hm.frames
  refine ⟨hm.settings, hm.tasks, hm.epoch, ?_, hm.short, hm.full, ?_, hm.rest⟩
  · refine ⟨⟨0, s.sequence, s.sequence * pcmSamples, s.pendingPcm.take pcmBytes, List.length_take_of_le h⟩ :: new,
      ?_, ?_, ?_, ?_⟩
    · rw [hline]
      simp [addFrame]
    · rw [pcmOf_cons, List.append_assoc, hbytes]
      exact List.take_append_drop pcmBytes s.pendingPcm
    · rw [List.map_cons, hseq, List.length_cons, List.range'_succ]
      rfl
    · rw [hcount, List.length_cons]
      simp only [addFrame]
      omega
  · have hdiv : s.pendingPcm.length / pcmBytes = (s.pendingPcm.length - pcmBytes) / pcmBytes + 1 :=
      Nat.div_eq_sub_div (by decide) h
    rw [hm.emits]
    simp only [addFrame, List.length_append, List.length_drop, List.length_singleton, hdiv]
    omega

theorem captureLoop_moved (fuel : Nat) (hfuel : fuel = s.pendingPcm.length / pcmBytes)
    (hshort : s.frames.length < s.maxSegmentFrames) (hepoch : s.frames ≠ [] → s.framesEpoch.isSome = true) :
    Moved s (captureLoop fuel s).1 (captureLoop fuel s).2 := by
  induction fuel generalizing s with
  | zero =>
    have hless : s.pendingPcm.length < pcmBytes := by
      rw [← Nat.div_eq_zero_iff_lt (by decide), ← hfuel]
    refine ⟨rfl, rfl, hepoch, ⟨[], ?_, rfl, rfl, rfl⟩, hshort, ?_, ?_, fun _ => hless⟩
    · simp [captureLoop]
    · intro g hg
      cases hg
    · simp [captureLoop, ← hfuel, hshort]
  | succ fuel ih =>
    have hmore : pcmBytes ≤ s.pendingPcm.length := by
      have hpos : 0 < s.pendingPcm.length / pcmBytes := by omega
      exact (Nat.div_pos_iff.mp hpos).2
    have hdiv : s.pendingPcm.length / pcmBytes = (s.pendingPcm.length - pcmBytes) / pcmBytes + 1 :=
      Nat.div_eq_sub_div (by decide) hmore
    rw [captureLoop, dif_pos hmore]
    apply Moved.cons hmore
    simp only
    generalize hround : ({ s with pendingPcm := s.pendingPcm.drop pcmBytes } : RoomlessAudioOutput).addFrame
      (s.pendingPcm.take pcmBytes) (List.length_take_of_le hmore) = r
    have hlength : r.frames.length = s.frames.length + 1 := by
      rw [← hround, addFrame]
      exact List.length_append
    have hmax : r.maxSegmentFrames = s.maxSegmentFrames := by rw [← hround, addFrame]
    have hpending : r.pendingPcm = s.pendingPcm.drop pcmBytes := by rw [← hround, addFrame]
    have hset : r.framesEpoch.isSome = true := by
      rw [← hround]
      exact addFrame_epoch
    by_cases hfull : r.frames.length = r.maxSegmentFrames
    · have hnil : r.frames ≠ [] := by
        intro h
        rw [h] at hlength
        simp at hlength
      rw [if_pos hfull]
      refine ⟨rfl, rfl, fun h => absurd rfl h, ⟨[], ?_, rfl, rfl, rfl⟩, r.positive, ?_, ?_, ?_⟩
      · rw [takeSegment_frames fun _ => hset]
        rfl
      · intro g hg
        rw [(takeSegment_mem hg).1, hfull]
      · rw [takeSegment_isSome hnil hset, hfull]
        simp
      · intro hnone
        have hsome := takeSegment_isSome hnil hset
        rw [hnone] at hsome
        cases hsome
    · rw [if_neg hfull]
      apply ih
      · rw [hpending, List.length_drop]
        omega
      · omega
      · exact fun _ => hset

/-- The rest of a call, with what the loop had before it. -/
theorem captureOn_moved (hshort : s.frames.length < s.maxSegmentFrames)
    (hepoch : s.frames ≠ [] → s.framesEpoch.isSome = true) :
    Moved s s.captureOn.1 s.captureOn.2 ∧ s.captureOn.1.suspended = s.captureOn.2.isSome := by
  have hm := captureLoop_moved (s.pendingPcm.length / pcmBytes) rfl hshort hepoch
  exact ⟨⟨hm.settings, hm.tasks, hm.epoch, hm.frames, hm.short, hm.full, hm.emits, hm.rest⟩, rfl⟩

theorem range_append (m n : Nat) : List.range m ++ List.range' m n = List.range (m + n) := by
  have h := @List.range'_append_1 0 m n
  rwa [Nat.zero_add, ← List.range_eq_range', ← List.range_eq_range'] at h

/-- What holds while segments were delivered in the order they were made: delivered, waiting
and buffered frames are the captured bytes, numbered from zero on. -/
structure Sound (es : List Event) (s : RoomlessAudioOutput) : Prop where
  numbered : (framesOf (delivered es ++ s.tasks) ++ s.frames).map PcmFrame.sequence = List.range s.sequence
  bytes : pcmOf (framesOf (delivered es ++ s.tasks) ++ s.frames) ++ s.pendingPcm = captured es
  filled : ∀ g ∈ s.tasks, g.frames ≠ []
  bounded : ∀ g ∈ delivered es ++ s.tasks, g.frames.length ≤ s.maxSegmentFrames
  short : s.frames.length < s.maxSegmentFrames
  epoch : s.frames ≠ [] → s.framesEpoch.isSome = true
  settled : s.suspended = false → s.pendingPcm.length < pcmBytes

/-- A sound output is what is claimed. -/
theorem Sound.conserved (h : Sound es s) : Conserved es s := by
  have hnumbered := h.numbered
  rw [framesOf_append, List.append_assoc] at hnumbered
  have hbytes := h.bytes
  rw [framesOf_append, List.append_assoc, pcmOf_append, List.append_assoc] at hbytes
  refine ⟨⟨_, hbytes⟩, ?_, ?_, fun frame _ => frame.exact, ?_⟩
  · intro htasks hframes hpending
    rw [← hbytes, htasks, hframes, hpending]
    simp
  · have htake := congrArg (List.take (framesOf (delivered es)).length) hnumbered
    have hlength := congrArg List.length hnumbered
    rw [List.map_append, List.take_left' (List.length_map _), List.take_range] at htake
    simp only [List.length_map, List.length_append, List.length_range] at hlength
    rw [htake, Nat.min_eq_left (by omega)]
  · exact fun g hg => h.bounded g (List.mem_append_left _ hg)

/-- With a filled segment in order, what the loop moved keeps the output sound. -/
theorem Sound.moved {op : Op} (h : Sound es s) (pcm : Bytes) (hop : extend (captured es) op = captured es ++ pcm)
    (hm : Moved { s with pendingPcm := s.pendingPcm ++ pcm } t segment) (hsuspended : t.suspended = segment.isSome)
    (horder : segment.isSome = true → s.tasks = []) : Sound (es ++ [(op, segment)]) t := by
  obtain ⟨new, hline, hbytes, hseq, hcount⟩ := hm.frames
  have hmoved : framesOf (delivered (es ++ [(op, segment)]) ++ t.tasks) ++ t.frames =
      framesOf (delivered es ++ s.tasks) ++ s.frames ++ new := by
    rw [delivered_snoc, hm.tasks, List.append_assoc, List.append_assoc, ← hline]
    cases segment with
    | none => simp
    | some g => simp [horder rfl, framesOf_append]
  refine ⟨?_, ?_, ?_, ?_, hm.short, hm.epoch, ?_⟩
  · rw [hmoved, List.map_append, h.numbered, hseq, hcount]
    exact range_append s.sequence new.length
  · rw [hmoved, pcmOf_append, List.append_assoc, hbytes, captured_snoc, hop, ← h.bytes]
    simp
  · rw [hm.tasks]
    exact h.filled
  · intro g hg
    rw [delivered_snoc, hm.tasks, List.mem_append, List.mem_append] at hg
    rw [hm.settings]
    rcases hg with (hg | hg) | hg
    · exact h.bounded g (List.mem_append_left _ hg)
    · exact (hm.full g (Option.mem_toList.mp hg)).le
    · exact h.bounded g (List.mem_append_right _ hg)
  · intro hfalse
    rw [hsuspended, Option.isSome_eq_false_iff, Option.isNone_iff_eq_none] at hfalse
    exact hm.rest hfalse

/-- What the padding of `flush` did: it made a frame of the pending bytes, if there are any. -/
structure Padded (s r : RoomlessAudioOutput) (new : List PcmFrame) : Prop where
  bytes : pcmOf new = s.pendingPcm ++ List.replicate ((pcmBytes - s.pendingPcm.length) % pcmBytes) 0
  numbered : new.map PcmFrame.sequence = List.range' s.sequence new.length
  count : r.sequence = s.sequence + new.length
  one : new.length ≤ 1
  frames : r.frames = s.frames ++ new
  epoch : r.frames ≠ [] → r.framesEpoch.isSome = true
  tasks : r.tasks = s.tasks
  settings : r.maxSegmentFrames = s.maxSegmentFrames
  pending : r.pendingPcm = []

theorem padPending_padded (hless : s.pendingPcm.length < pcmBytes)
    (hepoch : s.frames ≠ [] → s.framesEpoch.isSome = true) : ∃ new, Padded s s.padPending new := by
  by_cases hnil : s.pendingPcm = []
  · have hsame : s.padPending = s := by rw [padPending, dif_neg fun h => h.1 hnil]
    rw [hsame]
    exact ⟨[], by simp [hnil], rfl, rfl, by simp, by simp, hepoch, rfl, rfl, hnil⟩
  · have hpos : 0 < s.pendingPcm.length := List.length_pos_iff.mpr hnil
    have hpad : s.pendingPcm ≠ [] ∧ s.pendingPcm.length ≤ pcmBytes := ⟨hnil, hless.le⟩
    rw [padPending, dif_pos hpad]
    refine ⟨[⟨0, s.sequence, s.sequence * pcmSamples, ljust s.pendingPcm, by simp [ljust]; omega⟩], ?_, rfl, rfl, le_rfl,
      rfl, fun _ => addFrame_epoch, rfl, rfl, rfl⟩
    rw [pcmOf_cons, pcmOf_nil, List.append_nil, Nat.mod_eq_of_lt (by omega)]
    rfl

theorem Sound.flush (h : Sound es s) (hsuspended : s.suspended = false) : Sound (es ++ [(.flush, none)]) s.flush := by
  have hless := h.settled hsuspended
  have hlength : (captured es).length % pcmBytes = s.pendingPcm.length := by
    rw [← h.bytes, List.length_append, pcmOf_length, Nat.add_comm, Nat.add_mul_mod_self_right, Nat.mod_eq_of_lt hless]
  obtain ⟨new, hp⟩ := padPending_padded hless h.epoch
  have htaken := takeSegment_frames hp.epoch
  have hflush : s.flush.tasks = s.tasks ++ s.padPending.takeSegment.2.toList := by
    rw [← hp.tasks]
    rfl
  have hline : framesOf (delivered (es ++ [(.flush, none)]) ++ s.flush.tasks) ++ s.flush.frames =
      framesOf (delivered es ++ s.tasks) ++ s.frames ++ new := by
    have hnone : s.flush.frames = [] := rfl
    rw [delivered_snoc, hflush, hnone, Option.toList_none, List.append_nil, List.append_nil, ← List.append_assoc,
      framesOf_append _ (Option.toList _), htaken, hp.frames, List.append_assoc]
  refine ⟨?_, ?_, ?_, ?_, s.padPending.positive, fun hne => absurd rfl hne, ?_⟩
  · have hcount : s.flush.sequence = s.sequence + new.length := hp.count
    rw [hline, List.map_append, h.numbered, hp.numbered, hcount]
    exact range_append s.sequence new.length
  · have hpending : s.flush.pendingPcm = [] := hp.pending
    rw [hline, pcmOf_append, hp.bytes, captured_snoc, extend, hlength, ← h.bytes, hpending]
    simp
  · intro g hg
    rw [hflush, List.mem_append, Option.mem_toList] at hg
    rcases hg with hg | hg
    · exact h.filled g hg
    · obtain ⟨he, hne⟩ := takeSegment_mem hg
      rw [he]
      exact hne
  · intro g hg
    have hmax : s.flush.maxSegmentFrames = s.maxSegmentFrames := hp.settings
    rw [delivered_snoc, hflush, Option.toList_none, List.append_nil, ← List.append_assoc, List.mem_append,
      Option.mem_toList] at hg
    rw [hmax]
    rcases hg with hg | hg
    · exact h.bounded g hg
    · rw [(takeSegment_mem hg).1, hp.frames, List.length_append]
      have hshort := h.short
      have hone := hp.one
      omega
  · intro _
    have hpending : s.flush.pendingPcm = [] := hp.pending
    rw [hpending]
    decide

theorem Sound.start {g : AgentOutputSegment} {rest : List AgentOutputSegment} (h : Sound es s)
    (htasks : s.tasks = g :: rest) : Sound (es ++ [(.start 0, some g)]) { s with tasks := rest } := by
  have hline : delivered (es ++ [(.start 0, some g)]) ++ rest = delivered es ++ s.tasks := by
    rw [delivered_snoc, htasks]
    simp
  refine ⟨?_, ?_, ?_, ?_, h.short, h.epoch, h.settled⟩
  · rw [hline]
    exact h.numbered
  · rw [hline, captured_snoc]
    exact h.bytes
  · intro g' hg
    apply h.filled
    rw [htasks]
    exact List.mem_cons_of_mem _ hg
  · rw [hline]
    exact h.bounded

/-- A segment is not delivered before an older one and numbered on from what was delivered. -/
theorem skipped {front waiting filled rest : List PcmFrame} {n : Nat}
    (h : (front ++ waiting ++ (filled ++ rest)).map PcmFrame.sequence = List.range n) (hwaiting : waiting ≠ [])
    (hfilled : filled ≠ []) :
    (front ++ filled).map PcmFrame.sequence ≠ List.range (front ++ filled).length := by
  intro hcontiguous
  obtain ⟨frame, more, rfl⟩ := List.exists_cons_of_ne_nil hfilled
  have hpos : 0 < waiting.length := List.length_pos_iff.mpr hwaiting
  have hlate := congrArg (fun l => l[(front ++ waiting).length]?) h
  have hsoon := congrArg (fun l => l[front.length]?) hcontiguous
  have hn : (front ++ waiting).length < n := by
    have hlen := congrArg List.length h
    simp only [List.length_map, List.length_append, List.length_cons, List.length_range] at hlen ⊢
    omega
  simp only [List.map_append, List.map_cons, List.cons_append, List.length_append] at hlate hsoon hn
  rw [List.getElem?_append_right (by simp), List.getElem?_range hn] at hlate
  rw [List.getElem?_append_right (by simp), List.getElem?_range (by simp)] at hsoon
  simp at hlate hsoon
  omega

theorem moved_nil (hm : Moved s t segment) : Moved { s with pendingPcm := s.pendingPcm ++ [] } t segment := by
  rwa [List.append_nil]

theorem captureFrame_moved (h : Sound es s) (pcm : Bytes) :
    Moved { s with pendingPcm := s.pendingPcm ++ pcm } (s.captureFrame pcm).1 (s.captureFrame pcm).2 ∧
      (s.captureFrame pcm).1.suspended = (s.captureFrame pcm).2.isSome := by
  rw [captureFrame]
  exact captureOn_moved h.short h.epoch

/-- One step: the call is in order, or a segment is delivered before an older one. -/
theorem sound_step (h : Sound es s) (hstep : Step s e t) (hmeets : s.Meets e.1) : Sound (es ++ [e]) t := by
  obtain ⟨op, segment⟩ := e
  cases op with
  | capture pcm =>
    obtain ⟨-, hs⟩ := Option.ite_none_left_eq_some.mp hstep
    obtain ⟨rfl, rfl⟩ := Prod.mk.inj (Option.some.inj hs)
    obtain ⟨hm, hsuspended⟩ := captureFrame_moved h pcm
    refine h.moved pcm rfl hm hsuspended fun hsome => hmeets ?_
    have hfull := hm.emits.mp hsome
    rwa [List.length_append] at hfull
  | resume =>
    obtain ⟨-, hs⟩ := Option.ite_none_right_eq_some.mp hstep
    obtain ⟨rfl, rfl⟩ := Prod.mk.inj (Option.some.inj hs)
    obtain ⟨hm, hsuspended⟩ := captureOn_moved h.short h.epoch
    exact h.moved [] (List.append_nil _).symm (moved_nil hm) hsuspended fun hsome => hmeets (hm.emits.mp hsome)
  | flush =>
    obtain ⟨hfalse, hs⟩ := Option.ite_none_left_eq_some.mp hstep
    obtain ⟨rfl, rfl⟩ := Prod.mk.inj (Option.some.inj hs)
    exact h.flush (Bool.not_eq_true _ ▸ hfalse)
  | start n =>
    obtain rfl : n = 0 := hmeets
    obtain ⟨g, hg, hs⟩ := Option.map_eq_some_iff.mp hstep
    obtain ⟨rfl, rfl⟩ := Prod.mk.inj hs
    cases htasks : s.tasks with
    | nil =>
      rw [htasks] at hg
      cases hg
    | cons first rest =>
      rw [htasks] at hg
      obtain rfl := Option.some.inj hg
      exact h.start htasks

/-- The numbers of the delivered frames have no gap and no repetition. -/
def Contiguous (es : List Event) : Prop :=
  (framesOf (delivered es)).map PcmFrame.sequence = List.range (framesOf (delivered es)).length

theorem contiguous_of_snoc (h : Contiguous (es ++ [e])) : Contiguous es := by
  rw [Contiguous, delivered_snoc, framesOf_append] at h
  have htake := congrArg (List.take (framesOf (delivered es)).length) h
  rw [List.map_append, List.take_left' (List.length_map _), List.take_range, List.length_append,
    Nat.min_eq_left (Nat.le_add_right _ _)] at htake
  exact htake

theorem framesOf_ne_nil {gs : List AgentOutputSegment} (hgs : gs ≠ []) (h : ∀ g ∈ gs, g.frames ≠ []) :
    framesOf gs ≠ [] := by
  obtain ⟨g, rest, rfl⟩ := List.exists_cons_of_ne_nil hgs
  rw [framesOf_cons]
  exact List.append_ne_nil_of_left_ne_nil (h g List.mem_cons_self) _

theorem not_contiguous_of_moved {op : Op} {pcm : Bytes} (h : Sound es s)
    (hm : Moved { s with pendingPcm := s.pendingPcm ++ pcm } t segment) (hsome : segment.isSome = true)
    (htasks : s.tasks ≠ []) : ¬Contiguous (es ++ [(op, segment)]) := by
  obtain ⟨new, hline, -, hseq, -⟩ := hm.frames
  obtain ⟨g, rfl⟩ := Option.isSome_iff_exists.mp hsome
  have hone : framesOf (some g).toList = g.frames := List.append_nil _
  have hfilled : g.frames ≠ [] := by
    have hfull := hm.full g rfl
    have hpos := s.positive
    intro hnil
    rw [hnil] at hfull
    simp only [List.length_nil] at hfull
    omega
  have hall : (framesOf (delivered es) ++ framesOf s.tasks ++ (g.frames ++ t.frames)).map PcmFrame.sequence =
      List.range (s.sequence + new.length) := by
    rw [← hone, hline, ← framesOf_append, ← List.append_assoc, List.map_append, h.numbered, hseq]
    exact range_append s.sequence new.length
  rw [Contiguous, delivered_snoc, framesOf_append, hone]
  exact skipped hall (framesOf_ne_nil htasks h.filled) hfilled

theorem not_contiguous_of_not_meets (h : Sound es s) (hstep : Step s e t) (hmeets : ¬s.Meets e.1) :
    ¬Contiguous (es ++ [e]) := by
  obtain ⟨op, segment⟩ := e
  cases op with
  | capture pcm =>
    obtain ⟨-, hs⟩ := Option.ite_none_left_eq_some.mp hstep
    obtain ⟨rfl, rfl⟩ := Prod.mk.inj (Option.some.inj hs)
    obtain ⟨hfills, htasks⟩ := Classical.not_imp.mp hmeets
    obtain ⟨hm, -⟩ := captureFrame_moved h pcm
    apply not_contiguous_of_moved h hm _ htasks
    rw [hm.emits, List.length_append]
    exact hfills
  | resume =>
    obtain ⟨-, hs⟩ := Option.ite_none_right_eq_some.mp hstep
    obtain ⟨rfl, rfl⟩ := Prod.mk.inj (Option.some.inj hs)
    obtain ⟨hfills, htasks⟩ := Classical.not_imp.mp hmeets
    obtain ⟨hm, -⟩ := captureOn_moved h.short h.epoch
    exact not_contiguous_of_moved h (moved_nil hm) (hm.emits.mpr hfills) htasks
  | flush => exact absurd (fun hfills : False => hfills.elim) hmeets
  | start n =>
    obtain ⟨g, hg, hs⟩ := Option.map_eq_some_iff.mp hstep
    obtain ⟨rfl, rfl⟩ := Prod.mk.inj hs
    obtain ⟨hn, rfl⟩ := List.getElem?_eq_some_iff.mp hg
    have hsplit : s.tasks = s.tasks.take n ++ s.tasks[n] :: s.tasks.drop (n + 1) := by
      rw [List.cons_getElem_drop_succ, List.take_append_drop]
    have hbefore : framesOf (s.tasks.take n) ≠ [] := by
      apply framesOf_ne_nil
      · have hlen : (s.tasks.take n).length = n := List.length_take_of_le hn.le
        intro hnil
        rw [hnil] at hlen
        exact hmeets hlen.symm
      · exact fun g hg => h.filled g (List.mem_of_mem_take hg)
    have hnumbered := h.numbered
    rw [hsplit, framesOf_append, framesOf_append, framesOf_cons, List.append_assoc, List.append_assoc,
      List.append_assoc, ← List.append_assoc] at hnumbered
    rw [Contiguous, delivered_snoc, framesOf_append]
    have hone : framesOf (some s.tasks[n]).toList = s.tasks[n].frames := List.append_nil _
    rw [hone]
    exact skipped hnumbered hbefore (h.filled _ (List.getElem_mem hn))

/-- An output with nothing captured. -/
def initial (maxSegmentFrames : Nat) (h : 0 < maxSegmentFrames) : RoomlessAudioOutput :=
  { maxSegmentFrames := maxSegmentFrames, positive := h }

theorem sound_initial {n : Nat} {h : 0 < n} : Sound [] (initial n h) := by
  refine ⟨rfl, rfl, ?_, ?_, h, fun hne => absurd rfl hne, ?_⟩
  · simp [initial]
  · simp [initial, delivered]
  · simp [initial, pcmBytes, pcmSamples]

/-- A step with nothing delivered out of turn. -/
def MeetingStep (s : RoomlessAudioOutput) (e : Event) (t : RoomlessAudioOutput) : Prop := s.Meets e.1 ∧ Step s e t

theorem run_sound_or_broken {n : Nat} {hn : 0 < n} (h : Run Step (initial n hn) es s) :
    Sound es s ∧ Run MeetingStep (initial n hn) es s ∨ ¬Contiguous es ∧ ¬Run MeetingStep (initial n hn) es s := by
  refine h.invariant (R := fun es s => Sound es s ∧ Run MeetingStep (initial n hn) es s ∨
    ¬Contiguous es ∧ ¬Run MeetingStep (initial n hn) es s) (.inl ⟨sound_initial, .nil⟩) ?_
  rintro es s e t hrun (⟨hsound, hmeeting⟩ | ⟨hbroken, hnot⟩) hstep
  all_goals
    have hbefore : ∀ u, Run MeetingStep (initial n hn) es u → u = s := fun u hu =>
      (hu.mono fun _ _ _ hm => hm.2).unique
        (fun _ _ _ _ h h' => (Prod.mk.inj (Option.some.inj (h.symm.trans h'))).1) hrun
  · by_cases hmeets : s.Meets e.1
    · exact .inl ⟨sound_step hsound hstep hmeets, hmeeting.snoc ⟨hmeets, hstep⟩⟩
    · refine .inr ⟨not_contiguous_of_not_meets hsound hstep hmeets, fun hall => ?_⟩
      obtain ⟨u, hu, hlast⟩ := Run.snoc_iff.mp hall
      obtain rfl := hbefore u hu
      exact hmeets hlast.1
  · refine .inr ⟨fun hcontiguous => hbroken (contiguous_of_snoc hcontiguous), fun hall => ?_⟩
    obtain ⟨u, hu, -⟩ := Run.snoc_iff.mp hall
    obtain rfl := hbefore u hu
    exact hnot hu

/-- The captured bytes are delivered in their order, in whole and contiguously numbered frames,
exactly if no segment was delivered before one that was flushed earlier. -/
theorem output_conserved_iff {n : Nat} {hn : 0 < n} (h : Run Step (initial n hn) es s) :
    Conserved es s ↔ Run MeetingStep (initial n hn) es s := by
  rcases run_sound_or_broken h with ⟨hsound, hmeeting⟩ | ⟨hbroken, hnot⟩
  · exact ⟨fun _ => hmeeting, fun _ => hsound.conserved⟩
  · exact ⟨fun hc => absurd hc.contiguous hbroken, fun hall => absurd hall hnot⟩

/-- What a short capture and a flush leave. -/
def flushed : RoomlessAudioOutput := ((initial 1 Nat.one_pos).captureFrame [1, 2]).1.flush

theorem flushed_run : Run MeetingStep (initial 1 Nat.one_pos) [(.capture [1, 2], none), (.flush, none)] flushed := by
  have hcapture : MeetingStep (initial 1 Nat.one_pos) (.capture [1, 2], none)
      ((initial 1 Nat.one_pos).captureFrame [1, 2]).1 := ⟨fun _ => rfl, rfl⟩
  have hflush : MeetingStep ((initial 1 Nat.one_pos).captureFrame [1, 2]).1 (.flush, none) flushed :=
    ⟨fun hfills => hfills.elim, rfl⟩
  exact Run.cons_iff.mpr ⟨_, hcapture, Run.single hflush⟩

/-- The task of the flushed segment begins. -/
theorem output_conserved_iff_flushed : ∃ g s,
    Conserved [(.capture [1, 2], none), (.flush, none), (.start 0, some g)] s ∧ g.frames.length = 1 := by
  obtain ⟨g, hg, hone⟩ : ∃ g, flushed.tasks = [g] ∧ g.frames.length = 1 := ⟨_, rfl, rfl⟩
  have hstart : MeetingStep flushed (.start 0, some g) { flushed with tasks := [] } := by
    refine ⟨rfl, ?_⟩
    rw [Step, perform, hg]
    rfl
  have hrun := flushed_run.snoc hstart
  exact ⟨g, _, (output_conserved_iff (hrun.mono fun _ _ _ hm => hm.2)).mpr hrun, hone⟩

theorem overtakes {pcm : Bytes} (hpcm : pcm.length = pcmBytes) : ∃ g s,
    Run Step (initial 1 Nat.one_pos) [(.capture [1, 2], none), (.flush, none), (.capture pcm, some g)] s ∧
    ¬Conserved [(.capture [1, 2], none), (.flush, none), (.capture pcm, some g)] s := by
  have hrun : Run Step (initial 1 Nat.one_pos) _ flushed := flushed_run.mono fun _ _ _ hm => hm.2
  obtain ⟨hsound, -⟩ | ⟨-, hnot⟩ := run_sound_or_broken hrun
  · have hfills : flushed.Fills (.capture pcm) := by
      rw [Fills, hpcm]
      decide
    obtain ⟨hm, -⟩ := captureFrame_moved hsound pcm
    obtain ⟨g, hg⟩ := Option.isSome_iff_exists.mp (hm.emits.mpr (by rwa [List.length_append]))
    have hstep : Step flushed (.capture pcm, some g) (flushed.captureFrame pcm).1 := by
      rw [← hg]
      rfl
    have hmeets : ¬flushed.Meets (.capture pcm) := fun hmeets => by cases hmeets hfills
    exact ⟨g, _, hrun.snoc hstep, fun hc => not_contiguous_of_not_meets hsound hstep hmeets hc.contiguous⟩
  · exact absurd flushed_run hnot

/-- A full segment is delivered before the task of the flushed one begins. -/
theorem flushed_segment_overtaken : ∃ g s,
    Run Step (initial 1 Nat.one_pos)
      [(.capture [1, 2], none), (.flush, none), (.capture (List.replicate 640 3), some g)] s ∧
    ¬Conserved [(.capture [1, 2], none), (.flush, none), (.capture (List.replicate 640 3), some g)] s :=
  overtakes List.length_replicate

end RoomlessAudioOutput

end RealtimeVoice.Worker.RoomlessOutput
