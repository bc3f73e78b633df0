import RealtimeVoice.Worker.FunAsrStream

namespace RealtimeVoice.Worker.FunAsr.Standalone

open RealtimeVoice.Base RealtimeVoice.Base.Runs

/-- A configuration of the standalone protocol, as its `__post_init__` accepts it. -/
structure StandaloneConfig extends FunASRStreamConfig where
  sampleRate : audioFs = 16000
  packets : sendChunkMs = 20 ∨ sendChunkMs = 60
deriving DecidableEq

inductive StandaloneMessageKind
  | ignore
  | interim
  | final
  | noResult
  | retryableError
  | fatalError
deriving DecidableEq

/-- A message as `_classify_standalone_message` classifies it. -/
structure StandaloneMessage where
  kind : StandaloneMessageKind
  text : String := ""
  reason : String := ""
  safeCode : String := ""
deriving DecidableEq

/-- `" ".join(text.split())` -/
def normalizedText (text : String) : String :=
  String.ofList ([' '].intercalate ((text.toList.splitOnP isSpace).filter (· ≠ [])))

/-- What the runner sends on the connection of a segment. -/
inductive Message
  | start
  | audio (chunk : Bytes)
  | finish
deriving DecidableEq

/-- Where the caller's last call stands. -/
inductive Caller
  | idle
  /-- The loop of `push_audio_wait`. -/
  | pushing
  /-- `flush` waits to put the padded tail, or its marker. -/
  | tailing
  | flushing
  /-- `aclose` waits to put its marker, or for the runner. -/
  | closing
  | joining
deriving DecidableEq

inductive Runner
  | waiting
  | sending (messages : List Message)
  /-- `_finish_segment`, before and after its message; the last one if the close marker was taken. -/
  | finishing (last : Bool)
  | awaiting (last : Bool)
  /-- What follows the loop, after a cancellation or an error. -/
  | ending (cancelled : Bool)
  | ended (cancelled : Bool)
deriving DecidableEq

def Runner.todo : Runner → List Message
  | .sending messages => messages
  | .finishing _ => [.finish]
  | _ => []

def Runner.cancelled : Runner → Bool
  | .ending cancelled => cancelled
  | .ended cancelled => cancelled
  | _ => false

def Runner.hasEnded : Runner → Bool
  | .ended _ => true
  | _ => false

/-- What `_receive_segment` keeps. -/
structure Reading where
  segmentId : Nat
  requestId : Nat
  lastNormalizedInterim : Option String := none
deriving DecidableEq

inductive Receiver
  | none
  | receiving (reading : Reading)
  /-- Waits to put the event, the last one of the segment or not. -/
  | putting (reading : Reading) (event : RecognitionEvent) (last : Bool)
  | done
  | failed
deriving DecidableEq

/-- A started `StandaloneFunASRStream`, with where its tasks stand and what the runner sent. -/
structure StandaloneFunASRStream extends AudioInput where
  events : EventQueue RecognitionEvent
  connection : Bool := false
  nextId : Nat := 0
  caller : Caller := .idle
  runner : Runner := .waiting
  receiver : Receiver := .none
  wire : List Message := []

/-- The bytes of 20 ms. -/
def minimumPacketBytes (c : FunASRStreamConfig) : Nat := c.audioFs * 2 * 20 / 1000

/-- The length that a tail is padded to. -/
def tailTarget (c : FunASRStreamConfig) (length : Nat) : Nat :=
  if length ≤ minimumPacketBytes c then minimumPacketBytes c else c.sendChunkBytes

/-- The chunk of `_queue_padded_tail` and `_queue_padded_tail_wait`. -/
def paddedTail (c : FunASRStreamConfig) (pending : Bytes) : Bytes :=
  pending ++ List.replicate (tailTarget c pending.length - pending.length) 0

namespace StandaloneFunASRStream

def setFatal (s : StandaloneFunASRStream) (error : ProviderError) : StandaloneFunASRStream :=
  { s with toAudioInput := s.toAudioInput.setFatal error }

/-- `push_audio`, or nothing where it raises before it changes anything. -/
def pushAudio (s : StandaloneFunASRStream) (pcm : Bytes) : Option StandaloneFunASRStream :=
  if s.closed then none
  else if s.fatal.isSome then none
  else if pcm = [] then some s
  else some { s with toAudioInput := s.toAudioInput.push pcm }

/-- `push_audio_wait` up to its loop. -/
def pushAudioWait (s : StandaloneFunASRStream) (pcm : Bytes) : Option StandaloneFunASRStream :=
  if s.closed then none
  else if s.fatal.isSome then none
  else if pcm = [] then some s
  else some { s with pendingAudio := s.pendingAudio ++ pcm, caller := .pushing }

/-- The end of its loop. -/
def pushEnds (s : StandaloneFunASRStream) : Option StandaloneFunASRStream :=
  if s.caller = .pushing ∧ s.pendingAudio.length < s.config.sendChunkBytes then some { s with caller := .idle }
  else none

/-- `flush` up to where it waits to put the tail or its marker. -/
def flush (s : StandaloneFunASRStream) : Option StandaloneFunASRStream :=
  if s.closed then none
  else some { s with caller := if s.pendingAudio = [] then .flushing else .tailing }

/-- `aclose` up to where it waits to put its marker, or for the runner that it cancelled as the
tail found no place. -/
def aclose (s : StandaloneFunASRStream) : Option StandaloneFunASRStream :=
  if s.closed then none
  else if s.fatal.isSome ∨ s.pendingAudio = [] then some { s with closed := true, caller := .closing }
  else
    let input := { s.toAudioInput with closed := true, pendingAudio := [] }
    let input' := input.queueAudio (paddedTail s.config s.pendingAudio)
    if input.hasRoom then some { s with toAudioInput := input', caller := .closing }
    else some { s with toAudioInput := input', caller := .joining, runner := .ending true }

/-- The caller puts what it waits to put, and raises if the stream has failed meanwhile. -/
def putItem (s : StandaloneFunASRStream) : Option StandaloneFunASRStream :=
  if ¬s.hasRoom then none
  else
    match s.caller with
    | .pushing =>
      if s.pendingAudio.length < s.config.sendChunkBytes then none
      else
        let put := { s with audio := s.audio ++ [Item.audio (s.pendingAudio.take s.config.sendChunkBytes)] }
        if s.fatal.isSome then some { put with caller := .idle }
        else some { put with pendingAudio := s.pendingAudio.drop s.config.sendChunkBytes }
    | .tailing =>
      let put := { s with audio := s.audio ++ [Item.audio (paddedTail s.config s.pendingAudio)] }
      if s.fatal.isSome then some { put with caller := .idle }
      else some { put with pendingAudio := [], caller := .flushing }
    | .flushing => some { s with audio := s.audio ++ [.flushMarker], caller := .idle }
    | .closing => some { s with audio := s.audio ++ [.closeMarker], caller := .joining }
    | _ => none

/-- It has waited too long. -/
def putItemTimeout (s : StandaloneFunASRStream) : Option StandaloneFunASRStream :=
  match s.caller with
  | .idle => none
  | .joining => none
  | .closing => some { s.setFatal audioFull with caller := .joining, runner := .ending true }
  | _ => some { s.setFatal audioFull with caller := .idle }

/-- What the runner sends of a chunk; the connection is opened with the segment. -/
def audioMessages (connection : Bool) (chunk : Bytes) : List Message :=
  if connection then [.audio chunk] else [.start, .audio chunk]

/-- The runner takes an item. A receiver that failed makes it fail, too. -/
def takeItem (s : StandaloneFunASRStream) (reason : ProviderError) : Option StandaloneFunASRStream :=
  match s.runner, s.audio with
  | .waiting, .audio chunk :: audio =>
    if s.receiver = .failed then some { s.setFatal reason with audio := audio, runner := .ending true }
    else some { s with audio := audio, runner := .sending (audioMessages s.connection chunk) }
  | .waiting, .flushMarker :: audio =>
    some { s with audio := audio, runner := if s.connection then .finishing false else .waiting }
  | .waiting, .closeMarker :: audio =>
    some { s with audio := audio, runner := if s.connection then .finishing true else .ending false }
  | _, _ => none

/-- A message is sent. With the first one of a segment its receiver begins. -/
def send (s : StandaloneFunASRStream) : Option StandaloneFunASRStream :=
  match s.runner with
  | .sending (.start :: messages) =>
    some { s with
      wire := s.wire ++ [.start], connection := true, receiver := .receiving ⟨s.nextId, s.nextId + 1, none⟩
      nextId := s.nextId + 2, runner := .sending messages }
  | .sending [message] => some { s with wire := s.wire ++ [message], runner := .waiting }
  | .finishing last => some { s with wire := s.wire ++ [.finish], runner := .awaiting last }
  | _ => none

/-- The runner's segment is finished: its receiver is done. -/
def segmentEnds (s : StandaloneFunASRStream) : Option StandaloneFunASRStream :=
  match s.runner with
  | .awaiting last =>
    if s.receiver = .done then
      some { s with receiver := .none, connection := false, runner := if last then .ending false else .waiting }
    else none
  | _ => none

/-- A connection fails, or the receiver has failed or is not done for too long. -/
def runnerFails (s : StandaloneFunASRStream) (reason : ProviderError) : Option StandaloneFunASRStream :=
  match s.runner with
  | .waiting => none
  | .ending _ => none
  | .ended _ => none
  | _ => some { s.setFatal reason with runner := .ending true }

/-- What follows the runner's loop: `_close_segment` and `_end_events`. -/
def runnerEnds (s : StandaloneFunASRStream) : Option StandaloneFunASRStream :=
  match s.runner with
  | .ending cancelled =>
    some { s with receiver := .none, connection := false, runner := .ended cancelled, events := s.events.endEvents }
  | _ => none

/-- What `_receive_segment` does with a message: the receiver after it. -/
def readMessage (reading : Reading) (message : StandaloneMessage) : Receiver :=
  match message.kind with
  | .ignore => .receiving reading
  | .retryableError => .failed
  | .fatalError => .failed
  | .noResult =>
    .putting reading ⟨.final, "", reading.segmentId, reading.requestId, "standalone-" ++ message.reason⟩ true
  | .interim =>
    let normalized := normalizedText message.text
    if normalized = "" ∨ reading.lastNormalizedInterim = some normalized then .receiving reading
    else
      .putting { reading with lastNormalizedInterim := some normalized }
        ⟨.interim, message.text, reading.segmentId, reading.requestId, "standalone-interim"⟩ false
  | .final =>
    .putting reading ⟨.final, message.text, reading.segmentId, reading.requestId, "standalone-final"⟩ true

def receive (s : StandaloneFunASRStream) (message : StandaloneMessage) : Option StandaloneFunASRStream :=
  match s.receiver with
  | .receiving reading => some { s with receiver := readMessage reading message }
  | _ => none

/-- The receiver fails, in `recv` or as it waits too long to put its event. -/
def receiverFails (s : StandaloneFunASRStream) : Option StandaloneFunASRStream :=
  match s.receiver with
  | .receiving _ => some { s with receiver := .failed }
  | .putting _ _ _ => some { s with receiver := .failed }
  | _ => none

def putEvent (s : StandaloneFunASRStream) : Option StandaloneFunASRStream :=
  match s.receiver with
  | .putting reading event last =>
    (s.events.putEvent event).map fun events =>
      { s with events := events, receiver := if last then .done else .receiving reading }
  | _ => none

/-- `aclose` goes on: the runner has ended, or has not for too long and is cancelled. -/
def joined (s : StandaloneFunASRStream) : Option StandaloneFunASRStream :=
  if s.caller = .joining ∧ s.runner.hasEnded then
    some { s with receiver := .none, connection := false, events := s.events.endEvents, caller := .idle }
  else none

def joinTimeout (s : StandaloneFunASRStream) : Option StandaloneFunASRStream :=
  if s.caller = .joining ∧ s.runner.hasEnded = false then some { s with runner := .ending true } else none

inductive Op
  | pushAudio (pcm : Bytes)
  | pushAudioWait (pcm : Bytes)
  | pushEnds
  | flush
  | aclose
  | putItem
  | putItemTimeout
  | joined
  | joinTimeout
  | takeItem (reason : ProviderError)
  | send
  | segmentEnds
  | runnerFails (reason : ProviderError)
  | runnerEnds
  | receive (message : StandaloneMessage)
  | receiverFails
  | putEvent
  /-- A round of `events`. -/
  | next
deriving DecidableEq

/-- One step of the caller, of a task or of the reader of the events. The caller makes one call
at a time. -/
def perform (s : StandaloneFunASRStream) : Op → Option StandaloneFunASRStream
  | .pushAudio pcm => if s.caller = .idle then s.pushAudio pcm else none
  | .pushAudioWait pcm => if s.caller = .idle then s.pushAudioWait pcm else none
  | .pushEnds => s.pushEnds
  | .flush => if s.caller = .idle then s.flush else none
  | .aclose => if s.caller = .idle then s.aclose else none
  | .putItem => s.putItem
  | .putItemTimeout => s.putItemTimeout
  | .joined => s.joined
  | .joinTimeout => s.joinTimeout
  | .takeItem reason => s.takeItem reason
  | .send => s.send
  | .segmentEnds => s.segmentEnds
  | .runnerFails reason => s.runnerFails reason
  | .runnerEnds => s.runnerEnds
  | .receive message => s.receive message
  | .receiverFails => s.receiverFails
  | .putEvent => s.putEvent
  | .next => s.events.next.map fun events => { s with events := events }

def Step (s : StandaloneFunASRStream) (op : Op) (t : StandaloneFunASRStream) : Prop := s.perform op = some t

/-- A stream that was just started. -/
def initial (config : StandaloneConfig) : StandaloneFunASRStream :=
  { config := config.toFunASRStreamConfig
    events := { maxsize := config.queueMaxChunks * 2, room := by have := config.positive.1; omega } }

/-- The zeros after a segment of this length: the tail is padded. -/
def padding (c : FunASRStreamConfig) (length : Nat) : Bytes :=
  let tail := length % c.sendChunkBytes
  if tail = 0 then [] else List.replicate (tailTarget c tail - tail) 0

/-- A segment ends with its padding. A segment without audio is none. -/
def endSegment (c : FunASRStreamConfig) (p : Segments UInt8) : Segments UInt8 :=
  if p.current = [] then p else (p.add (padding c p.current.length)).close

/-- What the caller pushed, in the padded segments between its flushes. -/
def pushedBy (c : FunASRStreamConfig) (p : Segments UInt8) : Op → Segments UInt8
  | .pushAudio pcm => p.add pcm
  | .pushAudioWait pcm => p.add pcm
  | .flush => endSegment c p
  | .aclose => endSegment c p
  | _ => p

def pushed (c : FunASRStreamConfig) (es : List Op) : Segments UInt8 := es.foldl (pushedBy c) {}

/-- A packet of 20 ms or of one send chunk. -/
def IsPacket (c : FunASRStreamConfig) (chunk : Bytes) : Prop :=
  chunk.length = minimumPacketBytes c ∨ chunk.length = c.sendChunkBytes

instance (c : FunASRStreamConfig) (chunk : Bytes) : Decidable (IsPacket c chunk) := inferInstanceAs (Decidable (_ ∨ _))

/-- What a message adds to the audio of the connections, and whether one is open. Nothing where
the message is out of place or not of a packet's length. -/
def hearOne (c : FunASRStreamConfig) (h : Segments UInt8 × Bool) : Message → Option (Segments UInt8 × Bool)
  | .start => if h.2 then none else some (h.1, true)
  | .audio chunk => if h.2 ∧ IsPacket c chunk then some (h.1.add chunk, true) else none
  | .finish => if h.2 then some (h.1.close, false) else none

def hear (c : FunASRStreamConfig) (wire : List Message) : Option (Segments UInt8 × Bool) :=
  wire.foldlM (hearOne c) ({}, false)

/-- The audio on the connections is what was pushed, segment by segment, in packets and with the
padding of the tails, as far as it was sent; and it is all but the pending audio once nothing
waits. -/
structure AudioConserved (es : List Op) (s : StandaloneFunASRStream) : Prop where
  sent : ∃ heard, hear s.config s.wire = some heard ∧ heard.1.Begins (pushed s.config es)
  all : s.runner = .waiting ∨ s.runner = .ended false → s.audio = [] → s.caller = .idle →
    ∃ heard, hear s.config s.wire = some heard ∧ heard.1.add s.pendingAudio = pushed s.config es

/-- The step puts the end marker, unless that is there. -/
def Op.ends : Op → Bool
  | .runnerEnds => true
  | .joined => true
  | _ => false

/-- A step that puts no end marker in a full queue. -/
def MeetingStep (s : StandaloneFunASRStream) (op : Op) (t : StandaloneFunASRStream) : Prop :=
  (op.ends = true → s.events.Roomy) ∧ Step s op t

/-- What the claimed stream looks like. -/
structure Conserved (es : List Op) (s : StandaloneFunASRStream) : Prop where
  audio : AudioConserved es s
  kept : s.events.Kept
  yielded : s.events.finished = true → s.events.yielded = s.events.put

variable {s t : StandaloneFunASRStream} {op : Op} {es : List Op} {config : StandaloneConfig} {c : FunASRStreamConfig}

/-- What a segment has after an item of the queue. -/
def item (p : Segments UInt8) : Item → Segments UInt8
  | .audio chunk => p.add chunk
  | _ => if p.current = [] then p else p.close

/-- What the caller waits to put. -/
def held (s : StandaloneFunASRStream) : List Item :=
  match s.caller with
  | .tailing => [.audio (paddedTail s.config s.pendingAudio), .flushMarker]
  | .flushing => [.flushMarker]
  | .closing => [.closeMarker]
  | _ => []

/-- The pending audio that is not held. -/
def rest (s : StandaloneFunASRStream) : Bytes := if s.caller = .tailing then [] else s.pendingAudio

/-- The rules of the sizes. -/
structure Sizes (c : FunASRStreamConfig) : Prop where
  minimum : 0 < minimumPacketBytes c
  chunk : minimumPacketBytes c ≤ c.sendChunkBytes

theorem sizes (config : StandaloneConfig) : Sizes config.toFunASRStreamConfig := by
  have hrate := config.sampleRate
  rcases config.packets with h | h
  all_goals
    constructor
    all_goals
      simp only [minimumPacketBytes, FunASRStreamConfig.sendChunkBytes, hrate, h]
      omega

theorem hear_append {wire more : List Message} {heard : Segments UInt8 × Bool} (h : hear c wire = some heard) :
    hear c (wire ++ more) = more.foldlM (hearOne c) heard := by
  rw [hear] at h
  rw [hear, List.foldlM_append, h]
  rfl

theorem hearOne_begins {heard heard' : Segments UInt8 × Bool} {message : Message}
    (h : hearOne c heard message = some heard') : heard.1.Begins heard'.1 := by
  cases message
  all_goals
    rw [hearOne] at h
    split_ifs at h
    obtain rfl := Option.some.inj h
  · exact .refl _
  · exact heard.1.begins_add _
  · exact heard.1.begins_close

theorem hear_begins {wire : List Message} {heard heard' : Segments UInt8 × Bool}
    (h : wire.foldlM (hearOne c) heard = some heard') : heard.1.Begins heard'.1 := by
  induction wire generalizing heard with
  | nil =>
    obtain rfl := Option.some.inj h
    exact .refl _
  | cons message wire ih =>
    obtain ⟨middle, hone, hrest⟩ := Option.bind_eq_some_iff.mp h
    exact (hearOne_begins hone).trans (ih hrest)

theorem item_begins (p : Segments UInt8) (i : Item) : p.Begins (item p i) := by
  cases i with
  | audio chunk => exact p.begins_add chunk
  | _ =>
    rw [item]
    · split_ifs
      · exact .refl _
      · exact p.begins_close
    · rintro chunk ⟨⟩

theorem items_begin (p : Segments UInt8) (items : List Item) : p.Begins (items.foldl item p) := by
  induction items generalizing p with
  | nil => exact .refl _
  | cons i items ih => exact (item_begins p i).trans (ih _)

theorem foldl_item_audio (p : Segments UInt8) (chunks : List Bytes) :
    (chunks.map Item.audio).foldl item p = p.add chunks.flatten := by
  induction chunks generalizing p with
  | nil => simp
  | cons chunk chunks ih =>
    rw [List.map_cons, List.foldl_cons, ih, item, Segments.add_add, List.flatten_cons]

/-- A flush of whole chunks and a tail. -/
theorem endSegment_tail (hsizes : Sizes c) (p : Segments UInt8) {pending : Bytes}
    (hwhole : p.current.length % c.sendChunkBytes = 0)
    (hshort : pending.length < c.sendChunkBytes) (hpending : pending ≠ []) :
    endSegment c (p.add pending) = (p.add (paddedTail c pending)).close ∧ IsPacket c (paddedTail c pending) := by
  have hpos : 0 < pending.length := List.length_pos_iff.mpr hpending
  have htail : (p.current ++ pending).length % c.sendChunkBytes = pending.length := by
    rw [List.length_append, Nat.add_mod, hwhole, Nat.zero_add, Nat.mod_mod, Nat.mod_eq_of_lt hshort]
  constructor
  · have hcurrent : (p.add pending).current ≠ [] := List.append_ne_nil_of_right_ne_nil _ hpending
    have hpadding : padding c (p.add pending).current.length =
        List.replicate (tailTarget c pending.length - pending.length) 0 := by
      rw [padding, Segments.add, htail]
      exact if_neg (Nat.pos_iff_ne_zero.mp hpos)
    rw [endSegment, if_neg hcurrent, hpadding, Segments.add_add, paddedTail]
  · rw [IsPacket, paddedTail, List.length_append, List.length_replicate, tailTarget]
    have hle := hsizes.chunk
    split_ifs <;> omega

/-- A flush of whole chunks. -/
theorem endSegment_whole (p : Segments UInt8) (hwhole : p.current.length % c.sendChunkBytes = 0) :
    endSegment c p = if p.current = [] then p else p.close := by
  rw [endSegment, padding]
  simp only [hwhole, if_true, Segments.add_nil]

theorem endSegment_current (p : Segments UInt8) : (endSegment c p).current = [] := by
  rw [endSegment]
  split_ifs with hnil
  · exact hnil
  · rfl

theorem IsPacket.ne_nil (hsizes : Sizes c) {chunk : Bytes} (h : IsPacket c chunk) : chunk ≠ [] := by
  rintro rfl
  have hminimum := hsizes.minimum
  have hle := hsizes.chunk
  rcases h with h | h
  all_goals
    rw [List.length_nil] at h
    omega

/-- What a flush puts before its marker. -/
def tail (c : FunASRStreamConfig) (pending : Bytes) : List Item :=
  if pending = [] then [] else [.audio (paddedTail c pending)]

theorem foldl_tail (hsizes : Sizes c) {p : Segments UInt8} {pending : Bytes} {marker : Item}
    (hmarker : marker = .flushMarker ∨ marker = .closeMarker) (hwhole : p.current.length % c.sendChunkBytes = 0)
    (hshort : pending.length < c.sendChunkBytes) :
    (tail c pending ++ [marker]).foldl item p = endSegment c (p.add pending) := by
  have hitem : ∀ q, item q marker = if q.current = [] then q else q.close := by
    intro q
    rcases hmarker with rfl | rfl <;> rfl
  by_cases hnil : pending = []
  · rw [tail, if_pos hnil, hnil, Segments.add_nil, endSegment_whole p hwhole]
    exact hitem p
  · obtain ⟨hend, hpacket⟩ := endSegment_tail hsizes p hwhole hshort hnil
    have hcurrent : (p.add (paddedTail c pending)).current ≠ [] :=
      List.append_ne_nil_of_right_ne_nil _ (hpacket.ne_nil hsizes)
    rw [tail, if_neg hnil, hend]
    exact (hitem _).trans (if_neg hcurrent)

theorem packets_tail (hsizes : Sizes c) {pending : Bytes} {marker : Item}
    (hmarker : marker = .flushMarker ∨ marker = .closeMarker)
    (hshort : pending.length < c.sendChunkBytes) {chunk : Bytes} (hmem : .audio chunk ∈ tail c pending ++ [marker]) :
    IsPacket c chunk := by
  have hnot : .audio chunk ≠ marker := by rcases hmarker with rfl | rfl <;> rintro ⟨⟩
  by_cases hnil : pending = []
  · rw [tail, if_pos hnil] at hmem
    exact absurd (List.mem_singleton.mp hmem) hnot
  · rw [tail, if_neg hnil] at hmem
    rcases List.mem_cons.mp hmem with heq | hmem
    · obtain rfl := Item.audio.inj heq
      exact (endSegment_tail hsizes {} (Nat.zero_mod _) hshort hnil).2
    · exact absurd (List.mem_singleton.mp hmem) hnot

/-- What was sent, what the runner has to send, what waits to be sent and the rest are what was
pushed. The second and the third are what they are in the state unless the runner was cancelled. -/
def Carries (p : Segments UInt8) (s : StandaloneFunASRStream) : Prop :=
  ∃ todo items heard, hear s.config (s.wire ++ todo) = some (heard, decide (heard.current ≠ [])) ∧
    (items.foldl item heard).add s.rest = p ∧ (items.foldl item heard).current.length % s.config.sendChunkBytes = 0 ∧
    (∀ chunk, .audio chunk ∈ items → IsPacket s.config chunk) ∧
    (s.runner.cancelled = false → todo = s.runner.todo ∧ items = s.audio ++ s.held)

/-- What the runner takes the connection for, as far as that was heard. -/
def Links (connection on : Bool) : Runner → Prop
  | .waiting => connection = on
  | .sending messages => connection = on ∧ ∃ chunk, messages = audioMessages connection chunk
  | .awaiting _ => on = false
  | _ => True

/-- The state of a stream that did not fail. -/
structure Sound (es : List Op) (s : StandaloneFunASRStream) : Prop where
  carries : Carries (pushed s.config es) s
  sizes : Sizes s.config
  links : ∀ heard on, hear s.config s.wire = some (heard, on) → Links s.connection on s.runner
  short : s.caller ≠ .pushing → s.pendingAudio.length < s.config.sendChunkBytes
  shaped : s.events.Shaped
  quiet : s.events.eventsEnded = true ∨ s.runner.hasEnded = true → s.runner.hasEnded = true ∧ s.receiver = .none

theorem Carries.conserved {p : Segments UInt8} (h : Carries p s) :
    ∃ heard, hear s.config s.wire = some heard ∧ heard.1.Begins p := by
  obtain ⟨todo, items, heard, hheard, rfl, -⟩ := h
  rw [hear, List.foldlM_append] at hheard
  obtain ⟨before, hbefore, htodo⟩ := Option.bind_eq_some_iff.mp hheard
  refine ⟨before, hbefore, ?_⟩
  exact ((hear_begins htodo).trans (items_begin heard items)).trans (Segments.begins_add _ _)

theorem Sound.audioConserved (h : Sound es s) : AudioConserved es s := by
  refine ⟨h.carries.conserved, fun hrunner haudio hcaller => ?_⟩
  obtain ⟨todo, items, heard, hheard, hall, -, -, hsame⟩ := h.carries
  have hnot : s.runner.cancelled = false := by
    rcases hrunner with hs | hs <;> rw [hs] <;> rfl
  obtain ⟨rfl, rfl⟩ := hsame hnot
  have htodo : s.runner.todo = [] := by
    rcases hrunner with hs | hs <;> rw [hs] <;> rfl
  rw [htodo, List.append_nil] at hheard
  rw [haudio, held, rest, hcaller] at hall
  exact ⟨_, hheard, hall⟩

/-- Nothing changes of the audio. -/
theorem Carries.congr {p : Segments UInt8} (h : Carries p s) (hconfig : t.config = s.config) (hwire : t.wire = s.wire)
    (hrest : t.rest = s.rest) (hsame : t.runner.cancelled = false → s.runner.cancelled = false ∧
      t.runner.todo = s.runner.todo ∧ t.audio ++ t.held = s.audio ++ s.held) : Carries p t := by
  obtain ⟨todo, items, heard, hheard, hall, hwhole, hpackets, hstate⟩ := h
  refine ⟨todo, items, heard, ?_, ?_, ?_, ?_, fun hnot => ?_⟩
  · rw [hconfig, hwire]
    exact hheard
  · rw [hrest]
    exact hall
  · rw [hconfig]
    exact hwhole
  · rw [hconfig]
    exact hpackets
  · obtain ⟨hs, htodo, hitems⟩ := hsame hnot
    rw [htodo, hitems]
    exact hstate hs

/-- New audio and items. -/
theorem Carries.extend {p : Segments UInt8} (more : List Item) (change : Segments UInt8 → Segments UInt8)
    (h : Carries p s) (hconfig : t.config = s.config) (hwire : t.wire = s.wire)
    (hsame : t.runner = s.runner) (hitems : t.audio ++ t.held = s.audio ++ s.held ++ more)
    (hpackets : ∀ chunk, .audio chunk ∈ more → IsPacket s.config chunk)
    (hchange : ∀ q : Segments UInt8, q.current.length % s.config.sendChunkBytes = 0 →
      (more.foldl item q).current.length % s.config.sendChunkBytes = 0 ∧
        (more.foldl item q).add t.rest = change (q.add s.rest)) : Carries (change p) t := by
  obtain ⟨todo, items, heard, hheard, rfl, hwhole, hall, hstate⟩ := h
  obtain ⟨hmore, hadd⟩ := hchange _ hwhole
  refine ⟨todo, items ++ more, heard, ?_, ?_, ?_, fun chunk hmem => ?_, fun hnot => ?_⟩
  · rw [hconfig, hwire]
    exact hheard
  · rw [List.foldl_append]
    exact hadd
  · rw [List.foldl_append, hconfig]
    exact hmore
  · rw [hconfig]
    rcases List.mem_append.mp hmem with hmem | hmem
    · exact hall chunk hmem
    · exact hpackets chunk hmem
  · rw [hsame] at hnot ⊢
    obtain ⟨htodo, rfl⟩ := hstate hnot
    exact ⟨htodo, hitems.symm⟩

theorem setFatal_fatal {error : ProviderError} : (s.setFatal error).fatal ≠ none := AudioInput.setFatal_fatal

theorem foldl_whole {chunks : List Bytes} {p : Segments UInt8} {n : Nat} (hall : ∀ chunk ∈ chunks, chunk.length = n)
    (hwhole : p.current.length % n = 0) : (p.add chunks.flatten).current.length % n = 0 := by
  induction chunks generalizing p with
  | nil => rwa [List.flatten_nil, Segments.add_nil]
  | cons chunk chunks ih =>
    rw [List.flatten_cons, ← Segments.add_add]
    refine ih (fun chunk hmem => hall chunk (List.mem_cons_of_mem _ hmem)) ?_
    rw [Segments.add, List.length_append, hall chunk List.mem_cons_self, Nat.add_mod_right]
    exact hwhole

theorem pushAudio_carries {pcm : Bytes} (h : Sound es s) (hcaller : s.caller = .idle) (hpush : s.pushAudio pcm = some t)
    (ht : t.fatal = none) : Carries ((pushed s.config es).add pcm) t ∧ ∃ audio pending,
      t = { s with audio := audio, pendingAudio := pending } ∧ pending.length < s.config.sendChunkBytes := by
  rw [pushAudio] at hpush
  split_ifs at hpush with hclosed hfatal hnil
  · obtain rfl := Option.some.inj hpush
    rw [hnil, Segments.add_nil]
    exact ⟨h.carries, _, _, rfl, h.short (by rw [hcaller]; rintro ⟨⟩)⟩
  · obtain rfl := Option.some.inj hpush
    obtain ⟨chunks, pending, heq, hflat, hall, hshort⟩ := AudioInput.push_spec ht
    rw [heq]
    refine ⟨h.carries.extend (chunks.map .audio) (·.add pcm) rfl rfl rfl ?_ ?_ ?_, _, _, rfl, hshort⟩
    · simp [held, hcaller]
    · intro chunk hmem
      obtain ⟨chunk', hmem', heq⟩ := List.mem_map.mp hmem
      obtain rfl := Item.audio.inj heq
      exact .inr (hall _ hmem')
    · intro q hwhole
      rw [foldl_item_audio]
      refine ⟨foldl_whole hall hwhole, ?_⟩
      simp only [rest, hcaller, reduceCtorEq, if_false]
      rw [Segments.add_add, Segments.add_add, hflat]

theorem pushAudioWait_carries {pcm : Bytes} (h : Sound es s) (hcaller : s.caller = .idle)
    (hpush : s.pushAudioWait pcm = some t) : Carries ((pushed s.config es).add pcm) t ∧
      (t = s ∨ ∃ pending, t = { s with pendingAudio := pending, caller := .pushing }) := by
  rw [pushAudioWait] at hpush
  split_ifs at hpush with hclosed hfatal hnil
  · obtain rfl := Option.some.inj hpush
    rw [hnil, Segments.add_nil]
    exact ⟨h.carries, .inl rfl⟩
  · obtain rfl := Option.some.inj hpush
    refine ⟨h.carries.extend [] (·.add pcm) rfl rfl rfl ?_ ?_ ?_, .inr ⟨_, rfl⟩⟩
    · simp [held, hcaller]
    · exact fun _ hmem => (List.not_mem_nil hmem).elim
    · intro q hwhole
      refine ⟨hwhole, ?_⟩
      simp only [rest, hcaller, reduceCtorEq, if_false]
      exact (Segments.add_add _ _).symm

/-- The items of a flush, or of the close. -/
theorem Sound.carries_tail (h : Sound es s) (hcaller : s.caller = .idle) {marker : Item}
    (hmarker : marker = .flushMarker ∨ marker = .closeMarker) (hconfig : t.config = s.config) (hwire : t.wire = s.wire)
    (hsame : t.runner = s.runner) (hrest : t.rest = [])
    (hitems : t.audio ++ t.held = s.audio ++ (tail s.config s.pendingAudio ++ [marker])) :
    Carries (endSegment s.config (pushed s.config es)) t := by
  have hshort : s.pendingAudio.length < s.config.sendChunkBytes := h.short (by rw [hcaller]; rintro ⟨⟩)
  refine h.carries.extend (tail s.config s.pendingAudio ++ [marker]) (endSegment s.config) hconfig
    hwire hsame ?_ (fun chunk hmem => packets_tail h.sizes hmarker hshort hmem) ?_
  · rw [hitems, held, hcaller, List.append_nil]
  · intro q hwhole
    have hrest' : s.rest = s.pendingAudio := by simp only [rest, hcaller, reduceCtorEq, if_false]
    rw [foldl_tail h.sizes hmarker hwhole hshort, hrest, Segments.add_nil, hrest', endSegment_current]
    exact ⟨Nat.zero_mod _, rfl⟩

theorem flush_carries (h : Sound es s) (hcaller : s.caller = .idle) (hflush : s.flush = some t) :
    Carries (endSegment s.config (pushed s.config es)) t ∧
      ∃ caller, t = { s with caller := caller } ∧ caller ≠ .pushing := by
  rw [flush] at hflush
  split_ifs at hflush with hclosed hnil
  all_goals obtain rfl := Option.some.inj hflush
  · refine ⟨h.carries_tail hcaller (.inl rfl) rfl rfl rfl ?_ ?_, _, rfl, by rintro ⟨⟩⟩
    · simp [rest, hnil]
    · simp [held, tail, hnil]
  · refine ⟨h.carries_tail hcaller (.inl rfl) rfl rfl rfl ?_ ?_, _, rfl, by rintro ⟨⟩⟩
    · simp [rest]
    · simp [held, tail, hnil]

theorem aclose_carries (h : Sound es s) (hcaller : s.caller = .idle) (haclose : s.aclose = some t)
    (ht : t.fatal = none) : Carries (endSegment s.config (pushed s.config es)) t ∧
      ∃ audio, t = { s with closed := true, audio := audio, pendingAudio := [], caller := .closing } := by
  rw [aclose] at haclose
  simp only at haclose
  split_ifs at haclose with hclosed hearly hroom
  · obtain rfl := Option.some.inj haclose
    have hnil : s.pendingAudio = [] := hearly.resolve_left (by
      have hnone : s.fatal = none := ht
      rw [hnone]
      exact Bool.false_ne_true)
    refine ⟨h.carries_tail hcaller (.inr rfl) rfl rfl rfl ?_ ?_, s.audio, ?_⟩
    · simp [rest, hnil]
    · simp [held, tail, hnil]
    · rw [← hnil]
  · obtain rfl := Option.some.inj haclose
    obtain ⟨-, heq⟩ := AudioInput.queueAudio_spec ht
    rw [heq]
    refine ⟨h.carries_tail hcaller (.inr rfl) rfl rfl rfl ?_ ?_, _, rfl⟩
    · simp [rest]
    · simp [held, tail, (not_or.mp hearly).2]
  · obtain rfl := Option.some.inj haclose
    exact absurd (AudioInput.queueAudio_spec ht).1 hroom

/-- The caller puts the next chunk, or the first of the items that it holds. -/
theorem putItem_spec (h : s.putItem = some t) (ht : t.fatal = none) : ∃ i caller pending,
    t = { s with audio := s.audio ++ [i], pendingAudio := pending, caller := caller } ∧
    (s.caller = .pushing ∧ caller = .pushing ∧ s.config.sendChunkBytes ≤ s.pendingAudio.length ∧
        i = .audio (s.pendingAudio.take s.config.sendChunkBytes) ∧
        pending = s.pendingAudio.drop s.config.sendChunkBytes ∨
      s.held = i :: t.held ∧ t.rest = s.rest ∧ s.caller ≠ .pushing ∧ caller ≠ .pushing ∧
        pending.length ≤ s.pendingAudio.length) := by
  rw [putItem] at h
  obtain ⟨-, h⟩ := Option.ite_none_left_eq_some.mp h
  cases hcaller : s.caller
  all_goals simp only [hcaller] at h
  case pushing =>
    split_ifs at h with hshort hfatal
    · obtain rfl := Option.some.inj h
      change s.fatal = none at ht
      rw [ht] at hfatal
      cases hfatal
    · obtain rfl := Option.some.inj h
      exact ⟨_, .pushing, _, rfl, .inl ⟨rfl, rfl, not_lt.mp hshort, rfl, rfl⟩⟩
  case tailing =>
    split_ifs at h with hfatal
    · obtain rfl := Option.some.inj h
      change s.fatal = none at ht
      rw [ht] at hfatal
      cases hfatal
    · obtain rfl := Option.some.inj h
      refine ⟨_, .flushing, [], rfl, .inr ⟨?_, ?_, by rintro ⟨⟩, by rintro ⟨⟩, Nat.zero_le _⟩⟩
      · simp [held, hcaller]
      · simp [rest, hcaller]
  case flushing =>
    obtain rfl := Option.some.inj h
    refine ⟨_, .idle, _, rfl, .inr ⟨?_, ?_, by rintro ⟨⟩, by rintro ⟨⟩, le_rfl⟩⟩
    · simp [held, hcaller]
    · simp [rest, hcaller]
  case closing =>
    obtain rfl := Option.some.inj h
    refine ⟨_, .joining, _, rfl, .inr ⟨?_, ?_, by rintro ⟨⟩, by rintro ⟨⟩, le_rfl⟩⟩
    · simp [held, hcaller]
    · simp [rest, hcaller]
  all_goals cases h

theorem putItem_carries (h : Sound es s) (hput : s.putItem = some t) (ht : t.fatal = none) :
    Carries (pushed s.config es) t := by
  obtain ⟨i, caller, pending, rfl, hput⟩ := putItem_spec hput ht
  obtain ⟨hcaller, rfl, hlong, rfl, rfl⟩ | ⟨hheld, hrest, -⟩ := hput
  · refine h.carries.extend [.audio (s.pendingAudio.take s.config.sendChunkBytes)] id rfl rfl rfl ?_ ?_ ?_
    · simp [held, hcaller]
    · intro chunk hmem
      obtain rfl := Item.audio.inj (List.mem_singleton.mp hmem)
      exact .inr (List.length_take_of_le hlong)
    · intro q hwhole
      constructor
      · simp only [List.foldl_cons, List.foldl_nil, item, Segments.add, List.length_append]
        rw [List.length_take_of_le hlong, Nat.add_mod_right]
        exact hwhole
      · simp only [List.foldl_cons, List.foldl_nil, item, Segments.add_add, rest, hcaller, reduceCtorEq, if_false, id]
        rw [List.take_append_drop]
  · refine h.carries.congr rfl rfl hrest fun hs => ⟨hs, rfl, ?_⟩
    rw [hheld, List.append_assoc]
    rfl

/-- What the runner has to do with an item says what the item means. -/
theorem takeItem_spec {reason : ProviderError} (h : s.takeItem reason = some t) (ht : t.fatal = none) :
    s.runner = .waiting ∧ ∃ i audio runner, s.audio = i :: audio ∧ t = { s with audio := audio, runner := runner } ∧
    runner.cancelled = false ∧ runner.hasEnded = false ∧ (Links s.connection s.connection runner) ∧
    ∀ p, s.connection = decide (p.current ≠ []) → (∀ chunk, i = .audio chunk → IsPacket s.config chunk ∧ chunk ≠ []) →
      runner.todo.foldlM (hearOne s.config) (p, s.connection) =
        some (item p i, decide ((item p i).current ≠ [])) := by
  rw [takeItem.eq_def] at h
  cases hrunner : s.runner
  case waiting =>
    refine ⟨rfl, ?_⟩
    cases haudio : s.audio with
    | nil =>
      rw [hrunner, haudio] at h
      cases h
    | cons first audio =>
      rw [hrunner, haudio] at h
      cases first
      all_goals simp only at h
      case audio chunk =>
        split_ifs at h with hfailed
        · obtain rfl := Option.some.inj h
          exact absurd ht setFatal_fatal
        · obtain rfl := Option.some.inj h
          refine ⟨_, _, _, rfl, rfl, rfl, rfl, ⟨rfl, chunk, rfl⟩, fun p hp hpacket => ?_⟩
          obtain ⟨hpacket, hnil⟩ := hpacket chunk rfl
          have hcurrent : (p.add chunk).current ≠ [] := List.append_ne_nil_of_right_ne_nil _ hnil
          rw [item, decide_eq_true hcurrent, Runner.todo, audioMessages]
          split_ifs with hopen
          all_goals simp [hearOne, hpacket, hopen]
      all_goals
        obtain rfl := Option.some.inj h
        refine ⟨_, _, _, rfl, rfl, ?_, ?_, ?_, fun p hp _ => ?_⟩
        · split_ifs <;> rfl
        · split_ifs <;> rfl
        · split_ifs <;> trivial
        · by_cases hnil : p.current = []
          · simp [hp, hnil, item, Runner.todo]
          · simp [hp, hnil, item, Runner.todo, hearOne, Segments.close]
  all_goals
    rw [hrunner] at h
    cases h

theorem takeItem_carries {reason : ProviderError} (h : Sound es s) (htake : s.takeItem reason = some t)
    (ht : t.fatal = none) : Carries (pushed s.config es) t := by
  obtain ⟨hrunner, i, audio, runner, haudio, rfl, hcancelled, -, -, hmeans⟩ := takeItem_spec htake ht
  obtain ⟨todo, items, heard, hheard, hall, hwhole, hpackets, hsame⟩ := h.carries
  obtain ⟨rfl, rfl⟩ := hsame (by rw [hrunner]; rfl)
  rw [hrunner] at hheard
  change hear _ (s.wire ++ []) = _ at hheard
  rw [List.append_nil] at hheard
  have hlinks := h.links _ _ hheard
  rw [hrunner] at hlinks
  change s.connection = _ at hlinks
  rw [haudio] at hall hwhole hpackets
  refine ⟨runner.todo, audio ++ s.held, item heard i, ?_, hall, hwhole,
    fun chunk hmem => hpackets chunk (List.mem_cons_of_mem _ hmem), fun _ => ⟨rfl, rfl⟩⟩
  rw [hear_append hheard, ← hlinks]
  refine hmeans heard hlinks fun chunk heq => ?_
  have hpacket := hpackets chunk (by rw [heq]; exact List.mem_cons_self)
  exact ⟨hpacket, hpacket.ne_nil h.sizes⟩

theorem hear_snoc {wire : List Message} {message : Message} {after : Segments UInt8 × Bool}
    (h : hear c (wire ++ [message]) = some after) :
    ∃ before, hear c wire = some before ∧ hearOne c before message = some after := by
  rw [hear, List.foldlM_append] at h
  obtain ⟨before, hbefore, hone⟩ := Option.bind_eq_some_iff.mp h
  refine ⟨before, hbefore, ?_⟩
  obtain ⟨heard, hheard, hsome⟩ := Option.bind_eq_some_iff.mp hone
  obtain rfl := Option.some.inj hsome
  exact hheard

/-- The first message that is to be sent is sent. -/
theorem send_spec (h : s.send = some t)
    (hsending : ∀ messages, s.runner = .sending messages → ∃ chunk, messages = audioMessages s.connection chunk) :
    ∃ message runner connection receiver nextId, s.runner.todo = message :: runner.todo ∧
      s.runner.cancelled = false ∧ s.runner.hasEnded = false ∧ runner.hasEnded = false ∧
      t = { s with
        wire := s.wire ++ [message], runner := runner, connection := connection, receiver := receiver,
        nextId := nextId } ∧
      ∀ before heard on, hearOne s.config before message = some (heard, on) → Links connection on runner := by
  rw [send.eq_def] at h
  cases hrunner : s.runner
  case sending messages =>
    obtain ⟨chunk, rfl⟩ := hsending messages hrunner
    rw [hrunner] at h
    cases hopen : s.connection
    all_goals
      rw [hopen] at h
      obtain rfl := Option.some.inj h
    · refine ⟨.start, .sending [.audio chunk], _, _, _, rfl, rfl, rfl, rfl, rfl, fun before heard on hone => ?_⟩
      obtain ⟨-, hone⟩ := Option.ite_none_left_eq_some.mp hone
      obtain rfl := congrArg Prod.snd (Option.some.inj hone)
      exact ⟨rfl, chunk, rfl⟩
    · refine ⟨.audio chunk, .waiting, _, _, _, rfl, rfl, rfl, rfl, rfl, fun before heard on hone => ?_⟩
      obtain ⟨-, hone⟩ := Option.ite_none_right_eq_some.mp hone
      obtain rfl := congrArg Prod.snd (Option.some.inj hone)
      exact rfl
  case finishing last =>
    rw [hrunner] at h
    obtain rfl := Option.some.inj h
    refine ⟨.finish, .awaiting last, _, _, _, rfl, rfl, rfl, rfl, rfl, fun before heard on hone => ?_⟩
    obtain ⟨-, hone⟩ := Option.ite_none_right_eq_some.mp hone
    exact (congrArg Prod.snd (Option.some.inj hone)).symm
  all_goals
    rw [hrunner] at h
    cases h

theorem Sound.sending (h : Sound es s) (messages : List Message) (hrunner : s.runner = .sending messages) :
    ∃ chunk, messages = audioMessages s.connection chunk := by
  obtain ⟨⟨heard, on⟩, hheard, -⟩ := h.carries.conserved
  have hlinks := h.links heard on hheard
  rw [hrunner] at hlinks
  exact hlinks.2

theorem send_carries (h : Sound es s) (hsend : s.send = some t) : Carries (pushed s.config es) t := by
  obtain ⟨message, runner, _, _, _, htodo, hcancelled, -, -, rfl, -⟩ := send_spec hsend h.sending
  obtain ⟨todo, items, heard, hheard, hall, hwhole, hpackets, hsame⟩ := h.carries
  obtain ⟨rfl, rfl⟩ := hsame hcancelled
  refine ⟨runner.todo, s.audio ++ s.held, heard, ?_, hall, hwhole, hpackets, fun _ => ⟨rfl, rfl⟩⟩
  rw [htodo] at hheard
  rw [List.append_assoc]
  exact hheard

theorem segmentEnds_spec (h : s.segmentEnds = some t) : ∃ last, s.runner = .awaiting last ∧
    t = { s with receiver := .none, connection := false, runner := if last then .ending false else .waiting } := by
  rw [segmentEnds] at h
  cases hrunner : s.runner
  case awaiting last =>
    rw [hrunner] at h
    obtain ⟨-, h⟩ := Option.ite_none_right_eq_some.mp h
    exact ⟨last, rfl, (Option.some.inj h).symm⟩
  all_goals
    rw [hrunner] at h
    cases h

theorem runnerEnds_spec (h : s.runnerEnds = some t) : ∃ cancelled, s.runner = .ending cancelled ∧ t = { s with
    receiver := .none, connection := false, runner := .ended cancelled, events := s.events.endEvents } := by
  rw [runnerEnds] at h
  cases hrunner : s.runner
  case ending cancelled =>
    rw [hrunner] at h
    exact ⟨cancelled, rfl, (Option.some.inj h).symm⟩
  all_goals
    rw [hrunner] at h
    cases h

theorem receive_spec {message : StandaloneMessage} (h : s.receive message = some t) :
    s.receiver ≠ .none ∧ ∃ receiver, t = { s with receiver := receiver } := by
  rw [receive] at h
  cases hreceiver : s.receiver
  case receiving reading =>
    rw [hreceiver] at h
    exact ⟨by rintro ⟨⟩, _, (Option.some.inj h).symm⟩
  all_goals
    rw [hreceiver] at h
    cases h

theorem receiverFails_spec (h : s.receiverFails = some t) :
    s.receiver ≠ .none ∧ t = { s with receiver := .failed } := by
  rw [receiverFails] at h
  cases hreceiver : s.receiver
  case receiving | putting =>
    rw [hreceiver] at h
    exact ⟨by rintro ⟨⟩, (Option.some.inj h).symm⟩
  all_goals
    rw [hreceiver] at h
    cases h

theorem putEvent_spec (h : s.putEvent = some t) : s.receiver ≠ .none ∧ ∃ event receiver events,
    s.events.putEvent event = some events ∧ t = { s with events := events, receiver := receiver } := by
  rw [putEvent] at h
  cases hreceiver : s.receiver
  case putting reading event last =>
    rw [hreceiver] at h
    obtain ⟨events, hevents, rfl⟩ := Option.map_eq_some_iff.mp h
    exact ⟨by rintro ⟨⟩, event, _, events, hevents, rfl⟩
  all_goals
    rw [hreceiver] at h
    cases h

/-- The steps that set a fatal error. -/
theorem not_failing (hstep : Step s op t) (ht : t.fatal = none) :
    op ≠ .putItemTimeout ∧ ∀ reason, op ≠ .runnerFails reason := by
  constructor
  · rintro rfl
    have h : s.putItemTimeout = some t := hstep
    rw [putItemTimeout] at h
    cases hcaller : s.caller
    all_goals rw [hcaller] at h
    case idle | joining => cases h
    all_goals
      obtain rfl := Option.some.inj h
      exact setFatal_fatal ht
  · rintro reason rfl
    have h : s.runnerFails reason = some t := hstep
    rw [runnerFails] at h
    cases hrunner : s.runner
    all_goals rw [hrunner] at h
    case waiting | ending | ended => cases h
    all_goals
      obtain rfl := Option.some.inj h
      exact setFatal_fatal ht

theorem pushed_snoc : pushed c (es ++ [op]) = pushedBy c (pushed c es) op := List.foldl_append

/-- Nothing sets the fatal error back. -/
theorem fatal_of_step (hstep : Step s op t) (ht : t.fatal = none) : s.fatal = none := by
  obtain ⟨hput, hfails⟩ := not_failing hstep ht
  cases op with
  | pushAudio pcm =>
    obtain ⟨-, h⟩ := Option.ite_none_right_eq_some.mp hstep
    rw [pushAudio] at h
    split_ifs at h with _ hfatal
    all_goals exact Option.not_isSome_iff_eq_none.mp hfatal
  | pushAudioWait pcm =>
    obtain ⟨-, h⟩ := Option.ite_none_right_eq_some.mp hstep
    rw [pushAudioWait] at h
    split_ifs at h with _ hfatal
    all_goals exact Option.not_isSome_iff_eq_none.mp hfatal
  | pushEnds =>
    obtain ⟨-, h⟩ := Option.ite_none_right_eq_some.mp hstep
    obtain rfl := Option.some.inj h
    exact ht
  | flush =>
    obtain ⟨-, h⟩ := Option.ite_none_right_eq_some.mp hstep
    obtain ⟨-, h⟩ := Option.ite_none_left_eq_some.mp h
    obtain rfl := Option.some.inj h
    exact ht
  | aclose =>
    obtain ⟨-, h⟩ := Option.ite_none_right_eq_some.mp hstep
    rw [aclose] at h
    simp only at h
    split_ifs at h
    all_goals obtain rfl := Option.some.inj h
    · exact ht
    all_goals
      have hqueue := AudioInput.fatal_of_queueAudio ht
      exact hqueue
  | putItem =>
    obtain ⟨_, _, _, rfl, -⟩ := putItem_spec hstep ht
    exact ht
  | putItemTimeout => exact absurd rfl hput
  | joined =>
    obtain ⟨-, h⟩ := Option.ite_none_right_eq_some.mp hstep
    obtain rfl := Option.some.inj h
    exact ht
  | joinTimeout =>
    obtain ⟨-, h⟩ := Option.ite_none_right_eq_some.mp hstep
    obtain rfl := Option.some.inj h
    exact ht
  | takeItem reason =>
    obtain ⟨-, _, _, _, -, rfl, -⟩ := takeItem_spec hstep ht
    exact ht
  | send =>
    have h : s.send = some t := hstep
    rw [send.eq_def] at h
    split at h
    all_goals
      cases h
      try exact ht
  | segmentEnds =>
    obtain ⟨_, -, rfl⟩ := segmentEnds_spec hstep
    exact ht
  | runnerFails reason => exact absurd rfl (hfails reason)
  | runnerEnds =>
    obtain ⟨_, -, rfl⟩ := runnerEnds_spec hstep
    exact ht
  | receive message =>
    obtain ⟨-, _, rfl⟩ := receive_spec hstep
    exact ht
  | receiverFails =>
    obtain ⟨-, rfl⟩ := receiverFails_spec hstep
    exact ht
  | putEvent =>
    obtain ⟨-, _, _, _, -, rfl⟩ := putEvent_spec hstep
    exact ht
  | next =>
    obtain ⟨_, -, rfl⟩ := Option.map_eq_some_iff.mp hstep
    exact ht

/-- The events are not ended while there is a receiver. -/
theorem Sound.listening (h : Sound es s) (hreceiver : s.receiver ≠ .none) :
    s.events.eventsEnded = false ∧ s.runner.hasEnded = false := by
  constructor
  · by_contra hended
    exact hreceiver (h.quiet (.inl (Bool.not_eq_false _ ▸ hended))).2
  · by_contra hended
    exact hreceiver (h.quiet (.inr (Bool.not_eq_false _ ▸ hended))).2

/-- Nor while the runner has not ended. -/
theorem Sound.open_ (h : Sound es s) (hrunner : s.runner.hasEnded = false) : s.events.eventsEnded = false := by
  by_contra hended
  rw [(h.quiet (.inl (Bool.not_eq_false _ ▸ hended))).1] at hrunner
  cases hrunner

/-- A step does one thing to the events and keeps the rest of the invariant. -/
theorem Sound.after (h : Sound es s) (hm : s.events.Moves op.ends t.events) (hconfig : t.config = s.config)
    (hcarries : Carries (pushedBy s.config (pushed s.config es) op) t)
    (hlinks : ∀ heard on, hear s.config t.wire = some (heard, on) → Links t.connection on t.runner)
    (hshort : t.caller ≠ .pushing → t.pendingAudio.length < s.config.sendChunkBytes)
    (hquiet : t.events.eventsEnded = true ∨ t.runner.hasEnded = true → t.runner.hasEnded = true ∧ t.receiver = .none) :
    Sound (es ++ [op]) t ∧ s.events.Moves op.ends t.events := by
  refine ⟨⟨?_, ?_, ?_, ?_, EventQueue.shaped_of_moves h.shaped hm, hquiet⟩, hm⟩
  all_goals rw [hconfig]
  · rw [pushed_snoc]
    exact hcarries
  · exact h.sizes
  · exact hlinks
  · exact hshort

theorem sound_step (h : Sound es s) (hstep : Step s op t) (ht : t.fatal = none) :
    Sound (es ++ [op]) t ∧ s.events.Moves op.ends t.events := by
  obtain ⟨hput, hfails⟩ := not_failing hstep ht
  cases op with
  | pushAudio pcm =>
    obtain ⟨hcaller, hpush⟩ := Option.ite_none_right_eq_some.mp hstep
    obtain ⟨hcarries, _, _, rfl, hshort⟩ := pushAudio_carries h hcaller hpush ht
    exact h.after (.same rfl rfl) rfl hcarries h.links (fun _ => hshort) h.quiet
  | pushAudioWait pcm =>
    obtain ⟨hcaller, hpush⟩ := Option.ite_none_right_eq_some.mp hstep
    obtain ⟨hcarries, rfl | ⟨_, rfl⟩⟩ := pushAudioWait_carries h hcaller hpush
    · exact h.after (.same rfl rfl) rfl hcarries h.links h.short h.quiet
    · exact h.after (.same rfl rfl) rfl hcarries h.links (fun hnot => absurd rfl hnot) h.quiet
  | pushEnds =>
    obtain ⟨⟨hcaller, hshort⟩, hs⟩ := Option.ite_none_right_eq_some.mp hstep
    obtain rfl := Option.some.inj hs
    refine h.after (.same rfl rfl) rfl (h.carries.congr rfl rfl ?_ fun hs => ⟨hs, rfl, ?_⟩) h.links (fun _ => hshort)
      h.quiet
    · simp [rest, hcaller]
    · simp [held, hcaller]
  | flush =>
    obtain ⟨hcaller, hflush⟩ := Option.ite_none_right_eq_some.mp hstep
    obtain ⟨hcarries, _, rfl, -⟩ := flush_carries h hcaller hflush
    exact h.after (.same rfl rfl) rfl hcarries h.links (fun _ => h.short (by rw [hcaller]; rintro ⟨⟩)) h.quiet
  | aclose =>
    obtain ⟨hcaller, haclose⟩ := Option.ite_none_right_eq_some.mp hstep
    obtain ⟨hcarries, _, rfl⟩ := aclose_carries h hcaller haclose ht
    refine h.after (.same rfl rfl) rfl hcarries h.links (fun _ => ?_) h.quiet
    exact lt_of_le_of_lt (Nat.zero_le _) (h.short (by rw [hcaller]; rintro ⟨⟩))
  | putItem =>
    have hcarries := putItem_carries h hstep ht
    obtain ⟨_, _, _, rfl, hput⟩ := putItem_spec hstep ht
    refine h.after (.same rfl rfl) rfl hcarries h.links (fun hnot => ?_) h.quiet
    obtain ⟨-, hcaller, -⟩ | ⟨-, -, hcaller, -, hle⟩ := hput
    · exact absurd hcaller hnot
    · exact lt_of_le_of_lt hle (h.short hcaller)
  | putItemTimeout => exact absurd rfl hput
  | joined =>
    obtain ⟨⟨hcaller, hended⟩, hs⟩ := Option.ite_none_right_eq_some.mp hstep
    obtain rfl := Option.some.inj hs
    refine h.after (.ends rfl rfl) rfl (h.carries.congr rfl rfl ?_ fun hs => ⟨hs, rfl, ?_⟩) (fun heard on hheard => ?_)
      (fun _ => h.short (by rw [hcaller]; rintro ⟨⟩)) fun _ => ⟨hended, rfl⟩
    · simp [rest, hcaller]
    · simp [held, hcaller]
    · cases hrunner : s.runner
      all_goals
        rw [hrunner] at hended
        try cases hended
      trivial
  | joinTimeout =>
    obtain ⟨⟨hcaller, hended⟩, hs⟩ := Option.ite_none_right_eq_some.mp hstep
    obtain rfl := Option.some.inj hs
    refine h.after (.same rfl rfl) rfl (h.carries.congr rfl rfl rfl (by rintro ⟨⟩)) (fun _ _ _ => trivial) h.short ?_
    rintro (heventsEnded | ⟨⟨⟩⟩)
    cases heventsEnded.symm.trans (h.open_ hended)
  | takeItem reason =>
    have hcarries := takeItem_carries h hstep ht
    obtain ⟨hrunner, _, _, _, -, rfl, -, hended, hlinks, -⟩ := takeItem_spec hstep ht
    refine h.after (.same rfl rfl) rfl hcarries (fun heard on hheard => ?_) h.short ?_
    · have hon := h.links heard on hheard
      rw [hrunner] at hon
      obtain rfl : s.connection = on := hon
      exact hlinks
    · rintro (heventsEnded | hrunnerEnded)
      · cases heventsEnded.symm.trans (h.open_ (by rw [hrunner]; rfl))
      · cases hrunnerEnded.symm.trans hended
  | send =>
    have hcarries := send_carries h hstep
    obtain ⟨_, _, _, _, _, -, -, hended, hended', rfl, hlinks⟩ := send_spec hstep h.sending
    refine h.after (.same rfl rfl) rfl hcarries (fun heard on hheard => ?_) h.short ?_
    · obtain ⟨before, -, hone⟩ := hear_snoc hheard
      exact hlinks before heard on hone
    · rintro (heventsEnded | hrunnerEnded)
      · cases heventsEnded.symm.trans (h.open_ hended)
      · cases hrunnerEnded.symm.trans hended'
  | segmentEnds =>
    obtain ⟨last, hrunner, rfl⟩ := segmentEnds_spec hstep
    refine h.after (.same rfl rfl) rfl (h.carries.congr rfl rfl rfl fun _ => ⟨by rw [hrunner]; rfl, ?_, rfl⟩)
      (fun heard on hheard => ?_) h.short ?_
    · rw [hrunner]
      cases last <;> rfl
    · have hon := h.links heard on hheard
      rw [hrunner] at hon
      obtain rfl : on = false := hon
      cases last <;> trivial
    · rintro (heventsEnded | hrunnerEnded)
      · cases heventsEnded.symm.trans (h.open_ (by rw [hrunner]; rfl))
      · cases last <;> cases hrunnerEnded
  | runnerFails reason => exact absurd rfl (hfails reason)
  | runnerEnds =>
    obtain ⟨cancelled, hrunner, rfl⟩ := runnerEnds_spec hstep
    refine h.after (.ends rfl rfl) rfl (h.carries.congr rfl rfl rfl fun hs => ⟨?_, ?_, rfl⟩) (fun _ _ _ => trivial)
      h.short fun _ => ⟨rfl, rfl⟩
    all_goals rw [hrunner]
    · exact hs
    · rfl
  | receive message =>
    obtain ⟨hreceiver, _, rfl⟩ := receive_spec hstep
    obtain ⟨hopen, hended⟩ := h.listening hreceiver
    refine h.after (.same rfl rfl) rfl (h.carries.congr rfl rfl rfl fun hs => ⟨hs, rfl, rfl⟩) h.links h.short ?_
    rintro (hs | hs)
    · cases hs.symm.trans hopen
    · cases hs.symm.trans hended
  | receiverFails =>
    obtain ⟨hreceiver, rfl⟩ := receiverFails_spec hstep
    obtain ⟨hopen, hended⟩ := h.listening hreceiver
    refine h.after (.same rfl rfl) rfl (h.carries.congr rfl rfl rfl fun hs => ⟨hs, rfl, rfl⟩) h.links h.short ?_
    rintro (hs | hs)
    · cases hs.symm.trans hopen
    · cases hs.symm.trans hended
  | putEvent =>
    obtain ⟨hreceiver, event, _, events, hevents, rfl⟩ := putEvent_spec hstep
    obtain ⟨hopen, hended⟩ := h.listening hreceiver
    refine h.after (.put event rfl hopen hevents) rfl (h.carries.congr rfl rfl rfl fun hs => ⟨hs, rfl, rfl⟩) h.links
      h.short ?_
    obtain rfl := EventQueue.putEvent_some hevents
    rintro (hs | hs)
    · cases hs.symm.trans hopen
    · cases hs.symm.trans hended
  | next =>
    obtain ⟨events, hnext, rfl⟩ := Option.map_eq_some_iff.mp hstep
    refine h.after (.next rfl hnext) rfl (h.carries.congr rfl rfl rfl fun hs => ⟨hs, rfl, rfl⟩) h.links h.short ?_
    rw [EventQueue.next_eventsEnded hnext]
    exact h.quiet

theorem sound_initial (config : StandaloneConfig) : Sound [] (initial config) := by
  have hsizes := sizes config
  refine ⟨⟨[], [], {}, rfl, rfl, Nat.zero_mod _, fun _ hmem => (List.not_mem_nil hmem).elim, fun _ => ⟨rfl, rfl⟩⟩,
    hsizes, fun heard on hheard => ?_, fun _ => lt_of_lt_of_le hsizes.minimum hsizes.chunk, ⟨?_, ?_, ?_⟩, ?_⟩
  · exact congrArg Prod.snd (Option.some.inj hheard)
  · exact fun _ => ⟨List.not_mem_nil, rfl⟩
  · rintro ⟨⟩
  · rintro ⟨⟩
  · rintro (⟨⟨⟩⟩ | ⟨⟨⟩⟩)

/-- A run without a fatal error is sound, and keeps the events exactly if it puts no end marker in
a full queue. -/
theorem sound_kept (h : Run Step (initial config) es s) (hs : s.fatal = none) :
    Sound es s ∧ (s.events.Kept ↔ Run MeetingStep (initial config) es s) :=
  EventQueue.sound_kept_iff StandaloneFunASRStream.events (fun t => t.fatal ≠ none) Op.ends
    Sound h (not_not.mpr hs) (fun _ _ _ _ h h' => Option.some.inj (h.symm.trans h'))
    (fun _ _ _ hstep ht hu => ht (fatal_of_step hstep hu)) (sound_initial config) rfl (fun _ _ h => h.shaped)
    (fun _ _ _ _ h hstep hu => (sound_step h hstep (not_not.mp hu)).1)
    (fun _ _ _ _ h hstep hu => (sound_step h hstep (not_not.mp hu)).2)

theorem audio_conserved (h : Run Step (initial config) es s) (hs : s.fatal = none) : AudioConserved es s :=
  (sound_kept h hs).1.audioConserved

theorem conserved_iff (h : Run Step (initial config) es s) (hs : s.fatal = none) :
    Conserved es s ↔ Run MeetingStep (initial config) es s := by
  obtain ⟨hsound, hkept⟩ := sound_kept h hs
  constructor
  · exact fun hc => hkept.mp hc.kept
  · intro hall
    have hk := hkept.mpr hall
    exact ⟨audio_conserved h hs, hk, hk.yielded hsound.shaped⟩

end StandaloneFunASRStream

end RealtimeVoice.Worker.FunAsr.Standalone

namespace RealtimeVoice.Worker.FunAsr

open RealtimeVoice.Base RealtimeVoice.Base.Runs Local Standalone

/-- In a run of either stream without a fatal error, audio and events are conserved exactly if no
end marker is put in a full queue of events. -/
theorem asr_conserved_iff {config : FunASRStreamConfig} {es : List FunASRStream.Op} {s : FunASRStream}
    {config' : StandaloneConfig} {es' : List StandaloneFunASRStream.Op} {s' : StandaloneFunASRStream}
    (h : Run FunASRStream.Step (.initial config) es s) (hs : s.fatal = none)
    (h' : Run StandaloneFunASRStream.Step (.initial config') es' s') (hs' : s'.fatal = none) :
    (FunASRStream.Conserved es s ↔ Run FunASRStream.MeetingStep (.initial config) es s) ∧
      (StandaloneFunASRStream.Conserved es' s' ↔ Run StandaloneFunASRStream.MeetingStep (.initial config') es' s') :=
  ⟨FunASRStream.conserved_iff h hs, StandaloneFunASRStream.conserved_iff h' hs'⟩

/-- Two bytes a chunk and two places for events. -/
def smallConfig : FunASRStreamConfig :=
  { queueMaxChunks := 1, audioFs := 1000, sendChunkMs := 1, positive := by decide }

def remoteConfig : StandaloneConfig :=
  { sendChunkMs := 20, positive := by decide, sampleRate := rfl, packets := .inl rfl }

/-- A segment of three bytes, its transcript, and the close after that is read. -/
def localRun : List FunASRStream.Op :=
  [.pushAudio [1, 2, 3], .takeItem, .send, .flush, .takeItem, .send, .putItem, .takeItem, .send, .send,
    .receive (some "2pass-offline") (some "a"), .putEvent, .next, .aclose, .putItem, .takeItem, .send, .send, .joined,
    .disconnect, .closeEnds, .next]

def remoteRun : List StandaloneFunASRStream.Op :=
  [.pushAudio [1, 2, 3], .flush, .putItem, .putItem, .takeItem ⟨"", "", false⟩, .send, .send, .takeItem ⟨"", "", false⟩,
    .send, .receive { kind := .final, text := "a" }, .putEvent, .segmentEnds, .next, .aclose, .putItem,
    .takeItem ⟨"", "", false⟩, .runnerEnds, .joined, .next]

theorem asr_conserved_iff_read :
    (∃ s, Run FunASRStream.Step (.initial smallConfig) localRun s ∧ s.events.finished = true ∧
      FunASRStream.Conserved localRun s) ∧
    ∃ s, Run StandaloneFunASRStream.Step (.initial remoteConfig) remoteRun s ∧ s.events.finished = true ∧
      StandaloneFunASRStream.Conserved remoteRun s := by
  have hlocal : Run FunASRStream.MeetingStep (.initial smallConfig) localRun _ := Run.of_foldlM_if rfl
  have hremote : Run StandaloneFunASRStream.MeetingStep (.initial remoteConfig) remoteRun _ := Run.of_foldlM_if rfl
  have hlocal' := hlocal.mono fun _ _ _ hm => hm.2
  have hremote' := hremote.mono fun _ _ _ hm => hm.2
  obtain ⟨hl, hr⟩ := asr_conserved_iff hlocal' rfl hremote' rfl
  exact ⟨⟨_, hlocal', rfl, hl.mpr hlocal⟩, _, hremote', rfl, hr.mpr hremote⟩

/-- The end of a close takes the first of the two events that were not read yet. -/
def fullClose : List FunASRStream.Op :=
  [.receive (some "2pass-online") (some "a"), .putEvent, .receive (some "2pass-online") (some "b"), .putEvent, .aclose,
    .putItem, .takeItem, .send, .send, .joined, .disconnect, .closeEnds, .next, .next]

theorem event_lost_by_close : ∃ s, Run FunASRStream.Step (.initial smallConfig) fullClose s ∧ s.fatal = none ∧
    s.events.finished = true ∧ s.events.yielded.length < s.events.put.length ∧ ¬FunASRStream.Conserved fullClose s := by
  have hrun : Run FunASRStream.Step (.initial smallConfig) fullClose _ := Run.iff_foldlM.mpr rfl
  refine ⟨_, hrun, rfl, rfl, Nat.lt_succ_self 1, fun hc => ?_⟩
  have hlength := congrArg List.length (hc.yielded rfl)
  cases hlength

end RealtimeVoice.Worker.FunAsr
