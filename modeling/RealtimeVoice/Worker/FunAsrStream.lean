import RealtimeVoice.Base.Runs
import RealtimeVoice.Base.Segments
import RealtimeVoice.Worker.EventQueue
import RealtimeVoice.Worker.PcmFrames

namespace RealtimeVoice.Worker.FunAsr

open RealtimeVoice.Base RealtimeVoice.Base.Runs

abbrev Bytes := List UInt8

inductive RecognitionKind
  | interim
  | final
deriving DecidableEq

/-- `RecognitionEvent`. The identifiers, new UUIDs in the source, are numbered here. -/
structure RecognitionEvent where
  kind : RecognitionKind
  text : String
  segmentId : Nat
  requestId : Nat
  rawMode : String
deriving DecidableEq

structure FunASRStreamConfig where
  queueMaxChunks : Nat := 16
  audioFs : Nat := 16000
  sendChunkMs : Nat := 60
  positive : 0 < queueMaxChunks ∧ 0 < audioFs ∧ 0 < sendChunkMs
deriving DecidableEq

def FunASRStreamConfig.sendChunkBytes (c : FunASRStreamConfig) : Nat := c.audioFs * 2 * c.sendChunkMs / 1000

/-- An item of the audio queue. -/
inductive Item
  | audio (chunk : Bytes)
  | flushMarker
  | closeMarker
deriving DecidableEq

def audioFull : ProviderError := ⟨"funasr", "audio queue is full", true⟩
def eventFull : ProviderError := ⟨"funasr", "event queue is full", true⟩

/-- The characters that `str.strip` and `str.split` take away. -/
def isSpace (c : Char) : Bool :=
  let n := c.toNat
  (9 ≤ n && n ≤ 13) || (28 ≤ n && n ≤ 32) || n == 0x85 || n == 0xA0 || n == 0x1680 || (0x2000 ≤ n && n ≤ 0x200A) ||
    n == 0x2028 || n == 0x2029 || n == 0x202F || n == 0x205F || n == 0x3000

/-- `not text.strip()` -/
def isBlank (text : String) : Bool := text.toList.all isSpace

/-- The caller's side of a stream, which both classes have. -/
structure AudioInput where
  config : FunASRStreamConfig
  audio : List Item := []
  pendingAudio : Bytes := []
  closed : Bool := false
  fatal : Option ProviderError := none
deriving DecidableEq

namespace AudioInput

def setFatal (a : AudioInput) (error : ProviderError) : AudioInput := { a with fatal := a.fatal.or (some error) }

def hasRoom (a : AudioInput) : Prop := a.audio.length < a.config.queueMaxChunks

instance (a : AudioInput) : Decidable a.hasRoom := inferInstanceAs (Decidable (_ < _))

/-- `_queue_audio`; it raises where it sets the fatal error. -/
def queueAudio (a : AudioInput) (chunk : Bytes) : AudioInput :=
  if a.hasRoom then { a with audio := a.audio ++ [.audio chunk] } else a.setFatal audioFull

/-- The loop of `push_audio`. Every round takes a place of the queue, or raises, so the fuel is
one more than the free places. -/
def pushLoop : Nat → AudioInput → AudioInput
  | 0, a => a
  | fuel + 1, a =>
    if a.config.sendChunkBytes ≤ a.pendingAudio.length then
      let chunk := a.pendingAudio.take a.config.sendChunkBytes
      let a := { a with pendingAudio := a.pendingAudio.drop a.config.sendChunkBytes }
      if a.hasRoom then pushLoop fuel (a.queueAudio chunk) else a.queueAudio chunk
    else a

/-- The rest of `push_audio`. -/
def push (a : AudioInput) (pcm : Bytes) : AudioInput :=
  pushLoop (a.config.queueMaxChunks - a.audio.length + 1) { a with pendingAudio := a.pendingAudio ++ pcm }

variable {a : AudioInput}

theorem setFatal_fatal {error : ProviderError} : (a.setFatal error).fatal ≠ none := by
  rw [setFatal]
  cases a.fatal <;> simp

theorem queueAudio_spec {chunk : Bytes} (h : (a.queueAudio chunk).fatal = none) :
    a.hasRoom ∧ a.queueAudio chunk = { a with audio := a.audio ++ [.audio chunk] } := by
  by_cases hroom : a.hasRoom
  · exact ⟨hroom, by rw [queueAudio, if_pos hroom]⟩
  · rw [queueAudio, if_neg hroom] at h
    exact absurd h setFatal_fatal

theorem fatal_of_queueAudio {chunk : Bytes} (h : (a.queueAudio chunk).fatal = none) : a.fatal = none := by
  rw [(queueAudio_spec h).2] at h
  exact h

/-- The loop queues whole chunks and leaves the rest. -/
theorem pushLoop_spec (fuel : Nat) (h : (pushLoop fuel a).fatal = none)
    (hfuel : a.config.queueMaxChunks - a.audio.length < fuel) : ∃ (chunks : List Bytes) (pending : Bytes),
    pushLoop fuel a = { a with audio := a.audio ++ chunks.map .audio, pendingAudio := pending } ∧
      chunks.flatten ++ pending = a.pendingAudio ∧ (∀ chunk ∈ chunks, chunk.length = a.config.sendChunkBytes) ∧
      pending.length < a.config.sendChunkBytes := by
  induction fuel generalizing a with
  | zero => exact absurd hfuel (Nat.not_lt_zero _)
  | succ fuel ih =>
    rw [pushLoop] at h ⊢
    simp only at h ⊢
    split_ifs at h ⊢ with hchunk hroom
    · have hlength : a.audio.length < a.config.queueMaxChunks := hroom
      rw [queueAudio, if_pos hroom] at h ⊢
      obtain ⟨chunks, pending, heq, hflat, hall, hshort⟩ := ih h (by simp only [List.length_append]; simp; omega)
      refine ⟨a.pendingAudio.take a.config.sendChunkBytes :: chunks, pending, ?_, ?_, ?_, hshort⟩
      · rw [heq, List.map_cons, List.append_assoc]
        rfl
      · rw [List.flatten_cons, List.append_assoc, hflat]
        exact List.take_append_drop _ _
      · intro chunk hmem
        rcases List.mem_cons.mp hmem with rfl | hmem
        · exact List.length_take_of_le hchunk
        · exact hall chunk hmem
    · exact absurd (queueAudio_spec h).1 hroom
    · exact ⟨[], a.pendingAudio, by simp, rfl, fun _ hc => (List.not_mem_nil hc).elim, not_le.mp hchunk⟩

theorem push_spec {pcm : Bytes} (h : (a.push pcm).fatal = none) : ∃ (chunks : List Bytes) (pending : Bytes),
    a.push pcm = { a with audio := a.audio ++ chunks.map .audio, pendingAudio := pending } ∧
      chunks.flatten ++ pending = a.pendingAudio ++ pcm ∧
      (∀ chunk ∈ chunks, chunk.length = a.config.sendChunkBytes) ∧ pending.length < a.config.sendChunkBytes :=
  pushLoop_spec _ h (Nat.lt_succ_self _)

end AudioInput

namespace Local

/-- A message that the sender sends. -/
inductive Message
  | speaking (on : Bool)
  | audio (chunk : Bytes)
deriving DecidableEq

/-- Where the caller's last call stands. -/
inductive Caller
  | idle
  /-- `flush` waits to put its marker. -/
  | flushing
  /-- `aclose` waits to put the first of these. -/
  | closing (items : List Item)
  /-- `aclose` waits for the sender, then for the receiver that it cancelled. -/
  | joining
  | disconnecting
  /-- `aclose` is about to end the events. -/
  | ending
deriving DecidableEq

/-- What the caller waits to put. -/
def Caller.held : Caller → List Item
  | .flushing => [.flushMarker]
  | .closing items => items
  | _ => []

inductive Sender
  | waiting
  /-- These messages are to be sent; the last ones if the close marker was taken. -/
  | sending (messages : List Message) (last : Bool)
  | finished
  | cancelled
deriving DecidableEq

def Sender.todo : Sender → List Message
  | .sending messages _ => messages
  | _ => []

inductive Receiver
  | receiving
  /-- Waits to put the event. -/
  | putting (event : RecognitionEvent)
  | ended
deriving DecidableEq

/-- A started `FunASRStream`, with where its tasks stand and the messages sent by the sender. -/
structure FunASRStream extends AudioInput where
  events : EventQueue RecognitionEvent
  wireIsSpeaking : Bool := true
  needsNewSegment : Bool := false
  activeSegmentId : Nat := 1
  finalizingSegmentId : Option Nat := none
  requestId : Nat := 0
  nextId : Nat := 2
  caller : Caller := .idle
  sender : Sender := .waiting
  receiver : Receiver := .receiving
  wire : List Message := []

namespace FunASRStream

def setFatal (s : FunASRStream) (error : ProviderError) : FunASRStream :=
  { s with toAudioInput := s.toAudioInput.setFatal error }

/-- `push_audio`, or nothing where it raises before it changes anything. -/
def pushAudio (s : FunASRStream) (pcm : Bytes) : Option FunASRStream :=
  if s.closed then none
  else if pcm = [] then some s
  else if s.fatal.isSome then none
  else
    let s :=
      if s.needsNewSegment then
        { s with activeSegmentId := s.nextId, nextId := s.nextId + 1, needsNewSegment := false }
      else s
    some { s with toAudioInput := s.toAudioInput.push pcm }

def flushPendingAudio (s : FunASRStream) : FunASRStream :=
  if s.pendingAudio = [] then s
  else { s with toAudioInput := { s.toAudioInput with pendingAudio := [] }.queueAudio s.pendingAudio }

/-- `flush` up to where it waits to put its marker. It returns at once on a closed stream, and
raises while a final transcript is pending or if the queue has no place for the tail. -/
def flush (s : FunASRStream) : Option FunASRStream :=
  if s.closed then none
  else if s.finalizingSegmentId.isSome then none
  else if s.pendingAudio ≠ [] ∧ ¬s.hasRoom then some s.flushPendingAudio
  else
    some { s.flushPendingAudio with
      finalizingSegmentId := some s.activeSegmentId, needsNewSegment := true, caller := .flushing }

/-- `aclose` up to where it waits to put the tail and its marker. -/
def aclose (s : FunASRStream) : Option FunASRStream :=
  if s.closed then none
  else
    let s := { s with closed := true }
    if s.fatal.isNone ∧ s.pendingAudio ≠ [] then
      some { s with pendingAudio := [], caller := .closing [.audio s.pendingAudio, .closeMarker] }
    else some { s with caller := .closing [.closeMarker] }

/-- The caller puts what it waits to put. -/
def putItem (s : FunASRStream) : Option FunASRStream :=
  if ¬s.hasRoom then none
  else
    match s.caller with
    | .flushing => some { s with audio := s.audio ++ [.flushMarker], caller := .idle }
    | .closing [item] => some { s with audio := s.audio ++ [item], caller := .joining }
    | .closing (item :: items) => some { s with audio := s.audio ++ [item], caller := .closing items }
    | _ => none

/-- It has waited too long. -/
def putItemTimeout (s : FunASRStream) : Option FunASRStream :=
  match s.caller with
  | .flushing =>
    some { s.setFatal audioFull with finalizingSegmentId := none, needsNewSegment := false, caller := .idle }
  | .closing _ => some { s.setFatal audioFull with sender := .cancelled, caller := .disconnecting }
  | _ => none

/-- Two bytes a sample of silence. -/
def silence (c : FunASRStreamConfig) : Bytes := List.replicate c.sendChunkBytes 0

/-- `_send_end_of_segment` -/
def endOfSegment (c : FunASRStreamConfig) : List Message := [.speaking false, .audio (silence c)]

/-- The sender takes an item. -/
def takeItem (s : FunASRStream) : Option FunASRStream :=
  match s.sender, s.audio with
  | .waiting, .flushMarker :: audio =>
    some { s with audio := audio, wireIsSpeaking := false, sender := .sending (endOfSegment s.config) false }
  | .waiting, .closeMarker :: audio =>
    some { s with audio := audio, wireIsSpeaking := false, sender := .sending (endOfSegment s.config) true }
  | .waiting, .audio chunk :: audio =>
    let messages := if s.wireIsSpeaking then [.audio chunk] else [.speaking true, .audio chunk]
    some { s with audio := audio, wireIsSpeaking := true, sender := .sending messages false }
  | _, _ => none

/-- A message is sent. -/
def send (s : FunASRStream) : Option FunASRStream :=
  match s.sender with
  | .sending [message] last =>
    some { s with wire := s.wire ++ [message], sender := if last then .finished else .waiting }
  | .sending (message :: messages) last => some { s with wire := s.wire ++ [message], sender := .sending messages last }
  | _ => none

def endEvents (s : FunASRStream) : FunASRStream := { s with events := s.events.endEvents }

def sendFails (s : FunASRStream) (reason : String) : Option FunASRStream :=
  match s.sender with
  | .sending _ _ => some { s.setFatal ⟨"funasr", reason, true⟩ with sender := .cancelled }.endEvents
  | _ => none

/-- `_parse_message` of the mode and the text, where these are texts. -/
def parseMessage (s : FunASRStream) (mode text : Option String) : FunASRStream × Option RecognitionEvent :=
  let shown := text.filter (!isBlank ·)
  if mode = some "2pass-offline" then
    ({ s with finalizingSegmentId := none },
      shown.map fun text => ⟨.final, text, s.finalizingSegmentId.getD s.activeSegmentId, s.requestId, "2pass-offline"⟩)
  else if mode = some "2pass-online" then
    (s, shown.map fun text => ⟨.interim, text, s.activeSegmentId, s.requestId, "2pass-online"⟩)
  else (s, none)

/-- An object is received. -/
def receive (s : FunASRStream) (mode text : Option String) : Option FunASRStream :=
  match s.receiver with
  | .receiving =>
    match s.parseMessage mode text with
    | (s, none) => some s
    | (s, some event) => some { s with receiver := .putting event }
  | _ => none

/-- The receiver puts the event that it waits to put. -/
def putEvent (s : FunASRStream) : Option FunASRStream :=
  match s.receiver with
  | .putting event => (s.events.putEvent event).map fun events => { s with events := events, receiver := .receiving }
  | _ => none

/-- What `_receive_loop` does with an exception. -/
def receiverEnds (s : FunASRStream) (reason : String) : FunASRStream :=
  let s := if s.closed then s else s.setFatal ⟨"funasr", reason, true⟩
  { s with receiver := .ended }.endEvents

def receiveFails (s : FunASRStream) (reason : String) : Option FunASRStream :=
  match s.receiver with
  | .receiving => some (s.receiverEnds reason)
  | _ => none

def putEventTimeout (s : FunASRStream) (reason : String) : Option FunASRStream :=
  match s.receiver with
  | .putting _ => some ((s.setFatal eventFull).receiverEnds reason)
  | _ => none

/-- `aclose` goes on: the sender is done, or is not for too long and is cancelled; the receiver is
cancelled; the events are ended. -/
def joined (s : FunASRStream) : Option FunASRStream :=
  if s.caller = .joining ∧ (s.sender = .finished ∨ s.sender = .cancelled) then some { s with caller := .disconnecting }
  else none

def joinTimeout (s : FunASRStream) : Option FunASRStream :=
  if s.caller = .joining ∧ s.sender ≠ .finished ∧ s.sender ≠ .cancelled then
    some { s with sender := .cancelled, caller := .disconnecting }
  else none

def disconnect (s : FunASRStream) : Option FunASRStream :=
  if s.caller = .disconnecting then some { s with receiver := .ended, caller := .ending } else none

def closeEnds (s : FunASRStream) : Option FunASRStream :=
  if s.caller = .ending then some { s with caller := .idle }.endEvents else none

inductive Op
  | pushAudio (pcm : Bytes)
  | flush
  | aclose
  | putItem
  | putItemTimeout
  | joined
  | joinTimeout
  | disconnect
  | closeEnds
  | takeItem
  | send
  | sendFails (reason : String)
  | receive (mode text : Option String)
  | putEvent
  | receiveFails (reason : String)
  | putEventTimeout (reason : String)
  /-- A round of `events`. -/
  | next
deriving DecidableEq

/-- One step of the caller, of a task or of the reader of the events. The caller makes one call
at a time. -/
def perform (s : FunASRStream) : Op → Option FunASRStream
  | .pushAudio pcm => if s.caller = .idle then s.pushAudio pcm else none
  | .flush => if s.caller = .idle then s.flush else none
  | .aclose => if s.caller = .idle then s.aclose else none
  | .putItem => s.putItem
  | .putItemTimeout => s.putItemTimeout
  | .joined => s.joined
  | .joinTimeout => s.joinTimeout
  | .disconnect => s.disconnect
  | .closeEnds => s.closeEnds
  | .takeItem => s.takeItem
  | .send => s.send
  | .sendFails reason => s.sendFails reason
  | .receive mode text => s.receive mode text
  | .putEvent => s.putEvent
  | .receiveFails reason => s.receiveFails reason
  | .putEventTimeout reason => s.putEventTimeout reason
  | .next => s.events.next.map fun events => { s with events := events }

def Step (s : FunASRStream) (op : Op) (t : FunASRStream) : Prop := s.perform op = some t

/-- A stream that was just started. -/
def initial (config : FunASRStreamConfig) : FunASRStream :=
  { config := config, events := { maxsize := config.queueMaxChunks * 2, room := by have := config.positive.1; omega } }

/-- What a segment has after an item of the queue. -/
def item (p : Segments UInt8) : Item → Segments UInt8
  | .audio chunk => p.add chunk
  | _ => p.close

/-- What the caller pushed, in the segments between its flushes. -/
def pushedBy (p : Segments UInt8) : Op → Segments UInt8
  | .pushAudio pcm => p.add pcm
  | .flush => p.close
  | .aclose => p.close
  | _ => p

def pushed (es : List Op) : Segments UInt8 := es.foldl pushedBy {}

/-- What a message adds to the audio of the connection, and whether the silent chunk of an end
of segment is due. Nothing where the message is out of place. -/
def hearOne (silence : Bytes) (h : Segments UInt8 × Bool) : Message → Option (Segments UInt8 × Bool)
  | .speaking true => if h.2 then none else some h
  | .speaking false => if h.2 then none else some (h.1.close, true)
  | .audio chunk => if h.2 then if chunk = silence then some (h.1, false) else none else some (h.1.add chunk, false)

def hear (silence : Bytes) (wire : List Message) : Option (Segments UInt8 × Bool) :=
  wire.foldlM (hearOne silence) ({}, false)

/-- The audio on the connection is what was pushed, segment by segment and with a silent chunk
after each, as far as it was sent; and it is all that was pushed once nothing waits. -/
structure AudioConserved (es : List Op) (s : FunASRStream) : Prop where
  sent : ∃ heard, hear (silence s.config) s.wire = some heard ∧ heard.1.Begins (pushed es)
  all : s.sender = .waiting ∨ s.sender = .finished → s.audio = [] → s.caller = .idle →
    ∃ heard, hear (silence s.config) s.wire = some (heard, false) ∧ heard.add s.pendingAudio = pushed es

/-- The step puts the end marker, unless that is there. -/
def Op.ends : Op → Bool
  | .closeEnds => true
  | .sendFails _ => true
  | .receiveFails _ => true
  | .putEventTimeout _ => true
  | _ => false

/-- A step that puts no end marker in a full queue. -/
def MeetingStep (s : FunASRStream) (op : Op) (t : FunASRStream) : Prop :=
  (op.ends = true → s.events.Roomy) ∧ Step s op t

/-- What the claimed stream looks like. -/
structure Conserved (es : List Op) (s : FunASRStream) : Prop where
  audio : AudioConserved es s
  kept : s.events.Kept
  yielded : s.events.finished = true → s.events.yielded = s.events.put

variable {s t : FunASRStream} {op : Op} {es : List Op} {config : FunASRStreamConfig} {quiet : Bytes}

theorem hear_append {wire more : List Message} {heard : Segments UInt8 × Bool} (h : hear quiet wire = some heard) :
    hear quiet (wire ++ more) = more.foldlM (hearOne quiet) heard := by
  rw [hear] at h
  rw [hear, List.foldlM_append, h]
  rfl

theorem hearOne_begins {heard heard' : Segments UInt8 × Bool} {message : Message}
    (h : hearOne quiet heard message = some heard') : heard.1.Begins heard'.1 := by
  cases message with
  | speaking on =>
    cases on
    all_goals
      rw [hearOne] at h
      split_ifs at h
      obtain rfl := Option.some.inj h
    · exact heard.1.begins_close
    · exact .refl _
  | audio chunk =>
    rw [hearOne] at h
    split_ifs at h
    all_goals obtain rfl := Option.some.inj h
    · exact .refl _
    · exact heard.1.begins_add chunk

theorem hear_begins {wire : List Message} {heard heard' : Segments UInt8 × Bool}
    (h : wire.foldlM (hearOne quiet) heard = some heard') : heard.1.Begins heard'.1 := by
  induction wire generalizing heard with
  | nil =>
    obtain rfl := Option.some.inj h
    exact .refl _
  | cons message wire ih =>
    obtain ⟨middle, hone, hrest⟩ := Option.bind_eq_some_iff.mp h
    exact (hearOne_begins hone).trans (ih hrest)

theorem item_begins (p : Segments UInt8) (i : Item) : p.Begins (item p i) := by
  cases i with
  | audio chunk => exact p.begins_add chunk
  | flushMarker => exact p.begins_close
  | closeMarker => exact p.begins_close

theorem items_begin (p : Segments UInt8) (items : List Item) : p.Begins (items.foldl item p) := by
  induction items generalizing p with
  | nil => exact .refl _
  | cons i items ih => exact (item_begins p i).trans (ih _)

theorem foldl_item_audio (p : Segments UInt8) (chunks : List Bytes) :
    (chunks.map Item.audio).foldl item p = p.add chunks.flatten := by
  induction chunks generalizing p with
  | nil => simp
  | cons chunk chunks ih =>
    rw [List.map_cons, List.foldl_cons, ih, item, Segments.add_add, List.flatten_cons]

/-- What was sent, what the sender has to send, and what waits to be sent are what was pushed.
The last two are what they are in the state unless the sender was cancelled. -/
def Carries (p : Segments UInt8) (s : FunASRStream) : Prop :=
  ∃ todo items heard, hear (silence s.config) (s.wire ++ todo) = some (heard, false) ∧
    (items.foldl item heard).add s.pendingAudio = p ∧
    (s.sender ≠ .cancelled → todo = s.sender.todo ∧ items = s.audio ++ s.caller.held)

/-- The state of a stream that did not fail. -/
structure Sound (es : List Op) (s : FunASRStream) : Prop where
  carries : Carries (pushed es) s
  shaped : s.events.Shaped
  quiet : s.events.eventsEnded = true ∨ s.caller = .ending → s.receiver = .ended

theorem Carries.conserved {p : Segments UInt8} (h : Carries p s) :
    ∃ heard, hear (silence s.config) s.wire = some heard ∧ heard.1.Begins p := by
  obtain ⟨todo, items, heard, hheard, rfl, -⟩ := h
  rw [hear, List.foldlM_append] at hheard
  obtain ⟨before, hbefore, htodo⟩ := Option.bind_eq_some_iff.mp hheard
  refine ⟨before, hbefore, ?_⟩
  exact ((hear_begins htodo).trans (items_begin heard items)).trans (Segments.begins_add _ _)

theorem Sound.audioConserved (h : Sound es s) : AudioConserved es s := by
  refine ⟨h.carries.conserved, fun hsender haudio hcaller => ?_⟩
  obtain ⟨todo, items, heard, hheard, hall, hsame⟩ := h.carries
  have hnot : s.sender ≠ .cancelled := by
    rcases hsender with hs | hs <;> rw [hs] <;> rintro ⟨⟩
  obtain ⟨rfl, rfl⟩ := hsame hnot
  have htodo : s.sender.todo = [] := by
    rcases hsender with hs | hs <;> rw [hs] <;> rfl
  rw [htodo, List.append_nil] at hheard
  rw [haudio, hcaller] at hall
  exact ⟨heard, hheard, hall⟩

/-- Nothing changes of the audio. -/
theorem Carries.congr {p : Segments UInt8} (h : Carries p s) (hconfig : t.config = s.config) (hwire : t.wire = s.wire)
    (hsender : t.sender = s.sender ∨ t.sender = .cancelled) (hpending : t.pendingAudio = s.pendingAudio)
    (hitems : t.audio ++ t.caller.held = s.audio ++ s.caller.held) : Carries p t := by
  obtain ⟨todo, items, heard, hheard, hall, hsame⟩ := h
  refine ⟨todo, items, heard, ?_, ?_, fun hnot => ?_⟩
  · rw [hconfig, hwire]
    exact hheard
  · rw [hpending]
    exact hall
  · rcases hsender with hs | hs
    · rw [hs] at hnot ⊢
      rw [hitems]
      exact hsame hnot
    · exact absurd hs hnot

/-- New audio and items. -/
theorem Carries.extend {p : Segments UInt8} (more : List Item) (change : Segments UInt8 → Segments UInt8)
    (h : Carries p s) (hconfig : t.config = s.config) (hwire : t.wire = s.wire)
    (hsame : t.sender = s.sender) (hitems : t.audio ++ t.caller.held = s.audio ++ s.caller.held ++ more)
    (hchange : ∀ q : Segments UInt8, (more.foldl item q).add t.pendingAudio = change (q.add s.pendingAudio)) :
    Carries (change p) t := by
  obtain ⟨todo, items, heard, hheard, rfl, hstate⟩ := h
  refine ⟨todo, items ++ more, heard, ?_, ?_, fun hnot => ?_⟩
  · rw [hconfig, hwire]
    exact hheard
  · rw [List.foldl_append]
    exact hchange _
  · rw [hsame] at hnot ⊢
    obtain ⟨htodo, rfl⟩ := hstate hnot
    exact ⟨htodo, hitems.symm⟩

theorem setFatal_fatal {error : ProviderError} : (s.setFatal error).fatal ≠ none := AudioInput.setFatal_fatal

theorem pushAudio_carries {pcm : Bytes} {p : Segments UInt8} (h : Carries p s) (hcaller : s.caller = .idle)
    (hpush : s.pushAudio pcm = some t) (ht : t.fatal = none) :
    Carries (p.add pcm) t ∧ ∃ audio pending active next needs, t = { s with
      audio := audio, pendingAudio := pending, activeSegmentId := active, nextId := next,
      needsNewSegment := needs } := by
  rw [pushAudio] at hpush
  split_ifs at hpush with hc hnil hfatal
  · obtain rfl := Option.some.inj hpush
    rw [hnil, Segments.add_nil]
    exact ⟨h, _, _, _, _, _, rfl⟩
  all_goals
    obtain rfl := Option.some.inj hpush
    obtain ⟨chunks, pending, heq, hflat, -⟩ := AudioInput.push_spec ht
    rw [heq]
    refine ⟨h.extend (chunks.map .audio) (·.add pcm) rfl rfl rfl ?_ fun q => ?_, _, _, _, _, _, rfl⟩
    · simp [hcaller, Caller.held]
    · rw [foldl_item_audio, Segments.add_add, Segments.add_add, hflat]

theorem flush_carries {p : Segments UInt8} (h : Carries p s) (hcaller : s.caller = .idle)
    (hflush : s.flush = some t) (ht : t.fatal = none) :
    Carries p.close t ∧ ∃ audio pending finalizing needs, t = { s with
      audio := audio, pendingAudio := pending, finalizingSegmentId := finalizing, needsNewSegment := needs,
      caller := .flushing } := by
  rw [flush] at hflush
  split_ifs at hflush with hc hfinalizing hfull
  · obtain rfl := Option.some.inj hflush
    rw [flushPendingAudio, if_neg hfull.1] at ht
    exact absurd (AudioInput.queueAudio_spec ht).1 hfull.2
  · obtain rfl := Option.some.inj hflush
    by_cases hnil : s.pendingAudio = []
    · rw [flushPendingAudio, if_pos hnil]
      refine ⟨h.extend [.flushMarker] Segments.close rfl rfl rfl ?_ fun q => ?_, _, _, _, _, rfl⟩
      · simp [hcaller, Caller.held]
      · simp [item, hnil]
    · rw [flushPendingAudio, if_neg hnil] at ht ⊢
      rw [(AudioInput.queueAudio_spec ht).2]
      refine ⟨h.extend [.audio s.pendingAudio, .flushMarker] Segments.close rfl rfl rfl ?_ fun q => ?_,
        _, _, _, _, rfl⟩
      · simp [hcaller, Caller.held]
      · simp [item]

theorem aclose_carries {p : Segments UInt8} (h : Carries p s) (hcaller : s.caller = .idle)
    (haclose : s.aclose = some t) (ht : t.fatal = none) :
    Carries p.close t ∧ ∃ pending items, t = { s with
      closed := true, pendingAudio := pending, caller := .closing items } := by
  rw [aclose] at haclose
  simp only at haclose
  split_ifs at haclose with hc hpending
  all_goals
    obtain rfl := Option.some.inj haclose
  · refine ⟨h.extend [.audio s.pendingAudio, .closeMarker] Segments.close rfl rfl rfl ?_ fun q => ?_,
      _, _, rfl⟩
    · simp [hcaller, Caller.held]
    · simp [item]
  · have hnil : s.pendingAudio = [] := by
      by_contra hne
      have hnone : s.fatal = none := ht
      exact hpending ⟨by rw [hnone]; rfl, hne⟩
    refine ⟨h.extend [.closeMarker] Segments.close rfl rfl rfl ?_ fun q => ?_, _, _, rfl⟩
    · simp [hcaller, Caller.held]
    · simp [item, hnil]

/-- The sender takes the first item; its messages say what the item means. -/
theorem takeItem_spec (h : s.takeItem = some t) : s.sender = .waiting ∧ ∃ i audio speaking messages last,
    s.audio = i :: audio ∧
    t = { s with audio := audio, wireIsSpeaking := speaking, sender := .sending messages last } ∧
    ∀ p, messages.foldlM (hearOne (silence s.config)) (p, false) = some (item p i, false) := by
  rw [takeItem] at h
  cases hsender : s.sender
  case waiting =>
    refine ⟨rfl, ?_⟩
    cases haudio : s.audio with
    | nil =>
      rw [hsender, haudio] at h
      cases h
    | cons first audio =>
      rw [hsender, haudio] at h
      cases first
      all_goals obtain rfl := Option.some.inj h
      case audio chunk =>
        refine ⟨_, _, _, _, _, rfl, rfl, fun p => ?_⟩
        split_ifs <;> rfl
      all_goals
        refine ⟨_, _, _, _, _, rfl, rfl, fun p => ?_⟩
        simp [endOfSegment, hearOne, item]
  all_goals
    rw [hsender] at h
    cases h

theorem takeItem_carries {p : Segments UInt8} (h : Carries p s) (htake : s.takeItem = some t) : Carries p t := by
  obtain ⟨hsender, i, audio, speaking, messages, last, haudio, rfl, hmessages⟩ := takeItem_spec htake
  obtain ⟨todo, items, heard, hheard, hall, hsame⟩ := h
  obtain ⟨rfl, rfl⟩ := hsame (by rw [hsender]; rintro ⟨⟩)
  rw [hsender] at hheard
  change hear _ (s.wire ++ []) = _ at hheard
  rw [List.append_nil] at hheard
  rw [haudio] at hall
  refine ⟨messages, audio ++ s.caller.held, item heard i, ?_, hall, fun _ => ⟨rfl, rfl⟩⟩
  rw [hear_append hheard]
  exact hmessages heard

/-- The first message that is to be sent is sent. -/
theorem send_spec (h : s.send = some t) : s.sender ≠ .cancelled ∧ ∃ message sender,
    s.sender.todo = message :: sender.todo ∧ t = { s with wire := s.wire ++ [message], sender := sender } := by
  rw [send] at h
  rcases hsender : s.sender with _ | ⟨_ | ⟨message, _ | ⟨more, messages⟩⟩, last⟩ | _ | _
  all_goals rw [hsender] at h
  case sending.cons.nil =>
    obtain rfl := Option.some.inj h
    refine ⟨by rintro ⟨⟩, message, _, ?_, rfl⟩
    cases last <;> rfl
  case sending.cons.cons =>
    obtain rfl := Option.some.inj h
    exact ⟨by rintro ⟨⟩, message, _, rfl, rfl⟩
  all_goals cases h

theorem send_carries {p : Segments UInt8} (h : Carries p s) (hsend : s.send = some t) : Carries p t := by
  obtain ⟨hsender, message, sender, htodo, rfl⟩ := send_spec hsend
  obtain ⟨todo, items, heard, hheard, hall, hsame⟩ := h
  obtain ⟨rfl, rfl⟩ := hsame hsender
  refine ⟨sender.todo, s.audio ++ s.caller.held, heard, ?_, hall, fun _ => ⟨rfl, rfl⟩⟩
  rw [htodo] at hheard
  rw [List.append_assoc]
  exact hheard

/-- The caller puts the first of the items that it holds. -/
theorem putItem_spec (h : s.putItem = some t) : ∃ i caller, s.caller.held = i :: caller.held ∧
    t = { s with audio := s.audio ++ [i], caller := caller } ∧ caller ≠ .ending := by
  rw [putItem] at h
  split_ifs at h with hfull
  rcases hcaller : s.caller with _ | _ | ⟨_ | ⟨i, _ | ⟨i', items⟩⟩⟩ | _ | _ | _
  all_goals rw [hcaller] at h
  case flushing =>
    obtain rfl := Option.some.inj h
    exact ⟨_, .idle, rfl, rfl, by rintro ⟨⟩⟩
  case closing.cons.nil =>
    obtain rfl := Option.some.inj h
    exact ⟨_, .joining, rfl, rfl, by rintro ⟨⟩⟩
  case closing.cons.cons =>
    obtain rfl := Option.some.inj h
    exact ⟨_, .closing (i' :: items), rfl, rfl, by rintro ⟨⟩⟩
  all_goals cases h

theorem putItem_carries {p : Segments UInt8} (h : Carries p s) (hput : s.putItem = some t) : Carries p t := by
  obtain ⟨i, caller, hheld, rfl, -⟩ := putItem_spec hput
  refine h.congr rfl rfl (.inl rfl) rfl ?_
  rw [hheld, List.append_assoc]
  rfl

theorem pushed_snoc : pushed (es ++ [op]) = pushedBy (pushed es) op := List.foldl_append

theorem parseMessage_fst (mode text : Option String) :
    ∃ finalizing, (s.parseMessage mode text).1 = { s with finalizingSegmentId := finalizing } := by
  rw [parseMessage]
  split_ifs
  all_goals exact ⟨_, rfl⟩

theorem receive_spec {mode text : Option String} (h : s.receive mode text = some t) :
    s.receiver = .receiving ∧ ∃ finalizing receiver,
      t = { s with finalizingSegmentId := finalizing, receiver := receiver } := by
  rw [receive] at h
  cases hreceiver : s.receiver
  case receiving =>
    refine ⟨rfl, ?_⟩
    rw [hreceiver] at h
    obtain ⟨finalizing, hfst⟩ := parseMessage_fst (s := s) mode text
    generalize s.parseMessage mode text = parsed at h hfst
    obtain ⟨r, _ | event⟩ := parsed
    all_goals
      obtain rfl : r = _ := hfst
      obtain rfl := Option.some.inj h
      exact ⟨_, _, rfl⟩
  all_goals
    rw [hreceiver] at h
    cases h

theorem receiveFails_spec {reason : String} (h : s.receiveFails reason = some t) (ht : t.fatal = none) :
    t = { s with receiver := .ended, events := s.events.endEvents } := by
  rw [receiveFails] at h
  cases hreceiver : s.receiver
  case receiving =>
    rw [hreceiver] at h
    obtain rfl := Option.some.inj h
    by_cases hclosed : s.closed = true
    · simp [receiverEnds, hclosed, endEvents]
    · rw [receiverEnds, if_neg hclosed] at ht
      exact absurd ht setFatal_fatal
  all_goals
    rw [hreceiver] at h
    cases h

theorem putEvent_spec (h : s.putEvent = some t) : ∃ event, s.receiver = .putting event ∧ ∃ events,
    s.events.putEvent event = some events ∧ t = { s with events := events, receiver := .receiving } := by
  rw [putEvent] at h
  cases hreceiver : s.receiver
  case putting event =>
    rw [hreceiver] at h
    obtain ⟨events, hevents, rfl⟩ := Option.map_eq_some_iff.mp h
    exact ⟨event, rfl, events, hevents, rfl⟩
  all_goals
    rw [hreceiver] at h
    cases h

/-- The steps that set a fatal error. -/
theorem not_failing (hstep : Step s op t) (ht : t.fatal = none) :
    op ≠ .putItemTimeout ∧ (∀ reason, op ≠ .sendFails reason) ∧ ∀ reason, op ≠ .putEventTimeout reason := by
  refine ⟨?_, ?_, ?_⟩
  · rintro rfl
    have h : s.putItemTimeout = some t := hstep
    rw [putItemTimeout] at h
    cases hcaller : s.caller
    all_goals rw [hcaller] at h
    case flushing | closing =>
      obtain rfl := Option.some.inj h
      exact setFatal_fatal ht
    all_goals cases h
  · rintro reason rfl
    have h : s.sendFails reason = some t := hstep
    rw [sendFails] at h
    cases hsender : s.sender
    all_goals rw [hsender] at h
    case sending =>
      obtain rfl := Option.some.inj h
      exact setFatal_fatal ht
    all_goals cases h
  · rintro reason rfl
    have h : s.putEventTimeout reason = some t := hstep
    rw [putEventTimeout] at h
    cases hreceiver : s.receiver
    all_goals rw [hreceiver] at h
    case putting =>
      obtain rfl := Option.some.inj h
      rw [receiverEnds] at ht
      split_ifs at ht
      · exact setFatal_fatal ht
      · exact setFatal_fatal ht
    all_goals cases h

theorem fatal_of_flushPendingAudio (h : s.flushPendingAudio.fatal = none) : s.fatal = none := by
  rw [flushPendingAudio] at h
  split_ifs at h
  · exact h
  · have hqueue := AudioInput.fatal_of_queueAudio h
    exact hqueue

/-- Nothing sets the fatal error back. -/
theorem fatal_of_step (hstep : Step s op t) (ht : t.fatal = none) : s.fatal = none := by
  obtain ⟨hput, hsend, hevent⟩ := not_failing hstep ht
  cases op with
  | pushAudio pcm =>
    obtain ⟨-, h⟩ := Option.ite_none_right_eq_some.mp hstep
    rw [pushAudio] at h
    split_ifs at h with _ _ hfatal
    · obtain rfl := Option.some.inj h
      exact ht
    all_goals exact Option.not_isSome_iff_eq_none.mp hfatal
  | flush =>
    obtain ⟨-, h⟩ := Option.ite_none_right_eq_some.mp hstep
    rw [flush] at h
    split_ifs at h
    all_goals
      obtain rfl := Option.some.inj h
      exact fatal_of_flushPendingAudio ht
  | aclose =>
    obtain ⟨-, h⟩ := Option.ite_none_right_eq_some.mp hstep
    rw [aclose] at h
    simp only at h
    split_ifs at h
    all_goals
      obtain rfl := Option.some.inj h
      exact ht
  | putItem =>
    obtain ⟨_, _, -, rfl, -⟩ := putItem_spec hstep
    exact ht
  | putItemTimeout => exact absurd rfl hput
  | joined =>
    obtain ⟨-, h⟩ := Option.ite_none_right_eq_some.mp hstep
    obtain rfl := Option.some.inj h
    exact ht
  | joinTimeout =>
    obtain ⟨-, h⟩ := Option.ite_none_right_eq_some.mp hstep
    obtain rfl := Option.some.inj h
    exact ht
  | disconnect =>
    obtain ⟨-, h⟩ := Option.ite_none_right_eq_some.mp hstep
    obtain rfl := Option.some.inj h
    exact ht
  | closeEnds =>
    obtain ⟨-, h⟩ := Option.ite_none_right_eq_some.mp hstep
    obtain rfl := Option.some.inj h
    exact ht
  | takeItem =>
    obtain ⟨-, _, _, _, _, _, -, rfl, -⟩ := takeItem_spec hstep
    exact ht
  | send =>
    obtain ⟨-, _, _, -, rfl⟩ := send_spec hstep
    exact ht
  | sendFails reason => exact absurd rfl (hsend reason)
  | receive mode text =>
    obtain ⟨-, _, _, rfl⟩ := receive_spec hstep
    exact ht
  | putEvent =>
    obtain ⟨_, -, _, -, rfl⟩ := putEvent_spec hstep
    exact ht
  | receiveFails reason =>
    obtain rfl := receiveFails_spec hstep ht
    exact ht
  | putEventTimeout reason => exact absurd rfl (hevent reason)
  | next =>
    obtain ⟨_, -, rfl⟩ := Option.map_eq_some_iff.mp hstep
    exact ht

/-- The events are not ended while the receiver goes on. -/
theorem Sound.listening (h : Sound es s) (hreceiver : s.receiver ≠ .ended) :
    s.events.eventsEnded = false ∧ s.caller ≠ .ending := by
  constructor
  · by_contra hended
    exact hreceiver (h.quiet (.inl (Bool.not_eq_false _ ▸ hended)))
  · exact fun hcaller => hreceiver (h.quiet (.inr hcaller))

/-- A step does one thing to the events and keeps the rest of the invariant. -/
theorem Sound.after (h : Sound es s) (hm : s.events.Moves op.ends t.events)
    (hcarries : Carries (pushedBy (pushed es) op) t)
    (hquiet : t.events.eventsEnded = true ∨ t.caller = .ending → t.receiver = .ended) :
    Sound (es ++ [op]) t ∧ s.events.Moves op.ends t.events := by
  refine ⟨⟨?_, EventQueue.shaped_of_moves h.shaped hm, hquiet⟩, hm⟩
  rw [pushed_snoc]
  exact hcarries

theorem sound_step (h : Sound es s) (hstep : Step s op t) (ht : t.fatal = none) :
    Sound (es ++ [op]) t ∧ s.events.Moves op.ends t.events := by
  obtain ⟨hput, hsend, hevent⟩ := not_failing hstep ht
  cases op with
  | pushAudio pcm =>
    obtain ⟨hcaller, hpush⟩ := Option.ite_none_right_eq_some.mp hstep
    obtain ⟨hcarries, _, _, _, _, _, rfl⟩ := pushAudio_carries h.carries hcaller hpush ht
    exact h.after (.same rfl rfl) hcarries h.quiet
  | flush =>
    obtain ⟨hcaller, hflush⟩ := Option.ite_none_right_eq_some.mp hstep
    obtain ⟨hcarries, _, _, _, _, rfl⟩ := flush_carries h.carries hcaller hflush ht
    exact h.after (.same rfl rfl) hcarries fun hs => h.quiet (.inl (hs.resolve_right (by rintro ⟨⟩)))
  | aclose =>
    obtain ⟨hcaller, haclose⟩ := Option.ite_none_right_eq_some.mp hstep
    obtain ⟨hcarries, _, _, rfl⟩ := aclose_carries h.carries hcaller haclose ht
    exact h.after (.same rfl rfl) hcarries fun hs => h.quiet (.inl (hs.resolve_right (by rintro ⟨⟩)))
  | putItem =>
    have hcarries := putItem_carries h.carries hstep
    obtain ⟨_, _, -, rfl, hending⟩ := putItem_spec hstep
    exact h.after (.same rfl rfl) hcarries fun hs => h.quiet (.inl (hs.resolve_right hending))
  | putItemTimeout => exact absurd rfl hput
  | joined =>
    obtain ⟨⟨hcaller, -⟩, hs⟩ := Option.ite_none_right_eq_some.mp hstep
    obtain rfl := Option.some.inj hs
    refine h.after (.same rfl rfl) (h.carries.congr rfl rfl (.inl rfl) rfl ?_)
      fun hs => h.quiet (.inl (hs.resolve_right (by rintro ⟨⟩)))
    rw [hcaller]
    rfl
  | joinTimeout =>
    obtain ⟨⟨hcaller, -⟩, hs⟩ := Option.ite_none_right_eq_some.mp hstep
    obtain rfl := Option.some.inj hs
    refine h.after (.same rfl rfl) (h.carries.congr rfl rfl (.inr rfl) rfl ?_)
      fun hs => h.quiet (.inl (hs.resolve_right (by rintro ⟨⟩)))
    rw [hcaller]
    rfl
  | disconnect =>
    obtain ⟨hcaller, hs⟩ := Option.ite_none_right_eq_some.mp hstep
    obtain rfl := Option.some.inj hs
    refine h.after (.same rfl rfl) (h.carries.congr rfl rfl (.inl rfl) rfl ?_) fun _ => rfl
    rw [hcaller]
    rfl
  | closeEnds =>
    obtain ⟨hcaller, hs⟩ := Option.ite_none_right_eq_some.mp hstep
    obtain rfl := Option.some.inj hs
    refine h.after (.ends rfl rfl) (h.carries.congr rfl rfl (.inl rfl) rfl ?_) fun _ => h.quiet (.inr hcaller)
    rw [hcaller]
    rfl
  | takeItem =>
    have hcarries := takeItem_carries h.carries hstep
    obtain ⟨-, _, _, _, _, _, -, rfl, -⟩ := takeItem_spec hstep
    exact h.after (.same rfl rfl) hcarries h.quiet
  | send =>
    have hcarries := send_carries h.carries hstep
    obtain ⟨-, _, _, -, rfl⟩ := send_spec hstep
    exact h.after (.same rfl rfl) hcarries h.quiet
  | sendFails reason => exact absurd rfl (hsend reason)
  | receive mode text =>
    obtain ⟨hreceiver, _, _, rfl⟩ := receive_spec hstep
    obtain ⟨hopen, hcaller⟩ := h.listening (by rw [hreceiver]; rintro ⟨⟩)
    refine h.after (.same rfl rfl) (h.carries.congr rfl rfl (.inl rfl) rfl rfl) ?_
    rintro (hs | hs)
    · cases hs.symm.trans hopen
    · exact absurd hs hcaller
  | putEvent =>
    obtain ⟨event, hreceiver, events, hevents, rfl⟩ := putEvent_spec hstep
    obtain ⟨hopen, hcaller⟩ := h.listening (by rw [hreceiver]; rintro ⟨⟩)
    refine h.after (.put event rfl hopen hevents) (h.carries.congr rfl rfl (.inl rfl) rfl rfl) ?_
    obtain rfl := EventQueue.putEvent_some hevents
    rintro (hs | hs)
    · cases hs.symm.trans hopen
    · exact absurd hs hcaller
  | receiveFails reason =>
    obtain rfl := receiveFails_spec hstep ht
    exact h.after (.ends rfl rfl) (h.carries.congr rfl rfl (.inl rfl) rfl rfl) fun _ => rfl
  | putEventTimeout reason => exact absurd rfl (hevent reason)
  | next =>
    obtain ⟨events, hnext, rfl⟩ := Option.map_eq_some_iff.mp hstep
    refine h.after (.next rfl hnext) (h.carries.congr rfl rfl (.inl rfl) rfl rfl) ?_
    rw [EventQueue.next_eventsEnded hnext]
    exact h.quiet

theorem sound_initial (config : FunASRStreamConfig) : Sound [] (initial config) := by
  refine ⟨⟨[], [], {}, rfl, rfl, fun _ => ⟨rfl, rfl⟩⟩, ⟨?_, ?_, ?_⟩, ?_⟩
  · exact fun _ => ⟨List.not_mem_nil, rfl⟩
  · rintro ⟨⟩
  · rintro ⟨⟩
  · rintro (⟨⟨⟩⟩ | ⟨⟨⟩⟩)

/-- A run without a fatal error is sound, and keeps the events exactly if it puts no end marker in
a full queue. -/
theorem sound_kept (h : Run Step (initial config) es s) (hs : s.fatal = none) :
    Sound es s ∧ (s.events.Kept ↔ Run MeetingStep (initial config) es s) :=
  EventQueue.sound_kept_iff FunASRStream.events (fun t => t.fatal ≠ none) Op.ends Sound h
    (not_not.mpr hs) (fun _ _ _ _ h h' => Option.some.inj (h.symm.trans h'))
    (fun _ _ _ hstep ht hu => ht (fatal_of_step hstep hu)) (sound_initial config) rfl (fun _ _ h => h.shaped)
    (fun _ _ _ _ h hstep hu => (sound_step h hstep (not_not.mp hu)).1)
    (fun _ _ _ _ h hstep hu => (sound_step h hstep (not_not.mp hu)).2)

theorem audio_conserved (h : Run Step (initial config) es s) (hs : s.fatal = none) : AudioConserved es s :=
  (sound_kept h hs).1.audioConserved

theorem conserved_iff (h : Run Step (initial config) es s) (hs : s.fatal = none) :
    Conserved es s ↔ Run MeetingStep (initial config) es s := by
  obtain ⟨hsound, hkept⟩ := sound_kept h hs
  constructor
  · exact fun hc => hkept.mp hc.kept
  · intro hall
    have hk := hkept.mpr hall
    exact ⟨audio_conserved h hs, hk, hk.yielded hsound.shaped⟩

end FunASRStream

end Local

end RealtimeVoice.Worker.FunAsr
