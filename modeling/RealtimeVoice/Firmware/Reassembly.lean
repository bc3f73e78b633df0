import RealtimeVoice.Firmware.CallbackQueue

namespace RealtimeVoice.Firmware.Wss

open RealtimeVoice.Base RealtimeVoice.Base.Runs RealtimeVoice.Firmware.Wire

/-- A text or binary message within the limits, cut into fragments that are not empty. -/
structure CutMessage where
  type : ClientEventType
  pieces : List Bytes
  carries : type.carriesData = true
  cut : pieces ≠ []
  filled : ∀ piece ∈ pieces, piece ≠ []
  small : pieces.flatten.length ≤ type.maximumPayload

namespace CutMessage

def payload (m : CutMessage) : Bytes := m.pieces.flatten

def message (m : CutMessage) : ClientEventType × Bytes := (m.type, m.payload)

/-- The fragments as the client hands them over, from the given place of the message on. -/
def viewsFrom (type : ClientEventType) (payloadSize : Nat) : Nat → List Bytes → List ClientEventView
  | _, [] => []
  | offset, piece :: pieces =>
    { type := type, data := some piece, dataSize := piece.length, payloadOffset := offset, payloadSize := payloadSize } ::
      viewsFrom type payloadSize (offset + piece.length) pieces

def views (m : CutMessage) : List ClientEventView := viewsFrom m.type m.payload.length 0 m.pieces

def cells (m : CutMessage) : List Cell := Wss.cells m.type m.payload.length 0 m.payload

theorem payload_ne_nil (m : CutMessage) : m.payload ≠ [] := by
  obtain ⟨piece, pieces, hpieces⟩ := List.exists_cons_of_ne_nil m.cut
  rw [payload, hpieces, List.flatten_cons]
  exact List.append_ne_nil_of_left_ne_nil (m.filled piece (by simp [hpieces])) _

theorem viewsFrom_cells (type : ClientEventType) (payloadSize offset : Nat) (pieces : List Bytes) :
    (viewsFrom type payloadSize offset pieces).flatMap (fun view => view.owned.cells) =
      Wss.cells type payloadSize offset pieces.flatten := by
  induction pieces generalizing offset with
  | nil => rfl
  | cons piece pieces ih =>
    rw [viewsFrom, List.flatMap_cons, ih, List.flatten_cons, cells_append]
    rfl

theorem views_cells (m : CutMessage) : m.views.flatMap (fun view => view.owned.cells) = m.cells :=
  viewsFrom_cells _ _ _ _

end CutMessage

/-- The messages reassembled so far and the bytes still to come, with the assembler in the
middle of the next message or before it. -/
def Assembled (messages : List CutMessage) (frames : List (ClientEventType × Bytes)) (a : FrameAssembler)
    (rest : List Cell) : Prop :=
  ∃ done later, messages = done ++ later ∧ frames = done.map CutMessage.message ∧
    match later with
    | [] => rest = []
    | m :: later => ∃ read < m.payload.length, (read ≠ 0 → a = ⟨m.type, m.payload.length, m.payload.take read⟩) ∧
        rest = cells m.type m.payload.length read (m.payload.drop read) ++ later.flatMap CutMessage.cells

variable {messages : List CutMessage} {frames : List (ClientEventType × Bytes)} {a : FrameAssembler}
  {event : OwnedClientEvent} {rest : List Cell}

/-- Before a message nothing is asked of the assembler. -/
theorem Assembled.between (done later : List CutMessage) (a : FrameAssembler) :
    Assembled (done ++ later) (done.map CutMessage.message) a (later.flatMap CutMessage.cells) := by
  refine ⟨done, later, rfl, rfl, ?_⟩
  cases later with
  | nil => rfl
  | cons m later =>
    exact ⟨0, List.length_pos_of_ne_nil m.payload_ne_nil, fun h => absurd rfl h, rfl⟩

/-- What a result adds to the reassembled messages. -/
def AssembleResult.frame (type : ClientEventType) : AssembleResult → List (ClientEventType × Bytes)
  | .complete frame => [(type, frame)]
  | _ => []

/-- An event starts with the byte that is next. -/
theorem next_event {m : CutMessage} {read : Nat} {later more : List Cell} (hread : read < m.payload.length)
    (hne : event.data ≠ []) (hwithin : event.payloadOffset + event.data.length ≤ event.payloadSize)
    (h : event.cells ++ more = cells m.type m.payload.length read (m.payload.drop read) ++ later) :
    event.type = m.type ∧ event.payloadSize = m.payload.length ∧ event.payloadOffset = read ∧
      event.data = (m.payload.drop read).take event.data.length ∧
      more = cells m.type m.payload.length (read + event.data.length) (m.payload.drop (read + event.data.length)) ++
        later := by
  obtain ⟨type, data, offset, size⟩ := event
  dsimp only [OwnedClientEvent.cells] at h hne hwithin ⊢
  have hhead : type = m.type ∧ size = m.payload.length ∧ offset = read := by
    obtain ⟨byte, bytes, rfl⟩ := List.exists_cons_of_ne_nil hne
    rw [List.drop_eq_getElem_cons hread, cells, cells, List.cons_append, List.cons_append, List.cons.injEq,
      Cell.mk.injEq] at h
    exact ⟨h.1.1, h.1.2.1, h.1.2.2.1⟩
  obtain ⟨rfl, rfl, rfl⟩ := hhead
  have hlength : data.length ≤ (m.payload.drop offset).length := by
    rw [List.length_drop]
    omega
  have htake : ((m.payload.drop offset).take data.length).length = data.length := List.length_take_of_le hlength
  rw [← List.take_append_drop data.length (m.payload.drop offset), cells_append, htake, List.append_assoc,
    List.drop_drop] at h
  obtain ⟨hdata, hmore⟩ := List.append_inj h (by rw [length_cells, length_cells, htake])
  have hbytes := congrArg (List.map Cell.byte) hdata
  rw [map_byte_cells, map_byte_cells] at hbytes
  exact ⟨rfl, rfl, rfl, hbytes, hmore⟩

theorem Assembled.consume (h : Assembled messages frames a (event.cells ++ rest))
    (hfits : event.Fits maximumCallbackFragmentBytes) (hcarries : event.type.carriesData = true) :
    (a.consume event).2 ≠ .rejected ∧
      Assembled messages (frames ++ (a.consume event).2.frame event.type) (a.consume event).1 rest := by
  obtain ⟨hne, hwithin, hmaximum⟩ := hfits.within hcarries
  have hpos := List.length_pos_of_ne_nil hne
  obtain ⟨done, later, rfl, rfl, hnext⟩ := h
  cases later with
  | nil =>
    have hlength := congrArg List.length hnext
    rw [List.length_append, OwnedClientEvent.cells, length_cells, List.length_nil] at hlength
    omega
  | cons m later =>
    obtain ⟨read, hread, hbegun, hcells⟩ := hnext
    obtain ⟨htype, hsize, hoffset, hdata, rfl⟩ := next_event hread hne hwithin hcells
    have hassembler : (if event.payloadOffset = 0 then ⟨event.type, event.payloadSize, []⟩ else a : FrameAssembler) =
        ⟨m.type, m.payload.length, m.payload.take read⟩ := by
      split_ifs with hzero
      · rw [htype, hsize, ← hoffset, hzero, List.take_zero]
      · exact hbegun (hoffset ▸ hzero)
    have hbuffer : m.payload.take read ++ event.data = m.payload.take (read + event.data.length) := by
      rw [List.take_add, ← hdata]
    have hchecked : ¬(event.type.maximumPayload = 0 ∨ event.payloadSize > event.type.maximumPayload ∨
        event.data.length = 0 ∨ event.data.length > maximumCallbackFragmentBytes ∨
        event.payloadOffset + event.data.length > event.payloadSize) := by
      have hfit := hfits.size
      omega
    have hready : ¬(m.type ≠ event.type ∨ m.payload.length ≠ event.payloadSize ∨
        event.payloadOffset ≠ (m.payload.take read).length) := by
      rw [List.length_take_of_le hread.le]
      simp [htype, hsize, hoffset]
    have hlength : (m.payload.take (read + event.data.length)).length = read + event.data.length := by
      apply List.length_take_of_le
      omega
    rw [FrameAssembler.consume, if_neg hchecked, hassembler]
    dsimp only
    rw [if_neg hready, hbuffer, hlength]
    split_ifs with hend
    · refine ⟨by simp, done, m :: later, rfl, by simp [AssembleResult.frame], ?_⟩
      exact ⟨read + event.data.length, by omega, fun _ => rfl, rfl⟩
    · rw [not_not] at hend
      refine ⟨by simp, ?_⟩
      have hdone := Assembled.between (done ++ [m]) later {}
      rw [hend, List.take_length, List.drop_length, cells, List.nil_append]
      simpa [AssembleResult.frame, htype, CutMessage.message] using hdone

/-- The queue between the callbacks of the client and the task that reads it. -/
structure Callbacks where
  queue : CallbackEventQueue
  assembler : FrameAssembler := {}

inductive Op
  | push (event : ClientEventView)
  | poll
deriving DecidableEq

inductive Reply
  | pushed (accepted : Bool)
  /-- The type of the event and what became of its fragment, if there was one. -/
  | polled (event : Option (ClientEventType × Option AssembleResult))
deriving DecidableEq

abbrev Event := Op × Reply

namespace Callbacks

/-- One event is taken out; the assembler gets it if it is a fragment. -/
def poll (s : Callbacks) : Callbacks × Reply :=
  match s.queue.tryPop with
  | (queue, none) => ({ s with queue := queue }, .polled none)
  | (queue, some event) =>
    if event.type.carriesData then
      let (assembler, result) := s.assembler.consume event
      (⟨queue, assembler⟩, .polled (some (event.type, some result)))
    else ({ s with queue := queue }, .polled (some (event.type, none)))

def call (s : Callbacks) : Op → Callbacks × Reply
  | .push event => ({ s with queue := (s.queue.tryPush event).1 }, .pushed (s.queue.tryPush event).2)
  | .poll => s.poll

def start (capacity byteCapacity : Nat) (allocate : Nat → Bool) : Callbacks :=
  { queue := .create capacity byteCapacity allocate }

end Callbacks

/-- The fragment that a step pushes. -/
def Event.fragment (e : Event) : List ClientEventView :=
  match e.1 with
  | .push event => if event.type.carriesData then [event] else []
  | .poll => []

def fragments (es : List Event) : List ClientEventView := es.flatMap Event.fragment

/-- The message that a step completes. -/
def Event.frame (e : Event) : List (ClientEventType × Bytes) :=
  match e.2 with
  | .polled (some (type, some result)) => result.frame type
  | _ => []

def completed (es : List Event) : List (ClientEventType × Bytes) := es.flatMap Event.frame

/-- No push is refused. -/
def AllPushed (es : List Event) : Prop := ∀ e ∈ es, e.2 ≠ .pushed false

/-- No fragment is rejected by the assembler. -/
def NoneRejected (es : List Event) : Prop := ∀ e ∈ es, ∀ type, e.2 ≠ .polled (some (type, some .rejected))

variable {s t : Callbacks} {es : List Event} {e : Event}

theorem fine_step (h : s.queue.Fine) (hstep : Answers Callbacks.call s e t) : t.queue.Fine := by
  obtain ⟨op, reply⟩ := e
  cases op with
  | push event =>
    obtain ⟨rfl, -⟩ := Prod.mk.inj hstep
    exact (CallbackEventQueue.tryPush_pushed h).fine
  | poll =>
    change s.poll = (t, reply) at hstep
    rw [Callbacks.poll] at hstep
    obtain ⟨hpop, -⟩ | ⟨queue, event, hpop, hfine, -⟩ := CallbackEventQueue.tryPop_cases h
    · rw [hpop] at hstep
      obtain ⟨rfl, -⟩ := Prod.mk.inj hstep
      exact h
    · rw [hpop] at hstep
      dsimp only at hstep
      split_ifs at hstep <;> obtain ⟨rfl, -⟩ := Prod.mk.inj hstep <;> exact hfine

/-- The fragments of the messages in the order they are pushed. -/
def stream (messages : List CutMessage) : List ClientEventView := messages.flatMap CutMessage.views

/-- What is still to be read: the queue and then the fragments not yet pushed. -/
def Progress (messages : List CutMessage) (es : List Event) (s : Callbacks) : Prop :=
  AllPushed es → ∀ unpushed, fragments es ++ unpushed = stream messages →
    NoneRejected es ∧ Assembled messages (completed es) s.assembler
      (s.queue.cells ++ unpushed.flatMap (fun view => view.owned.cells))

theorem fragments_snoc : fragments (es ++ [e]) = fragments es ++ e.fragment := by simp [fragments]

theorem completed_snoc : completed (es ++ [e]) = completed es ++ e.frame := by simp [completed]

theorem AllPushed.before (h : AllPushed (es ++ [e])) : AllPushed es := fun f hf => h f (List.mem_append_left _ hf)

theorem NoneRejected.snoc (h : NoneRejected es) (he : ∀ type, e.2 ≠ .polled (some (type, some .rejected))) :
    NoneRejected (es ++ [e]) := by
  intro f hf
  obtain hf | hf := List.mem_append.mp hf
  · exact h f hf
  · rw [List.mem_singleton.mp hf]
    exact he

theorem Progress.push (h : Progress messages es s) (hfine : s.queue.Fine) {event : ClientEventView} {reply : Reply}
    (hstep : Answers Callbacks.call s (.push event, reply) t) : Progress messages (es ++ [(.push event, reply)]) t := by
  obtain ⟨rfl, rfl⟩ := Prod.mk.inj hstep
  intro hpushed unpushed hstream
  have haccepted : (s.queue.tryPush event).2 = true := by
    rw [← Bool.not_eq_false]
    intro hrefused
    exact hpushed _ (List.mem_append_right _ List.mem_cons_self) (congrArg Reply.pushed hrefused)
  have hdone : CallbackEventQueue.Pushed s.queue event _ _ := CallbackEventQueue.tryPush_pushed hfine
  have hqueue := hdone.cells
  rw [if_pos haccepted] at hqueue
  rw [fragments_snoc, Event.fragment] at hstream
  dsimp only at hstream
  rw [completed_snoc, Event.frame, List.append_nil, hqueue, List.append_assoc]
  have hadded : ∃ earlier, fragments es ++ earlier = stream messages ∧
      earlier.flatMap (fun view => view.owned.cells) =
        event.owned.cells ++ unpushed.flatMap (fun view => view.owned.cells) := by
    split_ifs at hstream with hcarries
    · exact ⟨event :: unpushed, by simpa using hstream, rfl⟩
    · have hbare := CallbackEventQueue.bare_of_tryPush haccepted (Bool.eq_false_iff.mpr hcarries)
      refine ⟨unpushed, by simpa using hstream, ?_⟩
      rw [OwnedClientEvent.cells, hbare]
      rfl
  obtain ⟨earlier, hearlier, hcells⟩ := hadded
  obtain ⟨hnone, hassembled⟩ := h hpushed.before earlier hearlier
  rw [hcells] at hassembled
  exact ⟨hnone.snoc (by simp), hassembled⟩

theorem Progress.poll (h : Progress messages es s) (hfine : s.queue.Fine) {reply : Reply}
    (hstep : Answers Callbacks.call s (.poll, reply) t) : Progress messages (es ++ [(.poll, reply)]) t := by
  intro hpushed unpushed hstream
  rw [fragments_snoc, Event.fragment, List.append_nil] at hstream
  obtain ⟨hnone, hassembled⟩ := h hpushed.before unpushed hstream
  rw [completed_snoc, Event.frame]
  change s.poll = (t, reply) at hstep
  rw [Callbacks.poll] at hstep
  obtain ⟨hpop, -⟩ | ⟨queue, event, hpop, -, hfits, hcells⟩ := CallbackEventQueue.tryPop_cases hfine
  · rw [hpop] at hstep
    obtain ⟨rfl, rfl⟩ := Prod.mk.inj hstep
    exact ⟨hnone.snoc (by simp), by simpa using hassembled⟩
  · rw [hpop] at hstep
    rw [hcells, List.append_assoc] at hassembled
    dsimp only at hstep
    split_ifs at hstep with hcarries
    · obtain ⟨rfl, rfl⟩ := Prod.mk.inj hstep
      obtain ⟨haccepted, hnext⟩ := hassembled.consume hfits hcarries
      exact ⟨hnone.snoc (by simp [haccepted]), hnext⟩
    · obtain ⟨rfl, rfl⟩ := Prod.mk.inj hstep
      rw [OwnedClientEvent.cells, hfits.bare (Bool.eq_false_iff.mpr hcarries), cells, List.nil_append] at hassembled
      exact ⟨hnone.snoc (by simp), by simpa using hassembled⟩

theorem run_progress {capacity byteCapacity : Nat} {allocate : Nat → Bool}
    (h : Run (Answers Callbacks.call) (.start capacity byteCapacity allocate) es s) (messages : List CutMessage) :
    s.queue.Fine ∧ Progress messages es s := by
  refine h.invariant (R := fun es s => s.queue.Fine ∧ Progress messages es s) ⟨CallbackEventQueue.create_fine _ _ _, ?_⟩ ?_
  · intro _ unpushed hstream
    have hbetween := Assembled.between [] messages {}
    obtain rfl : unpushed = stream messages := hstream
    refine ⟨by simp [NoneRejected], ?_⟩
    rw [Callbacks.start, CallbackEventQueue.create_cells, stream, List.flatMap_assoc]
    simp only [CutMessage.views_cells]
    exact hbetween
  · rintro es s ⟨op, reply⟩ t - ⟨hfine, hprogress⟩ hstep
    refine ⟨fine_step hfine hstep, ?_⟩
    cases op with
    | push event => exact hprogress.push hfine hstep
    | poll => exact hprogress.poll hfine hstep

/-- What a run of pushes and polls, in any order, makes of a stream of cut messages: as long as
no push is refused the messages completed are the first ones, and all of them once everything is
pushed and read. The queue's count of bytes is always that of its slots. -/
theorem fragments_reassembled {capacity byteCapacity : Nat} {allocate : Nat → Bool}
    (h : Run (Answers Callbacks.call) (.start capacity byteCapacity allocate) es s) (messages : List CutMessage) :
    (AllPushed es → fragments es <+: stream messages →
      NoneRejected es ∧ completed es <+: messages.map CutMessage.message ∧
        (fragments es = stream messages → s.queue.slots.size = 0 →
          completed es = messages.map CutMessage.message)) ∧
    s.queue.queuedBytes = (s.queue.slots.toList.map (fun slot => slot.data.length)).sum ∧
    s.queue.queuedBytes ≤ s.queue.byteCapacity := by
  obtain ⟨hfine, hprogress⟩ := run_progress h messages
  refine ⟨?_, hfine.bytes, hfine.room⟩
  intro hpushed hprefix
  obtain ⟨unpushed, hstream⟩ := hprefix
  obtain ⟨hnone, done, later, rfl, hframes, hnext⟩ := hprogress hpushed unpushed hstream
  refine ⟨hnone, ?_, ?_⟩
  · rw [hframes, List.map_append]
    exact List.prefix_append _ _
  · intro hall hempty
    have hnothing : unpushed = [] := by simpa [hall] using hstream
    rw [CallbackEventQueue.cells_of_empty hempty, hnothing] at hnext
    cases later with
    | nil => rw [hframes, List.append_nil]
    | cons m later =>
      -- a message begun or not yet begun still has bytes to come
      obtain ⟨read, hread, -, hcells⟩ := hnext
      have hlength := congrArg List.length hcells
      simp at hlength
      omega

/-- Two messages of one size, the first in two fragments. -/
def demoMessages : List CutMessage :=
  [⟨.textFragment, [[1], [2]], rfl, by decide, by decide, by decide⟩,
    ⟨.textFragment, [[3, 4]], rfl, by decide, by decide, by decide⟩]

def demoOps : List Op := (stream demoMessages).map .push ++ [.poll, .poll]

theorem fragments_reassembled_demo :
    completed (history Callbacks.call (.start 2 8 fun _ => true) demoOps) =
      [(.textFragment, [1, 2]), (.textFragment, [3, 4])] := by
  have h := fragments_reassembled (run_history Callbacks.call (.start 2 8 fun _ => true) demoOps) demoMessages
  have hall : fragments (history Callbacks.call (.start 2 8 fun _ => true) demoOps) = stream demoMessages := by
    decide +kernel
  have hpushed : AllPushed (history Callbacks.call (.start 2 8 fun _ => true) demoOps) := by
    unfold AllPushed
    decide +kernel
  obtain ⟨-, -, hdone⟩ := h.1 hpushed (by rw [hall])
  exact hdone hall (by decide +kernel)

end RealtimeVoice.Firmware.Wss
