import RealtimeVoice.Rva.Interrupts

namespace RealtimeVoice.Rva.Wire

open RealtimeVoice.Base RealtimeVoice.Base.Runs RealtimeVoice.Contracts RealtimeVoice.Rva
open RealtimeVoice.Rva.Runtime (Connection Owner SegmentTask)

/-- An item of `_output`, with the task whose acknowledgement it carries. -/
structure Outbound where
  event : ServerEvent
  ack : Option Owner := none

/-- What a holder of `_wire_lock` gives to the websocket. -/
inductive Frame
  | control (item : Outbound)
  | media (record : Ref) (generation sequence : Nat)

/-- How far an applier is with the event in `_send_control_serialized`. -/
inductive Ack
  | unsent | queued | set
deriving DecidableEq

inductive Writer
  | idle | sending | ended
deriving DecidableEq

/-- The connection with its ways out. `wireLock` lists the holder of the lock and
then the tasks that wait for it, each by what it will send; an `asyncio.Lock` is
handed on in that order. `downlinkSequence` belongs to the UDP media session. -/
structure Wired where
  connection : Connection
  acks : Owner → Ack := fun _ => .unsent
  output : List Outbound := []
  writer : Writer := .idle
  wireLock : List Frame := []
  downlinkSequence : Nat := 0

/-- What the transports are given. -/
inductive Note
  | datagram (record : Ref) (generation sequence : Nat)
  | frame (frame : Frame)

inductive Event
  | task (e : Runtime.Event)
  | sendFailed (e : Runtime.Event)
  | udpReply
  | put (owner : Owner)
  | putOther (event : ServerEvent)
  | writerTake
  | written
  | timedOut

/-- The response whose playback the event stops, by its generation. -/
def stopTarget : ServerEvent → Option Nat
  | .playbackStop _ generation _ _ => some generation
  | _ => none

def generationOf (s : Connection) (r : Ref) : Nat := ((s.binding.responses.heap[r]?).map (·.target.generation)).getD 0

/-- The packet that a stretch of the segment task brings to the `try` block of
`_send_segment`. -/
def handsOver (s : Connection) : Runtime.Event → Option (Ref × List UInt8)
  | .encoded payload _ late =>
    match s.segmentTask with
    | .encoding _ r packet =>
      if packet < s.limits.playbackPrebufferPackets ∨ late = true ∧ s.activeResponse = some r then some (r, payload)
      else none
    | _ => none
  | .deadline _ =>
    match s.segmentTask with
    | .waiting _ r _ payload =>
      if s.generationChanged = false ∧ s.activeResponse = some r then some (r, payload) else none
    | _ => none
  | _ => none

/-- The stretch with the sequence that `send_audio` returns. -/
def numbered (sequence : Nat) : Runtime.Event → Runtime.Event
  | .encoded payload _ late => .encoded payload sequence late
  | .deadline _ => .deadline sequence
  | e => e

/-- Stretches that wait for the lock or an acknowledgement, or end the tasks. -/
def elsewhere : Runtime.Event → Bool
  | .mediaSent => true
  | .controlSent _ => true
  | .close => true
  | _ => false

def overUdp (s : Connection) : Bool := s.binding.selectedMediaProfile == some .udpOpusGcm

namespace Wired

def stopTask (s : Wired) : Wired := { s with connection := { s.connection with segmentTask := .stopped } }

/-- `send_audio` of the media session, and the rest of the stretch. -/
def sendAudio (s : Wired) (e : Runtime.Event) (r : Ref) : Wired × List Note :=
  if s.downlinkSequence ≥ uint32Max then (s.stopTask, [])
  else
    ({ s with
      connection := (s.connection.call (numbered s.downlinkSequence e)).1
      downlinkSequence := s.downlinkSequence + 1 },
    [.datagram r (generationOf s.connection r) s.downlinkSequence])

/-- `serialize_audio`; its frame is in line for the lock in the same stretch. -/
def joinLock (s : Wired) (e : Runtime.Event) (r : Ref) : Wired :=
  let connection := (s.connection.call e).1
  match connection.segmentTask with
  | .sending _ _ _ =>
    { s with
      connection := connection
      wireLock := s.wireLock ++
        [.media r (generationOf s.connection r) s.connection.binding.nextDownlinkSequence] }
  | _ => { s with connection := connection }

def runTask (s : Wired) (e : Runtime.Event) : Wired × List Note :=
  match handsOver s.connection e with
  | none => ({ s with connection := (s.connection.call e).1 }, [])
  | some (r, _) => if overUdp s.connection then s.sendAudio e r else (s.joinLock e r, [])

def acknowledge (s : Wired) (item : Outbound) : Wired :=
  match item.ack with
  | some owner => { s with acks := Function.update s.acks owner .set }
  | none => s

/-- The applier puts its next event into `_output`. -/
def put (s : Wired) (owner : Owner) : Wired :=
  match s.acks owner, s.connection.applying owner with
  | .unsent, some a =>
    match a.effect.outbound[a.effect.outbound.length - a.unsent]? with
    | some event =>
      { s with
        output := s.output ++ [{ event, ack := some owner }]
        acks := Function.update s.acks owner .queued }
    | none => s
  | _, _ => s

/-- One stretch of a task, or the progress of a send. A run goes on until the
connection begins to close, which cancels the tasks first. -/
def call (s : Wired) : Event → Wired × List Note
  | .task (.controlSent owner) =>
    if s.acks owner = .set then
      ({ s with
        connection := (s.connection.call (.controlSent owner)).1
        acks := Function.update s.acks owner .unsent }, [])
    else (s, [])
  | .task e => if elsewhere e then (s, []) else s.runTask e
  | .sendFailed e =>
    if (handsOver s.connection e).isSome ∧ overUdp s.connection then (s.stopTask, []) else (s, [])
  | .udpReply =>
    -- probe acknowledgements and keepalives draw on the same counter
    if s.downlinkSequence ≥ uint32Max then (s, []) else ({ s with downlinkSequence := s.downlinkSequence + 1 }, [])
  | .put owner => (s.put owner, [])
  | .putOther event =>
    -- the other senders of control events never send a stop
    if stopTarget event = none then ({ s with output := s.output ++ [{ event }] }, []) else (s, [])
  | .writerTake =>
    match s.writer, s.output with
    | .idle, item :: rest =>
      ({ s with output := rest, writer := .sending, wireLock := s.wireLock ++ [.control item] }, [])
    | _, _ => (s, [])
  | .written =>
    match s.wireLock with
    | [] => (s, [])
    | .control item :: rest =>
      ({ s with wireLock := rest, writer := .idle }.acknowledge item, [.frame (.control item)])
    | .media r generation n :: rest =>
      ({ s with wireLock := rest, connection := (s.connection.call .mediaSent).1 }, [.frame (.media r generation n)])
  | .timedOut =>
    match s.wireLock with
    | [] => (s, [])
    | .control item :: rest => ({ s with wireLock := rest, writer := .ended }, [.frame (.control item)])
    | .media r generation n :: rest => ({ s with wireLock := rest }.stopTask, [.frame (.media r generation n)])

abbrev Step := Answers call

def start (limits : Runtime.Limits) (config : BindingConfig) : Wired :=
  { connection := { limits, binding := .init config } }

end Wired

/-- `ResponseCoordinator.fence` has succeeded for the response of this generation. -/
def Fenced (b : Binding) (g : Nat) : Prop :=
  ∃ (r : Ref) (rec : ResponseRecord), b.responses.heap[r]? = some rec ∧ rec.target.generation = g ∧
    rec.stopSent = true

def lastOf (b : Binding) (r : Ref) : Option Nat := (b.responses.heap[r]?).bind (·.lastMediaSequence)

/-- The sequence of an audio packet of the response. -/
def Note.sequenceOf (r : Ref) : Note → Option Nat
  | .datagram r' _ n => if r' = r then some n else none
  | .frame (.media r' _ n) => if r' = r then some n else none
  | .frame (.control _) => none

/-- Not the `playback.stop` of a response and then its audio. -/
def InOrder : Note → Note → Prop
  | .frame (.control item), .frame (.media _ generation _) => stopTarget item.event ≠ some generation
  | _, _ => True

def notes (es : List (Event × List Note)) : List Note := es.flatMap (·.2)

/-- The frames that hold the lock or wait for it. -/
def Wired.inLine (s : Wired) : List Note := s.wireLock.map .frame

/-- The packet that comes out of the encoder is one of those sent ahead of their deadline. -/
def prebuffered (s : Connection) : Bool :=
  match s.segmentTask with
  | .encoding _ _ packet => packet < s.limits.playbackPrebufferPackets
  | _ => false

/-- A media frame of this generation can carry the payload. -/
def carries (payload : List UInt8) (generation : Nat) : Bool :=
  payload ≠ [] && payload.length ≤ mediaMaxPayloadBytes && generation ≤ uint32Max

/-- The step brings no packet of the prebuffer to UDP whose response is no longer
active, and none to the websocket that a frame cannot carry. -/
def sound (s : Wired) : Event → Bool
  | .task e =>
    match handsOver s.connection e with
    | none => true
    | some (r, payload) =>
      if overUdp s.connection then !prebuffered s.connection || s.connection.activeResponse == some r
      else !s.connection.binding.responses.accepts r || carries payload (generationOf s.connection r)
  | _ => true

def SoundStep (s : Wired) (e : Event × List Note) (t : Wired) : Prop := sound s e.1 = true ∧ Wired.Step s e t

end RealtimeVoice.Rva.Wire
