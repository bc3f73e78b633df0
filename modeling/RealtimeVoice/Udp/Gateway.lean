import RealtimeVoice.Base.Runs
import RealtimeVoice.Base.Dict
import RealtimeVoice.Contracts.Models
import RealtimeVoice.Udp.Wire

namespace RealtimeVoice.Udp.Gateway

open RealtimeVoice.Base RealtimeVoice.Base.Runs RealtimeVoice.Contracts RealtimeVoice.Udp

abbrev Addr := String × Nat

def maxDatagramBytes : Nat := 1280

def probeRetryIntervalMs : Nat := 250
def probeRetryIntervalSeconds : Time := 1 / 4

/-- The part of the grant that decides what is admitted. -/
structure UdpGrant where
  mediaId : List UInt8
  mediaEpoch : Nat
  expiresAt : Time
  probeTimeoutMs : Nat
deriving DecidableEq

/-- An entry of `_reorder`. -/
structure Packet where
  flags : Flag
  payload : List UInt8
  timestamp : Nat
  generation : Nat
deriving DecidableEq

/-- A queued datagram: its length, its decoded header (absent where decoding
fails), what authenticated decryption makes of the rest, and its source. -/
structure Datagram where
  length : Nat
  header : Option UdpPacketHeader
  payload : Option (List UInt8)
  addr : Addr
deriving DecidableEq

/-- What one step reads from outside: the wall clock on entry and at a send, the
monotonic clock on entry and after a probe, and whether the transport is up. -/
structure Reads where
  wall : Time
  sendWall : Time
  monotonic : Time
  acknowledgedAt : Time
  transport : Bool
deriving DecidableEq

/-- What `_handle` still has to do once `_buffer_media` returns. -/
inductive After
  | probe
  | keepalive (timestamp generation : Nat)
  | audio
deriving DecidableEq

/-- The worker task: waiting for the queue, suspended in `_receive_audio` with its
local copy of the cursor, or over. -/
inductive Worker
  | idle
  | delivering (expected : Nat) (after : After)
  | stopped
deriving DecidableEq

/-- The task that `_reorder_timer` names. -/
inductive ReorderTimer
  | absent
  | sleeping
  | finished
deriving DecidableEq

/-- The session with its tasks. `suspended` lists the gap timers that wait in
`_receive_audio`, each with its local copy of the cursor: they are no longer
registered, so nothing cancels them and several may exist at once. -/
structure UdpMediaSession where
  grant : UdpGrant
  ready : Bool := false
  closed : Bool := false
  expired : Bool := false
  source : Option Addr := none
  replay : ReplayWindow := {}
  downlinkSequence : Nat := 0
  nextAudioSequence : Option Nat := none
  probeAckDatagram : Option Nat := none
  probeReackDeadline : Time := 0
  probeReackNextAt : Time := 0
  probeReackRemaining : Nat := 0
  probeReackOpen : Bool := false
  reorder : Dict Nat Packet := {}
  reorderTimer : ReorderTimer := .absent
  worker : Worker := .idle
  suspended : List Nat := []
deriving DecidableEq

namespace UdpMediaSession

/-- A call of `_receive_audio`: the sequence of the packet and the packet. -/
abbrev Delivery := Nat × Packet

/-- `_send`, which never suspends; absent where it raises. The datagrams sent here
carry no payload, so neither size check can fail. -/
def send (s : UdpMediaSession) (flags : Flag) (r : Reads) : Option UdpMediaSession :=
  if s.expired ∨ r.sendWall ≥ s.grant.expiresAt then none
  else if s.source = none ∨ r.transport = false then none
  else if s.downlinkSequence ≥ 0xFFFFFFFF then none
  else some { s with
    downlinkSequence := s.downlinkSequence + 1
    probeAckDatagram :=
      if flags = .probeAck ∧ s.probeAckDatagram = none then some s.downlinkSequence else s.probeAckDatagram }

def cancelTimer (s : UdpMediaSession) : UdpMediaSession := { s with reorderTimer := .absent }

def resyncMediaCursor (s : UdpMediaSession) (sequence : Nat) : UdpMediaSession :=
  match s.nextAudioSequence with
  | none => s
  | some expected =>
    if sequence ≤ expected then s
    else { s.cancelTimer with reorder := {}, nextAudioSequence := some sequence }

/-- The end of `_drain_reorder`: no timer for an empty map, one for any other. -/
def settleTimer (s : UdpMediaSession) : UdpMediaSession :=
  if s.reorder.size = 0 then s.cancelTimer
  else if s.reorderTimer = .absent then { s with reorderTimer := .sleeping } else s

/-- The loop of `_drain_reorder` from its local `expected` up to the next call of
`_receive_audio`. Every round pops an entry, so the fuel is the size of the map. -/
def drainLoop : Nat → UdpMediaSession → Nat → UdpMediaSession × Option Delivery
  | 0, s, _ => (s.settleTimer, none)
  | fuel + 1, s, expected =>
    match s.reorder.get? expected with
    | none => (s.settleTimer, none)
    | some packet =>
      let s := { s with reorder := s.reorder.erase expected }
      if packet.flags = .audio then (s, some (expected, packet))
      else drainLoop fuel { s with nextAudioSequence := some (expected + 1) } (expected + 1)

def drainReorder (s : UdpMediaSession) : UdpMediaSession × Option Delivery :=
  match s.nextAudioSequence with
  | none => (s.settleTimer, none)
  | some expected => drainLoop s.reorder.size s expected

/-- `_receive_audio` has returned to a task whose local cursor is `expected`. -/
def delivered (s : UdpMediaSession) (expected : Nat) : UdpMediaSession × Option Delivery :=
  drainReorder { s with nextAudioSequence := some (expected + 1) }

/-- The rest of `_handle` after `_buffer_media`; a raise ends the worker. -/
def finishHandle (s : UdpMediaSession) (after : After) (r : Reads) : UdpMediaSession :=
  match after with
  | .probe =>
    { s with
      probeReackDeadline := r.acknowledgedAt + s.grant.probeTimeoutMs / 1000
      probeReackNextAt := r.acknowledgedAt + probeRetryIntervalSeconds
      probeReackRemaining := max 1 ((s.grant.probeTimeoutMs + probeRetryIntervalMs - 1) / probeRetryIntervalMs)
      probeReackOpen := true
      ready := true
      worker := .idle }
  | .keepalive _ _ =>
    match s.send .keepalive r with
    | none => { s with worker := .stopped }
    | some s => { s with worker := .idle }
  | .audio => { s with worker := .idle }

/-- Where the worker stands after it has drained. -/
def workerDrained (d : UdpMediaSession × Option Delivery) (after : After) (r : Reads) :
    UdpMediaSession × Option Delivery :=
  match d.2 with
  | none => (d.1.finishHandle after r, none)
  | some delivery => ({ d.1 with worker := .delivering delivery.1 after }, some delivery)

def bufferMedia (s : UdpMediaSession) (h : UdpPacketHeader) (payload : List UInt8) (after : After) (r : Reads) :
    UdpMediaSession × Option Delivery :=
  match s.nextAudioSequence with
  | none => (s.finishHandle after r, none)
  | some expected =>
    if h.sequence < expected then (s.finishHandle after r, none)
    else
      let far := h.sequence ≥ expected + jitterWindowPackets
      let s := if far then s.resyncMediaCursor h.sequence else s
      let expected := if far then h.sequence else expected
      let packet : Packet :=
        { flags := h.flags, payload := payload, timestamp := h.timestamp, generation := h.generation }
      if s.reorder.size ≥ jitterWindowPackets then
        if h.sequence ≠ expected then (s.finishHandle after r, none)
        else if h.flags = .audio then
          ({ s with worker := .delivering expected after }, some (expected, packet))
        else workerDrained (s.delivered expected) after r
      else workerDrained { s with reorder := s.reorder.set h.sequence packet }.drainReorder after r

def handleProbe (s : UdpMediaSession) (h : UdpPacketHeader) (payload : List UInt8) (addr : Addr) (r : Reads) :
    UdpMediaSession × Option Delivery :=
  if payload ≠ [] then (s, none)
  else if s.source = none ∧ h.sequence ≠ 0 then (s, none)
  else if outside then (s, none)
  else
    let s' := { s with replay := s.replay.commit h.sequence, source := some (s.source.getD addr) }
    match s'.send .probeAck r with
    | none => ({ s' with worker := .stopped }, none)
    | some s' =>
      let s' := { s' with nextAudioSequence := some (s.nextAudioSequence.getD h.sequence) }
      s'.bufferMedia h [] .probe r
where
  outside : Bool :=
    match s.nextAudioSequence with
    | none => false
    | some expected =>
      h.sequence < expected || h.sequence ≥ expected + jitterWindowPackets ||
        (h.sequence ≠ expected && s.reorder.size ≥ jitterWindowPackets)

/-- What `_handle` requires of an audio or keepalive datagram before it looks at the cursor. -/
def mediaValid (s : UdpMediaSession) (h : UdpPacketHeader) (payload : List UInt8) : Bool :=
  s.source.isSome && s.ready && !(h.flags = .keepalive && payload ≠ []) && !(h.flags = .audio && payload = [])

def handleMedia (s : UdpMediaSession) (h : UdpPacketHeader) (payload : List UInt8) (r : Reads) :
    UdpMediaSession × Option Delivery :=
  if !s.mediaValid h payload then (s, none)
  else
    match s.nextAudioSequence with
    | none => (s, none)
    | some expected =>
      if h.sequence < expected then (s, none)
      else if h.sequence ≥ expected + jitterWindowPackets then accept (s.resyncMediaCursor h.sequence)
      else if h.sequence ≠ expected ∧ s.reorder.size ≥ jitterWindowPackets then (s, none)
      else accept s
where
  accept (s : UdpMediaSession) : UdpMediaSession × Option Delivery :=
    { s with probeReackOpen := false, replay := s.replay.commit h.sequence }.bufferMedia h payload
      (if h.flags = Flag.keepalive then After.keepalive h.timestamp h.generation else .audio) r

def repeatedInitialProbe (s : UdpMediaSession) (h : UdpPacketHeader) (addr : Addr) (now : Time) : Bool :=
  !s.replay.canAccept h.sequence && s.replay.contains h.sequence && h.flags = .probe && h.sequence = 0 &&
    h.timestamp = 0 && h.generation = 0 && h.payloadLength = 0 && s.ready && s.source = some addr &&
    s.probeReackOpen && s.probeAckDatagram.isSome && now ≤ s.probeReackDeadline && now ≥ s.probeReackNextAt &&
    s.probeReackRemaining > 0

def reackProbe (s : UdpMediaSession) (payload : List UInt8) (r : Reads) : UdpMediaSession :=
  if payload ≠ [] ∨ r.transport = false ∨ s.source = none ∨ s.probeAckDatagram = none then s
  else
    { s with
      probeReackRemaining := s.probeReackRemaining - 1
      probeReackNextAt := r.monotonic + probeRetryIntervalSeconds }

/-- The checks of `_handle` up to decryption: the header, whether it repeats the
initial probe, and the payload. -/
def admitted (s : UdpMediaSession) (d : Datagram) (r : Reads) : Option (UdpPacketHeader × Bool × List UInt8) :=
  if d.length > maxDatagramBytes ∨ s.expired ∨ r.wall ≥ s.grant.expiresAt then none
  else
    match d.header with
    | none => none
    | some h =>
      if h.mediaId ≠ s.grant.mediaId ∨ h.mediaEpoch ≠ s.grant.mediaEpoch then none
      else if h.flags ≠ .audio ∧ h.flags ≠ .probe ∧ h.flags ≠ .keepalive then none
      else
        let repeated := s.repeatedInitialProbe h d.addr r.monotonic
        if !s.replay.canAccept h.sequence && !repeated then none
        else d.payload.map (fun payload => (h, repeated, payload))

def handle (s : UdpMediaSession) (d : Datagram) (r : Reads) : UdpMediaSession × Option Delivery :=
  match s.admitted d r with
  | none => (s, none)
  | some (h, repeated, payload) =>
    if repeated then (s.reackProbe payload r, none)
    else if s.source.isSome ∧ s.source ≠ some d.addr then (s, none)
    else if h.flags = .probe then s.handleProbe h payload d.addr r
    else s.handleMedia h payload r

def firstWaiting (s : UdpMediaSession) : Option Nat := (s.reorder.entries.map Prod.fst).min?

/-- A gap timer after it has drained: it waits in `_receive_audio` or it is over. -/
def timerDrained (d : UdpMediaSession × Option Delivery) : UdpMediaSession × Option Delivery :=
  match d.2 with
  | none => d
  | some delivery => ({ d.1 with suspended := d.1.suspended ++ [delivery.1] }, some delivery)

/-- `_expire_reorder_gap` from the end of its sleep. -/
def expireReorderGap (s : UdpMediaSession) : UdpMediaSession × Option Delivery :=
  match s.firstWaiting with
  | none => ({ s with reorderTimer := .finished }, none)
  | some first =>
    if s.closed then ({ s with reorderTimer := .finished }, none)
    else
      let cursor := s.nextAudioSequence.map (fun expected => max expected first)
      timerDrained { s with nextAudioSequence := cursor, reorderTimer := .absent }.drainReorder

/-- `close` and the end of the grant cancel the worker and the registered timer. -/
def cancelTasks (s : UdpMediaSession) : UdpMediaSession :=
  { s with
    worker := .stopped
    reorderTimer := if s.reorderTimer = .sleeping then .finished else s.reorderTimer }

end UdpMediaSession

/-- What the event loop runs next: the worker with the next datagram of its queue,
the return or the raise of the worker's `_receive_audio`, the end of the registered
timer's sleep, the return or the raise of a suspended timer's `_receive_audio`, or
the end of the session. -/
inductive Event
  | handle (datagram : Datagram) (reads : Reads)
  | resume (reads : Reads)
  | fail
  | fire
  | timerResume (index : Nat)
  | timerFail (index : Nat)
  | close
  | expire
deriving DecidableEq

open UdpMediaSession in
/-- One uninterrupted stretch of a task, with the packet it hands to
`_receive_audio`. An event whose task is not there changes nothing. -/
def UdpMediaSession.call (s : UdpMediaSession) : Event → UdpMediaSession × Option Delivery
  | .handle d r => if s.worker = .idle then s.handle d r else (s, none)
  | .resume r =>
    match s.worker with
    | .delivering expected after => workerDrained (s.delivered expected) after r
    | _ => (s, none)
  | .fail =>
    match s.worker with
    | .delivering _ _ => ({ s with worker := .stopped }, none)
    | _ => (s, none)
  | .fire => if s.reorderTimer = .sleeping then s.expireReorderGap else (s, none)
  | .timerResume index =>
    match s.suspended[index]? with
    | none => (s, none)
    | some expected => timerDrained ({ s with suspended := s.suspended.eraseIdx index }.delivered expected)
  | .timerFail index => ({ s with suspended := s.suspended.eraseIdx index }, none)
  | .close => if s.closed then (s, none) else ({ s.cancelTasks with closed := true }, none)
  | .expire => if s.closed then (s, none) else ({ s.cancelTasks with expired := true }, none)

abbrev Step := Answers UdpMediaSession.call

/-- The sequences handed to `_receive_audio`, in order. -/
def deliveries (es : List (Event × Option UdpMediaSession.Delivery)) : List Nat :=
  es.filterMap (fun e => e.2.map Prod.fst)

end RealtimeVoice.Udp.Gateway
