import RealtimeVoice.Rva.AudioQueue

namespace RealtimeVoice.Rva

open RealtimeVoice.Base RealtimeVoice.Base.Runs RealtimeVoice.Contracts

namespace Uplink

/-- Where the one receiver stands: between calls, in the put of a packet that found
no room, or after that put and before its return. -/
inductive Receiver
  | idle
  | putting (queued : QueuedAudio)
  | put
deriving DecidableEq

/-- Where `_input_loop` stands. -/
inductive Loop
  | waiting
  | decoding (queued : QueuedAudio)
  /-- `push_audio` of a frame, with so many frames after it. -/
  | pushing (queued : QueuedAudio) (left : Nat)
  | ended
deriving DecidableEq

/-- The port with the receiver that fills it, the loop that empties it, and what the
connection keeps for both. -/
structure State where
  port : AudioQueuePort := {}
  recovery : Recovery := {}
  receiver : Receiver := .idle
  loop : Loop := .waiting
  consecutiveInvalidOpusPackets : Nat := 0
  clock : Time := 0
deriving DecidableEq

/-- What can happen, with the readings of the clock in their order. -/
inductive Event
  | receive (packet : InboundAudioPacket) (receivedAt claimAt : Time)
  | putDone
  | putReturn
  | putTimeout
  | get (now later claimAt : Time)
  | decoded (frames : Nat) (now later : Time)
  | decodeFailed
  | pushed (now again later : Time)
  | pushTimeout (now : Time)
  | pushFailed
  | close
deriving DecidableEq

def Event.times : Event → List Time
  | .receive _ receivedAt claimAt => [receivedAt, claimAt]
  | .get now later claimAt => [now, later, claimAt]
  | .decoded _ now later => [now, later]
  | .pushed now again later => [now, again, later]
  | .pushTimeout now => [now]
  | .putDone | .putReturn | .putTimeout | .decodeFailed | .pushFailed | .close => []

/-- What an observer of the uplink sees. -/
inductive Note
  | received (outcome : Received)
  | overloaded
  | decoding (queued : QueuedAudio)
  | handed (queued : QueuedAudio) (now : Time)
  | dropped (drop : AudioQueuePort.FreshnessDrop)
  | catchupBegun
  | consumed (queued : QueuedAudio)
deriving DecidableEq

variable (limits : UplinkLimits) (profile : TransportProfile)

/-- `_stale_uplink_error`, raised for good. -/
def stale (s : State) (queued : QueuedAudio) (now : Time) : State × List Note :=
  let (port, drop) := s.port.dropStaleToLiveEdge limits queued now
  ({ s with port := port, loop := .ended }, [.dropped drop])

/-- `_stale_uplink_error` and `_recover_isolated_stale`, for a packet that waited too long. -/
def recoverStale (s : State) (queued : QueuedAudio) (now claimAt : Time) : State × List Note :=
  let (port, drop) := s.port.dropStaleToLiveEdge limits queued now
  let s := { s with port := port }
  if drop.source ≠ .opusInputStale then ({ s with loop := .ended }, [.dropped drop])
  else
    let (recovery, granted) := s.recovery.claimUplinkFreshnessRecovery claimAt
    let s := { s with recovery := recovery }
    if !granted then ({ s with loop := .ended }, [.dropped drop])
    else if drop.liveEdge = none ∧ profile = .wssOpus then
      ({ s with port := s.port.beginWssCatchup }, [.dropped drop, .catchupBegun])
    else (s, [.dropped drop])

/-- From one frame to the next, or to `mark_consumed` after the last one. -/
def nextFrame (s : State) (queued : QueuedAudio) (left : Nat) (now later : Time) : State × List Note :=
  match left with
  | 0 => ({ s with port := s.port.markConsumed queued, loop := .waiting }, [.consumed queued])
  | left + 1 =>
    if queued.deadlineAt - now ≤ 0 then stale limits s queued later
    else ({ s with loop := .pushing queued left }, [.handed queued now])

def receive (s : State) (packet : InboundAudioPacket) (receivedAt claimAt : Time) : State × List Note :=
  let (port, recovery, outcome) :=
    s.port.receiveAudio limits s.recovery (decide (profile = .wssOpus)) packet receivedAt claimAt
  let s := { s with port := port, recovery := recovery }
  match outcome with
  | .accepted queued =>
    if port.full limits then
      ({ s with
          port := { port with pendingAudioPuts := port.pendingAudioPuts + 1 }
          receiver := .putting queued }, [.received outcome])
    else ({ s with port := { port with queue := port.queue ++ [some queued] } }, [.received outcome])
  | _ => (s, [.received outcome])

/-- `get` of the queue and what the loop does with the item. -/
def get (s : State) (now later claimAt : Time) : State × List Note :=
  match s.port.queue with
  | [] => (s, [])
  | none :: queue => ({ s with port := { s.port with queue := queue }, loop := .ended }, [])
  | some queued :: queue =>
    let s := { s with port := { s.port with queue := queue } }
    if queued.deadlineAt - now ≤ 0 then recoverStale limits profile s queued later claimAt
    else ({ s with loop := .decoding queued }, [.decoding queued])

def returned (s : State) : State :=
  { s with
    port := { s.port with pendingAudioPuts := s.port.pendingAudioPuts - 1 }
    receiver := .idle }

/-- One step. An event that cannot happen in a state leaves it as it is. -/
def step (s : State) : Event → State × List Note
  | .receive packet receivedAt claimAt =>
    if s.receiver = .idle then receive limits profile s packet receivedAt claimAt else (s, [])
  | .putDone =>
    match s.receiver with
    | .putting queued =>
      if s.port.full limits then (s, [])
      else ({ s with port := { s.port with queue := s.port.queue ++ [some queued] }, receiver := .put }, [])
    | _ => (s, [])
  | .putReturn =>
    match s.receiver with
    | .putting _ => if s.port.closed then (returned s, []) else (s, [])
    | .put => (returned s, [])
    | .idle => (s, [])
  | .putTimeout =>
    match s.receiver with
    | .putting _ => if s.port.closed then (s, []) else (returned s, [.overloaded])
    | _ => (s, [])
  | .get now later claimAt => if s.loop = .waiting then get limits profile s now later claimAt else (s, [])
  | .decoded frames now later =>
    match s.loop with
    | .decoding queued => nextFrame limits { s with consecutiveInvalidOpusPackets := 0 } queued frames now later
    | _ => (s, [])
  | .decodeFailed =>
    match s.loop with
    | .decoding _ =>
      let s := { s with consecutiveInvalidOpusPackets := s.consecutiveInvalidOpusPackets + 1 }
      if limits.maxConsecutiveInvalidOpusPackets ≤ s.consecutiveInvalidOpusPackets then ({ s with loop := .ended }, [])
      else ({ s with loop := .waiting }, [])
    | _ => (s, [])
  | .pushed now again later =>
    match s.loop with
    | .pushing queued left =>
      if queued.deadlineAt - now ≤ 0 then stale limits s queued later else nextFrame limits s queued left again later
    | _ => (s, [])
  | .pushTimeout now =>
    match s.loop with
    | .pushing queued _ => stale limits s queued now
    | _ => (s, [])
  | .pushFailed =>
    match s.loop with
    | .pushing _ _ => ({ s with loop := .ended }, [])
    | _ => (s, [])
  | .close => ({ s with port := s.port.close }, [])

/-- A call of the process at the readings that its event carries. -/
def call (s : State) (e : Event) : State × List Note :=
  let (t, notes) := step limits profile s e
  ({ t with clock := e.times.getLastD s.clock }, notes)

/-- The clock never goes back. -/
def Clocked (s : State) (e : Event) : Prop := (s.clock :: e.times).Pairwise (· ≤ ·)

instance (s : State) (e : Event) : Decidable (Clocked s e) := inferInstanceAs (Decidable (List.Pairwise _ _))

def Step (s : State) (e : Event × List Note) (t : State) : Prop :=
  Clocked s e.1 ∧ Answers (call limits profile) s e t

theorem run_clocked {s : State} {events : List Event} (h : Along Clocked (call limits profile) s events) :
    Run (Step limits profile) s (history (call limits profile) s events) (after (call limits profile) s events) :=
  run_history_along h

theorem Step.eq {limits : UplinkLimits} {profile : TransportProfile} {s t : State} {e : Event × List Note}
    (h : Step limits profile s e t) :
    t = { (step limits profile s e.1).1 with clock := e.1.times.getLastD s.clock } ∧
      e.2 = (step limits profile s e.1).2 :=
  ⟨(congrArg Prod.fst h.2).symm, (congrArg Prod.snd h.2).symm⟩

theorem Step.clock_le {limits : UplinkLimits} {profile : TransportProfile} {s t : State} {e : Event × List Note}
    (h : Step limits profile s e t) : s.clock ≤ t.clock := by
  rw [h.eq.1]
  rcases List.eq_nil_or_concat e.1.times with htimes | ⟨times, last, htimes⟩
  · simp [htimes]
  · have hle := (List.pairwise_cons.mp h.1).1 last (by simp [htimes])
    simpa [htimes] using hle

/-- Everything the observer saw, in order. -/
def notes (es : List (Event × List Note)) : List Note := es.flatMap Prod.snd

theorem notes_snoc (es : List (Event × List Note)) (e : Event × List Note) : notes (es ++ [e]) = notes es ++ e.2 := by
  simp [notes]

end Uplink

end RealtimeVoice.Rva
