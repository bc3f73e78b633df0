import RealtimeVoice.Rva.Binding

namespace RealtimeVoice.Rva.Runtime

open RealtimeVoice.Base RealtimeVoice.Base.Runs RealtimeVoice.Contracts RealtimeVoice.Rva

/-- `AgentOutputSegment`, by the number of its 20 ms frames. -/
structure Segment where
  producerEpoch : Int
  frames : Nat
deriving DecidableEq

/-- An item of `_segments`. -/
inductive QueueItem
  | segment (segment : Segment) (assistantText : Option String)
  | responseEnd (producerEpoch : Int)

/-- Where `_segment_loop` stands: each constructor is an `await` that may take
arbitrarily long. The three places that send assistant text are told apart. -/
inductive SegmentTask
  | idle
  | beginning (segment : Segment) (record : Ref) (assistantText : Option String)
  | textFirst (segment : Segment) (record : Ref)
  | textPacket (segment : Segment) (record : Ref) (packet : Nat)
  | encoding (segment : Segment) (record : Ref) (packet : Nat)
  | waiting (segment : Segment) (record : Ref) (packet : Nat) (payload : List UInt8)
  | sending (segment : Segment) (record : Ref) (packet : Nat)
  | textLast
  | textEnd (record : Ref) (producerEpoch : Int)
  | ending (producerEpoch : Int)
  | stopped

/-- A task inside `_apply_control_effect`: the sends it still waits for. -/
structure Applier where
  effect : ControlEffect
  unsent : Nat

/-- A detached `_interrupt_runner` task: created, or waiting for `runner.interrupt()`. -/
inductive InterruptTask
  | created (target : Ref)
  | awaiting (target : Ref)
deriving DecidableEq

/-- The tasks that apply control effects. -/
inductive Owner
  | reader
  | coordinator
deriving DecidableEq

structure Limits where
  maxSegmentFrames : Nat
  playbackPrebufferPackets : Nat

/-- `RvaWssConnection` with its tasks and the producer epoch of its runner. -/
structure Connection where
  limits : Limits
  binding : Binding
  closed : Bool := false
  minimumProducerEpoch : Int := 1
  activeProducerEpoch : Option Int := none
  generationChanged : Bool := false
  segments : List QueueItem := []
  segmentTask : SegmentTask := .idle
  applying : Owner → Option Applier := fun _ => none
  interrupts : List InterruptTask := []
  responseSequence : Nat := 0
  responseTextSequence : Nat := 0
  downlinkTimestamp : Nat := 0
  pendingAssistantText : Option String := none
  assistantTextSent : String := ""
  runnerEpoch : Int := 1

/-- What a step does to a segment: dropped whole, cut short while it belongs to a
record, or released by `_wait_playback_deadline`. -/
inductive Note
  | dropped (producerEpoch : Int)
  | cut (record : Ref)
  | waited (record : Ref) (released : Bool)
deriving DecidableEq

namespace Connection

def activeResponse (s : Connection) : Option Ref := s.binding.responses.active

def raiseMinimum (s : Connection) (epoch : Int) : Connection :=
  { s with minimumProducerEpoch := max s.minimumProducerEpoch epoch }

def producerEpochOf (s : Connection) (r : Ref) : Option Int := (s.binding.responses.heap[r]?).map (·.producerEpoch)

/-- What `_send_pending_assistant_text` comes to: nothing to send, a control event
on its way, or an error. -/
inductive TextResult
  | nothing (s : Connection)
  | sent (s : Connection)
  | failed (s : Connection) (error : RvaError)

def sendPendingAssistantText (s : Connection) (r : Ref) : TextResult :=
  match s.pendingAssistantText with
  | none => .nothing s
  | some current =>
    if current = "" ∨ s.activeResponse ≠ some r then .nothing s
    else
      let delta :=
        if s.assistantTextSent.toList.isPrefixOf current.toList then
          String.ofList (current.toList.drop s.assistantTextSent.toList.length)
        else current
      let s := { s with pendingAssistantText := none, assistantTextSent := current }
      if delta = "" then .nothing s
      else
        match s.binding.call (.responseText r s.responseTextSequence delta) with
        | (binding, .error e) => .failed { s with binding := binding } e
        | (binding, .ok _) =>
          .sent { s with binding := binding, responseTextSequence := s.responseTextSequence + 1 }

/-- The text after the packets, then the next queue item. -/
def finishSegment (s : Connection) (r : Ref) : Connection :=
  match s.sendPendingAssistantText r with
  | .nothing s => { s with segmentTask := .idle }
  | .sent s => { s with segmentTask := .textLast }
  | .failed s _ => { s with segmentTask := .stopped }

def cutSegment (s : Connection) (r : Ref) : Connection × List Note := (s.finishSegment r, [.cut r])

/-- The top of the packet loop. -/
def nextPacket (s : Connection) (segment : Segment) (r : Ref) (packet : Nat) : Connection × List Note :=
  if segment.frames ≤ 3 * packet then (s.finishSegment r, [])
  else if segment.producerEpoch < s.minimumProducerEpoch ∨ s.activeResponse ≠ some r then s.cutSegment r
  else
    match s.sendPendingAssistantText r with
    | .nothing s => ({ s with segmentTask := .encoding segment r packet }, [])
    | .sent s => ({ s with segmentTask := .textPacket segment r packet }, [])
    | .failed s _ => ({ s with segmentTask := .stopped }, [])

def advanceTimestamp (s : Connection) : Connection :=
  { s with downlinkTimestamp := (s.downlinkTimestamp + 960) % 2 ^ 32 }

/-- The packet goes out: over UDP at once, with the sequence the media session
gave it, over WSS through the wire lock. -/
def sendMedia (s : Connection) (segment : Segment) (r : Ref) (packet : Nat) (payload : List UInt8)
    (udpSequence : Nat) : Connection × List Note :=
  if s.binding.selectedMediaProfile = some .udpOpusGcm then
    match s.binding.call (.noteDownlinkMedia r udpSequence) with
    | (binding, .ok _) => { s with binding := binding }.advanceTimestamp.nextPacket segment r (packet + 1)
    | (binding, .error e) => refused { s with binding := binding } e
  else
    match s.binding.call (.serializeAudio payload s.downlinkTimestamp r) with
    | (binding, .ok _) => ({ s with binding := binding, segmentTask := .sending segment r packet }, [])
    | (binding, .error e) => refused { s with binding := binding } e
where
  refused (s : Connection) (e : RvaError) : Connection × List Note :=
    if e = .binding "stale_generation" then s.cutSegment r else ({ s with segmentTask := .stopped }, [])

/-- `_wait_playback_deadline` has returned. -/
def released (s : Connection) (segment : Segment) (r : Ref) (packet : Nat) (payload : List UInt8)
    (udpSequence : Nat) (result : Bool) : Connection × List Note :=
  let (t, notes) := if result then s.sendMedia segment r packet payload udpSequence else s.cutSegment r
  (t, .waited r result :: notes)

/-- The packet is encoded; `late` tells whether its playback deadline has passed. -/
def encoded (s : Connection) (segment : Segment) (r : Ref) (packet : Nat) (payload : List UInt8)
    (udpSequence : Nat) (late : Bool) : Connection × List Note :=
  if packet < s.limits.playbackPrebufferPackets then s.sendMedia segment r packet payload udpSequence
  else if late then s.released segment r packet payload udpSequence (s.activeResponse = some r)
  else ({ s with generationChanged := false, segmentTask := .waiting segment r packet payload }, [])

/-- `_send_segment` once `response.begin` is out of the way. -/
def startPackets (s : Connection) (segment : Segment) (r : Ref) (assistantText : Option String) :
    Connection × List Note :=
  let pending := match s.pendingAssistantText with
    | some text => if text = "" then assistantText else some text
    | none => assistantText
  let s := { s with activeProducerEpoch := some segment.producerEpoch, pendingAssistantText := pending }
  match s.sendPendingAssistantText r with
  | .nothing s => s.nextPacket segment r 0
  | .sent s => ({ s with segmentTask := .textFirst segment r }, [])
  | .failed s _ => ({ s with segmentTask := .stopped }, [])

def padded (n : Nat) : String :=
  let digits := Nat.toDigits 10 n
  String.ofList (List.replicate (8 - digits.length) '0' ++ digits)

/-- `response_begin` of the binding and the sending of its event. -/
def beginSegment (s : Connection) (segment : Segment) (assistantText : Option String) (responseId : String) :
    Connection × List Note :=
  match s.binding.call (.responseBegin responseId segment.producerEpoch) with
  | (binding, .ok (.begun r none)) => { s with binding := binding }.startPackets segment r assistantText
  | (binding, .ok (.begun r (some _))) =>
    ({ s with binding := binding, segmentTask := .beginning segment r assistantText }, [])
  | (binding, _) => ({ s with binding := binding, segmentTask := .stopped }, [])

def sendSegment (s : Connection) (segment : Segment) (assistantText : Option String) : Connection × List Note :=
  if s.closed ∨ segment.frames = 0 then (s, [])
  else if segment.producerEpoch < s.minimumProducerEpoch then (s, [.dropped segment.producerEpoch])
  else
    let active := s.activeResponse.bind (s.binding.responses.heap[·]?)
    let responseSequence := if active.isNone then s.responseSequence + 1 else s.responseSequence
    let responseId := match active with
      | some record => record.responseId
      | none => "resp-" ++ padded responseSequence
    { s with responseSequence := responseSequence }.beginSegment segment assistantText responseId

/-- `response_end` of the binding and the sending of its event. -/
def endResponse (s : Connection) (r : Ref) (producerEpoch : Int) : Connection :=
  match s.binding.call (.responseEnd r) with
  | (binding, .ok _) => { s with binding := binding, segmentTask := .ending producerEpoch }
  | (binding, .error e) =>
    if e = .binding "stale_generation" then { s with binding := binding, segmentTask := .idle }
    else { s with binding := binding, segmentTask := .stopped }

def finishResponse (s : Connection) (producerEpoch : Int) : Connection :=
  match s.activeResponse with
  | none => s
  | some r =>
    if s.producerEpochOf r ≠ some producerEpoch then s
    else
      match s.sendPendingAssistantText r with
      | .nothing s => s.endResponse r producerEpoch
      | .sent s => { s with segmentTask := .textEnd r producerEpoch }
      | .failed s e =>
        if e = .binding "stale_generation" then { s with segmentTask := .idle } else { s with segmentTask := .stopped }

/-- The part of `_apply_control_effect` before its first `await`. -/
def applyControlEffect (s : Connection) (owner : Owner) (effect : ControlEffect) : Connection :=
  let s := match effect.interrupt.bind s.producerEpochOf with
    | some epoch => { s.raiseMinimum (epoch + 1) with generationChanged := true }
    | none => s
  { s with
    applying := Function.update s.applying owner (some { effect := effect, unsent := effect.outbound.length }) }

/-- The end of `_apply_control_effect`, where the interrupt task is detached. -/
def applied (s : Connection) (owner : Owner) (effect : ControlEffect) : Connection :=
  { s with
    applying := Function.update s.applying owner none
    interrupts := s.interrupts ++ (effect.interrupt.map .created).toList }

/-- `_AgentPort.interrupt` up to the await inside `runner.interrupt()`, which has
advanced the producer epoch by then. The target is not looked at. -/
def interrupt (s : Connection) : Connection :=
  let s := match s.activeProducerEpoch with
    | some epoch => s.raiseMinimum (epoch + 1)
    | none => s
  { s with generationChanged := true, runnerEpoch := s.runnerEpoch + 1 }

/-- The rest: `runner.interrupt()` advances the epoch once more and returns it. -/
def interrupted (s : Connection) : Connection :=
  { s with runnerEpoch := s.runnerEpoch + 1 }.raiseMinimum (s.runnerEpoch + 1)

def emitSegment (s : Connection) (segment : Segment) : Connection × List Note :=
  if s.closed ∨ segment.frames = 0 then (s, [])
  else if segment.producerEpoch < s.minimumProducerEpoch then (s, [.dropped segment.producerEpoch])
  else if segment.frames > s.limits.maxSegmentFrames then (s, [])
  else
    ({ s with
      segments := s.segments ++ [.segment segment s.pendingAssistantText]
      pendingAssistantText := none }, [])

end Connection

/-- What the event loop runs next, up to the next `await` of that task. -/
inductive Event
  | control (message : Message)
  | acceptInterruption (responseId : String) (generation : Nat)
  | controlSent (owner : Owner)
  | applyDone (owner : Owner)
  | interruptStart (index : Nat)
  | interruptReturn (index : Nat)
  | interruptFail (index : Nat)
  | take
  | beginSent
  | textSent
  | encoded (payload : List UInt8) (udpSequence : Nat) (late : Bool)
  | deadline (udpSequence : Nat)
  | woken
  | mediaSent
  | endSent
  | emitSegment (segment : Segment)
  | assistantText (text : String)
  | requestResponseEnd (producerEpoch : Int)
  | advanceProducerEpoch
  | close

namespace Connection

/-- One stretch of a task. An event whose task is elsewhere changes nothing. -/
def call (s : Connection) : Event → Connection × List Note
  | .control message =>
    match s.applying .reader with
    | some _ => (s, [])
    | none =>
      match s.binding.call (.receiveControl message) with
      | (binding, .ok (.control effect)) => ({ s with binding := binding }.applyControlEffect .reader effect, [])
      | (binding, _) => ({ s with binding := binding }, [])
  | .acceptInterruption responseId generation =>
    match s.applying .coordinator with
    | some _ => (s, [])
    | none =>
      let current := s.binding.responses.playback.bind (s.binding.responses.heap[·]?)
      if current.any (·.key == (responseId, generation)) then
        match s.binding.call (.cancelActiveResponse StopCause.recognizedInterrupt.text) with
        | (binding, .ok (.control effect)) => ({ s with binding := binding }.applyControlEffect .coordinator effect, [])
        | (binding, _) => ({ s with binding := binding }, [])
      else (s, [])
  | .controlSent owner =>
    match s.applying owner with
    | none => (s, [])
    | some a => ({ s with applying := Function.update s.applying owner (some { a with unsent := a.unsent - 1 }) }, [])
  | .applyDone owner =>
    match s.applying owner with
    | none => (s, [])
    | some a => if a.unsent = 0 then (s.applied owner a.effect, []) else (s, [])
  | .interruptStart index =>
    match s.interrupts[index]? with
    | some (.created target) => ({ s with interrupts := s.interrupts.set index (.awaiting target) }.interrupt, [])
    | _ => (s, [])
  | .interruptReturn index =>
    match s.interrupts[index]? with
    | some (.awaiting _) => ({ s with interrupts := s.interrupts.eraseIdx index }.interrupted, [])
    | _ => (s, [])
  | .interruptFail index => ({ s with interrupts := s.interrupts.eraseIdx index }, [])
  | .take =>
    match s.segmentTask, s.segments with
    | .idle, .segment segment text :: rest => { s with segments := rest }.sendSegment segment text
    | .idle, .responseEnd epoch :: rest => ({ s with segments := rest }.finishResponse epoch, [])
    | _, _ => (s, [])
  | .beginSent =>
    match s.segmentTask with
    | .beginning segment r text =>
      { s with assistantTextSent := "", responseTextSequence := 0 }.startPackets segment r text
    | _ => (s, [])
  | .textSent =>
    match s.segmentTask with
    | .textFirst segment r => s.nextPacket segment r 0
    | .textPacket segment r packet => ({ s with segmentTask := .encoding segment r packet }, [])
    | .textLast => ({ s with segmentTask := .idle }, [])
    | .textEnd r epoch => (s.endResponse r epoch, [])
    | _ => (s, [])
  | .encoded payload udpSequence late =>
    match s.segmentTask with
    | .encoding segment r packet => s.encoded segment r packet payload udpSequence late
    | _ => (s, [])
  | .deadline udpSequence =>
    match s.segmentTask with
    | .waiting segment r packet payload =>
      -- a set event wins over the timeout
      if s.generationChanged then (s, [])
      else s.released segment r packet payload udpSequence (s.activeResponse = some r)
    | _ => (s, [])
  | .woken =>
    match s.segmentTask with
    | .waiting segment r packet payload =>
      if s.generationChanged then s.released segment r packet payload 0 false else (s, [])
    | _ => (s, [])
  | .mediaSent =>
    match s.segmentTask with
    | .sending segment r packet => s.advanceTimestamp.nextPacket segment r (packet + 1)
    | _ => (s, [])
  | .endSent =>
    match s.segmentTask with
    | .ending epoch =>
      ({ s with
        segmentTask := .idle
        activeProducerEpoch := if s.activeProducerEpoch = some epoch then none else s.activeProducerEpoch }, [])
    | _ => (s, [])
  | .emitSegment segment => if segment.producerEpoch ≤ s.runnerEpoch then s.emitSegment segment else (s, [])
  | .assistantText text => if s.closed ∨ text = "" then (s, []) else ({ s with pendingAssistantText := some text }, [])
  | .requestResponseEnd epoch =>
    if s.closed then (s, []) else ({ s with segments := s.segments ++ [.responseEnd epoch] }, [])
  | .advanceProducerEpoch => ({ s with runnerEpoch := s.runnerEpoch + 1 }, [])
  | .close => ({ s with closed := true, binding := (s.binding.call .close).1 }, [])

abbrev Step := Answers Connection.call

end Connection

end RealtimeVoice.Rva.Runtime
