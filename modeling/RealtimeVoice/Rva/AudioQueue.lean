import RealtimeVoice.Rva.Binding

namespace RealtimeVoice.Rva

open RealtimeVoice.Base RealtimeVoice.Base.Runs RealtimeVoice.Contracts

def codecSampleRate : Nat := 16000

def samplesPerPacket : Nat := 960

/-- `FRAME_DURATION_MS / 1_000` -/
def frameSeconds : Time := 60 / 1000

def timelinePacingToleranceSeconds : Time := 15 / 1000

def timelineMaxCorrectionSeconds : Time := 5 / 1000

def timelineRebaseSeconds : Time := 30

def timelineMaxWssClockSkewRatio : Time := 2 / 100

def uplinkStaleRecoveryWindowSeconds : Time := 10

def uplinkMaxRecoverableStaleDrops : Nat := 2

def udpForwardGapMaxFreshnessWindows : Nat := 2

def wssCatchupMaxFreshnessWindows : Nat := 2

def wssCatchupRequiredPacedIntervals : Nat := 2

/-- The tolerance `1e-9` of the comparisons. -/
def slack : Time := 1 / 1000000000

/-- The fields of `RvaRuntimeLimits` that the uplink reads. -/
structure UplinkLimits where
  inputQueuePackets : Nat := 8
  uplinkMaxAgeSeconds : Time := 6 / 10
  maxConsecutiveInvalidOpusPackets : Nat := 8
  inputQueuePackets_pos : 0 < inputQueuePackets := by decide
  uplinkMaxAgeSeconds_pos : 0 < uplinkMaxAgeSeconds := by decide +kernel
  maxConsecutiveInvalidOpusPackets_pos : 0 < maxConsecutiveInvalidOpusPackets := by decide

/-- `RvaRuntimeLimits()` -/
def UplinkLimits.standard : UplinkLimits := {}

structure QueuedAudio where
  packet : InboundAudioPacket
  receivedAt : Time
  expectedAt : Time
  deadlineAt : Time
deriving DecidableEq

/-- The half of the owner that `_claim_uplink_freshness_recovery` keeps. -/
structure Recovery where
  staleRecoveryWindowStartedAt : Option Time := none
  staleRecoveryCount : Nat := 0
deriving DecidableEq

def Recovery.claimUplinkFreshnessRecovery (r : Recovery) (now : Time) : Recovery × Bool :=
  let fresh := match r.staleRecoveryWindowStartedAt with
    | none => true
    | some startedAt => decide (uplinkStaleRecoveryWindowSeconds < now - startedAt)
  let r : Recovery := if fresh then { staleRecoveryWindowStartedAt := some now } else r
  let r := { r with staleRecoveryCount := r.staleRecoveryCount + 1 }
  (r, decide (r.staleRecoveryCount ≤ uplinkMaxRecoverableStaleDrops))

/-- An entry of the queue is a packet or the sentinel of `close`. -/
structure AudioQueuePort where
  queue : List (Option QueuedAudio) := []
  closed : Bool := false
  consumerTimelineTimestamp : Option Nat := none
  consumerTimelineStartedAt : Time := 0
  lastTimestamp : Option Nat := none
  lastReceivedAt : Time := 0
  wssFutureBurstDebtSeconds : Time := 0
  wssCatchupActive : Bool := false
  wssCatchupDroppedPackets : Nat := 0
  wssCatchupPacedIntervals : Nat := 0
  pendingAudioPuts : Nat := 0
deriving DecidableEq

/-- `(later - earlier) & 0xFFFFFFFF` -/
def timestampDelta (later earlier : Nat) : Nat := (((later : ℤ) - earlier) % (uint32Max + 1)).toNat

/-- What a call of `_receive_audio` comes to before it puts anything into the queue. -/
inductive Received
  | closed
  | invalidTimestamp
  | catchupDropped
  | catchupExhausted
  | accepted (queued : QueuedAudio)
deriving DecidableEq

namespace AudioQueuePort

variable (limits : UplinkLimits)

def packets (s : AudioQueuePort) : List QueuedAudio := s.queue.reduceOption

def full (s : AudioQueuePort) : Bool := decide (limits.inputQueuePackets ≤ s.queue.length)

def anchor (s : AudioQueuePort) (timestamp : Nat) (at_ : Time) : AudioQueuePort :=
  { s with consumerTimelineTimestamp := some timestamp, consumerTimelineStartedAt := at_ }

def forgetTimeline (s : AudioQueuePort) : AudioQueuePort :=
  { s with consumerTimelineTimestamp := none, consumerTimelineStartedAt := 0 }

def arrivalDelta (s : AudioQueuePort) (receivedAt : Time) : Time := max 0 (receivedAt - s.lastReceivedAt)

/-- The comparison with the packet before: whether the packet may go on. -/
def checkTimestamp (s : AudioQueuePort) (r : Recovery) (enforceWssBurstBudget : Bool) (packet : InboundAudioPacket)
    (previous : Nat) (receivedAt claimAt : Time) : AudioQueuePort × Recovery × Bool :=
  let delta := timestampDelta packet.timestamp previous
  let mediaDelta : Time := delta / codecSampleRate
  let localFutureLead := max 0 (mediaDelta - s.arrivalDelta receivedAt)
  if delta = 0 then (s, r, false)
  else if delta % samplesPerPacket ≠ 0 then (s, r, false)
  else if localFutureLead ≤ limits.uplinkMaxAgeSeconds then (s, r, true)
  else if !enforceWssBurstBudget ∧ delta < 0x80000000 ∧
      mediaDelta ≤ limits.uplinkMaxAgeSeconds * udpForwardGapMaxFreshnessWindows + slack ∧ s.queue = [] ∧
      s.pendingAudioPuts = 0 then
    let (r, granted) := r.claimUplinkFreshnessRecovery claimAt
    if granted then (s.anchor packet.timestamp receivedAt, r, true) else (s, r, false)
  else (s, r, false)

def maxCatchupPackets : Nat :=
  max 1 ⌊limits.uplinkMaxAgeSeconds * wssCatchupMaxFreshnessWindows * 1000 / 60 + slack⌋₊

/-- The catch-up: whether it is over, or what the dropped packet comes to. -/
def catchup (s : AudioQueuePort) (packet : InboundAudioPacket) (receivedAt : Time) : AudioQueuePort × Option Received :=
  if !s.wssCatchupActive then (s, none)
  else
    let firstCatchupPacket := s.wssCatchupDroppedPackets = 0
    let pacedArrival :=
      ¬firstCatchupPacket ∧ |s.arrivalDelta receivedAt - frameSeconds| ≤ timelinePacingToleranceSeconds
    let s := { s with wssCatchupPacedIntervals := if pacedArrival then s.wssCatchupPacedIntervals + 1 else 0 }
    if s.wssCatchupPacedIntervals < wssCatchupRequiredPacedIntervals then
      let s := { s.forgetTimeline with
        lastTimestamp := some packet.timestamp
        lastReceivedAt := receivedAt
        wssCatchupDroppedPackets := s.wssCatchupDroppedPackets + 1 }
      (s, some (if maxCatchupPackets limits < s.wssCatchupDroppedPackets then .catchupExhausted else .catchupDropped))
    else
      ({ s with wssCatchupActive := false, wssCatchupDroppedPackets := 0, wssCatchupPacedIntervals := 0 }, none)

/-- The burst budget of WSS: whether the packet keeps within it. -/
def chargeBurst (s : AudioQueuePort) (receivedAt : Time) : AudioQueuePort × Bool :=
  let allowedMediaDelta := s.arrivalDelta receivedAt * (1 + timelineMaxWssClockSkewRatio)
  let debt := max 0 (s.wssFutureBurstDebtSeconds + (samplesPerPacket : Time) / codecSampleRate - allowedMediaDelta)
  ({ s with wssFutureBurstDebtSeconds := debt }, decide (debt ≤ limits.uplinkMaxAgeSeconds + slack))

/-- When a packet is due on the timeline. -/
def expectedAt (s : AudioQueuePort) (timestamp : Nat) : Option Time :=
  s.consumerTimelineTimestamp.map fun origin =>
    s.consumerTimelineStartedAt + (timestampDelta timestamp origin : Time) / codecSampleRate

/-- The correction that the distance of two packets gives, none when they are not paced. -/
def correction (s : AudioQueuePort) (packet : InboundAudioPacket) (receivedAt : Time) : Time :=
  match s.lastTimestamp with
  | none => 0
  | some previous =>
    let cadenceError := s.arrivalDelta receivedAt - (timestampDelta packet.timestamp previous : Time) / codecSampleRate
    if |cadenceError| ≤ timelinePacingToleranceSeconds then
      max (-timelineMaxCorrectionSeconds) (min timelineMaxCorrectionSeconds cadenceError)
    else 0

/-- The timeline after a packet that is accepted, and the packet as it is queued. -/
def schedule (s : AudioQueuePort) (packet : InboundAudioPacket) (receivedAt : Time) : AudioQueuePort × QueuedAudio :=
  let correction := s.correction packet receivedAt
  let s := { s with lastTimestamp := some packet.timestamp, lastReceivedAt := receivedAt }
  let expected := (s.expectedAt packet.timestamp).getD receivedAt
  let ahead := decide (limits.uplinkMaxAgeSeconds < expected - receivedAt)
  let s := if ahead then s.anchor packet.timestamp receivedAt else s
  let expected := (if ahead then receivedAt else expected) + correction
  ({ s with consumerTimelineStartedAt := s.consumerTimelineStartedAt + correction },
    { packet := packet, receivedAt := receivedAt, expectedAt := expected
      deadlineAt := min receivedAt expected + limits.uplinkMaxAgeSeconds })

/-- `_receive_audio` up to the queue, with the readings of the clock by itself and by
`_claim_uplink_freshness_recovery`. -/
def receiveAudio (s : AudioQueuePort) (r : Recovery) (enforceWssBurstBudget : Bool) (packet : InboundAudioPacket)
    (receivedAt claimAt : Time) : AudioQueuePort × Recovery × Received :=
  if s.closed then (s, r, .closed)
  else
    let s := if s.consumerTimelineTimestamp = none then s.anchor packet.timestamp receivedAt else s
    match s.lastTimestamp with
    | none =>
      let (s, queued) := s.schedule limits packet receivedAt
      (s, r, .accepted queued)
    | some previous =>
      let (s, r, admitted) := s.checkTimestamp limits r enforceWssBurstBudget packet previous receivedAt claimAt
      if !admitted then (s, r, .invalidTimestamp)
      else if !enforceWssBurstBudget then
        let (s, queued) := s.schedule limits packet receivedAt
        (s, r, .accepted queued)
      else
        match s.catchup limits packet receivedAt with
        | (s, some outcome) => (s, r, outcome)
        | (s, none) =>
          let (s, within) := s.chargeBurst limits receivedAt
          if !within then (s, r, .invalidTimestamp)
          else
            let (s, queued) := s.schedule limits packet receivedAt
            (s, r, .accepted queued)

def markConsumed (s : AudioQueuePort) (queued : QueuedAudio) : AudioQueuePort :=
  match s.consumerTimelineTimestamp with
  | none => s
  | some origin =>
    if (timestampDelta queued.packet.timestamp origin : Time) / codecSampleRate < timelineRebaseSeconds then s
    else s.anchor queued.packet.timestamp queued.expectedAt

inductive DropSource
  | opusInputStale | opusInputBackpressure
deriving DecidableEq

structure FreshnessDrop where
  source : DropSource
  droppedPackets : Nat
  liveEdge : Option QueuedAudio
  backlogQsize : Nat
deriving DecidableEq

/-- The survivor of a drop, with a deadline of its own. -/
def survivor (queued : QueuedAudio) : QueuedAudio :=
  { queued with
    expectedAt := queued.receivedAt
    deadlineAt := queued.receivedAt + limits.uplinkMaxAgeSeconds }

/-- The packets ahead of the sentinel. -/
def pending (s : AudioQueuePort) : List QueuedAudio := (s.queue.takeWhile Option.isSome).reduceOption

/-- What stands behind the sentinel. -/
def behind (s : AudioQueuePort) : List (Option QueuedAudio) := (s.queue.dropWhile Option.isSome).tail

def closedSentinel (s : AudioQueuePort) : Bool := s.queue.any Option.isNone

def dropStaleToLiveEdge (s : AudioQueuePort) (current : QueuedAudio) (now : Time) : AudioQueuePort × FreshnessDrop :=
  let candidates := current :: s.pending
  let fresh := candidates.filter fun q => now < q.deadlineAt
  let staleCount := candidates.countP fun q => q.deadlineAt ≤ now
  let isolatedStale := staleCount = 1 ∧ s.queue.length < limits.inputQueuePackets ∧ s.pendingAudioPuts = 0
  let source := if isolatedStale then DropSource.opusInputStale else .opusInputBackpressure
  let liveEdge := if s.closedSentinel then none else fresh.getLast?.map (survivor limits)
  let dropped : FreshnessDrop :=
    { source := source, droppedPackets := candidates.length - (if liveEdge.isSome then 1 else 0), liveEdge := liveEdge
      backlogQsize := s.queue.length }
  if s.closedSentinel then ({ s with queue := s.behind ++ [none] }, dropped)
  else
    match liveEdge with
    | some edge => ({ s.anchor edge.packet.timestamp edge.receivedAt with queue := [some edge] }, dropped)
    | none => ({ s.forgetTimeline with queue := [] }, dropped)

def beginWssCatchup (s : AudioQueuePort) : AudioQueuePort :=
  { s with
    wssCatchupActive := true
    wssCatchupDroppedPackets := 0
    wssCatchupPacedIntervals := 0
    wssFutureBurstDebtSeconds := 0 }

def close (s : AudioQueuePort) : AudioQueuePort :=
  if s.closed then s else { s with closed := true, queue := [none] }

variable {limits} {s t : AudioQueuePort} {r r' : Recovery} {enforce : Bool} {packet : InboundAudioPacket}
  {receivedAt claimAt : Time} {queued : QueuedAudio}

/-- What the checks of a packet leave: the queue as it was, and an origin of the timeline. -/
structure Admitted (s t : AudioQueuePort) : Prop where
  queue : t.queue = s.queue
  closed : t.closed = s.closed
  pendingPuts : t.pendingAudioPuts = s.pendingAudioPuts
  origin : t.consumerTimelineTimestamp ≠ none

theorem admitted_first (s : AudioQueuePort) (timestamp : Nat) (at_ : Time) :
    Admitted s (if s.consumerTimelineTimestamp = none then s.anchor timestamp at_ else s) := by
  by_cases h : s.consumerTimelineTimestamp = none
  · rw [if_pos h]
    exact ⟨rfl, rfl, rfl, by simp [anchor]⟩
  · rw [if_neg h]
    exact ⟨rfl, rfl, rfl, h⟩

theorem Admitted.checkTimestamp (h : Admitted s t) (r : Recovery) (enforce : Bool) (packet : InboundAudioPacket)
    (previous : Nat) (receivedAt claimAt : Time) :
    Admitted s (t.checkTimestamp limits r enforce packet previous receivedAt claimAt).1 := by
  simp only [AudioQueuePort.checkTimestamp]
  repeat' split
  all_goals first | exact h | exact ⟨h.queue, h.closed, h.pendingPuts, by simp [anchor]⟩

/-- A packet that the catch-up drops leaves no origin. -/
theorem catchup_kept (s : AudioQueuePort) (packet : InboundAudioPacket) (receivedAt : Time) :
    (s.catchup limits packet receivedAt).1.queue = s.queue ∧
      (s.catchup limits packet receivedAt).1.closed = s.closed ∧
      (s.catchup limits packet receivedAt).1.pendingAudioPuts = s.pendingAudioPuts ∧
      ((s.catchup limits packet receivedAt).2 = none →
        (s.catchup limits packet receivedAt).1.consumerTimelineTimestamp = s.consumerTimelineTimestamp) := by
  simp only [catchup]
  repeat' split
  all_goals simp [forgetTimeline]

theorem schedule_kept (s : AudioQueuePort) (packet : InboundAudioPacket) (receivedAt : Time) :
    (s.schedule limits packet receivedAt).1.queue = s.queue ∧
      (s.schedule limits packet receivedAt).1.closed = s.closed ∧
      (s.schedule limits packet receivedAt).1.pendingAudioPuts = s.pendingAudioPuts := by
  simp only [schedule]
  split <;> simp [anchor]

/-- One way through `_receive_audio`: what it leaves as it was, and the last step
of a packet that is accepted. -/
theorem receiveAudio_cases (limits : UplinkLimits) (s : AudioQueuePort) (r : Recovery) (enforce : Bool)
    (packet : InboundAudioPacket) (receivedAt claimAt : Time) :
    ((s.receiveAudio limits r enforce packet receivedAt claimAt).1.queue = s.queue ∧
        (s.receiveAudio limits r enforce packet receivedAt claimAt).1.closed = s.closed ∧
        (s.receiveAudio limits r enforce packet receivedAt claimAt).1.pendingAudioPuts = s.pendingAudioPuts) ∧
      ∀ queued, (s.receiveAudio limits r enforce packet receivedAt claimAt).2.2 = .accepted queued →
        ∃ u, Admitted s u ∧ u.schedule limits packet receivedAt =
          ((s.receiveAudio limits r enforce packet receivedAt claimAt).1, queued) := by
  have hscheduled {u : AudioQueuePort} (hu : Admitted s u) (r₁ : Recovery) :
      ((u.schedule limits packet receivedAt).1.queue = s.queue ∧
          (u.schedule limits packet receivedAt).1.closed = s.closed ∧
          (u.schedule limits packet receivedAt).1.pendingAudioPuts = s.pendingAudioPuts) ∧
        ∀ queued, Received.accepted (u.schedule limits packet receivedAt).2 = .accepted queued →
          ∃ v, Admitted s v ∧ v.schedule limits packet receivedAt =
            ((u.schedule limits packet receivedAt).1, queued) := by
    obtain ⟨hqueue, hclosed, hpending⟩ := @schedule_kept limits u packet receivedAt
    refine ⟨⟨hqueue.trans hu.queue, hclosed.trans hu.closed, hpending.trans hu.pendingPuts⟩, fun queued hq => ?_⟩
    rw [← Received.accepted.inj hq]
    exact ⟨u, hu, rfl⟩
  rw [receiveAudio]
  by_cases hclosed : s.closed = true
  · rw [if_pos hclosed]
    exact ⟨⟨rfl, rfl, rfl⟩, fun queued hq => by cases hq⟩
  rw [if_neg hclosed]
  have hfirst := admitted_first s packet.timestamp receivedAt
  generalize (if s.consumerTimelineTimestamp = none then s.anchor packet.timestamp receivedAt else s) = s₁ at hfirst
  dsimp only
  cases hlast : s₁.lastTimestamp with
  | none => exact hscheduled hfirst r
  | some previous =>
    dsimp only
    have hchecked := @Admitted.checkTimestamp limits s s₁ hfirst r enforce packet previous receivedAt claimAt
    generalize s₁.checkTimestamp limits r enforce packet previous receivedAt claimAt = checked at hchecked
    obtain ⟨s₂, r₂, admitted⟩ := checked
    cases admitted with
    | false => exact ⟨⟨hchecked.queue, hchecked.closed, hchecked.pendingPuts⟩, fun queued hq => by cases hq⟩
    | true =>
      simp only [Bool.not_true, Bool.false_eq_true, if_false]
      cases enforce with
      | false => exact hscheduled hchecked r₂
      | true =>
        simp only [Bool.not_true, Bool.false_eq_true, if_false]
        obtain ⟨hqueue, hclosed', hpending, horigin⟩ := @catchup_kept limits s₂ packet receivedAt
        rcases hcatchup : s₂.catchup limits packet receivedAt with ⟨s₃, _ | outcome⟩
        · rw [hcatchup] at hqueue hclosed' hpending horigin
          have hcharged : Admitted s (s₃.chargeBurst limits receivedAt).1 :=
            ⟨hqueue.trans hchecked.queue, hclosed'.trans hchecked.closed, hpending.trans hchecked.pendingPuts,
              (horigin rfl).symm ▸ hchecked.origin⟩
          dsimp only
          cases (s₃.chargeBurst limits receivedAt).2
          · exact ⟨⟨hcharged.queue, hcharged.closed, hcharged.pendingPuts⟩, fun queued hq => by cases hq⟩
          · exact hscheduled hcharged r₂
        · rw [hcatchup] at hqueue hclosed' hpending
          refine ⟨⟨hqueue.trans hchecked.queue, hclosed'.trans hchecked.closed, hpending.trans hchecked.pendingPuts⟩,
            fun queued hq => ?_⟩
          have hnever : ∀ q, (s₂.catchup limits packet receivedAt).2 ≠ some (.accepted q) := by
            intro q
            simp only [catchup]
            repeat' split
            all_goals simp
          exact absurd (congrArg Prod.snd hcatchup |>.trans (congrArg some hq)) (hnever queued)

theorem receiveAudio_accepted
    (h : s.receiveAudio limits r enforce packet receivedAt claimAt = (t, r', .accepted queued)) :
    ∃ u, Admitted s u ∧ u.schedule limits packet receivedAt = (t, queued) := by
  have haccepted := (receiveAudio_cases limits s r enforce packet receivedAt claimAt).2 queued
  rw [h] at haccepted
  exact haccepted rfl

end AudioQueuePort

end RealtimeVoice.Rva
