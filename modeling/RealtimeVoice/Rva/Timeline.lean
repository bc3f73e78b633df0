import RealtimeVoice.Rva.InputLoop

namespace RealtimeVoice.Rva

open RealtimeVoice.Base RealtimeVoice.Base.Runs RealtimeVoice.Contracts

theorem timestampDelta_self (timestamp : Nat) : timestampDelta timestamp timestamp = 0 := by
  rw [timestampDelta, sub_self, Int.zero_emod]
  rfl

/-- Differences from two origins, for a timestamp after both. -/
theorem timestampDelta_sub {timestamp middle origin : Nat}
    (h : timestampDelta middle origin ≤ timestampDelta timestamp origin) :
    timestampDelta timestamp middle = timestampDelta timestamp origin - timestampDelta middle origin := by
  simp only [timestampDelta, uint32Max] at h ⊢
  omega

namespace AudioQueuePort

variable {limits : UplinkLimits} {s : AudioQueuePort} {q : QueuedAudio}

/-- A timestamp that is no earlier than another, as the differences from the origin tell. -/
def Later (s : AudioQueuePort) (timestamp earlier : Nat) : Prop :=
  ∀ origin, s.consumerTimelineTimestamp = some origin →
    timestampDelta earlier origin ≤ timestampDelta timestamp origin

/-- `mark_consumed` leaves the time of every later packet as it was. -/
def KeepsPhase (s : AudioQueuePort) (q : QueuedAudio) : Prop :=
  ∀ timestamp, s.Later timestamp q.packet.timestamp → (s.markConsumed q).expectedAt timestamp = s.expectedAt timestamp

/-- The packet is too close to the origin to move it. -/
def NearOrigin (s : AudioQueuePort) (q : QueuedAudio) : Prop :=
  ∀ origin, s.consumerTimelineTimestamp = some origin →
    (timestampDelta q.packet.timestamp origin : Time) / codecSampleRate < timelineRebaseSeconds

/-- The timeline has not moved under the packet since it was queued. -/
def Unmoved (s : AudioQueuePort) (q : QueuedAudio) : Prop := s.expectedAt q.packet.timestamp = some q.expectedAt

theorem keepsPhase_of_same (h : s.markConsumed q = s) : s.KeepsPhase q := by
  intro timestamp _
  rw [h]

/-- The origin moves to the packet without a change of phase exactly when the packet
is still due when it was due at its arrival. -/
theorem keepsPhase_iff (s : AudioQueuePort) (q : QueuedAudio) : s.KeepsPhase q ↔ s.NearOrigin q ∨ s.Unmoved q := by
  cases horigin : s.consumerTimelineTimestamp with
  | none =>
    have hsame : s.markConsumed q = s := by rw [markConsumed, horigin]
    exact iff_of_true (keepsPhase_of_same hsame) (.inl fun origin h => by simp [horigin] at h)
  | some origin =>
    by_cases hnear : (timestampDelta q.packet.timestamp origin : Time) / codecSampleRate < timelineRebaseSeconds
    · have hsame : s.markConsumed q = s := by
        rw [markConsumed, horigin]
        exact if_pos hnear
      refine iff_of_true (keepsPhase_of_same hsame) (.inl fun o ho => ?_)
      obtain rfl := Option.some.inj (horigin.symm.trans ho)
      exact hnear
    have hmoved : s.markConsumed q = s.anchor q.packet.timestamp q.expectedAt := by
      rw [markConsumed, horigin]
      exact if_neg hnear
    constructor
    · intro h
      right
      have hself := h q.packet.timestamp fun _ _ => le_rfl
      rw [hmoved] at hself
      rw [Unmoved, ← hself]
      simp [expectedAt, anchor, timestampDelta_self]
    · rintro (h | h)
      · exact absurd (h origin horigin) hnear
      · intro timestamp hlater
        have hdelta := hlater origin horigin
        rw [Unmoved, expectedAt, horigin, Option.map_some, Option.some_inj] at h
        rw [hmoved, expectedAt, expectedAt, horigin]
        simp only [anchor, Option.map_some, Option.some_inj]
        rw [timestampDelta_sub hdelta, ← h, Nat.cast_sub hdelta, sub_div]
        ring

/-- A packet is due at its `expected_at` on the timeline it leaves behind. -/
theorem schedule_unmoved {packet : InboundAudioPacket} {receivedAt : Time} (h : s.consumerTimelineTimestamp ≠ none) :
    (s.schedule limits packet receivedAt).1.Unmoved (s.schedule limits packet receivedAt).2 := by
  obtain ⟨origin, horigin⟩ := Option.ne_none_iff_exists'.mp h
  simp only [schedule, Unmoved, expectedAt, horigin, Option.map_some, Option.getD_some]
  split
  · simp [anchor, timestampDelta_self]
  · simp only [Option.map_some, Option.some_inj]
    ring

/-- The queue and the puts that wait are no part of the timeline. -/
theorem Unmoved.of_timeline {t : AudioQueuePort} (h : s.Unmoved q)
    (htimestamp : t.consumerTimelineTimestamp = s.consumerTimelineTimestamp)
    (hstarted : t.consumerTimelineStartedAt = s.consumerTimelineStartedAt) : t.Unmoved q := by
  rw [Unmoved, expectedAt, htimestamp, hstarted]
  exact h

theorem receiveAudio_unmoved {t : AudioQueuePort} {r r' : Recovery} {enforce : Bool} {packet : InboundAudioPacket}
    {receivedAt claimAt : Time}
    (h : s.receiveAudio limits r enforce packet receivedAt claimAt = (t, r', .accepted q)) : t.Unmoved q := by
  obtain ⟨u, hu, hschedule⟩ := receiveAudio_accepted h
  have hunmoved := @schedule_unmoved limits u packet receivedAt hu.origin
  rwa [hschedule] at hunmoved

end AudioQueuePort

namespace Uplink

open AudioQueuePort

variable {limits : UplinkLimits} {profile : TransportProfile} {s t : State} {e : Event × List Note} {q : QueuedAudio}

theorem not_consumed_stale {now : Time} (s : State) (p : QueuedAudio) :
    Note.consumed q ∉ (stale limits s p now).2 ∧ Note.received (.accepted q) ∉ (stale limits s p now).2 := by
  simp [stale]

theorem nextFrame_consumed {p : QueuedAudio} {left : Nat} {now later : Time}
    (h : Note.consumed q ∈ (nextFrame limits s p left now later).2) :
    (nextFrame limits s p left now later).1.port = s.port.markConsumed q := by
  cases left with
  | zero =>
    obtain rfl : q = p := by simpa [nextFrame] using h
    rfl
  | succ left =>
    rw [nextFrame] at h
    split_ifs at h
    · exact absurd h (not_consumed_stale s p).1
    · simp at h

theorem not_accepted_nextFrame {p : QueuedAudio} {left : Nat} {now later : Time} :
    Note.received (.accepted q) ∉ (nextFrame limits s p left now later).2 := by
  cases left with
  | zero => simp [nextFrame]
  | succ left =>
    rw [nextFrame]
    split_ifs
    · exact (not_consumed_stale s p).2
    · simp

theorem recoverStale_notes {p : QueuedAudio} {now claimAt : Time} :
    Note.consumed q ∉ (recoverStale limits profile s p now claimAt).2 ∧
      Note.received (.accepted q) ∉ (recoverStale limits profile s p now claimAt).2 := by
  simp only [recoverStale]
  split_ifs <;> simp

theorem get_notes {now later claimAt : Time} :
    Note.consumed q ∉ (get limits profile s now later claimAt).2 ∧
      Note.received (.accepted q) ∉ (get limits profile s now later claimAt).2 := by
  rw [get]
  split
  · simp
  · simp
  · dsimp only
    split_ifs
    · exact recoverStale_notes
    · simp

theorem receive_accepted {packet : InboundAudioPacket} {receivedAt claimAt : Time}
    (h : Note.received (.accepted q) ∈ (receive limits profile s packet receivedAt claimAt).2) :
    (receive limits profile s packet receivedAt claimAt).1.port.Unmoved q := by
  simp only [receive] at h ⊢
  rcases hreceive : s.port.receiveAudio limits s.recovery (decide (profile = .wssOpus)) packet receivedAt claimAt with
    ⟨port, recovery, outcome⟩
  rw [hreceive] at h
  cases outcome with
  | accepted p =>
    have hunmoved := receiveAudio_unmoved hreceive
    dsimp only at h ⊢
    split_ifs at h ⊢
    · obtain rfl : q = p := by simpa using h
      exact hunmoved.of_timeline rfl rfl
    · obtain rfl : q = p := by simpa using h
      exact hunmoved.of_timeline rfl rfl
  | closed | invalidTimestamp | catchupDropped | catchupExhausted => simp at h

theorem not_consumed_receive {packet : InboundAudioPacket} {receivedAt claimAt : Time} :
    Note.consumed q ∉ (receive limits profile s packet receivedAt claimAt).2 := by
  simp only [receive]
  rcases s.port.receiveAudio limits s.recovery (decide (profile = .wssOpus)) packet receivedAt claimAt with
    ⟨port, recovery, _ | _ | _ | _ | p⟩
  case accepted =>
    dsimp only
    split_ifs <;> simp
  all_goals simp

/-- What a step does to the timeline when it accepts or consumes a packet. -/
theorem step_timeline (h : Step limits profile s e t) :
    (∀ q, Note.received (.accepted q) ∈ e.2 → t.port.Unmoved q) ∧
      ∀ q, Note.consumed q ∈ e.2 → t.port = s.port.markConsumed q := by
  rw [h.eq.1, h.eq.2]
  dsimp only
  cases e.1 with
  | receive packet receivedAt claimAt =>
    rw [step]
    split_ifs
    · exact ⟨fun q => receive_accepted, fun q hq => absurd hq not_consumed_receive⟩
    · simp
  | get now later claimAt =>
    rw [step]
    split_ifs
    · exact ⟨fun q hq => absurd hq get_notes.2, fun q hq => absurd hq get_notes.1⟩
    · simp
  | decoded frames now later =>
    simp only [step]
    split
    · exact ⟨fun q hq => absurd hq not_accepted_nextFrame, fun q => nextFrame_consumed⟩
    · simp
  | pushed now again later =>
    simp only [step]
    split
    · split_ifs
      · exact ⟨fun q hq => absurd hq (not_consumed_stale s _).2, fun q hq => absurd hq (not_consumed_stale s _).1⟩
      · exact ⟨fun q hq => absurd hq not_accepted_nextFrame, fun q => nextFrame_consumed⟩
    · simp
  | pushTimeout now =>
    simp only [step]
    split
    · exact ⟨fun q hq => absurd hq (not_consumed_stale s _).2, fun q hq => absurd hq (not_consumed_stale s _).1⟩
    · simp
  | putDone | putReturn | putTimeout | decodeFailed | pushFailed | close =>
    simp only [step]
    repeat' split
    all_goals simp

/-- Wherever a run consumes a packet, the later packets stay due when they were due exactly
when the origin need not move or the packet's own time has not moved since it was queued. -/
theorem phase_kept_iff (limits : UplinkLimits) (profile : TransportProfile) (start : Time)
    (es : List (Event × List Note)) (s : State) (h : Run (Step limits profile) { clock := start } es s)
    (before after : List (Event × List Note)) (e : Event × List Note) (hes : es = before ++ e :: after) :
    ∃ u t, Run (Step limits profile) { clock := start } before u ∧ Step limits profile u e t ∧
      (∀ q, Note.received (.accepted q) ∈ e.2 → t.port.Unmoved q) ∧
      ∀ q, Note.consumed q ∈ e.2 →
        ((∀ timestamp, u.port.Later timestamp q.packet.timestamp →
            t.port.expectedAt timestamp = u.port.expectedAt timestamp) ↔
          u.port.NearOrigin q ∨ u.port.Unmoved q) := by
  rw [hes] at h
  obtain ⟨u, hbefore, hrest⟩ := h.split
  obtain ⟨t, he, -⟩ := Run.cons_iff.mp hrest
  obtain ⟨haccepted, hconsumed⟩ := step_timeline he
  refine ⟨u, t, hbefore, he, haccepted, fun q hq => ?_⟩
  rw [hconsumed q hq]
  exact keepsPhase_iff u.port q

/-- A packet of half a minute later, and the next one five milliseconds late while the
first of the two is still in the runner's hands. -/
def sampleDrift : List Event :=
  let packet (sequence timestamp : Nat) : InboundAudioPacket :=
    { sequence := sequence, timestamp := timestamp, payload := [1] }
  [.receive (packet 0 0) 0 0, .get 0 0 0, .decoded 3 0 0, .pushed 0 0 0, .pushed 0 0 0, .pushed 0 0 0,
    .receive (packet 1 480000) 30 30, .get 30 30 30, .decoded 3 30 30, .pushed 30 30 30, .pushed 30 30 30,
    .receive (packet 2 480960) (30065 / 1000) (30065 / 1000)]

def driftState : State := after (call .standard .wssOpus) {} sampleDrift

def driftPacket : QueuedAudio :=
  { packet := { sequence := 1, timestamp := 480000, payload := [1] }, receivedAt := 30, expectedAt := 30
    deadlineAt := 306 / 10 }

def driftEvent : Event := .pushed (3007 / 100) (3007 / 100) (3007 / 100)

theorem drift_run : Run (Step .standard .wssOpus) {} (history (call .standard .wssOpus) {} sampleDrift) driftState ∧
    Step .standard .wssOpus driftState (driftEvent, [.consumed driftPacket])
      (call .standard .wssOpus driftState driftEvent).1 := by
  refine ⟨run_clocked .standard .wssOpus (by decide +kernel), by decide +kernel, ?_⟩
  have hnotes : (call .standard .wssOpus driftState driftEvent).2 = [.consumed driftPacket] := by decide +kernel
  exact Prod.ext rfl hnotes

theorem phase_moved : ¬∀ (limits : UplinkLimits) (profile : TransportProfile) (start : Time)
    (es : List (Event × List Note)) (u t : State) (e : Event × List Note) (q : QueuedAudio),
    Run (Step limits profile) { clock := start } es u → Step limits profile u e t → Note.consumed q ∈ e.2 →
      ∀ timestamp, u.port.Later timestamp q.packet.timestamp →
        t.port.expectedAt timestamp = u.port.expectedAt timestamp := by
  intro h
  obtain ⟨hr, hs⟩ := drift_run
  have hlater : driftState.port.Later 480960 driftPacket.packet.timestamp := by
    intro origin horigin
    have hzero : driftState.port.consumerTimelineTimestamp = some 0 := by decide +kernel
    obtain rfl := Option.some.inj (hzero.symm.trans horigin)
    decide +kernel
  have hkept := h .standard .wssOpus 0 _ _ _ _ driftPacket hr hs List.mem_cons_self 480960 hlater
  have hmoved : (call .standard .wssOpus driftState driftEvent).1.port.expectedAt 480960 ≠
      driftState.port.expectedAt 480960 := by decide +kernel
  exact hmoved hkept

theorem phase_kept_iff_drift : ∃ u t, Step .standard .wssOpus u (driftEvent, [.consumed driftPacket]) t ∧
    ((∀ timestamp, u.port.Later timestamp driftPacket.packet.timestamp →
        t.port.expectedAt timestamp = u.port.expectedAt timestamp) ↔
      u.port.NearOrigin driftPacket ∨ u.port.Unmoved driftPacket) := by
  obtain ⟨u, t, -, hs, -, hconsumed⟩ :=
    phase_kept_iff .standard .wssOpus 0 _ _ (drift_run.1.snoc drift_run.2) _ [] _ rfl
  exact ⟨u, t, hs, hconsumed driftPacket List.mem_cons_self⟩

end Uplink

end RealtimeVoice.Rva
