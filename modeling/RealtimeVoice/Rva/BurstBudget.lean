import RealtimeVoice.Base.Bucket
import RealtimeVoice.Rva.InputLoop

namespace RealtimeVoice.Rva

open RealtimeVoice.Base RealtimeVoice.Base.Runs RealtimeVoice.Base.Bucket RealtimeVoice.Contracts

/-- What of the port the burst budget and the catch-up are about. -/
structure AudioQueuePort.SameBudget (s t : AudioQueuePort) : Prop where
  timestamp : t.lastTimestamp = s.lastTimestamp
  received : t.lastReceivedAt = s.lastReceivedAt
  debt : t.wssFutureBurstDebtSeconds = s.wssFutureBurstDebtSeconds
  active : t.wssCatchupActive = s.wssCatchupActive
  dropped : t.wssCatchupDroppedPackets = s.wssCatchupDroppedPackets

namespace AudioQueuePort

variable {limits : UplinkLimits} {s t u : AudioQueuePort}

theorem SameBudget.refl (s : AudioQueuePort) : SameBudget s s := ⟨rfl, rfl, rfl, rfl, rfl⟩

theorem SameBudget.trans (h : SameBudget s t) (h' : SameBudget t u) : SameBudget s u :=
  ⟨h'.timestamp.trans h.timestamp, h'.received.trans h.received, h'.debt.trans h.debt, h'.active.trans h.active,
    h'.dropped.trans h.dropped⟩

theorem sameBudget_anchor (s : AudioQueuePort) (timestamp : Nat) (at_ : Time) : SameBudget s (s.anchor timestamp at_) :=
  ⟨rfl, rfl, rfl, rfl, rfl⟩

theorem sameBudget_anchorFirst (s : AudioQueuePort) (timestamp : Nat) (at_ : Time) :
    SameBudget s (if s.consumerTimelineTimestamp = none then s.anchor timestamp at_ else s) := by
  by_cases h : s.consumerTimelineTimestamp = none
  · rw [if_pos h]
    exact sameBudget_anchor s timestamp at_
  · rw [if_neg h]
    exact SameBudget.refl s

theorem sameBudget_markConsumed (s : AudioQueuePort) (queued : QueuedAudio) : SameBudget s (s.markConsumed queued) := by
  rw [markConsumed]
  cases s.consumerTimelineTimestamp with
  | none => exact SameBudget.refl s
  | some origin =>
    dsimp only
    split_ifs
    · exact SameBudget.refl s
    · exact sameBudget_anchor s _ _

theorem sameBudget_drop (s : AudioQueuePort) (current : QueuedAudio) (now : Time) :
    SameBudget s (s.dropStaleToLiveEdge limits current now).1 := by
  simp only [dropStaleToLiveEdge]
  by_cases hclosed : s.closedSentinel = true
  · rw [if_pos hclosed]
    exact ⟨rfl, rfl, rfl, rfl, rfl⟩
  · rw [if_neg hclosed, if_neg hclosed]
    cases (List.filter _ _).getLast? <;> exact ⟨rfl, rfl, rfl, rfl, rfl⟩

theorem sameBudget_close (s : AudioQueuePort) : SameBudget s s.close := by
  rw [close]
  split_ifs
  · exact SameBudget.refl s
  · exact ⟨rfl, rfl, rfl, rfl, rfl⟩

/-- The cost of a packet and the drain of a second. -/
def packetSeconds : Time := (samplesPerPacket : Time) / codecSampleRate

def drainRate : Time := 1 + timelineMaxWssClockSkewRatio

def burstLimit (limits : UplinkLimits) : Time := limits.uplinkMaxAgeSeconds + slack

theorem burstLimit_pos : 0 < burstLimit limits := by
  have h := limits.uplinkMaxAgeSeconds_pos
  rw [burstLimit, slack]
  linarith

theorem drainRate_pos : 0 < drainRate := by decide +kernel

/-- What a packet that the catch-up drops does to the budget. -/
structure Drops (s t : AudioQueuePort) (receivedAt : Time) : Prop where
  timestamp : t.lastTimestamp ≠ none
  received : t.lastReceivedAt = receivedAt
  debt : t.wssFutureBurstDebtSeconds = s.wssFutureBurstDebtSeconds
  active : s.wssCatchupActive = true
  dropped : t.wssCatchupDroppedPackets = s.wssCatchupDroppedPackets + 1

/-- No catch-up begins, and one that stays active has counted nothing. -/
def Settles (s t : AudioQueuePort) : Prop :=
  t.wssCatchupActive = true →
    s.wssCatchupActive = true ∧ t.wssCatchupDroppedPackets = s.wssCatchupDroppedPackets

/-- What a packet of the given time does to the budget, by its outcome. -/
def Charges (limits : UplinkLimits) (s t : AudioQueuePort) (receivedAt : Time) : Received → Prop
  | .closed => SameBudget s t
  | .invalidTimestamp =>
    t.lastTimestamp = s.lastTimestamp ∧ t.lastReceivedAt = s.lastReceivedAt ∧ Settles s t ∧
      (t.wssFutureBurstDebtSeconds = s.wssFutureBurstDebtSeconds ∨
        burstLimit limits < t.wssFutureBurstDebtSeconds)
  | .catchupDropped =>
    s.lastTimestamp ≠ none ∧ Drops s t receivedAt ∧ t.wssCatchupDroppedPackets ≤ maxCatchupPackets limits
  | .catchupExhausted => s.lastTimestamp ≠ none ∧ Drops s t receivedAt
  | .accepted queued =>
    queued.receivedAt = receivedAt ∧ t.lastTimestamp ≠ none ∧ t.lastReceivedAt = receivedAt ∧ Settles s t ∧
      (s.lastTimestamp = none ∧ t.wssFutureBurstDebtSeconds = s.wssFutureBurstDebtSeconds ∨
        s.lastTimestamp ≠ none ∧
          t.wssFutureBurstDebtSeconds =
            charge packetSeconds drainRate s.wssFutureBurstDebtSeconds (s.arrivalDelta receivedAt) ∧
          t.wssFutureBurstDebtSeconds ≤ burstLimit limits)

theorem Settles.of_same (h : SameBudget s t) : Settles s t := fun ht => ⟨h.active ▸ ht, h.dropped⟩

theorem Settles.trans (h : Settles s t) (h' : Settles t u) : Settles s u := by
  intro hu
  obtain ⟨ht, hdropped⟩ := h' hu
  obtain ⟨hs, hdropped'⟩ := h ht
  exact ⟨hs, hdropped.trans hdropped'⟩

/-- The budget before a packet is all that its outcome depends on. -/
theorem Charges.of_same {receivedAt : Time} {outcome : Received} (h : SameBudget s t)
    (hc : Charges limits t u receivedAt outcome) : Charges limits s u receivedAt outcome := by
  cases outcome with
  | closed => exact h.trans hc
  | invalidTimestamp =>
    obtain ⟨hts, hrec, hsettles, hdebt⟩ := hc
    exact ⟨hts.trans h.timestamp, hrec.trans h.received, (Settles.of_same h).trans hsettles,
      hdebt.imp_left fun hd => hd.trans h.debt⟩
  | catchupDropped =>
    obtain ⟨hts, ⟨hts', hrec, hdebt, hactive, hdropped⟩, hle⟩ := hc
    exact ⟨h.timestamp ▸ hts, ⟨hts', hrec, hdebt.trans h.debt, h.active ▸ hactive, h.dropped ▸ hdropped⟩, hle⟩
  | catchupExhausted =>
    obtain ⟨hts, hts', hrec, hdebt, hactive, hdropped⟩ := hc
    exact ⟨h.timestamp ▸ hts, hts', hrec, hdebt.trans h.debt, h.active ▸ hactive, h.dropped ▸ hdropped⟩
  | accepted queued =>
    obtain ⟨hat, hts, hrec, hsettles, hdebt⟩ := hc
    refine ⟨hat, hts, hrec, (Settles.of_same h).trans hsettles, ?_⟩
    rwa [arrivalDelta, h.timestamp, h.debt, h.received] at hdebt

theorem checkTimestamp_same (s : AudioQueuePort) (r : Recovery) (enforce : Bool) (packet : InboundAudioPacket)
    (previous : Nat) (receivedAt claimAt : Time) :
    SameBudget s (s.checkTimestamp limits r enforce packet previous receivedAt claimAt).1 := by
  simp only [checkTimestamp]
  repeat' split
  all_goals first | exact SameBudget.refl s | exact sameBudget_anchor s _ _

theorem catchup_over {packet : InboundAudioPacket} {receivedAt : Time}
    (h : s.catchup limits packet receivedAt = (t, none)) :
    t.lastTimestamp = s.lastTimestamp ∧ t.lastReceivedAt = s.lastReceivedAt ∧
      t.wssFutureBurstDebtSeconds = s.wssFutureBurstDebtSeconds ∧ t.wssCatchupActive = false := by
  simp only [catchup] at h
  by_cases hactive : s.wssCatchupActive = true
  · rw [if_neg (by simp [hactive])] at h
    split_ifs at h <;> cases h <;> exact ⟨rfl, rfl, rfl, rfl⟩
  · rw [if_pos (by simp [hactive])] at h
    cases h
    exact ⟨rfl, rfl, rfl, by simpa using hactive⟩

theorem catchup_drops {packet : InboundAudioPacket} {receivedAt : Time} {outcome : Received}
    (h : s.catchup limits packet receivedAt = (t, some outcome)) (hlast : s.lastTimestamp ≠ none) :
    Charges limits s t receivedAt outcome := by
  simp only [catchup] at h
  by_cases hactive : s.wssCatchupActive = true
  · rw [if_neg (by simp [hactive])] at h
    have hdrops (intervals : Nat) : Drops s
        { s with
          wssCatchupPacedIntervals := intervals
          consumerTimelineTimestamp := none
          consumerTimelineStartedAt := 0
          lastTimestamp := some packet.timestamp
          lastReceivedAt := receivedAt
          wssCatchupDroppedPackets := s.wssCatchupDroppedPackets + 1 } receivedAt :=
      ⟨by simp, rfl, rfl, hactive, rfl⟩
    split_ifs at h with hpaced hintervals hmax hmax' <;> cases h
    all_goals first
      | exact ⟨hlast, hdrops _⟩
      | exact ⟨hlast, hdrops _, Nat.not_lt.mp hmax⟩
      | exact ⟨hlast, hdrops _, Nat.not_lt.mp ‹_›⟩
  · rw [if_pos (by simp [hactive])] at h
    cases h

theorem schedule_spec (s : AudioQueuePort) (packet : InboundAudioPacket) (receivedAt : Time) :
    (s.schedule limits packet receivedAt).2.receivedAt = receivedAt ∧
      (s.schedule limits packet receivedAt).1.lastTimestamp ≠ none ∧
      (s.schedule limits packet receivedAt).1.lastReceivedAt = receivedAt ∧
      (s.schedule limits packet receivedAt).1.wssFutureBurstDebtSeconds = s.wssFutureBurstDebtSeconds ∧
      (s.schedule limits packet receivedAt).1.wssCatchupActive = s.wssCatchupActive ∧
      (s.schedule limits packet receivedAt).1.wssCatchupDroppedPackets = s.wssCatchupDroppedPackets := by
  simp only [schedule]
  split <;> simp [anchor]

/-- One packet on WSS. -/
theorem receiveAudio_charges (s : AudioQueuePort) (r : Recovery) (packet : InboundAudioPacket)
    (receivedAt claimAt : Time) :
    Charges limits s (s.receiveAudio limits r true packet receivedAt claimAt).1 receivedAt
      (s.receiveAudio limits r true packet receivedAt claimAt).2.2 := by
  rw [receiveAudio]
  by_cases hclosed : s.closed = true
  · rw [if_pos hclosed]
    exact SameBudget.refl s
  rw [if_neg hclosed]
  have hfirst := sameBudget_anchorFirst s packet.timestamp receivedAt
  generalize (if s.consumerTimelineTimestamp = none then s.anchor packet.timestamp receivedAt else s) = s₁ at hfirst
  apply Charges.of_same hfirst
  simp only [Bool.not_true, Bool.false_eq_true, if_false]
  cases hlast : s₁.lastTimestamp with
  | none =>
    obtain ⟨hat, hts, hrec, hdebt, hactive, hdropped⟩ := @schedule_spec limits s₁ packet receivedAt
    exact ⟨hat, hts, hrec, fun h => ⟨hactive ▸ h, hdropped⟩, .inl ⟨hlast, hdebt⟩⟩
  | some previous =>
    dsimp only
    have hsame := @checkTimestamp_same limits s₁ r true packet previous receivedAt claimAt
    generalize s₁.checkTimestamp limits r true packet previous receivedAt claimAt = checked at hsame
    obtain ⟨s₂, r₂, admitted⟩ := checked
    apply Charges.of_same hsame
    have hlast₂ : s₂.lastTimestamp ≠ none := by rw [hsame.timestamp, hlast]; simp
    cases admitted with
    | false => exact ⟨rfl, rfl, Settles.of_same (SameBudget.refl _), .inl rfl⟩
    | true =>
      simp only [Bool.not_true, Bool.false_eq_true, if_false]
      rcases hcatchup : s₂.catchup limits packet receivedAt with ⟨s₃, _ | outcome⟩
      · obtain ⟨hts, hrec, hdebt, hover⟩ := catchup_over hcatchup
        have hsettles : ∀ u : AudioQueuePort, u.wssCatchupActive = s₃.wssCatchupActive → Settles s₂ u := by
          intro u hu hactive
          rw [hu, hover] at hactive
          cases hactive
        have hcharge : (s₃.chargeBurst limits receivedAt).1.wssFutureBurstDebtSeconds =
            charge packetSeconds drainRate s₂.wssFutureBurstDebtSeconds (s₂.arrivalDelta receivedAt) := by
          simp only [chargeBurst, arrivalDelta, charge, packetSeconds, drainRate, hrec, hdebt]
          ring_nf
        simp only [chargeBurst] at hcharge ⊢
        by_cases hwithin : max 0 (s₃.wssFutureBurstDebtSeconds + (samplesPerPacket : Time) / codecSampleRate -
            s₃.arrivalDelta receivedAt * (1 + timelineMaxWssClockSkewRatio)) ≤ limits.uplinkMaxAgeSeconds + slack
        · obtain ⟨hat, hts', hrec', hdebt', hactive', hdropped'⟩ := @schedule_spec limits
            { s₃ with
              wssFutureBurstDebtSeconds :=
                max 0 (s₃.wssFutureBurstDebtSeconds + (samplesPerPacket : Time) / codecSampleRate -
                  s₃.arrivalDelta receivedAt * (1 + timelineMaxWssClockSkewRatio)) }
            packet receivedAt
          simp only [decide_eq_true hwithin, Bool.not_true, Bool.false_eq_true, if_false]
          refine ⟨hat, hts', hrec', hsettles _ hactive', .inr ⟨hlast₂, hdebt'.trans hcharge, ?_⟩⟩
          rw [hdebt']
          exact hwithin
        · simp only [decide_eq_false hwithin, Bool.not_false, if_true]
          exact ⟨hts, hrec, hsettles _ rfl, .inr (not_le.mp hwithin)⟩
      · exact catchup_drops hcatchup hlast₂

theorem Charges.trans_same {receivedAt : Time} {outcome : Received} (hc : Charges limits s t receivedAt outcome)
    (h : SameBudget t u) : Charges limits s u receivedAt outcome := by
  cases outcome with
  | closed => exact SameBudget.trans hc h
  | invalidTimestamp =>
    obtain ⟨hts, hrec, hsettles, hdebt⟩ := hc
    exact ⟨h.timestamp.trans hts, h.received.trans hrec, hsettles.trans (Settles.of_same h), by rwa [h.debt]⟩
  | catchupDropped =>
    obtain ⟨hts, ⟨hts', hrec, hdebt, hactive, hdropped⟩, hle⟩ := hc
    exact ⟨hts, ⟨h.timestamp ▸ hts', h.received.trans hrec, h.debt.trans hdebt, hactive, h.dropped.trans hdropped⟩,
      h.dropped ▸ hle⟩
  | catchupExhausted =>
    obtain ⟨hts, hts', hrec, hdebt, hactive, hdropped⟩ := hc
    exact ⟨hts, h.timestamp ▸ hts', h.received.trans hrec, h.debt.trans hdebt, hactive, h.dropped.trans hdropped⟩
  | accepted queued =>
    obtain ⟨hat, hts, hrec, hsettles, hdebt⟩ := hc
    refine ⟨hat, h.timestamp ▸ hts, h.received.trans hrec, hsettles.trans (Settles.of_same h), ?_⟩
    rwa [h.debt]

end AudioQueuePort

namespace Uplink

open AudioQueuePort

variable {limits : UplinkLimits} {s t : State} {e : Event × List Note} {ns : List Note}

/-- A note that says nothing about the budget. -/
def Note.Quiet : Note → Prop
  | .received _ | .catchupBegun => False
  | .overloaded | .decoding _ | .handed _ _ | .dropped _ | .consumed _ => True

/-- What a step between two times does to the budget, by what it shows. -/
inductive Budgeted (limits : UplinkLimits) (s t : AudioQueuePort) (from_ to_ : Time) : List Note → Prop
  | quiet {ns : List Note} : SameBudget s t → (∀ n ∈ ns, n.Quiet) → Budgeted limits s t from_ to_ ns
  | received {receivedAt : Time} {outcome : Received} : from_ ≤ receivedAt → receivedAt ≤ to_ →
      Charges limits s t receivedAt outcome → Budgeted limits s t from_ to_ [.received outcome]
  | begun {drop : FreshnessDrop} : SameBudget s.beginWssCatchup t →
      Budgeted limits s t from_ to_ [.dropped drop, .catchupBegun]

theorem Budgeted.of_same {s t u : AudioQueuePort} {from_ to_ : Time} (h : SameBudget s t)
    (hb : Budgeted limits t u from_ to_ ns) : Budgeted limits s u from_ to_ ns := by
  cases hb with
  | quiet hsame hquiet => exact .quiet (h.trans hsame) hquiet
  | received hfrom hto hcharges => exact .received hfrom hto (Charges.of_same h hcharges)
  | begun hsame =>
    apply Budgeted.begun
    exact ⟨hsame.timestamp.trans h.timestamp, hsame.received.trans h.received, hsame.debt, hsame.active, hsame.dropped⟩

theorem stale_same (s : State) (queued : QueuedAudio) (now : Time) :
    SameBudget s.port (stale limits s queued now).1.port ∧ ∀ n ∈ (stale limits s queued now).2, n.Quiet :=
  ⟨sameBudget_drop _ _ _, by simp [stale, Note.Quiet]⟩

theorem nextFrame_same (s : State) (queued : QueuedAudio) (left : Nat) (now later : Time) :
    SameBudget s.port (nextFrame limits s queued left now later).1.port ∧
      ∀ n ∈ (nextFrame limits s queued left now later).2, n.Quiet := by
  cases left with
  | zero => exact ⟨sameBudget_markConsumed _ _, by simp [nextFrame, Note.Quiet]⟩
  | succ left =>
    rw [nextFrame]
    split_ifs
    · exact stale_same s queued later
    · exact ⟨SameBudget.refl _, by simp [Note.Quiet]⟩

theorem recoverStale_budgeted {profile : TransportProfile} (s : State) (queued : QueuedAudio)
    (now claimAt from_ to_ : Time) :
    Budgeted limits s.port (recoverStale limits profile s queued now claimAt).1.port from_ to_
      (recoverStale limits profile s queued now claimAt).2 := by
  have hdrop := @sameBudget_drop limits s.port queued now
  have hquiet (drop : FreshnessDrop) : ∀ n ∈ [Note.dropped drop], n.Quiet := by simp [Note.Quiet]
  simp only [recoverStale]
  generalize s.port.dropStaleToLiveEdge limits queued now = dropped at hdrop
  split_ifs
  · exact .quiet hdrop (hquiet _)
  · exact .quiet hdrop (hquiet _)
  · apply Budgeted.begun
    exact ⟨hdrop.timestamp, hdrop.received, rfl, rfl, rfl⟩
  · exact .quiet hdrop (hquiet _)

theorem receive_budgeted (s : State) (packet : InboundAudioPacket) {receivedAt claimAt from_ to_ : Time}
    (hfrom : from_ ≤ receivedAt) (hto : receivedAt ≤ to_) :
    Budgeted limits s.port (receive limits .wssOpus s packet receivedAt claimAt).1.port from_ to_
      (receive limits .wssOpus s packet receivedAt claimAt).2 := by
  have hcharges := @receiveAudio_charges limits s.port s.recovery packet receivedAt claimAt
  simp only [receive, decide_true]
  generalize s.port.receiveAudio limits s.recovery true packet receivedAt claimAt = result at hcharges
  obtain ⟨port, recovery, outcome⟩ := result
  cases outcome with
  | accepted queued =>
    dsimp only
    split_ifs
    · exact .received hfrom hto (hcharges.trans_same ⟨rfl, rfl, rfl, rfl, rfl⟩)
    · exact .received hfrom hto (hcharges.trans_same ⟨rfl, rfl, rfl, rfl, rfl⟩)
  | closed | invalidTimestamp | catchupDropped | catchupExhausted => exact .received hfrom hto hcharges

theorem get_budgeted {profile : TransportProfile} (s : State) (now later claimAt from_ to_ : Time) :
    Budgeted limits s.port (get limits profile s now later claimAt).1.port from_ to_
      (get limits profile s now later claimAt).2 := by
  rw [get]
  split
  · exact .quiet (SameBudget.refl _) (by simp)
  · exact .quiet ⟨rfl, rfl, rfl, rfl, rfl⟩ (by simp)
  · rename_i queued queue hqueue
    dsimp only
    split_ifs
    · apply Budgeted.of_same _ (recoverStale_budgeted _ queued later claimAt from_ to_)
      exact ⟨rfl, rfl, rfl, rfl, rfl⟩
    · exact .quiet ⟨rfl, rfl, rfl, rfl, rfl⟩ (by simp [Note.Quiet])

theorem step_budgeted (h : Step limits .wssOpus s e t) : Budgeted limits s.port t.port s.clock t.clock e.2 := by
  have hclock := h.1
  rw [h.eq.1, h.eq.2]
  dsimp only
  have hidle (to_ : Time) : Budgeted limits s.port s.port s.clock to_ [] := .quiet (SameBudget.refl _) (by simp)
  have hsame {port : AudioQueuePort} (to_ : Time) (hport : SameBudget s.port port) :
      Budgeted limits s.port port s.clock to_ [] := .quiet hport (by simp)
  cases hevent : e.1 with
  | receive packet receivedAt claimAt =>
    rw [Clocked, hevent, Event.times, List.pairwise_cons, List.pairwise_cons] at hclock
    rw [step]
    split_ifs
    · exact receive_budgeted s packet (hclock.1 _ List.mem_cons_self) (hclock.2.1 _ List.mem_cons_self)
    · exact hidle _
  | putDone =>
    simp only [step]
    split
    · split_ifs
      · exact hidle _
      · exact hsame _ ⟨rfl, rfl, rfl, rfl, rfl⟩
    · exact hidle _
  | putReturn =>
    simp only [step]
    split
    · split_ifs
      · exact hsame _ ⟨rfl, rfl, rfl, rfl, rfl⟩
      · exact hidle _
    · exact hsame _ ⟨rfl, rfl, rfl, rfl, rfl⟩
    · exact hidle _
  | putTimeout =>
    simp only [step]
    split
    · split_ifs
      · exact hidle _
      · exact .quiet ⟨rfl, rfl, rfl, rfl, rfl⟩ (by simp [Note.Quiet])
    · exact hidle _
  | get now later claimAt =>
    rw [step]
    split_ifs
    · exact get_budgeted s now later claimAt _ _
    · exact hidle _
  | decoded frames now later =>
    simp only [step]
    split
    · obtain ⟨hport, hquiet⟩ := @nextFrame_same limits { s with consecutiveInvalidOpusPackets := 0 } _ frames now later
      exact .quiet hport hquiet
    · exact hidle _
  | decodeFailed =>
    simp only [step]
    split
    · split_ifs <;> exact hidle _
    · exact hidle _
  | pushed now again later =>
    simp only [step]
    split
    · split_ifs
      · exact .quiet (stale_same s _ later).1 (stale_same s _ later).2
      · exact .quiet (nextFrame_same s _ _ again later).1 (nextFrame_same s _ _ again later).2
    · exact hidle _
  | pushTimeout now =>
    simp only [step]
    split
    · exact .quiet (stale_same s _ now).1 (stale_same s _ now).2
    · exact hidle _
  | pushFailed =>
    simp only [step]
    split
    · exact hidle _
    · exact hidle _
  | close => exact hsame _ (sameBudget_close _)

/-- A list with an element in it, split before and after: the element is on one side. -/
theorem append_eq_append_cons {α : Type} {l m l₁ l₂ : List α} {a : α} (h : l ++ m = l₁ ++ a :: l₂) :
    (∃ l', l = l₁ ++ a :: l' ∧ l₂ = l' ++ m) ∨ ∃ m', l₁ = l ++ m' ∧ m = m' ++ a :: l₂ := by
  rcases List.append_eq_append_iff.mp h with ⟨m', hl₁, hm⟩ | ⟨l', hl, ha⟩
  · exact .inr ⟨m', hl₁, hm⟩
  · rcases List.cons_eq_append_iff.mp ha with ⟨rfl, hm⟩ | ⟨l'', rfl, hl₂⟩
    · exact .inr ⟨[], by simpa using hl.symm, hm⟩
    · exact .inl ⟨l'', hl, hl₂⟩

theorem single_eq_append_cons {α : Type} {a b : α} {l₁ l₂ : List α} (h : [b] = l₁ ++ a :: l₂) :
    l₁ = [] ∧ b = a ∧ l₂ = [] := by
  cases l₁ with
  | nil => exact ⟨rfl, (List.cons.inj h).1, (List.cons.inj h).2.symm⟩
  | cons c l₁ => simp at h

def Note.accepts : Note → Bool
  | .received (.accepted _) => true
  | _ => false

def Note.drops : Note → Bool
  | .received .catchupDropped => true
  | _ => false

theorem Note.Quiet.accepts {n : Note} (h : n.Quiet) : n.accepts = false := by
  cases n <;> first | rfl | cases h

theorem Note.Quiet.drops {n : Note} (h : n.Quiet) : n.drops = false := by
  cases n <;> first | rfl | cases h

/-- What holds after a run that showed the notes. -/
structure Bounded (limits : UplinkLimits) (ns : List Note) (s : State) : Prop where
  debt : 0 ≤ s.port.wssFutureBurstDebtSeconds
  clock : s.port.lastTimestamp ≠ none → s.port.lastReceivedAt ≤ s.clock
  owes : ∀ l₁ q l₂, ns = l₁ ++ .received (.accepted q) :: l₂ → Note.catchupBegun ∉ l₂ →
    s.port.lastTimestamp ≠ none ∧ Owes packetSeconds drainRate (burstLimit limits) q.receivedAt s.port.lastReceivedAt
      s.port.wssFutureBurstDebtSeconds (l₂.countP Note.accepts)
  dropped : ∀ l₁ l₂, ns = l₁ ++ .catchupBegun :: l₂ → Note.catchupBegun ∉ l₂ →
    l₂.countP Note.drops ≤ maxCatchupPackets limits ∧
      (s.port.wssCatchupActive = true → l₂.countP Note.drops ≤ s.port.wssCatchupDroppedPackets)

theorem countP_quiet {m : List Note} {p : Note → Bool} (h : ∀ n ∈ m, p n = false) (l : List Note) :
    (l ++ m).countP p = l.countP p := by
  have hzero : m.countP p = 0 := List.countP_eq_zero.mpr fun n hn => by simp [h n hn]
  rw [List.countP_append, hzero, Nat.add_zero]

theorem Bounded.quiet (hb : Bounded limits ns s) (hclock : s.clock ≤ t.clock) (hsame : SameBudget s.port t.port)
    {ns' : List Note} (hquiet : ∀ n ∈ ns', n.Quiet) : Bounded limits (ns ++ ns') t where
  debt := hsame.debt ▸ hb.debt
  clock := by
    rw [hsame.timestamp, hsame.received]
    exact fun h => (hb.clock h).trans hclock
  owes := by
    intro l₁ q l₂ h hl₂
    rcases append_eq_append_cons h with ⟨l', hl, rfl⟩ | ⟨m', rfl, hm⟩
    · rw [hsame.timestamp, hsame.received, hsame.debt, countP_quiet fun n hn => (hquiet n hn).accepts]
      exact hb.owes l₁ q l' hl fun h => hl₂ (List.mem_append_left _ h)
    · exact absurd (hquiet _ (hm ▸ List.mem_append_right _ List.mem_cons_self)) id
  dropped := by
    intro l₁ l₂ h hl₂
    rcases append_eq_append_cons h with ⟨l', hl, rfl⟩ | ⟨m', rfl, hm⟩
    · rw [hsame.active, hsame.dropped, countP_quiet fun n hn => (hquiet n hn).drops]
      exact hb.dropped l₁ l' hl fun h => hl₂ (List.mem_append_left _ h)
    · exact absurd (hquiet _ (hm ▸ List.mem_append_right _ List.mem_cons_self)) id

theorem Bounded.begun (hb : Bounded limits ns s) (hclock : s.clock ≤ t.clock)
    (hsame : SameBudget s.port.beginWssCatchup t.port) (drop : FreshnessDrop) :
    Bounded limits (ns ++ [.dropped drop, .catchupBegun]) t where
  debt := hsame.debt.ge
  clock := by
    rw [hsame.timestamp, hsame.received]
    exact fun h => (hb.clock h).trans hclock
  owes := by
    intro l₁ q l₂ h hl₂
    rcases append_eq_append_cons h with ⟨l', hl, rfl⟩ | ⟨m', rfl, hm⟩
    · exact absurd (List.mem_append_right _ (by simp)) hl₂
    · have hmem : Note.received (.accepted q) ∈ [Note.dropped drop, .catchupBegun] := by rw [hm]; simp
      simp at hmem
  dropped := by
    intro l₁ l₂ h hl₂
    rcases append_eq_append_cons h with ⟨l', hl, rfl⟩ | ⟨m', rfl, hm⟩
    · exact absurd (List.mem_append_right _ (by simp)) hl₂
    · have hlast : l₂ = [] := by
        rcases m' with _ | ⟨a, _ | ⟨b, m'⟩⟩
        · simp at hm
        · exact (List.cons.inj (List.cons.inj hm).2).2.symm
        · simp at hm
      rw [hlast]
      exact ⟨Nat.zero_le _, fun _ => Nat.zero_le _⟩

/-- What was owed before a packet is owed after it, with the packet's own cost when it is taken. -/
theorem owes_received {receivedAt since : Time} {outcome : Received} {n : Nat}
    (hc : Charges limits s.port t.port receivedAt outcome) (hlast : s.port.lastTimestamp ≠ none)
    (hle : s.port.lastReceivedAt ≤ receivedAt)
    (h : Owes packetSeconds drainRate (burstLimit limits) since s.port.lastReceivedAt
      s.port.wssFutureBurstDebtSeconds n) :
    t.port.lastTimestamp ≠ none ∧ Owes packetSeconds drainRate (burstLimit limits) since t.port.lastReceivedAt
      t.port.wssFutureBurstDebtSeconds (n + [Note.received outcome].countP Note.accepts) := by
  have hdrops (hd : Drops s.port t.port receivedAt) : t.port.lastTimestamp ≠ none ∧
      Owes packetSeconds drainRate (burstLimit limits) since t.port.lastReceivedAt
        t.port.wssFutureBurstDebtSeconds n := by
    refine ⟨hd.timestamp, ?_⟩
    rw [hd.received, hd.debt]
    exact h.wait drainRate_pos.le hle
  cases outcome with
  | closed => exact ⟨hc.timestamp ▸ hlast, by rw [hc.received, hc.debt]; exact h⟩
  | invalidTimestamp =>
    obtain ⟨hts, hrec, -, hdebt⟩ := hc
    refine ⟨hts ▸ hlast, ?_⟩
    rw [hrec]
    rcases hdebt with hdebt | hover
    · rw [hdebt]
      exact h
    · exact h.refuse hover
  | catchupDropped => exact hdrops hc.2.1
  | catchupExhausted => exact hdrops hc.2
  | accepted queued =>
    obtain ⟨-, hts, hrec, -, hfirst | ⟨-, hdebt, hwithin⟩⟩ := hc
    · exact absurd hfirst.1 hlast
    · refine ⟨hts, ?_⟩
      have harrival : s.port.arrivalDelta receivedAt = receivedAt - s.port.lastReceivedAt :=
        max_eq_right (sub_nonneg.mpr hle)
      rw [harrival] at hdebt
      rw [hrec, hdebt]
      rw [hdebt] at hwithin
      exact h.take hwithin

theorem Bounded.received (hb : Bounded limits ns s) {receivedAt : Time} {outcome : Received}
    (hfrom : s.clock ≤ receivedAt) (hto : receivedAt ≤ t.clock) (hc : Charges limits s.port t.port receivedAt outcome) :
    Bounded limits (ns ++ [.received outcome]) t where
  debt := by
    cases outcome with
    | closed => exact hc.debt ▸ hb.debt
    | invalidTimestamp =>
      obtain ⟨-, -, -, hdebt | hover⟩ := hc
      · exact hdebt ▸ hb.debt
      · exact burstLimit_pos.le.trans hover.le
    | catchupDropped => exact hc.2.1.debt ▸ hb.debt
    | catchupExhausted => exact hc.2.debt ▸ hb.debt
    | accepted queued =>
      obtain ⟨-, -, -, -, ⟨-, hdebt⟩ | ⟨-, hdebt, -⟩⟩ := hc
      · exact hdebt ▸ hb.debt
      · rw [hdebt]
        exact le_max_left _ _
  clock := by
    have hsame (hts : t.port.lastTimestamp = s.port.lastTimestamp)
        (hrec : t.port.lastReceivedAt = s.port.lastReceivedAt) :
        t.port.lastTimestamp ≠ none → t.port.lastReceivedAt ≤ t.clock := by
      rw [hts, hrec]
      exact fun h => (hb.clock h).trans (hfrom.trans hto)
    cases outcome with
    | closed => exact hsame hc.timestamp hc.received
    | invalidTimestamp => exact hsame hc.1 hc.2.1
    | catchupDropped => exact fun _ => hc.2.1.received.trans_le hto
    | catchupExhausted => exact fun _ => hc.2.received.trans_le hto
    | accepted queued => exact fun _ => hc.2.2.1.trans_le hto
  owes := by
    intro l₁ q l₂ h hl₂
    rcases append_eq_append_cons h with ⟨l', hl, rfl⟩ | ⟨m', rfl, hm⟩
    · obtain ⟨hlast, howes⟩ := hb.owes l₁ q l' hl fun h => hl₂ (List.mem_append_left _ h)
      rw [List.countP_append]
      exact owes_received hc hlast ((hb.clock hlast).trans hfrom) howes
    · obtain ⟨rfl, hq, rfl⟩ := single_eq_append_cons hm
      obtain rfl := Note.received.inj hq
      obtain ⟨hat, hts, hrec, -, hdebt⟩ := hc
      refine ⟨hts, ?_⟩
      rw [hat, hrec]
      apply Owes.start _ burstLimit_pos.le
      rcases hdebt with ⟨-, hdebt⟩ | ⟨-, hdebt, -⟩
      · exact hdebt ▸ hb.debt
      · rw [hdebt]
        exact le_max_left _ _
  dropped := by
    intro l₁ l₂ h hl₂
    rcases append_eq_append_cons h with ⟨l', hl, rfl⟩ | ⟨m', rfl, hm⟩
    · obtain ⟨hmax, hactive⟩ := hb.dropped l₁ l' hl fun h => hl₂ (List.mem_append_left _ h)
      have hsettles (hs : Settles s.port t.port) : l'.countP Note.drops ≤ maxCatchupPackets limits ∧
          (t.port.wssCatchupActive = true → l'.countP Note.drops ≤ t.port.wssCatchupDroppedPackets) := by
        refine ⟨hmax, fun ht => ?_⟩
        rw [(hs ht).2]
        exact hactive (hs ht).1
      rw [List.countP_append]
      cases outcome with
      | closed => exact hsettles (Settles.of_same hc)
      | invalidTimestamp => exact hsettles hc.2.2.1
      | catchupDropped =>
        obtain ⟨-, hdrops, hle⟩ := hc
        have hcount := hactive hdrops.active
        have hone : [Note.received .catchupDropped].countP Note.drops = 1 := rfl
        have hdropped := hdrops.dropped
        rw [hone]
        exact ⟨by omega, fun _ => by omega⟩
      | catchupExhausted =>
        obtain ⟨-, hdrops⟩ := hc
        have hdropped := hdrops.dropped
        exact ⟨hmax, fun _ => (hactive hdrops.active).trans (by omega)⟩
      | accepted queued => exact hsettles hc.2.2.2.1
    · obtain ⟨-, hq, -⟩ := single_eq_append_cons hm
      cases hq

theorem Bounded.step (hb : Bounded limits ns s) (hclock : s.clock ≤ t.clock) {ns' : List Note}
    (h : Budgeted limits s.port t.port s.clock t.clock ns') : Bounded limits (ns ++ ns') t := by
  cases h with
  | quiet hsame hquiet => exact hb.quiet hclock hsame hquiet
  | received hfrom hto hc => exact hb.received hfrom hto hc
  | begun hsame => exact hb.begun hclock hsame _

/-- Of any two accepted packets between which no catch-up begins, the later one and
those between them take no more than has drained and the limit. -/
def Paced (limits : UplinkLimits) (ns : List Note) : Prop :=
  ∀ l₁ p l₂ q l₃, ns = l₁ ++ .received (.accepted p) :: l₂ ++ .received (.accepted q) :: l₃ →
    Note.catchupBegun ∉ l₂ →
    ((l₂.countP Note.accepts + 1 : Nat) : Time) * packetSeconds ≤
      drainRate * (q.receivedAt - p.receivedAt) + burstLimit limits

theorem Paced.step (hp : Paced limits ns) (hb : Bounded limits ns s) (hclock : s.clock ≤ t.clock) {ns' : List Note}
    (h : Budgeted limits s.port t.port s.clock t.clock ns') : Paced limits (ns ++ ns') := by
  intro l₁ p l₂ q l₃ hns hl₂
  rcases append_eq_append_cons hns with ⟨l', hl, rfl⟩ | ⟨m', hpair, hm⟩
  · exact hp l₁ p l₂ q l' hl hl₂
  have hafter := hb.step hclock h
  cases h with
  | quiet hsame hquiet => exact absurd (hquiet _ (hm ▸ List.mem_append_right _ List.mem_cons_self)) id
  | begun hsame =>
    have hmem := List.mem_append_right m' (List.mem_cons_self (a := Note.received (.accepted q)) (l := l₃))
    rw [← hm] at hmem
    simp at hmem
  | received hfrom hto hc =>
    obtain ⟨rfl, hq, -⟩ := single_eq_append_cons hm
    obtain rfl := Note.received.inj hq
    rw [List.append_nil] at hpair
    subst hpair
    obtain ⟨-, howes⟩ := hafter.owes l₁ p (l₂ ++ [.received (.accepted q)]) (by simp) (by simpa using hl₂)
    obtain ⟨hat, -, hrec, -⟩ := hc
    rw [List.countP_append, hrec, ← hat] at howes
    exact howes.bound

theorem bounded_run {start : Time} {es : List (Event × List Note)}
    (h : Run (Step limits .wssOpus) { clock := start } es s) :
    Bounded limits (notes es) s ∧ Paced limits (notes es) := by
  apply h.invariant (R := fun es s => Bounded limits (notes es) s ∧ Paced limits (notes es))
  · refine ⟨⟨le_rfl, fun h => absurd rfl h, ?_, ?_⟩, ?_⟩
    · intro l₁ q l₂ h
      simp [notes] at h
    · intro l₁ l₂ h
      simp [notes] at h
    · intro l₁ p l₂ q l₃ h
      simp [notes] at h
  · rintro es s e t - ⟨hb, hp⟩ he
    rw [notes_snoc]
    exact ⟨hb.step he.clock_le (step_budgeted he), hp.step hb he.clock_le (step_budgeted he)⟩

/-- In every run on WSS: of any two accepted packets without a catch-up begun between them, and
since a catch-up began. -/
theorem burst_budget (limits : UplinkLimits) (start : Time) (es : List (Event × List Note)) (s : State)
    (h : Run (Step limits .wssOpus) { clock := start } es s) :
    (∀ l₁ p l₂ q l₃, notes es = l₁ ++ .received (.accepted p) :: l₂ ++ .received (.accepted q) :: l₃ →
      Note.catchupBegun ∉ l₂ →
      ((l₂.countP Note.accepts + 1 : Nat) : Time) * (6 / 100) ≤
        (1 + timelineMaxWssClockSkewRatio) * (q.receivedAt - p.receivedAt) + limits.uplinkMaxAgeSeconds + slack) ∧
      ∀ l₁ l₂, notes es = l₁ ++ .catchupBegun :: l₂ → Note.catchupBegun ∉ l₂ →
        l₂.countP Note.drops ≤ maxCatchupPackets limits := by
  obtain ⟨hb, hp⟩ := bounded_run h
  refine ⟨fun l₁ p l₂ q l₃ hns hl₂ => ?_, fun l₁ l₂ hns hl₂ => (hb.dropped l₁ l₂ hns hl₂).1⟩
  have hpaced := hp l₁ p l₂ q l₃ hns hl₂
  have hseconds : packetSeconds = 6 / 100 := by decide +kernel
  rwa [hseconds, drainRate, burstLimit, ← add_assoc] at hpaced

def samplePacket (sequence : Nat) : InboundAudioPacket :=
  { sequence := sequence, timestamp := 960 * sequence, payload := [1] }

/-- Two packets at once, one second after the start. -/
def sampleBurst : List Event := [.receive (samplePacket 0) 1 1, .receive (samplePacket 1) 1 1]

theorem burst_budget_sample : ∃ es s p q, Run (Step .standard .wssOpus) { clock := 0 } es s ∧
    notes es = [.received (.accepted p), .received (.accepted q)] ∧
      (1 : Time) * (6 / 100) ≤
        (1 + timelineMaxWssClockSkewRatio) * (q.receivedAt - p.receivedAt) + 6 / 10 + slack := by
  have hr : Run (Step .standard .wssOpus) { clock := 0 }
      (history (call .standard .wssOpus) { clock := 0 } sampleBurst) _ :=
    run_clocked .standard .wssOpus (by decide +kernel)
  have hnotes : notes (history (call .standard .wssOpus) { clock := 0 } sampleBurst) =
      [.received (.accepted { packet := samplePacket 0, receivedAt := 1, expectedAt := 1, deadlineAt := 8 / 5 }),
        .received (.accepted
          { packet := samplePacket 1, receivedAt := 1, expectedAt := 53 / 50, deadlineAt := 8 / 5 })] := by
    decide +kernel
  refine ⟨_, _, _, _, hr, hnotes, ?_⟩
  have hb := (burst_budget .standard 0 _ _ hr).1 [] _ [] _ [] (by rw [hnotes]; rfl) (by simp)
  simpa [UplinkLimits.standard] using hb

end Uplink

end RealtimeVoice.Rva
