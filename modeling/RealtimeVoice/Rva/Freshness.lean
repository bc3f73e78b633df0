import RealtimeVoice.Rva.InputLoop

namespace RealtimeVoice.Rva

open RealtimeVoice.Base RealtimeVoice.Base.Runs RealtimeVoice.Contracts

/-- What a packet keeps when its deadline is written anew. -/
def QueuedAudio.arrival (q : QueuedAudio) : InboundAudioPacket × Time := (q.packet, q.receivedAt)

namespace AudioQueuePort

variable {limits : UplinkLimits} {s t : AudioQueuePort} {current q : QueuedAudio} {now : Time}

theorem packets_append (s : AudioQueuePort) (items : List (Option QueuedAudio)) :
    ({ s with queue := s.queue ++ items } : AudioQueuePort).packets = s.packets ++ items.reduceOption := by
  rw [packets, packets, List.reduceOption_append]

theorem queue_split (h : s.closedSentinel = true) : s.queue = s.pending.map some ++ none :: s.behind := by
  rw [pending, behind]
  rw [closedSentinel] at h
  generalize s.queue = queue at h
  induction queue with
  | nil => simp at h
  | cons item queue ih =>
    cases item with
    | none => simp [List.reduceOption]
    | some q => simpa [List.reduceOption] using ih (by simpa using h)

theorem queue_open (h : s.closedSentinel = false) : s.queue = s.pending.map some := by
  rw [pending]
  rw [closedSentinel] at h
  generalize s.queue = queue at h
  induction queue with
  | nil => rfl
  | cons item queue ih =>
    cases item with
    | none => simp at h
    | some q => simpa [List.reduceOption] using ih (by simpa using h)

/-- The packets that a drop can keep from those ahead of the sentinel. -/
def newestFresh (s : AudioQueuePort) (current : QueuedAudio) (now : Time) : Option QueuedAudio :=
  ((current :: s.pending).filter fun q => now < q.deadlineAt).getLast?

theorem drop_closed (h : s.closedSentinel = true) :
    (s.dropStaleToLiveEdge limits current now).1.queue = s.behind ++ [none] ∧
      (s.dropStaleToLiveEdge limits current now).2.droppedPackets = s.pending.length + 1 := by
  simp [dropStaleToLiveEdge, h]

theorem drop_open (h : s.closedSentinel = false) :
    (s.dropStaleToLiveEdge limits current now).1.queue =
        ((s.newestFresh current now).map (survivor limits)).toList.map some ∧
      (s.dropStaleToLiveEdge limits current now).2.droppedPackets =
        s.pending.length + 1 - (s.newestFresh current now).toList.length := by
  rw [newestFresh]
  simp only [dropStaleToLiveEdge, h, Bool.false_eq_true, if_false, List.length_cons]
  cases hfresh : (List.filter (fun q => decide (now < q.deadlineAt)) (current :: s.pending)).getLast? <;>
    simp

theorem reduceOption_some {α : Type} (l : List α) : (l.map some).reduceOption = l := by
  simp [List.reduceOption, List.filterMap_map]

theorem packets_closed (h : s.closedSentinel = true) : s.packets = s.pending ++ s.behind.reduceOption := by
  rw [packets, queue_split h, List.reduceOption_append, List.reduceOption_cons_of_none, reduceOption_some]

theorem packets_open (h : s.closedSentinel = false) : s.packets = s.pending := by
  rw [packets, queue_open h, reduceOption_some]

theorem drop_packets_closed (h : s.closedSentinel = true) :
    (s.dropStaleToLiveEdge limits current now).1.packets = s.behind.reduceOption := by
  rw [packets, (drop_closed h).1, List.reduceOption_append]
  simp [List.reduceOption]

theorem drop_packets_open (h : s.closedSentinel = false) :
    (s.dropStaleToLiveEdge limits current now).1.packets =
      ((s.newestFresh current now).map (survivor limits)).toList := by
  rw [packets, (drop_open h).1, reduceOption_some]

/-- A caller whose packet has waited too long does not get it back. -/
theorem drop_sublist_stale (hstale : current.deadlineAt ≤ now) :
    ((s.dropStaleToLiveEdge limits current now).1.packets.map QueuedAudio.arrival).Sublist
      (s.packets.map QueuedAudio.arrival) := by
  cases h : s.closedSentinel with
  | true =>
    rw [drop_packets_closed h, packets_closed h]
    exact (List.sublist_append_right _ _).map _
  | false =>
    rw [drop_packets_open h, packets_open h]
    cases hnewest : s.newestFresh current now with
    | none => simp
    | some q =>
      rw [newestFresh, List.filter_cons_of_neg (by simpa using hstale)] at hnewest
      have hmem := List.mem_of_getLast? hnewest
      have hsub : [q].Sublist s.pending := (List.singleton_sublist.mpr hmem).trans List.filter_sublist
      exact hsub.map QueuedAudio.arrival

/-- No deadline is later than the age that the packet may reach. -/
def Timely (limits : UplinkLimits) (q : QueuedAudio) : Prop := q.deadlineAt ≤ q.receivedAt + limits.uplinkMaxAgeSeconds

theorem drop_timely (h : ∀ q ∈ s.packets, Timely limits q) :
    ∀ q ∈ (s.dropStaleToLiveEdge limits current now).1.packets, Timely limits q := by
  intro q hq
  cases hclosed : s.closedSentinel with
  | true =>
    rw [drop_packets_closed hclosed] at hq
    exact h q (by rw [packets_closed hclosed]; exact List.mem_append_right _ hq)
  | false =>
    rw [drop_packets_open hclosed] at hq
    obtain ⟨p, -, rfl⟩ := Option.map_eq_some_iff.mp (Option.mem_toList.mp hq)
    exact le_rfl

/-- A drop reports what it took away, its caller's packet included. -/
theorem drop_reports : (s.dropStaleToLiveEdge limits current now).2.droppedPackets +
    (s.dropStaleToLiveEdge limits current now).1.packets.length = s.packets.length + 1 := by
  cases h : s.closedSentinel with
  | true =>
    rw [drop_packets_closed h, (drop_closed h).2, packets_closed h, List.length_append]
    omega
  | false =>
    rw [drop_packets_open h, (drop_open h).2, packets_open h]
    cases s.newestFresh current now with
    | none => rfl
    | some q => rfl

theorem drop_sentinels : (s.dropStaleToLiveEdge limits current now).1.queue.count none = s.queue.count none := by
  cases h : s.closedSentinel with
  | true =>
    have hpending : (s.pending.map some).count none = 0 := List.count_eq_zero.mpr (by simp)
    rw [(drop_closed h).1, queue_split h, List.count_append, List.count_append, List.count_cons_self, hpending]
    simp
  | false =>
    rw [(drop_open h).1, queue_open h, List.count_eq_zero.mpr (by simp), List.count_eq_zero.mpr (by simp)]

theorem schedule_timely {packet : InboundAudioPacket} {receivedAt : Time} {t : AudioQueuePort}
    (h : s.schedule limits packet receivedAt = (t, q)) : Timely limits q := by
  obtain ⟨-, rfl⟩ := Prod.mk.inj h
  exact add_le_add_left (min_le_left _ _) _

theorem markConsumed_queue (s : AudioQueuePort) (q : QueuedAudio) : (s.markConsumed q).queue = s.queue := by
  rw [markConsumed]
  cases s.consumerTimelineTimestamp with
  | none => rfl
  | some origin =>
    dsimp only
    split_ifs <;> rfl

theorem close_packets (s : AudioQueuePort) : s.close = s ∨ s.close.packets = [] := by
  rw [close]
  split_ifs
  · exact .inl rfl
  · exact .inr rfl

end AudioQueuePort

namespace Uplink

open AudioQueuePort

variable {limits : UplinkLimits} {profile : TransportProfile} {s t : State} {e : Event × List Note} {ns : List Note}

def Note.accepted? : Note → Option (InboundAudioPacket × Time)
  | .received (.accepted q) => some q.arrival
  | _ => none

def Note.decoded? : Note → Option (InboundAudioPacket × Time)
  | .decoding q => some q.arrival
  | _ => none

/-- The accepted packets, in the order of their arrival. -/
def acceptedIn (ns : List Note) : List (InboundAudioPacket × Time) := ns.filterMap Note.accepted?

/-- The packets that went to the decoder, in this order. -/
def decodedIn (ns : List Note) : List (InboundAudioPacket × Time) := ns.filterMap Note.decoded?

theorem acceptedIn_append (ns ms : List Note) : acceptedIn (ns ++ ms) = acceptedIn ns ++ acceptedIn ms :=
  List.filterMap_append

theorem decodedIn_append (ns ms : List Note) : decodedIn (ns ++ ms) = decodedIn ns ++ decodedIn ms :=
  List.filterMap_append

/-- The packets that may still go to the decoder. -/
def State.waiting (s : State) : List QueuedAudio :=
  s.port.packets ++ (match s.receiver with | .putting q => [q] | .idle | .put => [])

/-- The packet whose frames are being made or pushed. -/
def State.current? (s : State) : Option QueuedAudio :=
  match s.loop with
  | .decoding q | .pushing q _ => some q
  | .waiting | .ended => none

/-- What holds after a run that showed the notes. -/
structure Fresh (limits : UplinkLimits) (ns : List Note) (s : State) : Prop where
  decoded : (decodedIn ns).Sublist (acceptedIn ns)
  ordered : s.loop ≠ .ended → (decodedIn ns ++ s.waiting.map QueuedAudio.arrival).Sublist (acceptedIn ns)
  timely : ∀ q, q ∈ s.waiting ∨ s.current? = some q → Timely limits q
  current : ∀ q, s.current? = some q → q.arrival ∈ decodedIn ns
  handed : ∀ q now, Note.handed q now ∈ ns → now < q.deadlineAt ∧ Timely limits q ∧ q.arrival ∈ decodedIn ns

/-- A step that lets packets go, shows no frame and decodes nothing. -/
theorem Fresh.lose (h : Fresh limits ns s) {ms : List Note} (hms : ∀ n ∈ ms, n.accepted? = none ∧ n.decoded? = none ∧
      ∀ q now, n ≠ .handed q now)
    (hloop : t.loop ≠ .ended → s.loop ≠ .ended ∧ (t.waiting.map QueuedAudio.arrival).Sublist (s.waiting.map QueuedAudio.arrival))
    (htimely : ∀ q ∈ t.waiting, Timely limits q) (hcurrent : ∀ q, t.current? = some q → s.current? = some q) :
    Fresh limits (ns ++ ms) t := by
  have haccepted : acceptedIn ms = [] := List.filterMap_eq_nil_iff.mpr fun n hn => (hms n hn).1
  have hdecoded : decodedIn ms = [] := List.filterMap_eq_nil_iff.mpr fun n hn => (hms n hn).2.1
  constructor
  · rw [acceptedIn_append, decodedIn_append, haccepted, hdecoded, List.append_nil, List.append_nil]
    exact h.decoded
  · intro ht
    obtain ⟨hs, hsub⟩ := hloop ht
    rw [acceptedIn_append, decodedIn_append, haccepted, hdecoded, List.append_nil, List.append_nil]
    exact ((List.Sublist.refl _).append hsub).trans (h.ordered hs)
  · rintro q (hq | hq)
    · exact htimely q hq
    · exact h.timely q (.inr (hcurrent q hq))
  · intro q hq
    rw [decodedIn_append, hdecoded, List.append_nil]
    exact h.current q (hcurrent q hq)
  · intro q now hq
    rw [decodedIn_append, hdecoded, List.append_nil]
    rcases List.mem_append.mp hq with hq | hq
    · exact h.handed q now hq
    · exact absurd rfl ((hms _ hq).2.2 q now)

/-- The queue and the receiver are all that `waiting` depends on. -/
theorem waiting_congr (hqueue : t.port.queue = s.port.queue) (hreceiver : t.receiver = s.receiver) :
    t.waiting = s.waiting := by
  rw [State.waiting, State.waiting, hreceiver, packets, packets, hqueue]

theorem mem_waiting_of_packets {q : QueuedAudio} (h : q ∈ s.port.packets) : q ∈ s.waiting := List.mem_append_left _ h

/-- A step that changes none of what the invariant is about. -/
theorem Fresh.keep (h : Fresh limits ns s) (hwaiting : t.waiting = s.waiting)
    (hcurrent : ∀ q, t.current? = some q → s.current? = some q) (hloop : t.loop ≠ .ended → s.loop ≠ .ended)
    {ms : List Note} (hms : ∀ n ∈ ms, n.accepted? = none ∧ n.decoded? = none ∧ ∀ q now, n ≠ .handed q now) :
    Fresh limits (ns ++ ms) t := by
  apply h.lose hms _ _ hcurrent
  · intro ht
    rw [hwaiting]
    exact ⟨hloop ht, List.Sublist.refl _⟩
  · intro q hq
    rw [hwaiting] at hq
    exact h.timely q (.inl hq)

theorem dropped_silent (drop : FreshnessDrop) :
    ∀ n ∈ [Note.dropped drop], n.accepted? = none ∧ n.decoded? = none ∧ ∀ q now, n ≠ .handed q now := by
  simp [Note.accepted?, Note.decoded?]

theorem Fresh.drop_waiting (h : Fresh limits ns s) {current : QueuedAudio} {now : Time}
    (hport : t.port.packets = (s.port.dropStaleToLiveEdge limits current now).1.packets)
    (hreceiver : t.receiver = s.receiver) : ∀ q ∈ t.waiting, Timely limits q := by
  intro q hq
  rw [State.waiting, hport, hreceiver] at hq
  rcases List.mem_append.mp hq with hq | hq
  · exact drop_timely (fun p hp => h.timely p (.inl (mem_waiting_of_packets hp))) q hq
  · exact h.timely q (.inl (List.mem_append_right _ hq))

theorem Fresh.stale (h : Fresh limits ns s) (queued : QueuedAudio) (now : Time) :
    Fresh limits (ns ++ (stale limits s queued now).2) (stale limits s queued now).1 :=
  h.lose (dropped_silent _) (fun ht => absurd rfl ht) (h.drop_waiting rfl rfl) (fun q hq => by cases hq)

theorem Fresh.nextFrame (h : Fresh limits ns s) {queued : QueuedAudio} (hcurrent : s.current? = some queued)
    (left : Nat) (now later : Time) :
    Fresh limits (ns ++ (nextFrame limits s queued left now later).2) (nextFrame limits s queued left now later).1 := by
  have hlive : s.loop ≠ .ended := by
    intro hended
    simp [State.current?, hended] at hcurrent
  cases left with
  | zero =>
    rw [Uplink.nextFrame]
    apply h.keep
    · apply waiting_congr
      · exact markConsumed_queue _ _
      · rfl
    · intro q hq
      cases hq
    · exact fun _ => hlive
    · simp [Note.accepted?, Note.decoded?]
  | succ left =>
    rw [Uplink.nextFrame]
    split_ifs with hlate
    · exact h.stale queued later
    -- the frame is handed over before the deadline
    have hdecoded : decodedIn (ns ++ [Note.handed queued now]) = decodedIn ns := by
      rw [decodedIn_append]
      exact List.append_nil _
    have haccepted : acceptedIn (ns ++ [Note.handed queued now]) = acceptedIn ns := by
      rw [acceptedIn_append]
      exact List.append_nil _
    constructor
    · rw [hdecoded, haccepted]
      exact h.decoded
    · intro _
      rw [hdecoded, haccepted]
      exact h.ordered hlive
    · rintro q (hq | hq)
      · exact h.timely q (.inl hq)
      · obtain rfl := Option.some.inj hq
        exact h.timely queued (.inr hcurrent)
    · intro q hq
      obtain rfl := Option.some.inj hq
      rw [hdecoded]
      exact h.current queued hcurrent
    · intro q now' hq
      rw [hdecoded]
      rcases List.mem_append.mp hq with hq | hq
      · exact h.handed q now' hq
      · obtain ⟨rfl, rfl⟩ : q = queued ∧ now' = now := by simpa using hq
        exact ⟨by linarith [not_le.mp hlate], h.timely q (.inr hcurrent), h.current q hcurrent⟩

theorem Fresh.receive (h : Fresh limits ns s) (hidle : s.receiver = .idle) (packet : InboundAudioPacket)
    (receivedAt claimAt : Time) :
    Fresh limits (ns ++ (receive limits profile s packet receivedAt claimAt).2)
      (receive limits profile s packet receivedAt claimAt).1 := by
  obtain ⟨⟨hqueue, -, -⟩, haccepted⟩ :=
    receiveAudio_cases limits s.port s.recovery (decide (profile = .wssOpus)) packet receivedAt claimAt
  simp only [Uplink.receive]
  generalize s.port.receiveAudio limits s.recovery (decide (profile = .wssOpus)) packet receivedAt claimAt = result
    at hqueue haccepted
  obtain ⟨port, recovery, outcome⟩ := result
  dsimp only at hqueue haccepted ⊢
  cases outcome with
  | closed | invalidTimestamp | catchupDropped | catchupExhausted =>
    apply h.keep
    · exact waiting_congr (s := s) (t := { s with port := port, recovery := recovery }) hqueue rfl
    · exact fun q hq => hq
    · exact id
    · simp [Note.accepted?, Note.decoded?]
  | accepted queued =>
    obtain ⟨u, -, hschedule⟩ := haccepted queued rfl
    have hwaiting : s.waiting = s.port.packets := by
      rw [State.waiting, hidle]
      exact List.append_nil _
    have hdecodes : decodedIn (ns ++ [Note.received (.accepted queued)]) = decodedIn ns := by
      rw [decodedIn_append]
      exact List.append_nil _
    have haccepts : acceptedIn (ns ++ [Note.received (.accepted queued)]) = acceptedIn ns ++ [queued.arrival] := by
      rw [acceptedIn_append]
      rfl
    have hpackets : port.packets = s.port.packets := by rw [packets, packets, hqueue]
    -- either way the packet is the last of those that wait
    have hlast (t : State) (ht : t.waiting = s.waiting ++ [queued]) (hloop : t.loop = s.loop) :
        Fresh limits (ns ++ [Note.received (.accepted queued)]) t := by
      have hcurrent : t.current? = s.current? := by rw [State.current?, State.current?, hloop]
      constructor
      · rw [hdecodes, haccepts]
        exact h.decoded.trans (List.sublist_append_left _ _)
      · rw [hdecodes, haccepts, ht, hloop, List.map_append, ← List.append_assoc]
        exact fun hlive => (h.ordered hlive).append (List.Sublist.refl _)
      · rintro q (hq | hq)
        · rw [ht] at hq
          rcases List.mem_append.mp hq with hq | hq
          · exact h.timely q (.inl hq)
          · obtain rfl := List.mem_singleton.mp hq
            exact schedule_timely hschedule
        · exact h.timely q (.inr (hcurrent ▸ hq))
      · intro q hq
        rw [hdecodes]
        exact h.current q (hcurrent ▸ hq)
      · intro q now hq
        rw [hdecodes]
        rcases List.mem_append.mp hq with hq | hq
        · exact h.handed q now hq
        · simp at hq
    dsimp only
    split_ifs
    · apply hlast
      · rw [hwaiting, ← hpackets]
        rfl
      · rfl
    · apply hlast
      · rw [hwaiting, ← hpackets, State.waiting, hidle]
        exact (List.append_nil _).trans (packets_append _ _)
      · rfl

/-- A packet that waited too long leaves the queue; what else the drop takes away leaves it too. -/
theorem Fresh.recoverStale (h : Fresh limits ns s) (hlive : s.loop ≠ .ended) (hcurrent : s.current? = none)
    {queued : QueuedAudio} {now : Time} (hlate : queued.deadlineAt ≤ now) (claimAt : Time) :
    Fresh limits (ns ++ (recoverStale limits profile s queued now claimAt).2)
      (recoverStale limits profile s queued now claimAt).1 := by
  have hlost (t : State) {ms : List Note}
      (hms : ∀ n ∈ ms, n.accepted? = none ∧ n.decoded? = none ∧ ∀ q now, n ≠ .handed q now)
      (hport : t.port.packets = (s.port.dropStaleToLiveEdge limits queued now).1.packets)
      (hreceiver : t.receiver = s.receiver) (hloop : t.current? = none) : Fresh limits (ns ++ ms) t := by
    apply h.lose hms
    · refine fun _ => ⟨hlive, ?_⟩
      rw [State.waiting, State.waiting, hport, hreceiver, List.map_append, List.map_append]
      exact (drop_sublist_stale hlate).append (List.Sublist.refl _)
    · exact h.drop_waiting hport hreceiver
    · intro q hq
      rw [hloop] at hq
      cases hq
  simp only [Uplink.recoverStale]
  split_ifs
  · exact hlost _ (dropped_silent _) rfl rfl rfl
  · exact hlost _ (dropped_silent _) rfl rfl rfl
  · exact hlost _ (by simp [Note.accepted?, Note.decoded?]) rfl rfl hcurrent
  · exact hlost _ (dropped_silent _) rfl rfl hcurrent

theorem Fresh.get (h : Fresh limits ns s) (hwaits : s.loop = .waiting) {now later : Time} (hle : now ≤ later)
    (claimAt : Time) :
    Fresh limits (ns ++ (get limits profile s now later claimAt).2) (get limits profile s now later claimAt).1 := by
  have hlive : s.loop ≠ .ended := by rw [hwaits]; simp
  have hcurrent : s.current? = none := by rw [State.current?, hwaits]
  have hordered := h.ordered hlive
  simp only [Uplink.get]
  split
  · exact h.keep rfl (fun q hq => hq) id (by simp)
  · rename_i queue hqueue
    have hpackets : queue.reduceOption = s.port.packets := by rw [packets, hqueue]; rfl
    apply h.lose (by simp)
    · exact fun ht => absurd rfl ht
    · intro q hq
      rw [State.waiting, packets, hpackets] at hq
      exact h.timely q (.inl hq)
    · intro q hq
      cases hq
  · rename_i queued queue hqueue
    have hpackets : s.port.packets = queued :: queue.reduceOption := by rw [packets, hqueue]; rfl
    have hwaiting : s.waiting = queued :: ({ s with port := { s.port with queue := queue } } : State).waiting := by
      rw [State.waiting, hpackets]
      rfl
    have htimely : Timely limits queued := h.timely queued (.inl (by rw [hwaiting]; exact List.mem_cons_self))
    have hrest : Fresh limits ns { s with port := { s.port with queue := queue } } := by
      have hquiet : ∀ n ∈ ([] : List Note), n.accepted? = none ∧ n.decoded? = none ∧ ∀ q now, n ≠ .handed q now := by
        simp
      have hlost := h.lose (t := { s with port := { s.port with queue := queue } }) hquiet
        (fun _ => ⟨hlive, by rw [hwaiting]; exact (List.sublist_cons_self _ _).map _⟩)
        (fun q hq => h.timely q (.inl (by rw [hwaiting]; exact List.mem_cons_of_mem _ hq))) (fun q hq => hq)
      rwa [List.append_nil] at hlost
    split_ifs with hlate
    · exact hrest.recoverStale hlive hcurrent (by linarith) claimAt
    -- the packet goes to the decoder, after all that went there before
    rw [hwaiting, List.map_cons] at hordered
    have hdecodes : decodedIn (ns ++ [Note.decoding queued]) = decodedIn ns ++ [queued.arrival] := by
      rw [decodedIn_append]
      rfl
    have haccepts : acceptedIn (ns ++ [Note.decoding queued]) = acceptedIn ns := by
      rw [acceptedIn_append]
      exact List.append_nil _
    constructor
    · rw [hdecodes, haccepts]
      refine List.Sublist.trans ?_ hordered
      exact (List.Sublist.refl _).append (List.singleton_sublist.mpr List.mem_cons_self)
    · intro _
      rw [hdecodes, haccepts, List.append_assoc]
      exact hordered
    · rintro q (hq | hq)
      · exact h.timely q (.inl (by rw [hwaiting]; exact List.mem_cons_of_mem _ hq))
      · obtain rfl := Option.some.inj hq
        exact htimely
    · intro q hq
      obtain rfl := Option.some.inj hq
      rw [hdecodes]
      exact List.mem_append_right _ List.mem_cons_self
    · intro q now' hq
      rw [hdecodes]
      rcases List.mem_append.mp hq with hq | hq
      · obtain ⟨hbefore, hage, hmem⟩ := h.handed q now' hq
        exact ⟨hbefore, hage, List.mem_append_left _ hmem⟩
      · simp at hq

theorem Fresh.at_ (h : Fresh limits ns s) (clock : Time) : Fresh limits ns { s with clock := clock } :=
  ⟨h.decoded, h.ordered, h.timely, h.current, h.handed⟩

theorem Fresh.idle (h : Fresh limits ns s) : Fresh limits (ns ++ []) s := by rwa [List.append_nil]

theorem Fresh.close (h : Fresh limits ns s) : Fresh limits (ns ++ []) { s with port := s.port.close } := by
  have hsub : ({ s with port := s.port.close } : State).waiting.Sublist s.waiting := by
    rcases close_packets s.port with hsame | hnone
    · rw [hsame]
    · rw [State.waiting, hnone, List.nil_append]
      exact List.sublist_append_right _ _
  apply h.lose (by simp)
  · exact fun hlive => ⟨hlive, hsub.map _⟩
  · exact fun q hq => h.timely q (.inl (hsub.subset hq))
  · exact fun q hq => hq

theorem Fresh.putDone (h : Fresh limits ns s) {queued : QueuedAudio} (hputting : s.receiver = .putting queued) :
    Fresh limits (ns ++ [])
      { s with port := { s.port with queue := s.port.queue ++ [some queued] }, receiver := .put } := by
  apply h.keep
  · rw [State.waiting, State.waiting, hputting, packets_append]
    exact List.append_nil _
  · exact fun q hq => hq
  · exact id
  · simp

/-- The loop is done with its packet. -/
theorem Fresh.leave (h : Fresh limits ns s) (hloop : t.loop = .ended ∨ s.loop ≠ .ended) (hcurrent : t.current? = none)
    (hport : t.port = s.port) (hreceiver : t.receiver = s.receiver) : Fresh limits (ns ++ []) t := by
  apply h.keep
  · exact waiting_congr (congrArg AudioQueuePort.queue hport) hreceiver
  · intro q hq
    rw [hcurrent] at hq
    cases hq
  · exact fun hlive => hloop.resolve_left hlive
  · simp

/-- The receiver gives up the packet of its put, if it still has it. -/
theorem Fresh.returned (h : Fresh limits ns s) {ms : List Note}
    (hms : ∀ n ∈ ms, n.accepted? = none ∧ n.decoded? = none ∧ ∀ q now, n ≠ .handed q now) :
    Fresh limits (ns ++ ms) (returned s) := by
  have hsub : (Uplink.returned s).waiting.Sublist s.waiting := (List.Sublist.refl _).append (List.nil_sublist _)
  apply h.lose hms
  · exact fun hlive => ⟨hlive, hsub.map _⟩
  · exact fun q hq => h.timely q (.inl (hsub.subset hq))
  · exact fun q hq => hq

theorem Fresh.step (h : Fresh limits ns s) (hs : Step limits profile s e t) : Fresh limits (ns ++ e.2) t := by
  have hclock := hs.1
  rw [hs.eq.1, hs.eq.2]
  apply Fresh.at_
  have hnone : ∀ n ∈ ([] : List Note), n.accepted? = none ∧ n.decoded? = none ∧ ∀ q now, n ≠ .handed q now := by simp
  cases hevent : e.1 with
  | receive packet receivedAt claimAt =>
    rw [Uplink.step]
    split_ifs with hidle
    · exact h.receive hidle packet receivedAt claimAt
    · exact h.idle
  | putDone =>
    simp only [Uplink.step]
    split
    · split_ifs
      · exact h.idle
      · exact h.putDone ‹_›
    · exact h.idle
  | putReturn =>
    simp only [Uplink.step]
    split
    · split_ifs
      · exact h.returned hnone
      · exact h.idle
    · exact h.returned hnone
    · exact h.idle
  | putTimeout =>
    simp only [Uplink.step]
    split
    · split_ifs
      · exact h.idle
      · exact h.returned (by simp [Note.accepted?, Note.decoded?])
    · exact h.idle
  | get now later claimAt =>
    rw [Uplink.step]
    split_ifs with hwaits
    · rw [Clocked, hevent, Event.times, List.pairwise_cons, List.pairwise_cons] at hclock
      exact h.get hwaits (hclock.2.1 _ List.mem_cons_self) claimAt
    · exact h.idle
  | decoded frames now later =>
    simp only [Uplink.step]
    split
    · rename_i queued hdecoding
      have hreset : Fresh limits ns { s with consecutiveInvalidOpusPackets := 0 } :=
        ⟨h.decoded, h.ordered, h.timely, h.current, h.handed⟩
      exact hreset.nextFrame (by rw [State.current?, hdecoding]) frames now later
    · exact h.idle
  | decodeFailed =>
    simp only [Uplink.step]
    split
    · rename_i queued hdecoding
      split_ifs
      · exact h.leave (.inl rfl) rfl rfl rfl
      · exact h.leave (.inr (by rw [hdecoding]; simp)) rfl rfl rfl
    · exact h.idle
  | pushed now again later =>
    simp only [Uplink.step]
    split
    · rename_i queued left hpushing
      split_ifs
      · exact h.stale queued later
      · exact h.nextFrame (by rw [State.current?, hpushing]) left again later
    · exact h.idle
  | pushTimeout now =>
    simp only [Uplink.step]
    split
    · exact h.stale _ now
    · exact h.idle
  | pushFailed =>
    simp only [Uplink.step]
    split
    · exact h.leave (.inl rfl) rfl rfl rfl
    · exact h.idle
  | close => exact h.close

theorem fresh_run {start : Time} {es : List (Event × List Note)} (h : Run (Step limits profile) { clock := start } es s) :
    Fresh limits (notes es) s := by
  apply h.invariant (R := fun es s => Fresh limits (notes es) s)
  · constructor
    · exact List.Sublist.refl _
    · exact fun _ => List.Sublist.refl _
    · rintro q (hq | hq)
      · simp [State.waiting, packets, List.reduceOption] at hq
      · cases hq
    · intro q hq
      cases hq
    · intro q now hq
      simp [notes] at hq
  · intro es s e t _ hfresh he
    rw [notes_snoc]
    exact hfresh.step he

/-- In every run: the packets go to the decoder in the order of their arrival and each at most
once, a frame reaches the runner before its packet's deadline, and a drop reports what it takes
away. Of the packets ahead of the sentinel it keeps the newest fresh one, or none when there is
a sentinel; the sentinel and what stands behind it stay. -/
theorem uplink_fresh (limits : UplinkLimits) (profile : TransportProfile) (start : Time)
    (es : List (Event × List Note)) (s : State) (h : Run (Step limits profile) { clock := start } es s) :
    (decodedIn (notes es)).Sublist (acceptedIn (notes es)) ∧
      (∀ q now, Note.handed q now ∈ notes es →
        now < q.deadlineAt ∧ q.deadlineAt ≤ q.receivedAt + limits.uplinkMaxAgeSeconds ∧
          q.arrival ∈ acceptedIn (notes es)) ∧
      ∀ current now port drop, s.port.dropStaleToLiveEdge limits current now = (port, drop) →
        drop.droppedPackets + port.packets.length = s.port.packets.length + 1 ∧
          port.queue.count none = s.port.queue.count none ∧
          (s.port.closedSentinel = false →
            port.queue = ((s.port.newestFresh current now).map (survivor limits)).toList.map some) ∧
          (s.port.closedSentinel = true →
            s.port.queue = s.port.pending.map some ++ none :: s.port.behind ∧ port.queue = s.port.behind ++ [none]) := by
  have hfresh := fresh_run h
  refine ⟨hfresh.decoded, fun q now hq => ?_, fun current now port drop hdrop => ?_⟩
  · obtain ⟨hbefore, hage, hmem⟩ := hfresh.handed q now hq
    exact ⟨hbefore, hage, hfresh.decoded.subset hmem⟩
  · obtain ⟨rfl, rfl⟩ := Prod.mk.inj hdrop
    exact ⟨drop_reports, drop_sentinels, fun hopen => (drop_open hopen).1,
      fun hclosed => ⟨queue_split hclosed, (drop_closed hclosed).1⟩⟩

/-- A queue of two packets. -/
def smallLimits : UplinkLimits where
  inputQueuePackets := 2
  inputQueuePackets_pos := Nat.two_pos
  uplinkMaxAgeSeconds_pos := UplinkLimits.standard.uplinkMaxAgeSeconds_pos
  maxConsecutiveInvalidOpusPackets_pos := UplinkLimits.standard.maxConsecutiveInvalidOpusPackets_pos

def latePacket (sequence : Nat) : InboundAudioPacket :=
  { sequence := sequence, timestamp := 960 * sequence, payload := [1] }

/-- While the first packet is decoded the queue fills up, a fourth packet comes late and waits for
room, and the port is closed; the packet is then put behind the sentinel. -/
def lateClose : List Event :=
  [.receive (latePacket 0) 0 0, .get 0 0 0, .receive (latePacket 1) (6 / 100) (6 / 100),
    .receive (latePacket 2) (12 / 100) (12 / 100), .receive (latePacket 3) 1 1, .close, .putDone]

def lateFirst : QueuedAudio := { packet := latePacket 0, receivedAt := 0, expectedAt := 0, deadlineAt := 6 / 10 }

def lateLast : QueuedAudio :=
  { packet := latePacket 3, receivedAt := 1, expectedAt := 18 / 100, deadlineAt := 78 / 100 }

theorem lateClose_state : Along Clocked (call smallLimits .wssOpus) {} lateClose ∧
    (after (call smallLimits .wssOpus) {} lateClose).loop = .decoding lateFirst ∧
      (after (call smallLimits .wssOpus) {} lateClose).port.queue = [none, some lateLast] := by
  decide +kernel

theorem uplink_fresh_late : ∃ es s, Run (Step smallLimits .wssOpus) {} es s ∧
    s.port.queue = [none, some lateLast] ∧
      (decodedIn (notes es)).Sublist (acceptedIn (notes es)) ∧
      (s.port.dropStaleToLiveEdge smallLimits lateFirst 1).1.queue.count none = 1 := by
  have hr := run_clocked smallLimits .wssOpus lateClose_state.1
  obtain ⟨hdecoded, -, hdrop⟩ := uplink_fresh smallLimits .wssOpus 0 _ _ hr
  refine ⟨_, _, hr, lateClose_state.2.2, hdecoded, ?_⟩
  rw [(hdrop lateFirst 1 _ _ Prod.mk.eta.symm).2.1, lateClose_state.2.2]
  decide +kernel

/-- A drop that its caller makes with the packet in hand can leave a packet in the queue that
is not fresh: one behind the sentinel. -/
theorem late_packet_kept : ¬∀ (limits : UplinkLimits) (profile : TransportProfile) (start : Time)
    (es : List (Event × List Note)) (s : State) (current : QueuedAudio) (now : Time),
    Run (Step limits profile) { clock := start } es s → s.loop = .decoding current → s.clock ≤ now →
      ∀ q ∈ (s.port.dropStaleToLiveEdge limits current now).1.packets,
        ∃ p ∈ current :: s.port.packets, q.arrival = p.arrival ∧ now < p.deadlineAt := by
  intro h
  have hr := run_clocked smallLimits .wssOpus lateClose_state.1
  have hkept : lateLast ∈ ((after (call smallLimits .wssOpus) {} lateClose).port.dropStaleToLiveEdge smallLimits
      lateFirst 1).1.packets ∧ (after (call smallLimits .wssOpus) {} lateClose).clock ≤ 1 ∧
      ¬∃ p ∈ lateFirst :: (after (call smallLimits .wssOpus) {} lateClose).port.packets,
        lateLast.arrival = p.arrival ∧ 1 < p.deadlineAt := by
    decide +kernel
  exact hkept.2.2 (h smallLimits .wssOpus 0 _ _ lateFirst 1 hr lateClose_state.2.1 hkept.2.1 lateLast hkept.1)

end Uplink

end RealtimeVoice.Rva
