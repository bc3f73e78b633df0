import RealtimeVoice.Udp.Gateway

namespace RealtimeVoice.Udp.Gateway

open RealtimeVoice.Base RealtimeVoice.Base.Runs RealtimeVoice.Contracts RealtimeVoice.Udp

def Worker.waiting : Worker → List Nat
  | .delivering expected _ => [expected]
  | _ => []

namespace UdpMediaSession

/-- The local cursors of the tasks that wait in `_receive_audio`. -/
def waiting (s : UdpMediaSession) : List Nat := s.worker.waiting ++ s.suspended

/-- The gap timer would wake up over packets that still wait. -/
def gapExpires (s : UdpMediaSession) : Prop :=
  s.reorderTimer = .sleeping ∧ s.closed = false ∧ s.reorder.size ≠ 0

/-- The worker would take a media datagram so far ahead that it moves the cursor. -/
def resyncs (s : UdpMediaSession) (d : Datagram) (r : Reads) : Prop :=
  s.worker = .idle ∧ s.source = some d.addr ∧ ∃ h payload expected, s.admitted d r = some (h, false, payload) ∧
    h.flags ≠ .probe ∧ s.mediaValid h payload = true ∧ s.nextAudioSequence = some expected ∧
    h.sequence ≥ expected + jitterWindowPackets

/-- While a task waits in `_receive_audio`, no other one moves the cursor past it. -/
def Calm (s : UdpMediaSession) (e : Event) : Prop :=
  s.waiting ≠ [] → match e with
    | .fire => ¬s.gapExpires
    | .handle d r => ¬s.resyncs d r
    | _ => True

end UdpMediaSession

def CalmStep (s : UdpMediaSession) (e : Event × Option UdpMediaSession.Delivery) (t : UdpMediaSession) : Prop :=
  s.Calm e.1 ∧ Step s e t

def CursorLe (a b : Option Nat) : Prop := ∀ c, a = some c → ∃ c', b = some c' ∧ c ≤ c'

/-- Along every run packets are handed on in strictly increasing order, none
twice, and the cursor only moves forward. -/
def InOrder (step : UdpMediaSession → Event × Option UdpMediaSession.Delivery → UdpMediaSession → Prop) : Prop :=
  ∀ (g : UdpGrant) es fs m t, Run step { grant := g } es m → Run step m fs t →
    (deliveries (es ++ fs)).Pairwise (· < ·) ∧ CursorLe m.nextAudioSequence t.nextAudioSequence

theorem CursorLe.refl (a : Option Nat) : CursorLe a a := fun c hc => ⟨c, hc, le_rfl⟩

theorem CursorLe.trans {a b c : Option Nat} (h : CursorLe a b) (h' : CursorLe b c) : CursorLe a c := by
  intro n hn
  obtain ⟨n', hb, hle⟩ := h n hn
  obtain ⟨n'', hc, hle'⟩ := h' n' hb
  exact ⟨n'', hc, hle.trans hle'⟩

namespace UdpMediaSession

variable {s t : UdpMediaSession} {D : List Nat}

/-- The shared data agree with the packets handed on so far: these are behind the
cursor, the waiting ones are not, and the replay window knows all of them. -/
structure Lined (s : UdpMediaSession) (D : List Nat) : Prop where
  recorded : ∃ committed, s.replay.Tracks committed ∧ (∀ d ∈ D, d ∈ committed) ∧
    ∀ k p, s.reorder.get? k = some p → k ∈ committed
  increasing : D.Pairwise (· < ·)
  unstarted : s.nextAudioSequence = none → D = [] ∧ ∀ k, s.reorder.get? k = none
  behind : ∀ c, s.nextAudioSequence = some c → ∀ d ∈ D, d ≤ c
  ahead : ∀ c, s.nextAudioSequence = some c → ∀ k p, s.reorder.get? k = some p → c ≤ k
  apart : ∀ k p, s.reorder.get? k = some p → k ∉ D

/-- At most one task waits in `_receive_audio`, and the cursor stands at its packet. -/
structure Single (s : UdpMediaSession) (D : List Nat) : Prop where
  atMost : s.waiting.length ≤ 1
  here : ∀ n ∈ s.waiting, s.nextAudioSequence = some n ∧ n ∈ D

theorem Lined.congr (h : Lined s D) (hnext : t.nextAudioSequence = s.nextAudioSequence)
    (hreorder : t.reorder = s.reorder) (hreplay : t.replay = s.replay) : Lined t D := by
  obtain ⟨recorded, increasing, unstarted, behind, ahead, apart⟩ := h
  constructor
  · rwa [hreorder, hreplay]
  · exact increasing
  · rwa [hnext, hreorder]
  · rwa [hnext]
  · rwa [hnext, hreorder]
  · rwa [hreorder]

/-- The cursor may move up to the first packet that waits. -/
theorem Lined.advance (h : Lined s D) {c c' : Nat} (hc : s.nextAudioSequence = some c) (hle : c ≤ c')
    (hahead : ∀ k p, s.reorder.get? k = some p → c' ≤ k) :
    Lined { s with nextAudioSequence := some c' } D where
  recorded := h.recorded
  increasing := h.increasing
  unstarted := by simp
  behind := by
    intro n hn d hd
    obtain rfl := Option.some.inj hn
    exact (h.behind c hc d hd).trans hle
  ahead := by
    intro n hn
    obtain rfl := Option.some.inj hn
    exact hahead
  apart := h.apart

theorem get?_of_erase {d : Dict Nat Packet} {k k' : Nat} {p : Packet} (h : (d.erase k).get? k' = some p) :
    k' ≠ k ∧ d.get? k' = some p := by
  have hne : k' ≠ k := by
    rintro rfl
    simp at h
  rw [d.get?_erase_ne hne] at h
  exact ⟨hne, h⟩

theorem Lined.erase (h : Lined s D) (n : Nat) : Lined { s with reorder := s.reorder.erase n } D where
  recorded := by
    obtain ⟨committed, htracks, hD, hkeys⟩ := h.recorded
    exact ⟨committed, htracks, hD, fun k p hk => hkeys k p (get?_of_erase hk).2⟩
  increasing := h.increasing
  unstarted := by
    intro hnone
    refine ⟨(h.unstarted hnone).1, fun k => ?_⟩
    by_cases hk : k = n
    · rw [hk]
      exact s.reorder.get?_erase_self n
    · exact (s.reorder.get?_erase_ne hk).trans ((h.unstarted hnone).2 k)
  behind := h.behind
  ahead := fun c hc k p hk => h.ahead c hc k p (get?_of_erase hk).2
  apart := fun k p hk => h.apart k p (get?_of_erase hk).2

/-- A sequence that was committed but neither handed on nor put into the map. -/
structure Fresh (s : UdpMediaSession) (D : List Nat) (n : Nat) : Prop where
  new : n ∉ D
  free : s.reorder.get? n = none
  known : ∃ committed, s.replay.Tracks committed ∧ (∀ d ∈ D, d ∈ committed) ∧
    (∀ k p, s.reorder.get? k = some p → k ∈ committed) ∧ n ∈ committed

/-- A fresh packet at the cursor may be handed on. -/
theorem Lined.deliver (h : Lined s D) {c : Nat} (hc : s.nextAudioSequence = some c) (hf : Fresh s D c) :
    Lined s (D ++ [c]) where
  recorded := by
    obtain ⟨committed, htracks, hD, hkeys, hmem⟩ := hf.known
    refine ⟨committed, htracks, ?_, hkeys⟩
    intro d hd
    rw [List.mem_append, List.mem_singleton] at hd
    obtain hd | rfl := hd
    · exact hD d hd
    · exact hmem
  increasing := by
    rw [List.pairwise_append]
    refine ⟨h.increasing, List.pairwise_singleton _ _, ?_⟩
    intro d hd n hn
    obtain rfl := List.mem_singleton.mp hn
    have hle := h.behind n hc d hd
    have hne : d ≠ n := fun heq => hf.new (heq ▸ hd)
    omega
  unstarted := by simp [hc]
  behind := by
    intro n hn d hd
    rw [List.mem_append, List.mem_singleton] at hd
    obtain hd | rfl := hd
    · exact h.behind n hn d hd
    · obtain rfl := Option.some.inj (hc.symm.trans hn)
      exact le_rfl
  ahead := h.ahead
  apart := by
    intro k p hk hmem
    rw [List.mem_append, List.mem_singleton] at hmem
    obtain hmem | rfl := hmem
    · exact h.apart k p hk hmem
    · simp [hf.free] at hk

/-- The packet at the cursor leaves the map and is handed on. -/
theorem Lined.pop (h : Lined s D) {c : Nat} {p : Packet} (hc : s.nextAudioSequence = some c)
    (hp : s.reorder.get? c = some p) : Lined { s with reorder := s.reorder.erase c } (D ++ [c]) := by
  obtain ⟨committed, htracks, hD, hkeys⟩ := h.recorded
  refine (h.erase c).deliver hc ⟨h.apart c p hp, s.reorder.get?_erase_self c, ?_⟩
  exact ⟨committed, htracks, hD, fun k p hk => hkeys k p (get?_of_erase hk).2, hkeys c p hp⟩

/-- A fresh packet at or after the cursor joins the map. -/
theorem Lined.insert (h : Lined s D) {c n : Nat} {p : Packet} (hc : s.nextAudioSequence = some c) (hle : c ≤ n)
    (hf : Fresh s D n) : Lined { s with reorder := s.reorder.set n p } D where
  recorded := by
    obtain ⟨committed, htracks, hD, hkeys, hmem⟩ := hf.known
    refine ⟨committed, htracks, hD, ?_⟩
    intro k q hk
    by_cases heq : k = n
    · exact heq ▸ hmem
    · exact hkeys k q ((s.reorder.get?_set_ne p heq).symm.trans hk)
  increasing := h.increasing
  unstarted := by simp [hc]
  behind := h.behind
  ahead := by
    intro c' hc' k q hk
    obtain rfl := Option.some.inj (hc.symm.trans hc')
    by_cases heq : k = n
    · exact heq ▸ hle
    · exact h.ahead c hc k q ((s.reorder.get?_set_ne p heq).symm.trans hk)
  apart := by
    intro k q hk
    by_cases heq : k = n
    · exact heq ▸ hf.new
    · exact h.apart k q ((s.reorder.get?_set_ne p heq).symm.trans hk)

def handedOn (o : Option Delivery) : List Nat := (o.map Prod.fst).toList

/-- What a drain does: it keeps the shared data in line and the tasks as they are,
moves the cursor forward only, and stops at the packet it hands on. -/
structure Drained (s : UdpMediaSession) (D : List Nat) (d : UdpMediaSession × Option Delivery) : Prop where
  lined : Lined d.1 (D ++ handedOn d.2)
  forward : CursorLe s.nextAudioSequence d.1.nextAudioSequence
  stopsAt : ∀ delivery, d.2 = some delivery → d.1.nextAudioSequence = some delivery.1
  worker : d.1.worker = s.worker
  suspended : d.1.suspended = s.suspended

theorem settleTimer_frame (s : UdpMediaSession) : s.settleTimer.nextAudioSequence = s.nextAudioSequence ∧
    s.settleTimer.reorder = s.reorder ∧ s.settleTimer.replay = s.replay ∧ s.settleTimer.worker = s.worker ∧
    s.settleTimer.suspended = s.suspended := by
  rw [settleTimer]
  split
  · exact ⟨rfl, rfl, rfl, rfl, rfl⟩
  · split <;> exact ⟨rfl, rfl, rfl, rfl, rfl⟩

theorem settleTimer_drained (h : Lined s D) : Drained s D (s.settleTimer, none) := by
  obtain ⟨hnext, hreorder, hreplay, hworker, hsuspended⟩ := s.settleTimer_frame
  refine ⟨?_, ?_, by simp, hworker, hsuspended⟩
  · rw [handedOn, Option.map_none, Option.toList_none, List.append_nil]
    exact h.congr hnext hreorder hreplay
  · rw [hnext]
    exact CursorLe.refl _

theorem drainLoop_drained (fuel : Nat) {expected : Nat} (h : Lined s D)
    (hc : s.nextAudioSequence = some expected) : Drained s D (drainLoop fuel s expected) := by
  induction fuel generalizing s expected with
  | zero => exact settleTimer_drained h
  | succ fuel ih =>
    rw [drainLoop]
    split
    · exact settleTimer_drained h
    · rename_i packet hpacket
      dsimp only
      split
      · refine ⟨h.pop hc hpacket, CursorLe.refl _, ?_, rfl, rfl⟩
        rintro delivery ⟨⟩
        exact hc
      · -- a control packet is popped and the cursor steps over it
        have hahead : ∀ k p, (s.reorder.erase expected).get? k = some p → expected + 1 ≤ k := by
          intro k p hk
          obtain ⟨hne, hk⟩ := get?_of_erase hk
          have hle := h.ahead expected hc k p hk
          omega
        have hnext := (h.erase expected).advance hc (Nat.le_succ expected) hahead
        obtain ⟨lined, forward, stopsAt, worker, suspended⟩ := ih hnext rfl
        refine ⟨lined, ?_, stopsAt, worker, suspended⟩
        refine CursorLe.trans ?_ forward
        intro c hc'
        obtain rfl := Option.some.inj (hc.symm.trans hc')
        exact ⟨expected + 1, rfl, Nat.le_succ _⟩

/-- With a map no larger than the fuel, the loop ends where the source's does: at a
packet to hand on, or with nothing waiting at the cursor. -/
theorem drainLoop_ends (fuel : Nat) {expected : Nat} (hfuel : s.reorder.size ≤ fuel)
    (hc : s.nextAudioSequence = some expected) (hnone : (drainLoop fuel s expected).2 = none) :
    ∃ c, (drainLoop fuel s expected).1.nextAudioSequence = some c ∧
      (drainLoop fuel s expected).1.reorder.get? c = none := by
  induction fuel generalizing s expected with
  | zero =>
    obtain ⟨hnext, hreorder, -⟩ := s.settleTimer_frame
    refine ⟨expected, hnext.trans hc, ?_⟩
    rw [drainLoop, hreorder]
    exact Dict.get?_of_size_zero (Nat.le_zero.mp hfuel) expected
  | succ fuel ih =>
    obtain ⟨hnext, hreorder, -⟩ := s.settleTimer_frame
    rw [drainLoop] at hnone ⊢
    split at hnone
    · rename_i hfree
      refine ⟨expected, hnext.trans hc, ?_⟩
      rw [hreorder]
      exact hfree
    · rename_i packet hpacket
      dsimp only at hnone ⊢
      split at hnone
      · cases hnone
      · rename_i hflags
        rw [if_neg hflags]
        have hless := s.reorder.size_erase_lt hpacket
        exact ih (s := { s with reorder := s.reorder.erase expected, nextAudioSequence := some (expected + 1) })
          (Nat.le_of_lt_succ (hless.trans_le hfuel)) rfl hnone

theorem drainReorder_drained (h : Lined s D) : Drained s D s.drainReorder := by
  rw [drainReorder]
  split
  · exact settleTimer_drained h
  · rename_i expected hc
    exact drainLoop_drained _ h hc

/-- A packet handed on at the cursor lets the cursor step over it. -/
theorem delivered_drained (h : Lined s D) {n : Nat} (hc : s.nextAudioSequence = some n)
    (hfree : s.reorder.get? n = none) : Drained s D (s.delivered n) := by
  have hahead : ∀ k p, s.reorder.get? k = some p → n + 1 ≤ k := by
    intro k p hk
    have hle := h.ahead n hc k p hk
    have hne : k ≠ n := by
      rintro rfl
      simp [hfree] at hk
    omega
  obtain ⟨lined, forward, stopsAt, worker, suspended⟩ :=
    drainReorder_drained (h.advance hc (Nat.le_succ n) hahead)
  refine ⟨lined, ?_, stopsAt, worker, suspended⟩
  refine CursorLe.trans ?_ forward
  intro c hc'
  obtain rfl := Option.some.inj (hc.symm.trans hc')
  exact ⟨n + 1, rfl, Nat.le_succ _⟩

/-- What one step keeps. -/
structure Kept (s : UdpMediaSession) (D : List Nat) (d : UdpMediaSession × Option Delivery) : Prop where
  lined : Lined d.1 (D ++ handedOn d.2)
  single : Single d.1 (D ++ handedOn d.2)
  forward : CursorLe s.nextAudioSequence d.1.nextAudioSequence

theorem send_frame {flags : Flag} {r : Reads} (h : s.send flags r = some t) :
    t.nextAudioSequence = s.nextAudioSequence ∧ t.reorder = s.reorder ∧ t.replay = s.replay ∧
      t.worker = s.worker ∧ t.suspended = s.suspended := by
  rw [send] at h
  split at h
  · cases h
  · split at h
    · cases h
    · split at h
      · cases h
      · obtain rfl := Option.some.inj h
        exact ⟨rfl, rfl, rfl, rfl, rfl⟩

theorem finishHandle_frame (s : UdpMediaSession) (after : After) (r : Reads) :
    (s.finishHandle after r).nextAudioSequence = s.nextAudioSequence ∧
      (s.finishHandle after r).reorder = s.reorder ∧ (s.finishHandle after r).replay = s.replay ∧
      (s.finishHandle after r).waiting = s.suspended := by
  cases after with
  | probe => exact ⟨rfl, rfl, rfl, rfl⟩
  | audio => exact ⟨rfl, rfl, rfl, rfl⟩
  | keepalive timestamp generation =>
    rw [finishHandle]
    split
    · exact ⟨rfl, rfl, rfl, rfl⟩
    · rename_i t ht
      obtain ⟨hnext, hreorder, hreplay, -, hsuspended⟩ := send_frame ht
      exact ⟨hnext, hreorder, hreplay, hsuspended⟩

/-- The timers that wait are in order, whatever the worker does. -/
def TimersSingle (s : UdpMediaSession) (D : List Nat) : Prop :=
  s.suspended.length ≤ 1 ∧ ∀ n ∈ s.suspended, s.nextAudioSequence = some n ∧ n ∈ D

theorem Single.timers (h : Single s D) : TimersSingle s D := by
  obtain ⟨atMost, here⟩ := h
  rw [waiting, List.length_append] at atMost
  exact ⟨by omega, fun n hn => here n (List.mem_append_right _ hn)⟩

theorem handedOn_none (D : List Nat) : D ++ handedOn none = D := List.append_nil D

theorem finishHandle_kept (h : Lined s D) (hs : TimersSingle s D) (after : After) (r : Reads) :
    Kept s D (s.finishHandle after r, none) := by
  obtain ⟨hnext, hreorder, hreplay, hwaiting⟩ := s.finishHandle_frame after r
  refine ⟨?_, ⟨?_, ?_⟩, ?_⟩
  · rw [handedOn_none]
    exact h.congr hnext hreorder hreplay
  · dsimp only
    rw [hwaiting]
    exact hs.1
  · dsimp only
    rw [hwaiting, hnext, handedOn_none]
    exact hs.2
  · dsimp only
    rw [hnext]
    exact CursorLe.refl _

/-- With no timer waiting, the worker may wait for the packet it hands on. -/
theorem workerDrained_kept {d : UdpMediaSession × Option Delivery} (h : Drained s D d) (hnone : s.suspended = [])
    (after : After) (r : Reads) : Kept s D (workerDrained d after r) := by
  obtain ⟨lined, forward, stopsAt, worker, suspended⟩ := h
  obtain ⟨t, o⟩ := d
  rw [hnone] at suspended
  cases o with
  | none =>
    rw [handedOn_none] at lined
    have htimers : TimersSingle t D := by
      rw [TimersSingle, suspended]
      simp
    obtain ⟨klined, ksingle, kforward⟩ := finishHandle_kept lined htimers after r
    exact ⟨klined, ksingle, forward.trans kforward⟩
  | some delivery =>
    refine ⟨lined.congr rfl rfl rfl, ⟨?_, ?_⟩, forward⟩
    · dsimp only at suspended
      rw [workerDrained, waiting, Worker.waiting, suspended]
      exact le_rfl
    · intro n hn
      dsimp only at suspended
      rw [workerDrained, waiting, Worker.waiting, suspended, List.append_nil, List.mem_singleton] at hn
      subst hn
      exact ⟨stopsAt delivery rfl, by simp [handedOn, workerDrained]⟩

theorem timerDrained_kept {d : UdpMediaSession × Option Delivery} (h : Drained s D d) (hnone : s.waiting = []) :
    Kept s D (timerDrained d) := by
  obtain ⟨lined, forward, stopsAt, worker, suspended⟩ := h
  obtain ⟨t, o⟩ := d
  have hwaiting : t.waiting = [] := by
    dsimp only at worker suspended
    rw [waiting, worker, suspended]
    exact hnone
  cases o with
  | none =>
    refine ⟨lined, ⟨?_, ?_⟩, forward⟩
    · rw [timerDrained, hwaiting]
      exact Nat.zero_le 1
    · intro n hn
      rw [timerDrained, hwaiting] at hn
      cases hn
  | some delivery =>
    have hadded : { t with suspended := t.suspended ++ [delivery.1] }.waiting = [delivery.1] := by
      rw [waiting] at hwaiting ⊢
      dsimp only
      rw [← List.append_assoc, hwaiting, List.nil_append]
    refine ⟨lined.congr rfl rfl rfl, ⟨?_, ?_⟩, forward⟩
    · rw [timerDrained, hadded]
      exact le_rfl
    · intro n hn
      rw [timerDrained, hadded, List.mem_singleton] at hn
      subst hn
      exact ⟨stopsAt delivery rfl, by simp [handedOn, timerDrained]⟩

theorem Lined.commit (h : Lined s D) {n : Nat} (hn : s.replay.canAccept n = true) :
    Lined { s with replay := s.replay.commit n } D ∧ Fresh { s with replay := s.replay.commit n } D n := by
  obtain ⟨committed, htracks, hD, hkeys⟩ := h.recorded
  have hnot := htracks.not_mem hn
  have hold : ∀ m, m ∈ committed → m ∈ committed ++ [n] := fun m hm => List.mem_append_left _ hm
  refine ⟨{ h with recorded := ?_ }, fun hmem => hnot (hD n hmem), ?_, ?_⟩
  · exact ⟨committed ++ [n], htracks.commit, fun d hd => hold d (hD d hd), fun k p hk => hold k (hkeys k p hk)⟩
  · rw [Option.eq_none_iff_forall_ne_some]
    intro p hp
    exact hnot (hkeys n p hp)
  · exact ⟨committed ++ [n], htracks.commit, fun d hd => hold d (hD d hd), fun k p hk => hold k (hkeys k p hk),
      by simp⟩

theorem Fresh.congr {n : Nat} (h : Fresh s D n) (hreorder : t.reorder = s.reorder) (hreplay : t.replay = s.replay) :
    Fresh t D n := by
  obtain ⟨new, free, known⟩ := h
  refine ⟨new, ?_, ?_⟩
  · rwa [hreorder]
  · rwa [hreorder, hreplay]

/-- The cursor as a jump of the code leaves it: at `n`, with an empty map. -/
theorem resync_eq {c n : Nat} (hc : s.nextAudioSequence = some c) (hlt : c < n) :
    s.resyncMediaCursor n = { s.cancelTimer with reorder := {}, nextAudioSequence := some n } := by
  rw [resyncMediaCursor, hc]
  dsimp only
  rw [if_neg (by omega)]

theorem Lined.resync (h : Lined s D) {c n : Nat} (hc : s.nextAudioSequence = some c) (hlt : c < n)
    (hf : Fresh s D n) : Lined (s.resyncMediaCursor n) D ∧ Fresh (s.resyncMediaCursor n) D n := by
  rw [resync_eq hc hlt]
  obtain ⟨committed, htracks, hD, -, hmem⟩ := hf.known
  refine ⟨?_, hf.new, rfl, committed, htracks, hD, by simp, hmem⟩
  exact
    { recorded := ⟨committed, htracks, hD, by simp⟩
      increasing := h.increasing
      unstarted := by simp
      behind := by
        intro n' hn' d hd
        obtain rfl := Option.some.inj hn'
        have hle := h.behind c hc d hd
        omega
      ahead := by simp
      apart := by simp }

theorem Lined.start (h : Lined s D) (hnone : s.nextAudioSequence = none) (n : Nat) :
    Lined { s with nextAudioSequence := some n } D := by
  obtain ⟨hD, hempty⟩ := h.unstarted hnone
  exact
    { recorded := h.recorded
      increasing := h.increasing
      unstarted := by simp
      behind := by simp [hD]
      ahead := by simp [hempty]
      apart := by simp [hempty] }

/-- With a timer waiting at the cursor, a drain has nothing to do. -/
theorem drainReorder_none {c : Nat} (hc : s.nextAudioSequence = some c) (hfree : s.reorder.get? c = none) :
    s.drainReorder = (s.settleTimer, none) := by
  rw [drainReorder, hc]
  dsimp only
  cases s.reorder.size with
  | zero => rfl
  | succ fuel => rw [drainLoop, hfree]

theorem Lined.free_of_mem (h : Lined s D) {n : Nat} (hn : n ∈ D) : s.reorder.get? n = none := by
  rw [Option.eq_none_iff_forall_ne_some]
  intro p hp
  exact h.apart n p hp hn

theorem Kept.since {d : UdpMediaSession × Option Delivery} (h : Kept t D d)
    (hle : CursorLe s.nextAudioSequence t.nextAudioSequence) : Kept s D d :=
  ⟨h.lined, h.single, hle.trans h.forward⟩

/-- The worker drains the map; with a timer waiting at the cursor there is nothing to drain. -/
theorem drainReorder_kept (h : Lined s D) (hs : TimersSingle s D) (after : After) (r : Reads) :
    Kept s D (workerDrained s.drainReorder after r) := by
  by_cases hsuspended : s.suspended = []
  · exact workerDrained_kept (drainReorder_drained h) hsuspended after r
  · obtain ⟨m, hm⟩ := List.exists_mem_of_ne_nil _ hsuspended
    obtain ⟨hat, hmem⟩ := hs.2 m hm
    rw [drainReorder_none hat (h.free_of_mem hmem)]
    obtain ⟨hnext, hreorder, hreplay, -, hsame⟩ := s.settleTimer_frame
    have htimers : TimersSingle s.settleTimer D := by
      rw [TimersSingle, hnext, hsame]
      exact hs
    refine (finishHandle_kept (h.congr hnext hreorder hreplay) htimers after r).since ?_
    rw [hnext]
    exact CursorLe.refl _

/-- `_buffer_media` with a fresh packet that does not move the cursor. -/
theorem bufferMedia_near {hd : UdpPacketHeader} {payload : List UInt8} {after : After} {r : Reads} {c : Nat}
    (h : Lined s D) (hs : TimersSingle s D) (hf : Fresh s D hd.sequence) (hc : s.nextAudioSequence = some c)
    (hnear : hd.sequence < c + jitterWindowPackets) : Kept s D (s.bufferMedia hd payload after r) := by
  rw [bufferMedia, hc]
  dsimp only
  split
  · exact finishHandle_kept h hs after r
  · rename_i hle
    simp only [if_neg (not_le.mpr hnear)]
    split
    · split
      · exact finishHandle_kept h hs after r
      · rename_i hsame
        rw [not_not] at hsame
        rw [hsame] at hf
        have hsuspended : s.suspended = [] := by
          cases hcases : s.suspended with
          | nil => rfl
          | cons m ms =>
            obtain ⟨hm, hmem⟩ := hs.2 m (by simp [hcases])
            obtain rfl := Option.some.inj (hm.symm.trans hc)
            exact absurd hmem hf.new
        split
        · refine ⟨(h.deliver hc hf).congr rfl rfl rfl, ⟨?_, ?_⟩, CursorLe.refl _⟩
          · rw [waiting, Worker.waiting, hsuspended]
            exact le_rfl
          · intro n hn
            rw [waiting, Worker.waiting, hsuspended, List.append_nil, List.mem_singleton] at hn
            subst hn
            exact ⟨hc, by simp [handedOn]⟩
        · exact workerDrained_kept (delivered_drained h hc hf.free) hsuspended after r
    · have hin := h.insert (p := ⟨hd.flags, payload, hd.timestamp, hd.generation⟩) hc (not_lt.mp hle) hf
      exact (drainReorder_kept hin hs after r).since (CursorLe.refl _)

theorem TimersSingle.congr (h : TimersSingle s D) (hnext : t.nextAudioSequence = s.nextAudioSequence)
    (hsuspended : t.suspended = s.suspended) : TimersSingle t D := by
  rw [TimersSingle, hnext, hsuspended]
  exact h

theorem TimersSingle.of_nil (h : s.suspended = []) : TimersSingle s D := by
  rw [TimersSingle, h]
  exact ⟨Nat.zero_le 1, by simp⟩

theorem admit_canAccept {d : Datagram} {r : Reads} {hd : UdpPacketHeader} {payload : List UInt8}
    (h : s.admitted d r = some (hd, false, payload)) : s.replay.canAccept hd.sequence = true := by
  rw [admitted] at h
  split at h
  · cases h
  · split at h
    · cases h
    · split at h
      · cases h
      · split at h
        · cases h
        · dsimp only at h
          split at h
          · cases h
          · rename_i hreplay
            rw [Option.map_eq_some_iff] at h
            obtain ⟨_, -, heq⟩ := h
            simp only [Prod.mk.injEq] at heq
            obtain ⟨rfl, hrepeated, -⟩ := heq
            simpa [hrepeated] using hreplay

theorem Kept.stay (h : Lined s D) (hs : Single s D) (hnext : t.nextAudioSequence = s.nextAudioSequence)
    (hreorder : t.reorder = s.reorder) (hreplay : t.replay = s.replay) (hwaiting : t.waiting.Sublist s.waiting) :
    Kept s D (t, none) := by
  refine ⟨?_, ⟨?_, ?_⟩, ?_⟩
  · rw [handedOn_none]
    exact h.congr hnext hreorder hreplay
  · exact hwaiting.length_le.trans hs.atMost
  · intro n hn
    rw [handedOn_none]
    dsimp only
    rw [hnext]
    exact hs.here n (hwaiting.mem hn)
  · dsimp only
    rw [hnext]
    exact CursorLe.refl _

theorem handleProbe_kept {hd : UdpPacketHeader} {payload : List UInt8} {addr : Addr} {r : Reads}
    (h : Lined s D) (hs : Single s D) (hn : s.replay.canAccept hd.sequence = true) :
    Kept s D (s.handleProbe hd payload addr r) := by
  rw [handleProbe]
  split
  · exact Kept.stay h hs rfl rfl rfl (List.Sublist.refl _)
  · split
    · exact Kept.stay h hs rfl rfl rfl (List.Sublist.refl _)
    · split
      · exact Kept.stay h hs rfl rfl rfl (List.Sublist.refl _)
      · rename_i hinside
        obtain ⟨hlined, hfresh⟩ := h.commit hn
        dsimp only
        split
        · refine ⟨?_, ⟨?_, ?_⟩, CursorLe.refl _⟩
          · rw [handedOn_none]
            exact hlined.congr rfl rfl rfl
          · exact hs.timers.1
          · rw [handedOn_none]
            exact hs.timers.2
        · rename_i t ht
          obtain ⟨hnext, hreorder, hreplay, -, hsuspended⟩ := send_frame ht
          dsimp only at hnext hreorder hreplay hsuspended
          have hf : Fresh t D hd.sequence := hfresh.congr hreorder hreplay
          have ht' : Lined t D := hlined.congr hnext hreorder hreplay
          cases hc : s.nextAudioSequence with
          | none =>
            have hnone : t.suspended = [] := by
              rw [hsuspended]
              refine List.eq_nil_iff_forall_not_mem.mpr (fun m hm => ?_)
              have hat := (hs.timers.2 m hm).1
              rw [hc] at hat
              cases hat
            refine (bufferMedia_near (ht'.start (hnext.trans hc) hd.sequence) (TimersSingle.of_nil hnone)
              (hf.congr rfl rfl) rfl (by simp [jitterWindowPackets])).since ?_
            intro c hc'
            rw [hc] at hc'
            cases hc'
          | some c =>
            have hat : t.nextAudioSequence = some c := hnext.trans hc
            have hsame : { t with nextAudioSequence := some c } = t := by
              rw [← hat]
            rw [handleProbe.outside, hc] at hinside
            simp only [Bool.or_eq_true, decide_eq_true_eq, not_or, not_le] at hinside
            rw [Option.getD_some, hsame]
            refine (bufferMedia_near ht' (hs.timers.congr hnext hsuspended) hf hat hinside.1.2).since ?_
            rw [hnext]
            exact CursorLe.refl _

theorem handleMedia_kept {hd : UdpPacketHeader} {payload : List UInt8} {r : Reads}
    (h : Lined s D) (hs : Single s D) (hn : s.replay.canAccept hd.sequence = true)
    (hcalm : s.suspended ≠ [] → ∀ c, s.mediaValid hd payload = true → s.nextAudioSequence = some c →
      hd.sequence < c + jitterWindowPackets) : Kept s D (s.handleMedia hd payload r) := by
  obtain ⟨hlined, hfresh⟩ := h.commit hn
  rw [handleMedia]
  split
  · exact Kept.stay h hs rfl rfl rfl (List.Sublist.refl _)
  · rename_i hvalid
    rw [Bool.not_eq_true', Bool.not_eq_false] at hvalid
    split
    · exact Kept.stay h hs rfl rfl rfl (List.Sublist.refl _)
    · rename_i c hc
      split
      · exact Kept.stay h hs rfl rfl rfl (List.Sublist.refl _)
      · split
        · -- the cursor jumps, which it does only with no timer waiting
          rename_i hfar
          have hnone : s.suspended = [] := by
            by_contra hsome
            have hnear := hcalm hsome c hvalid hc
            omega
          have hlt : c < hd.sequence := by
            have hpos : 0 < jitterWindowPackets := by decide
            omega
          rw [handleMedia.accept, resync_eq hc hlt]
          have hc' : { s with replay := s.replay.commit hd.sequence }.nextAudioSequence = some c := hc
          obtain ⟨hjumped, hfresh'⟩ := hlined.resync hc' hlt hfresh
          rw [resync_eq hc' hlt] at hjumped hfresh'
          refine Kept.since (bufferMedia_near (c := hd.sequence) ?_ ?_ ?_ ?_ ?_) ?_
          · exact hjumped.congr rfl rfl rfl
          · exact TimersSingle.of_nil hnone
          · exact hfresh'.congr rfl rfl
          · rfl
          · simp [jitterWindowPackets]
          · intro c' hc''
            obtain rfl := Option.some.inj (hc.symm.trans hc'')
            exact ⟨hd.sequence, rfl, hlt.le⟩
        · rename_i hnear
          split
          · exact Kept.stay h hs rfl rfl rfl (List.Sublist.refl _)
          · rw [handleMedia.accept]
            refine Kept.since (bufferMedia_near (c := c) ?_ ?_ ?_ hc (not_le.mp hnear)) (CursorLe.refl _)
            · exact hlined.congr rfl rfl rfl
            · exact hs.timers.congr rfl rfl
            · exact hfresh.congr rfl rfl

theorem handle_kept {d : Datagram} {r : Reads} (h : Lined s D) (hs : Single s D) (hidle : s.worker = .idle)
    (hcalm : s.waiting ≠ [] → ¬s.resyncs d r) : Kept s D (s.handle d r) := by
  rw [handle]
  split
  · exact Kept.stay h hs rfl rfl rfl (List.Sublist.refl _)
  · rename_i hd repeated payload hadmit
    split
    · rw [reackProbe]
      split <;> exact Kept.stay h hs rfl rfl rfl (List.Sublist.refl _)
    · rename_i hrepeated
      rw [Bool.not_eq_true] at hrepeated
      subst hrepeated
      have hn := admit_canAccept hadmit
      split
      · exact Kept.stay h hs rfl rfl rfl (List.Sublist.refl _)
      · rename_i hsource
        split
        · exact handleProbe_kept h hs hn
        · rename_i hflags
          refine handleMedia_kept h hs hn ?_
          intro hsome c hvalid hc
          by_contra hfar
          have hwaiting : s.waiting ≠ [] := by simp [waiting, hsome]
          refine hcalm hwaiting ⟨hidle, ?_, hd, payload, c, hadmit, hflags, hvalid, hc, not_lt.mp hfar⟩
          have hpinned : s.source.isSome := by
            simp only [mediaValid, Bool.and_eq_true] at hvalid
            exact hvalid.1.1.1
          by_contra hne
          exact hsource ⟨hpinned, hne⟩

theorem firstWaiting_le {first k : Nat} {p : Packet} (h : s.firstWaiting = some first)
    (hk : s.reorder.get? k = some p) : first ≤ k := by
  rw [firstWaiting, List.min?_eq_some_iff] at h
  apply h.2
  rw [s.reorder.key_mem_iff, hk]
  rfl

theorem firstWaiting_size {first : Nat} (h : s.firstWaiting = some first) : s.reorder.size ≠ 0 := by
  rw [firstWaiting, List.min?_eq_some_iff] at h
  rw [Dict.size, ← List.length_map Prod.fst]
  exact (List.length_pos_of_mem h.1).ne'

theorem expireReorderGap_kept (h : Lined s D) (hs : Single s D) (htimer : s.reorderTimer = .sleeping)
    (hcalm : s.waiting ≠ [] → ¬s.gapExpires) : Kept s D s.expireReorderGap := by
  rw [expireReorderGap]
  split
  · exact Kept.stay h hs rfl rfl rfl (List.Sublist.refl _)
  · rename_i first hfirst
    split
    · exact Kept.stay h hs rfl rfl rfl (List.Sublist.refl _)
    · rename_i hopen
      have hnone : s.waiting = [] := by
        by_contra hsome
        exact hcalm hsome ⟨htimer, by simpa using hopen, firstWaiting_size hfirst⟩
      dsimp only
      cases hc : s.nextAudioSequence with
      | none =>
        have hlined : Lined { s with nextAudioSequence := none, reorderTimer := .absent } D :=
          h.congr hc.symm rfl rfl
        refine (timerDrained_kept (drainReorder_drained hlined) hnone).since ?_
        rw [hc]
        exact CursorLe.refl _
      | some c =>
        have hahead : ∀ k p, s.reorder.get? k = some p → max c first ≤ k := fun k p hk =>
          max_le (h.ahead c hc k p hk) (firstWaiting_le hfirst hk)
        have hmoved := h.advance hc (le_max_left c first) hahead
        have hlined : Lined { s with nextAudioSequence := some (max c first), reorderTimer := .absent } D :=
          hmoved.congr rfl rfl rfl
        refine (timerDrained_kept (drainReorder_drained hlined) hnone).since ?_
        intro c' hc'
        obtain rfl := Option.some.inj (hc.symm.trans hc')
        exact ⟨max c first, rfl, le_max_left c first⟩

/-- The task that waits is alone and stands at the cursor. -/
theorem Single.waits (h : Single s D) {n : Nat} (hn : n ∈ s.waiting) : s.waiting = [n] := by
  have hlen := h.atMost
  match hw : s.waiting with
  | [] => simp [hw] at hn
  | [m] =>
    rw [hw, List.mem_singleton] at hn
    rw [hn]
  | m :: m' :: ms =>
    rw [hw] at hlen
    simp at hlen

theorem resume_kept (h : Lined s D) (hs : Single s D) {n : Nat} {after : After} (r : Reads)
    (hworker : s.worker = .delivering n after) : Kept s D (workerDrained (s.delivered n) after r) := by
  have hn : n ∈ s.waiting := by simp [waiting, hworker, Worker.waiting]
  obtain ⟨hc, hmem⟩ := hs.here n hn
  have hnone : s.suspended = [] := by
    have hw := hs.waits hn
    rw [waiting, hworker, Worker.waiting] at hw
    simpa using hw
  exact workerDrained_kept (delivered_drained h hc (h.free_of_mem hmem)) hnone after r

theorem timerResume_kept (h : Lined s D) (hs : Single s D) {n index : Nat} (hindex : s.suspended[index]? = some n) :
    Kept s D (timerDrained ({ s with suspended := s.suspended.eraseIdx index }.delivered n)) := by
  have hmem : n ∈ s.suspended := List.mem_of_getElem? hindex
  have hn : n ∈ s.waiting := List.mem_append_right _ hmem
  obtain ⟨hc, hD⟩ := hs.here n hn
  have hnone : { s with suspended := s.suspended.eraseIdx index }.waiting = [] := by
    have hlen := congrArg List.length (hs.waits hn)
    rw [waiting, List.length_append, List.length_singleton] at hlen
    have hpos := List.length_pos_of_mem hmem
    obtain ⟨hlt, -⟩ := List.getElem?_eq_some_iff.mp hindex
    apply List.eq_nil_of_length_eq_zero
    rw [waiting, List.length_append]
    dsimp only
    rw [List.length_eraseIdx_of_lt hlt]
    omega
  have hlined : Lined { s with suspended := s.suspended.eraseIdx index } D := h.congr rfl rfl rfl
  exact (timerDrained_kept (delivered_drained hlined hc (h.free_of_mem hD)) hnone).since (CursorLe.refl _)

theorem call_kept (h : Lined s D) (hs : Single s D) {e : Event} (hcalm : s.Calm e) : Kept s D (s.call e) := by
  cases e with
  | handle d r =>
    rw [call]
    split
    · rename_i hidle
      exact handle_kept h hs hidle hcalm
    · exact Kept.stay h hs rfl rfl rfl (List.Sublist.refl _)
  | resume r =>
    rw [call]
    split
    · rename_i n after hworker
      exact resume_kept h hs r hworker
    · exact Kept.stay h hs rfl rfl rfl (List.Sublist.refl _)
  | fail =>
    rw [call]
    split
    · exact Kept.stay h hs rfl rfl rfl (List.sublist_append_right _ _)
    · exact Kept.stay h hs rfl rfl rfl (List.Sublist.refl _)
  | fire =>
    rw [call]
    split
    · rename_i htimer
      exact expireReorderGap_kept h hs htimer hcalm
    · exact Kept.stay h hs rfl rfl rfl (List.Sublist.refl _)
  | timerResume index =>
    rw [call]
    split
    · exact Kept.stay h hs rfl rfl rfl (List.Sublist.refl _)
    · rename_i n hindex
      exact timerResume_kept h hs hindex
  | timerFail index =>
    exact Kept.stay h hs rfl rfl rfl ((List.Sublist.refl _).append (List.eraseIdx_sublist _ _))
  | close =>
    rw [call]
    split
    · exact Kept.stay h hs rfl rfl rfl (List.Sublist.refl _)
    · exact Kept.stay h hs rfl rfl rfl (List.sublist_append_right _ _)
  | expire =>
    rw [call]
    split
    · exact Kept.stay h hs rfl rfl rfl (List.Sublist.refl _)
    · exact Kept.stay h hs rfl rfl rfl (List.sublist_append_right _ _)

theorem init_lined (g : UdpGrant) : Lined { grant := g } [] ∧ Single { grant := g } [] := by
  refine ⟨⟨⟨[], ReplayWindow.tracks_init, by simp, by simp⟩, List.Pairwise.nil, ?_, ?_, ?_, ?_⟩, ?_, ?_⟩
  · exact fun _ => ⟨rfl, fun _ => rfl⟩
  · simp
  · simp
  · simp
  · exact Nat.zero_le 1
  · intro n hn
    cases hn

/-- A run keeps the data in line with all packets handed on and moves the cursor forward only. -/
theorem run_kept {es : List (Event × Option Delivery)} (hr : Run CalmStep s es t) (h : Lined s D)
    (hs : Single s D) : Lined t (D ++ deliveries es) ∧ Single t (D ++ deliveries es) ∧
      CursorLe s.nextAudioSequence t.nextAudioSequence := by
  induction hr with
  | nil => exact ⟨by simpa [deliveries] using h, by simpa [deliveries] using hs, CursorLe.refl _⟩
  | @snoc es t u e hr hstep ih =>
    obtain ⟨hlined, hsingle, hforward⟩ := ih
    obtain ⟨hcalm, hcall⟩ := hstep
    obtain ⟨lined, single, forward⟩ := call_kept hlined hsingle hcalm
    have hdeliveries : deliveries (es ++ [e]) = deliveries es ++ handedOn e.2 := by
      rw [deliveries, List.filterMap_append]
      cases he : e.2 <;> simp [deliveries, handedOn, he]
    rw [hcall] at lined single forward
    rw [hdeliveries, ← List.append_assoc]
    exact ⟨lined, single, hforward.trans forward⟩

end UdpMediaSession

/-- A grant, and a datagram of the pinned source that authenticates. -/
def sampleGrant : UdpGrant := { mediaId := [7], mediaEpoch := 1, expiresAt := 100, probeTimeoutMs := 1000 }

def sampleReads : Reads := { wall := 1, sendWall := 1, monotonic := 1, acknowledgedAt := 1, transport := true }

def sampleEvent (flags : Flag) (sequence : Nat) (payload : List UInt8) : Event :=
  .handle
    { length := 64
      header := some
        { flags := flags, mediaId := [7], mediaEpoch := 1, sequence := sequence, timestamp := 0, generation := 0
          payloadLength := payload.length }
      payload := some payload
      addr := ("endpoint", 9) } sampleReads

/-- The gap timer fires while the worker waits with packet 1: it hands on packet 3 and
finishes, then the worker comes back and sets the cursor to 2. -/
def crossingStart : List Event :=
  [sampleEvent .probe 0 [], sampleEvent .audio 3 [1], sampleEvent .audio 1 [1], .fire, .timerResume 0]

def crossingEnd : List Event := [.resume sampleReads, sampleEvent .audio 2 [1]]

open UdpMediaSession in
/-- While nobody moves the cursor past a task that waits in `_receive_audio`, packets
are handed on in order and the cursor only moves forward. -/
theorem calm_inOrder (g : UdpGrant) (es fs : List (Event × Option UdpMediaSession.Delivery)) (m t : UdpMediaSession)
    (hm : Run CalmStep { grant := g } es m) (ht : Run CalmStep m fs t) :
    (deliveries (es ++ fs)).Pairwise (· < ·) ∧ CursorLe m.nextAudioSequence t.nextAudioSequence := by
  obtain ⟨hinit, hinit'⟩ := init_lined g
  obtain ⟨hlined, hsingle, -⟩ := run_kept hm hinit hinit'
  obtain ⟨hlined', -, hforward⟩ := run_kept ht hlined hsingle
  refine ⟨?_, hforward⟩
  have happend : deliveries (es ++ fs) = deliveries es ++ deliveries fs := List.filterMap_append
  rw [happend]
  exact hlined'.increasing

/-- Packet 2 overtakes packet 1 and is held back until packet 1 was handed on. -/
def overtaking : List Event :=
  [sampleEvent .probe 0 [], sampleEvent .audio 2 [1], sampleEvent .audio 1 [1], .resume sampleReads, .resume sampleReads]

theorem calm_of_not_waiting {s : UdpMediaSession} {e : Event} (h : s.waiting = []) : s.Calm e :=
  fun hne => absurd h hne

theorem calm_inOrder_overtaking : ∃ es t, Run CalmStep { grant := sampleGrant } es t ∧ deliveries es = [1, 2] ∧
    (deliveries es).Pairwise (· < ·) := by
  have hcalm : Along UdpMediaSession.Calm UdpMediaSession.call { grant := sampleGrant } overtaking := by
    refine ⟨calm_of_not_waiting ?_, calm_of_not_waiting ?_, calm_of_not_waiting ?_, fun _ => trivial, fun _ => trivial,
      trivial⟩ <;> decide +kernel
  have hrun := run_history_along hcalm
  refine ⟨_, _, hrun, by decide +kernel, ?_⟩
  have horder := (calm_inOrder sampleGrant _ _ _ _ hrun .nil).1
  rwa [List.append_nil] at horder

/-- A gap timer that fires over a waiting worker breaks the order, and the cursor falls from 4 to 2. -/
theorem crossing_out_of_order : ¬InOrder Step ∧
    (after UdpMediaSession.call { grant := sampleGrant } crossingStart).nextAudioSequence = some 4 ∧
    (after UdpMediaSession.call { grant := sampleGrant } (crossingStart ++ crossingEnd)).nextAudioSequence = some 2 ∧
    deliveries (history UdpMediaSession.call { grant := sampleGrant } (crossingStart ++ crossingEnd)) = [1, 3, 2] := by
  refine ⟨?_, by decide +kernel, by decide +kernel, by decide +kernel⟩
  intro h
  have hstart := run_history UdpMediaSession.call { grant := sampleGrant } crossingStart
  have hend := run_history UdpMediaSession.call (after UdpMediaSession.call { grant := sampleGrant } crossingStart)
    crossingEnd
  have horder := (h sampleGrant _ _ _ _ hstart hend).1
  revert horder
  decide +kernel

end RealtimeVoice.Udp.Gateway
