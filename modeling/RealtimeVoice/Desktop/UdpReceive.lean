import RealtimeVoice.Base.Runs
import RealtimeVoice.Desktop.Reordering
import RealtimeVoice.Udp.Inert

namespace RealtimeVoice.Desktop

open RealtimeVoice.Base RealtimeVoice.Base.Runs RealtimeVoice.Contracts RealtimeVoice.Udp

namespace UdpDownlink

section
variable {returned : List MediaFrame} {s t u : UdpDownlink} {f : MediaFrame} {n : Nat}

theorem carries_pendingControl (h : Settled returned s) (p : Dict Nat (MediaFrame × Time)) :
    Carries returned s { s with pendingControl := p } := by
  obtain ⟨⟨hkeyed, hapart, hsingle, habove, hsorted, hbelow⟩, hstrict, harmed, hspent⟩ := h
  exact ⟨⟨⟨hkeyed, hapart, hsingle, habove, hsorted, hbelow⟩, hstrict, harmed, hspent⟩, fun _ hf => hf,
    fun _ _ => le_rfl, id⟩

/-- The number of an admitted frame has not come before, and does not come again. -/
theorem carries_commit (h : Settled returned s) (hn : s.replay.acceptable n = true) :
    Carries returned s { s with replay := s.replay.commit n } ∧
      InHand returned { s with replay := s.replay.commit n } n := by
  have hmarks := h.spent.commit n
  have hfree := h.spent.not_of_acceptable hn
  obtain ⟨⟨hkeyed, hapart, hsingle, habove, hsorted, hbelow⟩, hstrict, harmed, hspent⟩ := h
  have hsettled : Settled returned { s with replay := s.replay.commit n } :=
    ⟨⟨hkeyed, hapart, hsingle, habove, hsorted, hbelow⟩, hstrict, harmed, hmarks.mono fun k hk => .inl hk⟩
  exact ⟨⟨hsettled, fun _ hf => hf, fun _ _ => le_rfl, id⟩, ⟨hsettled, hfree, hmarks⟩⟩

/-- What the admission of waiting audio leads to. -/
structure Admits (returned : List MediaFrame) (s t : UdpDownlink) (reply : Reply) : Prop where
  carries : Carries returned s t
  held : reply.raised ≠ some .freshReopen → ∀ f ∈ reply.admitted, t.Holds f
  returned : reply.returned = none

theorem mem_counted : f ∈ s.counted f ↔ s.expectedDownlink ≤ f.sequence := by
  rw [counted]
  split_ifs with hlow
  · simpa using hlow
  · simpa using hlow

theorem eq_of_mem_counted {g : MediaFrame} (h : g ∈ s.counted f) : g = f := by
  rw [counted] at h
  split_ifs at h
  · cases h
  · exact List.mem_singleton.mp h

theorem admits_admitOne (h : Settled returned s) (sequence : Nat) (validate : Validator) (r : Reads) :
    Admits returned s (s.admitOne sequence validate r).1 (s.admitOne sequence validate r).2 := by
  have hnothing : ∀ {t : UdpDownlink} {raised : Option ReceiveFailure}, Carries returned s t →
      Admits returned s t { raised := raised } := fun hc => ⟨hc, fun _ _ hf => (List.not_mem_nil hf).elim, rfl⟩
  rw [admitOne]
  cases s.pendingControl.get? sequence with
  | none => exact hnothing (Carries.refl h)
  | some entry =>
    obtain ⟨frame, arrivedAt⟩ := entry
    dsimp only
    by_cases hlate : r.admission - arrivedAt > s.maxMediaAge
    · rw [if_pos hlate]
      exact hnothing (Carries.refl h)
    · rw [if_neg hlate]
      cases validate frame with
      | error code =>
        dsimp only
        split_ifs
        · exact hnothing (Carries.refl h)
        · exact hnothing (carries_pendingControl h _)
      | ok admitted =>
        have hcontrol := carries_pendingControl h (s.pendingControl.erase sequence)
        dsimp only
        by_cases hreplayed : s.replay.acceptable frame.sequence = false
        · rw [if_pos hreplayed]
          exact hnothing hcontrol
        · rw [if_neg hreplayed]
          obtain ⟨hcommit, hhand⟩ := carries_commit hcontrol.settled (Bool.eq_true_of_not_eq_false hreplayed)
          have hready := hcontrol.trans hcommit
          by_cases hadmitted : admitted = true
          · rw [if_pos hadmitted]
            cases hbuffer : UdpDownlink.buffer _ frame (r.admissionFresh sequence) (r.admissionArm sequence) with
            | none => exact ⟨hready, fun hne => absurd rfl hne, rfl⟩
            | some t =>
              obtain ⟨hbuffered, hheld⟩ := carries_buffer hhand hbuffer
              refine ⟨hready.trans hbuffered, ?_, rfl⟩
              rintro - g hg
              obtain rfl := eq_of_mem_counted hg
              exact hheld (mem_counted.mp hg)
          · rw [if_neg hadmitted]
            exact hnothing (hready.trans (carries_bufferNonAudio hhand _))

theorem admits_admitLoop (validate : Validator) (r : Reads) (sequences : List Nat) (h : Settled returned s) :
    Admits returned s (admitLoop validate r sequences s).1 (admitLoop validate r sequences s).2 := by
  induction sequences generalizing s with
  | nil => exact ⟨Carries.refl h, fun _ _ hf => (List.not_mem_nil hf).elim, rfl⟩
  | cons sequence rest ih =>
    have hone := admits_admitOne h sequence validate r
    rw [admitLoop]
    dsimp only
    split_ifs with hraised
    · exact hone
    · have hlater := ih hone.carries.settled
      refine ⟨hone.carries.trans hlater.carries, ?_, hlater.returned⟩
      intro hne f hf
      obtain hf | hf := List.mem_append.mp hf
      · refine hlater.carries.holds f (hone.held ?_ f hf)
        intro hfresh
        rw [hfresh] at hraised
        exact hraised rfl
      · exact hlater.held hne f hf

theorem admits_admitPendingControl (h : Settled returned s) (r : Reads) :
    Admits returned s (s.admitPendingControl r).1 (s.admitPendingControl r).2 := by
  rw [admitPendingControl]
  cases r.validator with
  | none => exact ⟨Carries.refl h, fun _ _ hf => (List.not_mem_nil hf).elim, rfl⟩
  | some validate => exact admits_admitLoop validate r _ h

/-- What a call leads to: a frame that was held is held still or is the one returned, and
whatever is returned comes before the frames that stay. -/
structure Outcome (returned : List MediaFrame) (s t : UdpDownlink) (reply : Reply) : Prop where
  settled : Settled (returned ++ reply.returned.toList) t
  holds : ∀ f, s.Holds f → t.Holds f ∨ reply.returned = some f
  rank : ∀ f, s.Holds f → t.Holds f → t.rank f + reply.returned.toList.length ≤ s.rank f
  few : s.buffered < 4 → t.buffered < 4
  idle : t.waiting = true → t.ready = []

theorem Carries.outcome {reply : Reply} (h : Carries returned s t) (h' : Outcome returned t u reply) :
    Outcome returned s u reply where
  settled := h'.settled
  holds f hf := h'.holds f (h.holds f hf)
  rank f hf hu := (h'.rank f (h.holds f hf) hu).trans (h.rank f hf)
  few hs := h'.few (h.few hs)
  idle := h'.idle

/-- A call that ends without a frame. -/
theorem Carries.ends {reply : Reply} (h : Carries returned s t) (hnone : reply.returned = none)
    (hidle : t.waiting = true → t.ready = []) : Outcome returned s t reply where
  settled := by
    rw [hnone, Option.toList_none, List.append_nil]
    exact h.settled
  holds f hf := .inl (h.holds f hf)
  rank f hf _ := by
    rw [hnone]
    exact h.rank f hf
  few := h.few
  idle := hidle

theorem carries_waiting (h : Settled returned s) (waiting : Bool) :
    Carries returned s { s with waiting := waiting } := by
  obtain ⟨⟨hkeyed, hapart, hsingle, habove, hsorted, hbelow⟩, hstrict, harmed, hspent⟩ := h
  exact ⟨⟨⟨hkeyed, hapart, hsingle, habove, hsorted, hbelow⟩, hstrict, harmed, hspent⟩, fun _ hf => hf,
    fun _ _ => le_rfl, id⟩

theorem outcome_raise (h : Settled returned s) (admitted : List MediaFrame) (failure : ReceiveFailure) :
    Outcome returned s (s.raise admitted failure).1 (s.raise admitted failure).2 :=
  (carries_waiting h false).ends rfl (fun hw => nomatch hw)

/-- The first frame that is ready is returned. -/
theorem outcome_pop {admitted ready : List MediaFrame} (h : Settled returned s) (hready : s.ready = f :: ready) :
    Outcome returned s { s with ready := ready, waiting := false } { admitted := admitted, returned := some f } := by
  obtain ⟨⟨hkeyed, hapart, hsingle, habove, hsorted, hbelow⟩, hstrict, harmed, hspent⟩ := h
  have hsame : (returned ++ [f]) ++ ready = returned ++ s.ready := by
    rw [hready, List.append_assoc, List.singleton_append]
  constructor
  case settled =>
    refine ⟨⟨hkeyed, hapart, hsingle, habove, ?_, ?_⟩, hstrict, harmed, hspent⟩
    · rw [Option.toList_some, hsame]
      exact hsorted
    · rw [Option.toList_some, hsame]
      exact hbelow
  case holds =>
    rintro g (hg | hg)
    · rw [hready] at hg
      obtain rfl | hg := List.mem_cons.mp hg
      · exact .inr rfl
      · exact .inl (.inl hg)
    · exact .inl (.inr hg)
  case rank =>
    intro g _ hg
    have hlater : f.sequence < g.sequence := by
      rw [hready, List.pairwise_append] at hsorted
      obtain hg | hg := hg
      · exact (List.pairwise_cons.mp hsorted.2.1).1 g hg
      · have hlow := hbelow f (by rw [hready]; exact List.mem_append_right _ List.mem_cons_self)
        have hhigh := habove g.sequence (.inl (by rw [hg]; rfl))
        omega
    simp only [UdpDownlink.rank, hready, Option.toList_some, List.length_singleton, List.countP_cons,
      decide_eq_true hlater, if_true]
    omega
  case few => exact id
  case idle =>
    intro hw
    cases hw

theorem outcome_deliver {admitted : List MediaFrame} {next : UdpDownlink → UdpDownlink × Reply}
    (h : Settled returned s) (hnext : s.ready = [] → Outcome returned s (next s).1 (next s).2) :
    Outcome returned s (s.deliver admitted next).1 (s.deliver admitted next).2 := by
  rw [deliver]
  cases hready : s.ready with
  | nil => exact hnext hready
  | cons f ready => exact outcome_pop h hready

theorem expireReceiveDeadlines_eq {now : Time} (h : s.expireReceiveDeadlines now = some t) :
    t = s.releaseOverdue now := by
  rw [expireReceiveDeadlines] at h
  split_ifs at h
  exact (Option.some.inj h).symm

theorem outcome_await (h : Settled returned s) (admitted : List MediaFrame) (r : Reads) :
    Outcome returned s (s.await admitted r).1 (s.await admitted r).2 := by
  rw [await]
  split_ifs with hdue
  · exact outcome_raise h admitted _
  · cases hexpire : s.expireReceiveDeadlines r.top with
    | none => exact outcome_raise h admitted _
    | some t =>
      rw [expireReceiveDeadlines_eq hexpire]
      have hcarries := carries_overdue h r.top
      apply hcarries.outcome
      refine outcome_deliver hcarries.settled fun hready => ?_
      exact (carries_waiting hcarries.settled true).ends rfl fun _ => hready

theorem InHand.overdue (h : InHand returned s n) (now : Time) : InHand returned (s.releaseOverdue now) n := by
  have hsettled := (carries_overdue h.settled now).settled
  rw [releaseOverdue] at hsettled ⊢
  split_ifs at hsettled ⊢ with hdue
  · obtain ⟨hrel, -⟩ := released_gap h.settled.ordered h.settled.strict
    refine ⟨hsettled, fun hb => h.free (hrel.buffered n hb), ?_⟩
    rw [hrel.replay]
    exact h.spent.mono fun k hk => hk.imp_left (hrel.buffered k)
  · exact h

/-- Without a frame in hand the deadlines are looked at, and the wait goes on. -/
theorem outcome_afterAccept_none (h : Settled returned s) (r : Reads) :
    Outcome returned s (s.afterAccept none r).1 (s.afterAccept none r).2 := by
  rw [afterAccept]
  cases hexpire : s.expireReceiveDeadlines r.expire with
  | none => exact outcome_raise h _ _
  | some t =>
    rw [expireReceiveDeadlines_eq hexpire]
    have hcarries := carries_overdue h r.expire
    apply hcarries.outcome
    exact outcome_deliver hcarries.settled fun _ => outcome_await hcarries.settled _ r

theorem outcome_afterAccept (h : InHand returned s f.sequence) (r : Reads) :
    Outcome returned s (s.afterAccept (some f) r).1 (s.afterAccept (some f) r).2 := by
  rw [afterAccept]
  cases hexpire : s.expireReceiveDeadlines r.expire with
  | none => exact outcome_raise h.settled _ _
  | some t =>
    rw [expireReceiveDeadlines_eq hexpire]
    have hcarries := carries_overdue h.settled r.expire
    have hhand := h.overdue r.expire
    apply hcarries.outcome
    refine outcome_deliver hcarries.settled fun _ => ?_
    dsimp only
    by_cases haudio : f.flags ≠ .audio
    · rw [if_pos haudio]
      have hskipped := carries_bufferNonAudio hhand r.arm
      apply hskipped.outcome
      exact outcome_deliver hskipped.settled fun _ => outcome_await hskipped.settled _ r
    · rw [if_neg haudio]
      cases hbuffer : (s.releaseOverdue r.expire).buffer f r.fresh r.arm with
      | none => exact outcome_raise hcarries.settled _ _
      | some t =>
        obtain ⟨hbuffered, -⟩ := carries_buffer hhand hbuffer
        apply hbuffered.outcome
        exact outcome_deliver hbuffered.settled fun _ => outcome_await hbuffered.settled _ r

/-- What looking at a datagram leads to: a frame that it gives has a number that has just
been used up, and nothing else of the buffer has changed. -/
structure Accepts (returned : List MediaFrame) (s t : UdpDownlink)
    (answer : Except ReceiveFailure (Option MediaFrame)) : Prop where
  carries : Carries returned s t
  inHand : ∀ f, answer = .ok (some f) → InHand returned t f.sequence
  same : ∀ f, answer = .ok (some f) → ∃ p replay, t = { s with pendingControl := p, replay := replay }

theorem Carries.accepts_error {failure : ReceiveFailure} (h : Carries returned s t) :
    Accepts returned s t (.error failure) := ⟨h, fun _ hf => (nomatch hf), fun _ hf => (nomatch hf)⟩

theorem Carries.accepts_none (h : Carries returned s t) : Accepts returned s t (.ok none) :=
  ⟨h, fun _ hf => (nomatch Except.ok.inj hf), fun _ hf => (nomatch Except.ok.inj hf)⟩

theorem accepts_commit (h : Settled returned s) (hn : s.replay.acceptable f.sequence = true) :
    Accepts returned s { s with replay := s.replay.commit f.sequence } (.ok (some f)) := by
  obtain ⟨hcommit, hhand⟩ := carries_commit h hn
  refine ⟨hcommit, ?_, fun _ _ => ⟨s.pendingControl, _, rfl⟩⟩
  intro g hg
  obtain rfl := Option.some.inj (Except.ok.inj hg)
  exact hhand

theorem accepts_acceptAudio (h : Settled returned s) (hn : s.replay.acceptable f.sequence = true)
    (validated : Except String Bool) (now armNow : Time) :
    Accepts returned s (s.acceptAudio f validated now armNow).1 (s.acceptAudio f validated now armNow).2 := by
  cases validated with
  | error code =>
    rw [acceptAudio]
    split_ifs
    · exact (Carries.refl h).accepts_error
    · exact (Carries.refl h).accepts_error
    · exact (Carries.refl h).accepts_none
    · exact (carries_pendingControl h _).accepts_none
  | ok admitted =>
    have hcontrol := carries_pendingControl h (s.pendingControl.erase f.sequence)
    obtain ⟨hcommit, hhand⟩ := carries_commit hcontrol.settled hn
    have hready := hcontrol.trans hcommit
    rw [acceptAudio]
    split_ifs
    · refine ⟨hready, ?_, fun _ _ => ⟨_, _, rfl⟩⟩
      intro g hg
      obtain rfl := Option.some.inj (Except.ok.inj hg)
      exact hhand
    · exact (hready.trans (carries_bufferNonAudio hhand armNow)).accepts_none

theorem accepts_accept (aead : AesGcm) (h : Settled returned s) (datagram : Bytes) (validator : Option Validator)
    (now armNow : Time) :
    Accepts returned s (s.accept aead datagram false validator now armNow).1
      (s.accept aead datagram false validator now armNow).2 := by
  have hself := Carries.refl h
  rw [accept]
  split
  · exact hself.accepts_error
  split
  · exact hself.accepts_error
  split
  · exact hself.accepts_error
  split
  · exact hself.accepts_error
  rename_i header encrypted hdecode hidentity hreplayed
  have hn : s.replay.acceptable header.sequence = true := Bool.eq_true_of_not_eq_false hreplayed
  split
  · exact hself.accepts_error
  rename_i payload _
  cases validator with
  | none =>
    dsimp only
    rw [if_neg (fun hprobe => Bool.false_ne_true hprobe.1)]
    exact accepts_commit (f := { header with payload := payload }) h hn
  | some validate =>
    dsimp only
    rw [if_neg (fun hprobe => Bool.false_ne_true hprobe.1)]
    split
    · exact accepts_acceptAudio (f := { header with payload := payload }) h hn _ now armNow
    · exact accepts_commit (f := { header with payload := payload }) h hn

/-- Every call but `close` keeps what is held. -/
theorem outcome_call (aead : AesGcm) (h : Settled returned s) (hidle : s.waiting = true → s.ready = []) {e : Event}
    (hclose : e ≠ .close) : Outcome returned s (s.call aead e).1 (s.call aead e).2 := by
  have hself : Outcome returned s s {} := (Carries.refl h).ends rfl hidle
  cases e with
  | receive r =>
    rw [call]
    split_ifs
    · exact hself
    · exact outcome_raise h _ _
    · exact outcome_raise h _ _
    · have hadmits := admits_admitPendingControl h r
      apply hadmits.carries.outcome
      dsimp only
      cases (s.admitPendingControl r).2.raised with
      | some failure => exact outcome_raise hadmits.carries.settled _ _
      | none => exact outcome_deliver hadmits.carries.settled fun _ => outcome_await hadmits.carries.settled _ r
  | datagram data r =>
    rw [call]
    split_ifs
    · exact hself
    · obtain ⟨hcarries, hhand, -⟩ := accepts_accept aead h data r.validator r.accept r.acceptArm
      generalize s.accept aead data false r.validator r.accept r.acceptArm = result at hcarries hhand ⊢
      obtain ⟨t, answer⟩ := result
      apply hcarries.outcome
      match answer with
      | .ok none => exact outcome_afterAccept_none hcarries.settled r
      | .ok (some f) => exact outcome_afterAccept (hhand f rfl) r
      | .error (.protocol _) => exact outcome_afterAccept_none hcarries.settled r
      | .error .freshReopen => exact outcome_raise hcarries.settled _ _
      | .error .notOpen => exact outcome_raise hcarries.settled _ _
  | timeout r =>
    rw [call]
    split_ifs
    · exact hself
    · exact outcome_raise h _ _
    · have hadmits := admits_admitPendingControl h r
      apply hadmits.carries.outcome
      dsimp only
      cases (s.admitPendingControl r).2.raised with
      | some failure => exact outcome_raise hadmits.carries.settled _ _
      | none =>
        have hgap := carries_gap hadmits.carries.settled
        apply hgap.outcome
        exact outcome_deliver hgap.settled fun _ => outcome_await hgap.settled _ r
  | cancel => exact (carries_waiting h false).ends rfl (fun hw => nomatch hw)
  | close => exact absurd rfl hclose

theorem admitted_deliver {admitted : List MediaFrame} {next : UdpDownlink → UdpDownlink × Reply}
    (h : (next s).2.admitted = admitted) : (s.deliver admitted next).2.admitted = admitted := by
  rw [deliver]
  split
  · exact h
  · rfl

theorem admitted_await (s : UdpDownlink) (admitted : List MediaFrame) (r : Reads) :
    (s.await admitted r).2.admitted = admitted := by
  rw [await]
  split
  · rfl
  split
  · rfl
  exact admitted_deliver rfl

/-- Whatever a wait begins with that is held is returned or held at its end. -/
theorem held_deliver_await {admitted : List MediaFrame} {r : Reads} (h : Settled returned s)
    (hheld : ∀ f ∈ admitted, s.Holds f) :
    ∀ f ∈ (s.deliver admitted fun s => s.await admitted r).2.admitted,
      (s.deliver admitted fun s => s.await admitted r).1.Holds f ∨
        (s.deliver admitted fun s => s.await admitted r).2.returned = some f := by
  intro f hf
  rw [admitted_deliver (admitted_await s admitted r)] at hf
  exact (outcome_deliver h fun _ => outcome_await h admitted r).holds f (hheld f hf)

/-- The gap before the least number buffered ends before a number, and what follows it
without another gap carries no audio. -/
def ReleasesNothing (s : UdpDownlink) (n : Nat) : Prop :=
  ∀ first ∈ s.pending.min?, ∀ m ∈ s.pending, (∀ k ≤ m, first ≤ k → k ∈ s.pending) → m ∈ s.nonAudioSequences ∧ m < n

/-- The frame of a datagram that is admitted as audio. -/
def admittedAudio (aead : AesGcm) (s : UdpDownlink) (data : Bytes) (r : Reads) : Option MediaFrame :=
  match (s.accept aead data false r.validator r.accept r.acceptArm).2 with
  | .ok (some frame) => if frame.flags = .audio then some frame else none
  | _ => none

/-- No audio frame is admitted when the deadline of a gap before it has passed, unless the
release of that gap neither gives a frame nor passes over its number. -/
def Kept (aead : AesGcm) (s : UdpDownlink) : Event → Prop
  | .datagram data r =>
    s.waiting = true ∧ ∀ frame ∈ s.admittedAudio aead data r, s.expectedDownlink ≤ frame.sequence →
      s.reorderDeadlineAt.any (· ≤ r.expire) = true → s.ReleasesNothing frame.sequence
  | .timeout _ => s.waiting = true
  | .close => False
  | _ => True

theorem releaseLoop_nothing (fuel : Nat)
    (h : ∀ m, s.Buffered m → (∀ k ≤ m, s.expectedDownlink ≤ k → s.Buffered k) → s.expectedDownlink ≤ m →
      m ∈ s.nonAudioSequences ∧ m < n) (hn : s.expectedDownlink ≤ n) :
    (releaseLoop fuel s).ready = s.ready ∧ (releaseLoop fuel s).expectedDownlink ≤ n := by
  have hsettle : ∀ s : UdpDownlink, s.settleDeadline.ready = s.ready ∧
      s.settleDeadline.expectedDownlink = s.expectedDownlink := by
    intro s
    rw [settleDeadline]
    split_ifs
    · exact ⟨rfl, rfl⟩
    · exact ⟨rfl, rfl⟩
  induction fuel generalizing s with
  | zero =>
    rw [releaseLoop, (hsettle s).1, (hsettle s).2]
    exact ⟨rfl, hn⟩
  | succ fuel ih =>
    have hself : s.Buffered s.expectedDownlink → s.expectedDownlink ∈ s.nonAudioSequences ∧ s.expectedDownlink < n := by
      intro hb
      refine h _ hb (fun k hle hge => ?_) le_rfl
      obtain rfl : k = s.expectedDownlink := by omega
      exact hb
    rw [releaseLoop]
    split_ifs with hskip
    · obtain ⟨-, hlow⟩ := hself (.inr hskip)
      refine ih (s := s.skipNumber) ?_ hlow
      have hback : ∀ k, s.skipNumber.Buffered k → s.Buffered k := fun k hk => hk.imp_right List.mem_of_mem_erase
      intro m hm hall hge
      have hne : m ≠ s.expectedDownlink := by
        rintro rfl
        exact absurd hge (Nat.not_succ_le_self _)
      have hfull : ∀ k ≤ m, s.expectedDownlink ≤ k → s.Buffered k := by
        intro k hle hk
        by_cases hfirst : k = s.expectedDownlink
        · exact .inr (hfirst ▸ hskip)
        · exact hback k (hall k hle (Nat.lt_of_le_of_ne hk (Ne.symm hfirst)))
      obtain ⟨hnon, hless⟩ := h m (hback m hm) hfull (Nat.le_of_succ_le hge)
      exact ⟨(List.mem_erase_of_ne hne).mpr hnon, hless⟩
    · cases hget : s.reorder.get? s.expectedDownlink with
      | some f => exact absurd (hself (.inl (by rw [hget]; rfl))).1 hskip
      | none =>
        dsimp only
        rw [(hsettle s).1, (hsettle s).2]
        exact ⟨rfl, hn⟩

theorem releaseOverdue_nothing {now : Time} (hn : s.expectedDownlink ≤ n)
    (h : s.reorderDeadlineAt.any (· ≤ now) = true → s.ReleasesNothing n) :
    (s.releaseOverdue now).ready = s.ready ∧ (s.releaseOverdue now).expectedDownlink ≤ n := by
  rw [releaseOverdue]
  split_ifs with hdue
  · rw [releaseGap]
    cases hfirst : s.pending.min? with
    | none => exact ⟨rfl, hn⟩
    | some first =>
      have hnothing := h hdue first hfirst
      have hmem := fun k => mem_pending (s := s) (n := k)
      have hb := (first_spec hfirst).1
      refine releaseLoop_nothing (s := s.skipTo first) _ ?_ ?_
      · intro m hm hall _
        exact hnothing m ((hmem m).mpr hm) fun k hle hk => (hmem k).mpr (hall k hle hk)
      · refine (hnothing first ((hmem first).mpr hb) fun k hle hk => ?_).2.le
        obtain rfl : k = first := by omega
        exact (hmem k).mpr hb
  · exact ⟨rfl, hn⟩

/-- A frame that is in hand when nothing is released in front of it is handed over. -/
theorem held_afterAccept {r : Reads} (h : InHand returned s f.sequence)
    (hclear : f.flags = .audio → s.expectedDownlink ≤ f.sequence →
      (s.releaseOverdue r.expire).ready = [] ∧ (s.releaseOverdue r.expire).expectedDownlink ≤ f.sequence)
    (hraised : (s.afterAccept (some f) r).2.raised ≠ some .freshReopen) :
    ∀ g ∈ (s.afterAccept (some f) r).2.admitted,
      (s.afterAccept (some f) r).1.Holds g ∨ (s.afterAccept (some f) r).2.returned = some g := by
  rw [afterAccept] at hraised ⊢
  cases hexpire : s.expireReceiveDeadlines r.expire with
  | none =>
    rw [hexpire] at hraised
    exact absurd rfl hraised
  | some t =>
    rw [hexpire, expireReceiveDeadlines_eq hexpire] at hraised
    rw [expireReceiveDeadlines_eq hexpire]
    have hcarries := carries_overdue h.settled r.expire
    have hhand := h.overdue r.expire
    by_cases haudio : f.flags = .audio
    · have hcounted : (((some f).filter fun f => f.flags = .audio).map s.counted).getD [] = s.counted f := by
        simp [Option.filter, haudio]
      simp only [hcounted, haudio, ne_eq, not_true_eq_false, if_false] at hraised ⊢
      by_cases hlow : s.expectedDownlink ≤ f.sequence
      · obtain ⟨hready, honward⟩ := hclear haudio hlow
        rw [deliver, hready] at hraised ⊢
        dsimp only at hraised ⊢
        cases hbuffer : (s.releaseOverdue r.expire).buffer f r.fresh r.arm with
        | none =>
          rw [hbuffer] at hraised
          exact absurd rfl hraised
        | some t =>
          obtain ⟨hbuffered, hheld⟩ := carries_buffer hhand hbuffer
          refine held_deliver_await hbuffered.settled fun g hg => ?_
          obtain rfl := eq_of_mem_counted hg
          exact hheld honward
      · have hnone : s.counted f = [] := by rw [counted, if_pos (Nat.lt_of_not_le hlow)]
        rw [hnone]
        intro g hg
        rw [admitted_deliver] at hg
        · cases hg
        · cases (s.releaseOverdue r.expire).buffer f r.fresh r.arm with
          | none => rfl
          | some t => exact admitted_deliver (admitted_await t _ r)
    · have hnone : (((some f).filter fun f => f.flags = .audio).map s.counted).getD [] = [] := by
        simp [Option.filter, haudio]
      simp only [hnone, ne_eq, haudio, not_false_eq_true, if_true]
      intro g hg
      rw [admitted_deliver (admitted_deliver (admitted_await _ _ r))] at hg
      cases hg

theorem admitted_afterAccept_none (s : UdpDownlink) (r : Reads) : (s.afterAccept none r).2.admitted = [] := by
  rw [afterAccept]
  cases s.expireReceiveDeadlines r.expire with
  | none => rfl
  | some t => exact admitted_deliver (admitted_await t _ r)

/-- Under the condition whatever a call admits is held afterwards, or returned at once. -/
theorem held_call (aead : AesGcm) (h : Settled returned s) (hidle : s.waiting = true → s.ready = []) {e : Event}
    (hkept : s.Kept aead e) (hraised : (s.call aead e).2.raised ≠ some .freshReopen) :
    ∀ f ∈ (s.call aead e).2.admitted, (s.call aead e).1.Holds f ∨ (s.call aead e).2.returned = some f := by
  have hnone : ∀ result : UdpDownlink × Reply, result.2.admitted = [] →
      ∀ f ∈ result.2.admitted, result.1.Holds f ∨ result.2.returned = some f := by
    intro result hnil f hf
    rw [hnil] at hf
    cases hf
  cases e with
  | receive r =>
    rw [call] at hraised ⊢
    split_ifs at hraised ⊢
    · exact fun f hf => (List.not_mem_nil hf).elim
    · exact hnone _ rfl
    · exact hnone _ rfl
    · have hadmits := admits_admitPendingControl h r
      generalize s.admitPendingControl r = result at hadmits hraised ⊢
      obtain ⟨t, reply⟩ := result
      dsimp only at hadmits hraised ⊢
      cases hfailure : reply.raised with
      | some failure =>
        rw [hfailure] at hraised
        have hheld := hadmits.held (by rw [hfailure]; exact hraised)
        exact fun f hf => .inl (hheld f hf)
      | none =>
        have hheld := hadmits.held (by simp [hfailure])
        exact held_deliver_await hadmits.carries.settled hheld
  | datagram data r =>
    obtain ⟨hwaiting, hclear⟩ := hkept
    rw [call, if_neg (by simp [hwaiting])] at hraised ⊢
    obtain ⟨hcarries, hhand, hsame⟩ := accepts_accept aead h data r.validator r.accept r.acceptArm
    have haudio : ∀ f, (s.accept aead data false r.validator r.accept r.acceptArm).2 = .ok (some f) →
        f.flags = .audio → f ∈ s.admittedAudio aead data r := by
      intro f hf hflags
      rw [admittedAudio, hf]
      dsimp only
      rw [if_pos hflags]
      rfl
    generalize s.accept aead data false r.validator r.accept r.acceptArm = result
      at hcarries hhand hsame haudio hraised ⊢
    obtain ⟨t, answer⟩ := result
    match answer with
    | .ok none => exact hnone _ (admitted_afterAccept_none t r)
    | .ok (some f) =>
      refine held_afterAccept (hhand f rfl) (fun hflags hlow => ?_) hraised
      obtain ⟨p, replay, rfl⟩ : ∃ p replay, t = _ := hsame f rfl
      obtain ⟨hready, honward⟩ := releaseOverdue_nothing hlow (hclear f (haudio f rfl hflags) hlow)
      exact ⟨hready.trans (hidle hwaiting), honward⟩
    | .error (.protocol _) => exact hnone _ (admitted_afterAccept_none t r)
    | .error .freshReopen => exact hnone _ rfl
    | .error .notOpen => exact hnone _ rfl
  | timeout r =>
    rw [call] at hraised ⊢
    split_ifs at hraised ⊢
    · exact fun f hf => (List.not_mem_nil hf).elim
    · exact hnone _ rfl
    · have hadmits := admits_admitPendingControl h r
      generalize s.admitPendingControl r = result at hadmits hraised ⊢
      obtain ⟨t, reply⟩ := result
      dsimp only at hadmits hraised ⊢
      cases hfailure : reply.raised with
      | some failure =>
        rw [hfailure] at hraised
        have hheld := hadmits.held (by rw [hfailure]; exact hraised)
        exact fun f hf => .inl (hheld f hf)
      | none =>
        have hheld := hadmits.held (by simp [hfailure])
        have hgap := carries_gap hadmits.carries.settled
        exact held_deliver_await hgap.settled fun f hf => hgap.holds f (hheld f hf)
  | cancel => exact hnone _ rfl
  | close => exact hkept.elim

/-- A wait that runs out brings every frame nearer that is held. -/
theorem timeout_nearer (aead : AesGcm) (h : Settled returned s) {r : Reads} (hwaiting : s.waiting = true)
    (hraised : (s.call aead (.timeout r)).2.raised = none) (hf : s.Holds f)
    (ht : (s.call aead (.timeout r)).1.Holds f) : (s.call aead (.timeout r)).1.rank f < s.rank f := by
  rw [call, if_neg (by simp [hwaiting])] at hraised ht ⊢
  split_ifs at hraised ht ⊢ with hdue
  · cases hraised
  · have hadmits := admits_admitPendingControl h r
    generalize s.admitPendingControl r = result at hadmits hraised ht ⊢
    obtain ⟨t, reply⟩ := result
    dsimp only at hadmits hraised ht ⊢
    cases hfailure : reply.raised with
    | some failure =>
      rw [hfailure] at hraised
      cases hraised
    | none =>
      rw [hfailure] at ht
      dsimp only at ht ⊢
      have hsettled := hadmits.carries.settled
      have hheld := hadmits.carries.holds f hf
      have hbefore := hadmits.carries.rank f hf
      have hgap := carries_gap hsettled
      obtain ⟨hrel, -, hnear⟩ := released_gap hsettled.ordered hsettled.strict
      have hout : Outcome returned t.releaseGap
          (t.releaseGap.deliver reply.admitted fun s => s.await reply.admitted r).1
          (t.releaseGap.deliver reply.admitted fun s => s.await reply.admitted r).2 :=
        outcome_deliver hgap.settled fun _ => outcome_await hgap.settled reply.admitted r
      have hafter := hout.rank f (hgap.holds f hheld) ht
      cases hready : t.releaseGap.ready with
      | cons g ready =>
        rw [deliver, hready] at hafter ⊢
        have := hrel.rank f hheld
        simp only [Option.toList_some, List.length_singleton] at hafter ⊢
        omega
      | nil =>
        have hmine : t.reorder.get? f.sequence = some f := by
          obtain hlost | hleft := hrel.holds f hheld
          · rw [hready] at hlost
            cases hlost
          · obtain hearly | hmine := hheld
            · have hlow := hsettled.ordered.below f (List.mem_append_right _ hearly)
              have hhigh := hsettled.ordered.above _ (hrel.buffered f.sequence (.inl (by rw [hleft]; rfl)))
              omega
            · exact hmine
        have := hnear f hmine
        omega

/-- The frames returned in a run, and those it admits. -/
def returnedIn (es : List (Event × Reply)) : List MediaFrame := es.flatMap fun e => e.2.returned.toList

def admittedIn (es : List (Event × Reply)) : List MediaFrame := es.flatMap fun e => e.2.admitted

/-- The calls that return a frame or come to the end of a wait. -/
def advancing (e : Event × Reply) : Bool :=
  e.2.returned.isSome || match e.1 with
    | .timeout _ => e.2.raised = none
    | _ => false

/-- The condition, for a call that does not end in `FreshReopenRequired`. -/
def Undisturbed (aead : AesGcm) (s : UdpDownlink) (e : Event) : Prop :=
  s.Kept aead e ∧ (s.call aead e).2.raised ≠ some .freshReopen

def KeptStep (aead : AesGcm) (s : UdpDownlink) (e : Event × Reply) (t : UdpDownlink) : Prop :=
  s.Undisturbed aead e.1 ∧ Answers (call aead) s e t

/-- What is true after every run from `open`. -/
structure Sound (returned : List MediaFrame) (s : UdpDownlink) : Prop where
  settled : Settled returned s
  idle : s.waiting = true → s.ready = []
  few : s.buffered < 4

theorem sound_call (aead : AesGcm) (h : Sound returned s) (e : Event) :
    Sound (returned ++ (s.call aead e).2.returned.toList) (s.call aead e).1 := by
  by_cases hclose : e = .close
  · subst hclose
    obtain ⟨⟨⟨-, -, -, -, hsorted, hbelow⟩, -, -, hspent⟩, -, -⟩ := h
    have hempty : ∀ n, ¬(s.call aead .close).1.Buffered n := fun n => not_buffered_of_zero rfl n
    have hkeep : ∀ f ∈ returned ++ [] ++ [], f ∈ returned ++ s.ready := by
      intro f hf
      rw [List.append_nil, List.append_nil] at hf
      exact List.mem_append_left _ hf
    constructor
    case settled =>
      constructor
      case ordered =>
        refine ⟨fun _ _ hf => (nomatch hf), fun _ hn => (nomatch hn), List.nodup_nil, fun n hn => (hempty n hn).elim,
          ?_, fun f hf => hbelow f (hkeep f hf)⟩
        rw [List.pairwise_append] at hsorted
        simpa [call] using hsorted.1
      case strict => exact hempty _
      case armed => exact fun hne => absurd rfl hne
      case spent => exact hspent.mono fun n hn => (hempty n hn).elim
    case idle => exact fun _ => rfl
    case few => exact Nat.zero_lt_succ 3
  · have hout := outcome_call aead h.settled h.idle hclose
    exact ⟨hout.settled, hout.idle, hout.few h.few⟩

theorem returnedIn_snoc (es : List (Event × Reply)) (e : Event × Reply) :
    returnedIn (es ++ [e]) = returnedIn es ++ e.2.returned.toList := by
  rw [returnedIn, List.flatMap_append, List.flatMap_singleton]
  rfl

theorem admittedIn_snoc (es : List (Event × Reply)) (e : Event × Reply) :
    admittedIn (es ++ [e]) = admittedIn es ++ e.2.admitted := by
  rw [admittedIn, List.flatMap_append, List.flatMap_singleton]
  rfl

theorem sound_run {aead : AesGcm} {es : List (Event × Reply)} (hrun : Run (Answers (call aead)) s es t)
    (hs : Sound [] s) : Sound (returnedIn es) t := by
  refine hrun.invariant (R := fun es t => Sound (returnedIn es) t) hs ?_
  intro es t e u _ ht he
  have hstep := sound_call aead ht e.1
  rw [show t.call aead e.1 = (u, e.2) from he] at hstep
  rw [returnedIn_snoc]
  exact hstep

/-- A frame that was returned is not held any more. -/
theorem Settled.not_holds (h : Settled returned s) (hf : f ∈ returned) : ¬s.Holds f := by
  rintro (hready | hbuffered)
  · have hsorted := (List.pairwise_append.mp h.ordered.sorted).2.2 f hf f hready
    exact lt_irrefl _ hsorted
  · have hlow := h.ordered.below f (List.mem_append_left _ hf)
    have hhigh := h.ordered.above f.sequence (.inl (by rw [hbuffered]; rfl))
    omega

/-- A step brings what is held nearer if it returns a frame or ends a wait. -/
theorem nearer_call (aead : AesGcm) (h : Sound returned s) {e : Event × Reply} (hstep : KeptStep aead s e t)
    (hf : s.Holds f) : e.2.returned = some f ∨ t.Holds f ∧ t.rank f + (if advancing e then 1 else 0) ≤ s.rank f := by
  obtain ⟨⟨hkept, -⟩, hcall⟩ := hstep
  obtain ⟨c, reply⟩ := e
  have hcall' : s.call aead c = (t, reply) := hcall
  have hclose : c ≠ .close := by
    rintro rfl
    exact hkept
  have hout := outcome_call aead h.settled h.idle hclose
  rw [hcall'] at hout
  obtain hstay | hmine := hout.holds f hf
  · refine .inr ⟨hstay, ?_⟩
    have hrank := hout.rank f hf hstay
    dsimp only at hrank hstay
    cases hreturned : reply.returned with
    | some g =>
      rw [hreturned, Option.toList_some, List.length_singleton] at hrank
      split_ifs
      · exact hrank
      · exact Nat.le_of_succ_le hrank
    | none =>
      split_ifs with hadvance
      · cases c with
        | timeout r =>
          have hraised : reply.raised = none := by simpa [advancing, hreturned] using hadvance
          have hnearer := timeout_nearer aead h.settled (r := r) (f := f) hkept
          rw [hcall'] at hnearer
          exact hnearer hraised hf hstay
        | receive r => simp [advancing, hreturned] at hadvance
        | datagram data r => simp [advancing, hreturned] at hadvance
        | cancel => simp [advancing, hreturned] at hadvance
        | close => exact absurd rfl hclose
      · exact le_of_add_le_left hrank
  · exact .inl hmine

/-- A transport that has just been opened, its probe acknowledged. -/
def opened (maxMediaAge : Time) (mediaId : Bytes) (mediaEpoch : Nat) (key salt : Bytes) : UdpDownlink :=
  { maxMediaAge := maxMediaAge, mediaId := mediaId, mediaEpoch := mediaEpoch, key := key, salt := salt,
    replay := ({} : ReplayWindow).commit 0 }

theorem sound_opened (maxMediaAge : Time) (mediaId : Bytes) (mediaEpoch : Nat) (key salt : Bytes) :
    Sound [] (opened maxMediaAge mediaId mediaEpoch key salt) := by
  have hempty : ∀ n, ¬(opened maxMediaAge mediaId mediaEpoch key salt).Buffered n :=
    fun n => not_buffered_of_zero rfl n
  constructor
  case settled =>
    constructor
    case ordered =>
      exact ⟨fun _ _ hf => (nomatch hf), fun _ hn => (nomatch hn), List.nodup_nil, fun n hn => (hempty n hn).elim,
        List.Pairwise.nil, fun _ hf => (nomatch hf)⟩
    case strict => exact hempty _
    case armed => exact fun hne => absurd rfl hne
    case spent => exact (ReplayWindow.marks_start.commit 0).mono fun n hn => (hempty n hn).elim
  case idle => exact fun _ => rfl
  case few => exact Nat.zero_lt_succ 3

/-- A stretch under the condition: what was held at its start, or admitted in it, is
returned in it or held still, and nearer with every call that advances. -/
theorem kept_run {aead : AesGcm} {fs : List (Event × Reply)} (hs : Sound returned s) (hrun : Run (KeptStep aead) s fs t) :
    Sound (returned ++ returnedIn fs) t ∧ (∀ f ∈ admittedIn fs, f ∈ returnedIn fs ∨ t.Holds f) ∧
      ∀ f, s.Holds f → f ∈ returnedIn fs ∨ t.Holds f ∧ t.rank f + fs.countP advancing ≤ s.rank f := by
  refine hrun.invariant (R := fun fs t => Sound (returned ++ returnedIn fs) t ∧
    (∀ f ∈ admittedIn fs, f ∈ returnedIn fs ∨ t.Holds f) ∧
    ∀ f, s.Holds f → f ∈ returnedIn fs ∨ t.Holds f ∧ t.rank f + fs.countP advancing ≤ s.rank f) ?_ ?_
  · refine ⟨by simpa [returnedIn] using hs, fun f hf => (nomatch hf), fun f hf => .inr ⟨hf, le_rfl⟩⟩
  · rintro fs t e u - ⟨hsound, hadmitted, hheld⟩ hstep
    have hcall' : t.call aead e.1 = (u, e.2) := hstep.2
    have hnext := sound_call aead hsound e.1
    have hnew := held_call aead hsound.settled hsound.idle hstep.1.1 hstep.1.2
    rw [hcall'] at hnext hnew
    rw [returnedIn_snoc, admittedIn_snoc, ← List.append_assoc]
    refine ⟨hnext, ?_, ?_⟩
    · intro f hf
      rw [List.mem_append, Option.mem_toList, or_assoc]
      obtain hf | hf := List.mem_append.mp hf
      · obtain hdone | hstill := hadmitted f hf
        · exact .inl hdone
        · obtain hmine | ⟨hstay, -⟩ := nearer_call aead hsound hstep hstill
          · exact .inr (.inl hmine)
          · exact .inr (.inr hstay)
      · obtain hstay | hmine := hnew f hf
        · exact .inr (.inr hstay)
        · exact .inr (.inl hmine)
    · intro f hf
      rw [List.mem_append, Option.mem_toList, or_assoc, List.countP_append, List.countP_singleton]
      obtain hdone | ⟨hstill, hrank⟩ := hheld f hf
      · exact .inl hdone
      · obtain hmine | ⟨hstay, hnear⟩ := nearer_call aead hsound hstep hstill
        · exact .inr (.inl hmine)
        · refine .inr (.inr ⟨hstay, ?_⟩)
          omega

/-- From `open` on, the frames come in the order of their numbers and less than four
numbers are buffered, whatever is called; and from any state on, as long as the calls meet
the condition, every frame that is admitted is returned exactly once or is held, and then
comes nearer with every call that advances. -/
theorem no_frame_lost (aead : AesGcm) (maxMediaAge : Time) (mediaId : Bytes) (mediaEpoch : Nat) (key salt : Bytes)
    {es fs : List (Event × Reply)} {s t : UdpDownlink}
    (hrun : Run (Answers (call aead)) (opened maxMediaAge mediaId mediaEpoch key salt) es s)
    (hkept : Run (KeptStep aead) s fs t) :
    (returnedIn (es ++ fs)).Pairwise (fun f g => f.sequence < g.sequence) ∧
    t.buffered < 4 ∧
    (∀ u : UdpDownlink, u.buffered < 4 → (∀ n now, (u.bufferNonAudio n now).buffered < 4) ∧
      ∀ f now armNow v, u.buffer f now armNow = some v → v.buffered < 4) ∧
    (∀ f ∈ admittedIn fs, (returnedIn (es ++ fs)).count f = 1 ∧ ¬t.Holds f ∨
      (returnedIn (es ++ fs)).count f = 0 ∧ t.Holds f) ∧
    (∀ f, s.Holds f → f ∈ returnedIn fs ∨ t.Holds f ∧ t.rank f + fs.countP advancing ≤ s.rank f) ∧
    (t.buffered ≠ 0 → t.reorderDeadlineAt.isSome) := by
  have hs := sound_run hrun (sound_opened maxMediaAge mediaId mediaEpoch key salt)
  obtain ⟨hsound, hadmitted, hheld⟩ := kept_run hs hkept
  have hall : returnedIn (es ++ fs) = returnedIn es ++ returnedIn fs := List.flatMap_append
  rw [← hall] at hsound
  have hsorted := (List.pairwise_append.mp hsound.settled.ordered.sorted).1
  refine ⟨hsorted, hsound.few, ?_, ?_, hheld, hsound.settled.armed⟩
  · exact fun u hu => ⟨fun n now => bufferNonAudio_few hu n now, fun f now armNow v hv => buffer_few hu hv⟩
  · intro f hf
    obtain hdone | hstill := hadmitted f hf
    · have hmem : f ∈ returnedIn (es ++ fs) := by
        rw [hall]
        exact List.mem_append_right _ hdone
      have hnodup : (returnedIn (es ++ fs)).Nodup := hsorted.imp fun hlt heq => by
        rw [heq] at hlt
        exact lt_irrefl _ hlt
      exact .inl ⟨List.count_eq_one_of_mem hnodup hmem, hsound.settled.not_holds hmem⟩
    · refine .inr ⟨List.count_eq_zero.mpr fun hmem => ?_, hstill⟩
      exact hsound.settled.not_holds hmem hstill

end

section Example

/-- The audio frame of a number, and the datagram that carries it. -/
def demoFrame (sequence : Nat) : MediaFrame :=
  { flags := .audio, mediaId := List.replicate 8 1, mediaEpoch := 1, sequence := sequence, timestamp := 0,
    generation := 1, payload := [9] }

def demoAudio (sequence : UInt8) : Bytes :=
  [0x56, 0x41, 1, 1] ++ List.replicate 8 1 ++ [0, 0, 0, 1] ++ [0, 0, 0, sequence] ++ [0, 0, 0, 0] ++ [0, 0, 0, 1] ++
    [0, 0, 0, 1] ++ [9] ++ demoKey

def demoReadsAt (now : Time) : Reads :=
  { validator := some fun _ => .ok true, refreshDue := false, refreshDueAtTop := false, admission := now,
    admissionFresh := fun _ => now, admissionArm := fun _ => now, accept := now, acceptArm := now, expire := now,
    fresh := now, arm := now, top := now }

def demoOpened : UdpDownlink := opened 1 (List.replicate 8 1) 1 demoKey []

/-- A frame comes when the deadline of the gap before it has passed. -/
def lateCalls : List Event :=
  [.receive (demoReadsAt 0), .datagram (demoAudio 2) (demoReadsAt 0), .datagram (demoAudio 3) (demoReadsAt 1)]

/-- The frame that comes then is admitted, and its number used up, and it is lost: the
call returns the frame before it. -/
theorem late_frame_lost :
    (∀ e ∈ history (call demoGcm) demoOpened lateCalls, e.2.raised = none) ∧
    demoFrame 3 ∈ admittedIn (history (call demoGcm) demoOpened lateCalls) ∧
    demoFrame 3 ∉ returnedIn (history (call demoGcm) demoOpened lateCalls) ∧
    ¬(after (call demoGcm) demoOpened lateCalls).Holds (demoFrame 3) ∧
    (after (call demoGcm) demoOpened lateCalls).replay.acceptable 3 = false := by
  refine ⟨by decide +kernel, by decide +kernel, by decide +kernel, ?_, by decide +kernel⟩
  unfold Holds
  decide +kernel

instance (s : UdpDownlink) (n : Nat) : Decidable (s.ReleasesNothing n) :=
  inferInstanceAs (Decidable (∀ first ∈ s.pending.min?, ∀ m ∈ s.pending,
    (∀ k ≤ m, first ≤ k → k ∈ s.pending) → m ∈ s.nonAudioSequences ∧ m < n))

instance decidableKept (aead : AesGcm) (s : UdpDownlink) : ∀ e, Decidable (s.Kept aead e)
  | .receive _ => .isTrue trivial
  | .datagram data r =>
    inferInstanceAs (Decidable (s.waiting = true ∧ ∀ frame ∈ s.admittedAudio aead data r,
      s.expectedDownlink ≤ frame.sequence → s.reorderDeadlineAt.any (· ≤ r.expire) = true →
        s.ReleasesNothing frame.sequence))
  | .timeout _ => inferInstanceAs (Decidable (s.waiting = true))
  | .cancel => .isTrue trivial
  | .close => .isFalse id

instance (aead : AesGcm) (s : UdpDownlink) (e : Event) : Decidable (s.Undisturbed aead e) :=
  inferInstanceAs (Decidable (_ ∧ _))

/-- A frame comes after the one behind it but in time, and a gap is given up. -/
def timelyCalls : List Event :=
  [.receive (demoReadsAt 0), .datagram (demoAudio 2) (demoReadsAt 0), .datagram (demoAudio 1) (demoReadsAt (1 / 2)),
   .receive (demoReadsAt (1 / 2)), .receive (demoReadsAt (1 / 2)), .datagram (demoAudio 4) (demoReadsAt (1 / 2)),
   .timeout (demoReadsAt 2)]

theorem no_frame_lost_timely :
    returnedIn (history (call demoGcm) demoOpened timelyCalls) = [demoFrame 1, demoFrame 2, demoFrame 4] ∧
      ∀ f ∈ admittedIn (history (call demoGcm) demoOpened timelyCalls),
        (returnedIn (history (call demoGcm) demoOpened timelyCalls)).count f = 1 ∧
            ¬(after (call demoGcm) demoOpened timelyCalls).Holds f ∨
          (returnedIn (history (call demoGcm) demoOpened timelyCalls)).count f = 0 ∧
            (after (call demoGcm) demoOpened timelyCalls).Holds f := by
  have halong : Along (fun s e => s.Undisturbed demoGcm e) (call demoGcm) demoOpened timelyCalls := by decide +kernel
  have hall := no_frame_lost demoGcm 1 (List.replicate 8 1) 1 demoKey [] .nil (run_history_along halong)
  exact ⟨by decide +kernel, hall.2.2.2.1⟩

end Example

end UdpDownlink

end RealtimeVoice.Desktop
