import RealtimeVoice.Base.Runs
import RealtimeVoice.Base.Numbering
import RealtimeVoice.Udp.Wire

namespace RealtimeVoice.Desktop

open RealtimeVoice.Base.Runs RealtimeVoice.Base.Numbering RealtimeVoice.Udp

structure MediaFrame where
  flags : Flag
  mediaId : List UInt8
  mediaEpoch : Nat
  sequence : Nat
  timestamp : Nat
  generation : Nat
  payload : List UInt8 := []
deriving DecidableEq

/-- `header` packs the frame; otherwise it raises. -/
def MediaFrame.headerValid (f : MediaFrame) : Bool :=
  f.flags ≠ .unknown && f.mediaId.length = 8 && 1 ≤ f.mediaEpoch && f.mediaEpoch ≤ 0xFFFFFFFF &&
    f.sequence ≤ 0xFFFFFFFF && f.timestamp ≤ 0xFFFFFFFF && f.generation ≤ 0xFFFFFFFF && f.payload.length ≤ 1200 &&
    !(f.flags = .audio && f.payload = []) && !(f.flags ≠ .audio && f.payload ≠ []) &&
    !(f.flags ≠ .audio && f.generation ≠ 0)

/-- The sending side of `UdpMediaTransport` from the moment `open` has its port and
ciphers: `isOpen` says that they are there, and `probe` is the datagram of `_probe` while
it runs. Everything sent is encrypted under the uplink key and salt of the one grant. -/
structure UdpUplink where
  isOpen : Bool
  mediaId : List UInt8
  mediaEpoch : Nat
  nextUplink : Nat := 0
  probe : Option MediaFrame
deriving DecidableEq

/-- What one call of `_send` meets: whether a fresh reopen is due, and whether encryption
and socket succeed. -/
structure SendReads where
  refreshDue : Bool
  encrypts : Bool
  sends : Bool
deriving DecidableEq

inductive SendResult
  | done | sent | notOpen | freshReopen | invalidFrame | encryptionFailed | socketFailed
deriving DecidableEq

namespace UdpUplink

def close (s : UdpUplink) : UdpUplink := { s with isOpen := false, probe := none }

/-- `open` up to the first round of `_probe`, which encodes its datagram first. -/
def opened (mediaId : List UInt8) (mediaEpoch : Nat) (encrypts : Bool) : UdpUplink :=
  let probe : MediaFrame :=
    { flags := .probe, mediaId := mediaId, mediaEpoch := mediaEpoch, sequence := 0, timestamp := 0, generation := 0 }
  let s : UdpUplink := { isOpen := true, mediaId := mediaId, mediaEpoch := mediaEpoch, probe := some probe }
  if probe.headerValid && encrypts then s else s.close

def frame (s : UdpUplink) (flags : Flag) (payload : List UInt8) (timestamp generation : Nat) : MediaFrame :=
  { flags := flags, mediaId := s.mediaId, mediaEpoch := s.mediaEpoch, sequence := s.nextUplink,
    timestamp := timestamp, generation := generation, payload := payload }

/-- Why a frame does not get as far as the socket. -/
def refusal (s : UdpUplink) (frame : MediaFrame) (r : SendReads) : Option SendResult :=
  if s.isOpen = false then some .notOpen
  else if r.refreshDue then some .freshReopen
  else if s.nextUplink > 0xFFFFFFFF then some .freshReopen
  else if frame.headerValid = false then some .invalidFrame
  else if r.encrypts = false then some .encryptionFailed
  else none

/-- `_send` behind the freshness check of its callers. The counter moves after the
socket has taken the datagram. -/
def send (s : UdpUplink) (frame : MediaFrame) (r : SendReads) : UdpUplink × Option MediaFrame × SendResult :=
  match s.refusal frame r with
  | some result => (s, none, result)
  | none =>
    if r.sends = false then (s, some frame, .socketFailed)
    else ({ s with nextUplink := s.nextUplink + 1 }, some frame, .sent)

/-- The rounds of `_probe` with their ends, the calls of `_send`, and `close`. -/
inductive Call
  | probeSend (sends : Bool)
  | probeAccepted
  | probeFailed
  | send (flags : Flag) (payload : List UInt8) (timestamp generation : Nat) (reads : SendReads)
  | close
deriving DecidableEq

/-- A call, with the datagram it hands to the socket. An `open` that fails closes. -/
def call (s : UdpUplink) : Call → UdpUplink × Option MediaFrame × SendResult
  | .probeSend sends =>
    match s.probe with
    | none => (s, none, .done)
    | some probe => if sends then (s, some probe, .done) else (s.close, some probe, .socketFailed)
  | .probeAccepted =>
    match s.probe with
    | none => (s, none, .done)
    | some _ => ({ s with nextUplink := 1, probe := none }, none, .done)
  | .probeFailed =>
    match s.probe with
    | none => (s, none, .done)
    | some _ => (s.close, none, .done)
  | .send flags payload timestamp generation r => s.send (s.frame flags payload timestamp generation) r
  | .close => (s.close, none, .done)

abbrev Step := Answers call

abbrev Event := Call × Option MediaFrame × SendResult

def handed (es : List Event) : List MediaFrame := es.filterMap (fun e => e.2.1)

/-- The frame of the last `_send` at the socket, if the socket refused it. -/
def unsent (es : List Event) : Option MediaFrame :=
  es.foldl (fun last e =>
    match e with
    | (.send _ _ _ _ _, datagram, .socketFailed) => datagram
    | (.send _ _ _ _ _, _, .sent) => none
    | _ => last) none

/-- No frame goes to the socket before the probe is acknowledged, and after a frame
that the socket refused only the same frame again. -/
def Careful (es : List Event) (s : UdpUplink) : Call → Prop
  | .send flags payload timestamp generation r =>
    s.refusal (s.frame flags payload timestamp generation) r = none →
      s.probe = none ∧ ∀ f ∈ unsent es, f = s.frame flags payload timestamp generation
  | _ => True

variable {s s' s₀ : UdpUplink} {es : List Event} {e : Event}

theorem frame_sequence (s : UdpUplink) (flags : Flag) (payload : List UInt8) (timestamp generation : Nat) :
    (s.frame flags payload timestamp generation).sequence = s.nextUplink := rfl

theorem refusal_none {frame : MediaFrame} {r : SendReads} (h : s.refusal frame r = none) :
    s.isOpen = true ∧ s.nextUplink ≤ 0xFFFFFFFF := by
  rw [refusal] at h
  split at h
  · cases h
  split at h
  · cases h
  split at h
  · cases h
  next hopen _ hroom => exact ⟨Bool.not_eq_false _ ▸ hopen, not_lt.mp hroom⟩

/-- What is known about the frames handed out so far. The number of a frame that the
socket refused is the next one again. -/
structure Sent (s : UdpUplink) (last : Option MediaFrame) (sent : List MediaFrame) : Prop where
  numbered : Numbered MediaFrame.sequence sent
  bound : ∀ d ∈ sent, d.sequence ≤ 0xFFFFFFFF
  probing : ∀ p ∈ s.probe, p.sequence = 0 ∧ (∀ d ∈ sent, d = p) ∧ last = none
  below : s.isOpen = true → s.probe = none → ∀ d ∈ sent, d.sequence < s.nextUplink ∨
    d ∈ last ∧ d.sequence = s.nextUplink
  refused : ∀ f ∈ last, f ∈ sent

variable {last : Option MediaFrame} {sent : List MediaFrame}

theorem Sent.closed (h : Sent s last sent) : Sent s.close last sent where
  numbered := h.numbered
  bound := h.bound
  probing p hp := by cases hp
  below hopen := by cases hopen
  refused := h.refused

/-- The probe is the only datagram until it is acknowledged. -/
theorem Sent.probed (h : Sent s last sent) {p : MediaFrame} (hp : p ∈ s.probe) : Sent s last (sent ++ [p]) := by
  obtain ⟨hzero, hsame, hlast⟩ := h.probing p hp
  have hall : ∀ d ∈ sent ++ [p], d = p := by
    intro d hd
    rw [List.mem_append, List.mem_singleton] at hd
    exact hd.elim (hsame d) id
  refine ⟨.snoc h.numbered ?_, ?_, ?_, ?_, fun f hf => List.mem_append_left _ (h.refused f hf)⟩
  · cases sent with
    | nil => exact .inr (by simp)
    | cons d sent =>
      left
      rw [← hsame d List.mem_cons_self]
      exact List.mem_cons_self
  · intro d hd
    rw [hall d hd, hzero]
    exact Nat.zero_le _
  · intro q hq
    obtain rfl := Option.some.inj ((Option.mem_def.mp hp).symm.trans hq)
    exact ⟨hzero, hall, hlast⟩
  · intro _ hnone
    rw [Option.mem_def.mp hp] at hnone
    cases hnone

theorem Sent.accepted (h : Sent s last sent) {p : MediaFrame} (hp : p ∈ s.probe) :
    Sent { s with nextUplink := 1, probe := none } last sent := by
  obtain ⟨hzero, hsame, -⟩ := h.probing p hp
  refine ⟨h.numbered, h.bound, by simp, ?_, h.refused⟩
  intro _ _ d hd
  left
  rw [hsame d hd, hzero]
  exact Nat.zero_lt_one

/-- A frame at the socket has a new number, or it is the frame that was refused. -/
theorem Sent.framed (h : Sent s last sent) {f : MediaFrame} (hf : f.sequence = s.nextUplink) (hopen : s.isOpen = true)
    (hroom : s.nextUplink ≤ 0xFFFFFFFF) (hprobe : s.probe = none) (hlast : ∀ d ∈ last, d = f) :
    Sent s (some f) (sent ++ [f]) ∧ Sent { s with nextUplink := s.nextUplink + 1 } none (sent ++ [f]) := by
  have hmem : ∀ d ∈ sent ++ [f], d ∈ sent ∨ d = f := by
    intro d hd
    rwa [List.mem_append, List.mem_singleton] at hd
  have hbound : ∀ d ∈ sent ++ [f], d.sequence ≤ 0xFFFFFFFF := by
    intro d hd
    obtain hd | rfl := hmem d hd
    · exact h.bound d hd
    · rwa [hf]
  have hbelow : ∀ d ∈ sent ++ [f], d.sequence < s.nextUplink ∨ d = f := by
    intro d hd
    obtain hd | rfl := hmem d hd
    · exact (h.below hopen hprobe d hd).imp_right (fun hd => hlast d hd.1)
    · exact .inr rfl
  have hnumbered : Numbered MediaFrame.sequence (sent ++ [f]) := by
    apply Numbered.snoc h.numbered
    by_cases hsent : f ∈ sent
    · exact .inl hsent
    · right
      intro d hd
      obtain hlt | hrefused := h.below hopen hprobe d hd
      · omega
      · rw [hlast d hrefused.1] at hd
        exact absurd hd hsent
  refine ⟨⟨hnumbered, hbound, by simp [hprobe], ?_, ?_⟩, ⟨hnumbered, hbound, by simp [hprobe], ?_, by simp⟩⟩
  · intro _ _ d hd
    refine (hbelow d hd).imp_right (fun hd => ?_)
    rw [hd]
    exact ⟨rfl, hf⟩
  · intro d hd
    obtain rfl := Option.some.inj hd
    exact List.mem_append_right _ List.mem_cons_self
  · intro _ _ d hd
    left
    obtain hlt | rfl := hbelow d hd
    · exact Nat.lt_succ_of_lt hlt
    · exact hf ▸ Nat.lt_succ_self _

theorem unsent_snoc (es : List Event) (e : Event) :
    unsent (es ++ [e]) =
      match e with
      | (.send _ _ _ _ _, datagram, .socketFailed) => datagram
      | (.send _ _ _ _ _, _, .sent) => none
      | _ => unsent es := by
  rw [unsent, List.foldl_append]
  rfl

theorem sent_step (h : Sent s (unsent es) sent) (hcareful : Careful es s e.1) (hstep : Step s e s') :
    Sent s' (unsent (es ++ [e])) (sent ++ e.2.1.toList) := by
  obtain ⟨c, datagram, result⟩ := e
  have hcall : call s c = (s', datagram, result) := hstep
  cases c with
  | probeSend sends =>
    rw [unsent_snoc]
    rw [call] at hcall
    cases hprobe : s.probe with
    | none =>
      simp only [hprobe, Prod.mk.injEq] at hcall
      obtain ⟨rfl, rfl, rfl⟩ := hcall
      simpa using h
    | some p =>
      simp only [hprobe] at hcall
      have hprobed := h.probed hprobe
      by_cases hsends : sends = true
      · rw [if_pos hsends, Prod.mk.injEq, Prod.mk.injEq] at hcall
        obtain ⟨rfl, rfl, rfl⟩ := hcall
        exact hprobed
      · rw [if_neg hsends, Prod.mk.injEq, Prod.mk.injEq] at hcall
        obtain ⟨rfl, rfl, rfl⟩ := hcall
        exact hprobed.closed
  | probeAccepted =>
    rw [unsent_snoc]
    rw [call] at hcall
    cases hprobe : s.probe with
    | none =>
      simp only [hprobe, Prod.mk.injEq] at hcall
      obtain ⟨rfl, rfl, rfl⟩ := hcall
      simpa using h
    | some p =>
      simp only [hprobe, Prod.mk.injEq] at hcall
      obtain ⟨rfl, rfl, rfl⟩ := hcall
      simpa using h.accepted hprobe
  | probeFailed =>
    rw [unsent_snoc]
    rw [call] at hcall
    cases hprobe : s.probe with
    | none =>
      simp only [hprobe, Prod.mk.injEq] at hcall
      obtain ⟨rfl, rfl, rfl⟩ := hcall
      simpa using h
    | some p =>
      simp only [hprobe, Prod.mk.injEq] at hcall
      obtain ⟨rfl, rfl, rfl⟩ := hcall
      simpa using h.closed
  | close =>
    rw [unsent_snoc]
    rw [call, Prod.mk.injEq, Prod.mk.injEq] at hcall
    obtain ⟨rfl, rfl, rfl⟩ := hcall
    simpa using h.closed
  | send flags payload timestamp generation r =>
    rw [call, send] at hcall
    cases hrefusal : s.refusal (s.frame flags payload timestamp generation) r with
    | some refused =>
      rw [hrefusal] at hcall
      simp only [Prod.mk.injEq] at hcall
      obtain ⟨rfl, rfl, rfl⟩ := hcall
      have hkeep : unsent (es ++ [(.send flags payload timestamp generation r, none, refused)]) = unsent es := by
        rw [unsent_snoc]
        rw [refusal] at hrefusal
        split at hrefusal
        · obtain rfl := Option.some.inj hrefusal
          rfl
        split at hrefusal
        · obtain rfl := Option.some.inj hrefusal
          rfl
        split at hrefusal
        · obtain rfl := Option.some.inj hrefusal
          rfl
        split at hrefusal
        · obtain rfl := Option.some.inj hrefusal
          rfl
        split at hrefusal
        · obtain rfl := Option.some.inj hrefusal
          rfl
        · cases hrefusal
      rw [hkeep]
      simpa using h
    | none =>
      rw [hrefusal] at hcall
      obtain ⟨hprobe, hlast⟩ := hcareful hrefusal
      obtain ⟨hopen, hroom⟩ := refusal_none hrefusal
      obtain ⟨hfailed, hsent⟩ := h.framed (frame_sequence s flags payload timestamp generation) hopen hroom hprobe hlast
      dsimp only at hcall
      by_cases hsends : r.sends = false
      · rw [if_pos hsends, Prod.mk.injEq, Prod.mk.injEq] at hcall
        obtain ⟨rfl, rfl, rfl⟩ := hcall
        rw [unsent_snoc]
        exact hfailed
      · rw [if_neg hsends, Prod.mk.injEq, Prod.mk.injEq] at hcall
        obtain ⟨rfl, rfl, rfl⟩ := hcall
        rw [unsent_snoc]
        exact hsent

theorem run_sent {mediaId : List UInt8} {mediaEpoch : Nat} {encrypts : Bool}
    (h : Run Step (opened mediaId mediaEpoch encrypts) es s)
    (hcareful : ∀ before e rest t, es = before ++ e :: rest → Run Step (opened mediaId mediaEpoch encrypts) before t →
      Careful before t e.1) : Sent s (unsent es) (handed es) := by
  induction h with
  | nil =>
    rw [opened]
    have hstart : Sent { isOpen := true, mediaId, mediaEpoch, probe := some ⟨.probe, mediaId, mediaEpoch, 0, 0, 0, []⟩ }
        none [] := ⟨.nil, by simp, by simp, by simp, by simp⟩
    split
    · exact hstart
    · exact hstart.closed
  | @snoc es t u e hrun hstep ih =>
    have hsnoc : handed (es ++ [e]) = handed es ++ e.2.1.toList := by
      rw [handed, handed, List.filterMap_append]
      cases hd : e.2.1 <;> simp [hd]
    rw [hsnoc]
    apply sent_step _ (hcareful es e [] t rfl hrun) hstep
    apply ih
    intro before f rest t' hes ht'
    exact hcareful before f (rest ++ [e]) t' (by rw [hes, List.append_assoc]; rfl) ht'

/-- The condition along the calls of a run. -/
def CarefulFrom : List Event → UdpUplink → List Call → Prop
  | _, _, [] => True
  | es, s, c :: cs => Careful es s c ∧ CarefulFrom (es ++ [(c, (s.call c).2)]) (s.call c).1 cs

theorem careful_history (es : List Event) {before rest : List Event} {cs : List Call} (h : CarefulFrom es s cs)
    (hes : history call s cs = before ++ e :: rest) (hrun : Run Step s before s') : Careful (es ++ before) s' e.1 := by
  induction cs generalizing es s before with
  | nil => simp [history] at hes
  | cons c cs ih =>
    rw [history] at hes
    cases before with
    | nil =>
      obtain rfl := hrun.of_nil
      obtain ⟨rfl, -⟩ := List.cons.inj hes
      rw [List.append_nil]
      exact h.1
    | cons f before =>
      obtain ⟨rfl, hes'⟩ := List.cons.inj hes
      obtain ⟨t, hstep, hrun'⟩ := Run.cons_iff.mp hrun
      obtain rfl : (s.call c).1 = t := congrArg Prod.fst hstep
      have hnext := ih (es ++ [(c, (s.call c).2)]) h.2 hes' hrun'
      rwa [List.append_assoc] at hnext

end UdpUplink

end RealtimeVoice.Desktop
