import RealtimeVoice.Firmware.UdpSession
import Mathlib

namespace RealtimeVoice.Firmware

open RealtimeVoice.Base.Runs RealtimeVoice.Firmware.Wire RealtimeVoice.Udp.ReplayWindow

/-- What an audio datagram, a buffered frame and a frame of the playout have in common. -/
structure Media where
  sequence : UInt32
  timestamp : UInt32
  generation : UInt32
  payload : Bytes
deriving DecidableEq

def Slot.media (slot : Slot) : Media := ⟨slot.sequence, slot.timestamp, slot.generation, slot.payload⟩

def FutureFrame.media (frame : FutureFrame) : Media :=
  ⟨frame.sequence, frame.timestamp, frame.generation, frame.payload⟩

def PlayoutFrame.media (frame : PlayoutFrame) : Media :=
  ⟨frame.sequence, frame.timestamp, frame.generation, frame.payload⟩

def JitterBuffer.audio (b : JitterBuffer) : List Media :=
  (b.used.filter (fun slot => slot.kind = .audio)).map Slot.media

namespace UdpSession

abbrev Event := Op × Reply

def configures : Event → Bool
  | (.configure _ _ _, _) => true
  | _ => false

/-- The generation of a fence that succeeded. -/
def fenced : Event → Option UInt32
  | (.fenceGeneration generation, .done true) => some generation
  | _ => none

/-- The audio frame that an operation returned. -/
def played : Event → Option Media
  | (.popPlayout _, .frame frame) => if frame.kind = .audio then some frame.media else none
  | _ => none

/-- The audio frames returned since the last `Configure`. -/
def playedFrames (es : List Event) : List Media := (since configures es).filterMap played

/-- The audio frames returned since the last `Configure` or successful fence. -/
def playedSinceFence (es : List Event) : List Media :=
  (since (fun e => configures e || (fenced e).isSome) es).filterMap played

/-- The generations fenced since the last `Configure`. -/
def fencedGenerations (es : List Event) : List UInt32 := (since configures es).filterMap fenced

/-- The media of a datagram that authenticates as audio of the session from its bound
source. -/
def opened (aead : AeadPort) (s : UdpSession) (source : Endpoint) (datagram : Bytes) : Option Media :=
  match parseDatagram datagram .downlink with
  | none => none
  | some view =>
    if matchesSession view.header s.grant.mediaId s.grant.mediaEpoch && view.header.type = .audio &&
        source.same s.boundSource then
      (s.authenticate aead view).map
        (fun plaintext => ⟨view.header.sequence, view.header.timestamp, view.header.generation, plaintext⟩)
    else none

/-- The media came in a datagram from the bound source after the last `Configure`. -/
def Received (aead : AeadPort) (es : List Event) (m : Media) : Prop :=
  ∃ before source datagram nowUs reply rest t, es = before ++ (.receive source datagram nowUs, reply) :: rest ∧
    (∀ e ∈ rest, configures e = false) ∧ Run (Step aead) {} before t ∧ t.opened aead source datagram = some m

/-- No datagram was sealed with the last number. -/
def LastUnused (aead : AeadPort) : Prop :=
  ∀ key salt sequence aad ciphertext tag plaintext,
    aead.decrypt key (makeNonce salt sequence) aad ciphertext tag = some plaintext → sequence ≠ 0xFFFFFFFF

/-- The media that can still be returned. -/
def live (s : UdpSession) : List Media := s.jitter.audio ++ (s.futureFrames.filterMap id).map FutureFrame.media

/-- What is recorded about a run beside its state. -/
structure Ledger where
  received : Media → Prop
  played : List Media := []
  sinceFence : List Media := []
  fences : List UInt32 := []
  committed : List UInt32 := []

/-- The invariant of a run. A number that was committed is in one place at most: played,
in the jitter buffer, or kept for later. -/
structure Safe (aead : AeadPort) (l : Ledger) (s : UdpSession) : Prop where
  idle : s.revoked = !s.configured
  generation : s.jitter.generation = s.downlinkGeneration
  active : ∀ m ∈ s.jitter.audio, s.playbackActive = true ∧ m.generation = s.downlinkGeneration
  tracked : FirmwareTracks s.replay l.committed
  committed : ∀ m ∈ l.played ++ s.live, m.sequence ∈ l.committed
  distinct : ((l.played ++ s.live).map Media.sequence).Nodup
  received : ∀ m ∈ s.live, l.received m
  bounded : LastUnused aead → (∀ slot ∈ s.jitter.used, slot.sequence ≠ 0xFFFFFFFF) ∧
    ∀ m ∈ s.live, m.sequence ≠ 0xFFFFFFFF
  past : ∀ m ∈ l.sinceFence, m ∈ l.played ∧ m.generation ≤ s.downlinkGeneration
  ordered : LastUnused aead → s.configured = true → ∀ m ∈ l.sinceFence, m.generation = s.downlinkGeneration →
    s.jitter.cursorInitialized = true ∧ m.sequence < s.jitter.expected
  fences : ∀ g ∈ l.fences, g ≤ s.downlinkGeneration
  waiting : s.configured = true → s.ready = false → l.played = []

variable {aead : AeadPort} {l : Ledger} {s s' : UdpSession} {m : Media}

theorem subperm_map {α β : Type} (f : α → β) {xs ys : List α} (h : xs.Subperm ys) : (xs.map f).Subperm (ys.map f) := by
  obtain ⟨zs, hperm, hsub⟩ := h
  exact ⟨zs.map f, hperm.map f, hsub.map f⟩

theorem nodup_of_subperm {α : Type} {xs ys : List α} (h : xs.Subperm ys) (hys : ys.Nodup) : xs.Nodup := by
  obtain ⟨zs, hperm, hsub⟩ := h
  exact hperm.nodup_iff.mp (hsub.nodup hys)

theorem audio_inserted {b b' : JitterBuffer} {slot : Slot} (h : JitterBuffer.Inserted b slot b') :
    b'.audio.Subperm ((if slot.kind = .audio then [slot.media] else []) ++ b.audio) := by
  have hmap := subperm_map Slot.media (h.used.filter (fun slot => slot.kind = .audio))
  rw [JitterBuffer.audio, JitterBuffer.audio]
  by_cases hkind : slot.kind = .audio
  · simpa [hkind] using hmap
  · simpa [hkind] using hmap

/-- Fewer frames to return and the same cursor: everything else is kept. -/
theorem Safe.shrink (h : Safe aead l s) (hidle : s'.revoked = !s'.configured)
    (hgeneration : s'.jitter.generation = s'.downlinkGeneration)
    (hactive : ∀ m ∈ s'.jitter.audio, s'.playbackActive = true ∧ m.generation = s'.downlinkGeneration)
    (hreplay : s'.replay = s.replay) (hlive : s'.live.Subperm s.live)
    (hused : LastUnused aead → ∀ slot ∈ s'.jitter.used, slot.sequence ≠ 0xFFFFFFFF)
    (hup : s.downlinkGeneration ≤ s'.downlinkGeneration)
    (hordered : LastUnused aead → s'.configured = true → ∀ m ∈ l.sinceFence,
      m.generation = s'.downlinkGeneration → s'.jitter.cursorInitialized = true ∧ m.sequence < s'.jitter.expected)
    (hwaiting : s'.configured = true → s'.ready = false → l.played = []) : Safe aead l s' where
  idle := hidle
  generation := hgeneration
  active := hactive
  tracked := hreplay ▸ h.tracked
  committed m hm := by
    apply h.committed m
    rw [List.mem_append] at hm ⊢
    exact hm.imp_right (fun hm => hlive.subset hm)
  distinct := nodup_of_subperm (subperm_map _ ((List.subperm_append_left l.played).mpr hlive)) h.distinct
  received m hm := h.received m (hlive.subset hm)
  bounded hlast := ⟨hused hlast, fun m hm => (h.bounded hlast).2 m (hlive.subset hm)⟩
  past m hm := ⟨(h.past m hm).1, UInt32.le_trans (h.past m hm).2 hup⟩
  ordered := hordered
  fences g hg := UInt32.le_trans (h.fences g hg) hup
  waiting := hwaiting

/-- Operations that leave the receiving side alone. -/
theorem Safe.of_same (h : Safe aead l s) (hrevoked : s'.revoked = s.revoked) (hconfigured : s'.configured = s.configured)
    (hready : s'.ready = s.ready) (hactive : s'.playbackActive = s.playbackActive) (hreplay : s'.replay = s.replay)
    (hjitter : s'.jitter = s.jitter) (hframes : s'.futureFrames = s.futureFrames)
    (hdownlink : s'.downlinkGeneration = s.downlinkGeneration) : Safe aead l s' := by
  have hlive : s'.live = s.live := by rw [live, live, hjitter, hframes]
  refine h.shrink ?_ ?_ ?_ hreplay ?_ ?_ ?_ ?_ ?_
  · rw [hrevoked, hconfigured]
    exact h.idle
  · rw [hjitter, hdownlink]
    exact h.generation
  · rw [hjitter, hactive, hdownlink]
    exact h.active
  · rw [hlive]
  · rw [hjitter]
    exact fun hlast => (h.bounded hlast).1
  · rw [hdownlink]
    exact UInt32.le_refl _
  · rw [hjitter, hdownlink, hconfigured]
    exact h.ordered
  · rw [hconfigured, hready]
    exact h.waiting

theorem Safe.revoke (h : Safe aead l s) : Safe aead l s.revokeLocked := by
  refine h.shrink rfl rfl ?_ rfl ?_ ?_ (UInt32.le_refl _) ?_ ?_
  · intro m hm
    cases hm
  · exact List.nil_subperm
  · intro _ slot hslot
    cases hslot
  · intro _ hconfigured
    cases hconfigured
  · intro hconfigured
    cases hconfigured

/-- A `Configure` that succeeds starts from nothing. -/
theorem safe_configured (aead : AeadPort) (received : Media → Prop) (s : UdpSession)
    (hidle : s.revoked = !s.configured) (hgeneration : s.jitter.generation = s.downlinkGeneration)
    (hjitter : s.jitter.used = []) (hframes : s.futureFrames = List.replicate futureFrameCount none)
    (hreplay : s.replay = {}) : Safe aead { received } s := by
  have haudio : s.jitter.audio = [] := by rw [JitterBuffer.audio, hjitter]; rfl
  have hlive : s.live = [] := by rw [live, haudio, hframes]; rfl
  exact
    { idle := hidle
      generation := hgeneration
      active := by simp [haudio]
      tracked := .inl ⟨rfl, hreplay⟩
      committed := by simp [hlive]
      distinct := by simp [hlive]
      received := by simp [hlive]
      bounded := by simp [hlive, hjitter]
      past := by simp
      ordered := by simp
      fences := by simp
      waiting := by simp }

theorem Safe.forget (h : Safe aead l s) (hlive : s.live = []) (received : Media → Prop) :
    Safe aead { received, committed := l.committed } s :=
  { h with
    committed := by simp [hlive]
    distinct := by simp [hlive]
    received := by simp [hlive]
    past := by simp
    ordered := by simp
    fences := by simp
    waiting := by simp }

theorem filterMap_filter (p : FutureFrame → Bool) (frames : List (Option FutureFrame)) :
    (frames.map (·.filter p)).filterMap id = (frames.filterMap id).filter p := by
  induction frames with
  | nil => rfl
  | cons frame frames ih =>
    cases frame with
    | none => exact ih
    | some frame =>
      rw [List.map_cons, Option.filter_some]
      change _ = (frame :: frames.filterMap id).filter p
      by_cases h : p frame = true
      · rw [if_pos h, List.filter_cons_of_pos h, ← ih]
        rfl
      · rw [if_neg h, List.filter_cons_of_neg h, ← ih]
        rfl

/-- A fence drops what is to be played, and what is kept below it. -/
theorem Safe.fence (h : Safe aead l s) {generation : UInt32} (hok : s.fenceGeneration generation = (s', true)) :
    Safe aead { l with sinceFence := [], fences := l.fences ++ [generation] } s' := by
  have hbase : Safe aead { l with sinceFence := [] } s := { h with past := by simp, ordered := by simp }
  have hfenced : Safe aead { l with sinceFence := [] } s' ∧ generation ≤ s'.downlinkGeneration := by
    rw [fenceGeneration] at hok
    by_cases hrefused : s.revoked = true ∨ generation < s.downlinkGeneration
    · rw [if_pos hrefused] at hok
      cases hok
    · rw [if_neg hrefused] at hok
      rw [not_or] at hrefused
      by_cases hgt : generation > s.downlinkGeneration
      · rw [if_pos hgt] at hok
        obtain rfl := (Prod.mk.inj hok).1
        refine ⟨hbase.shrink h.idle rfl ?_ rfl ?_ ?_ (UInt32.le_of_lt hgt) ?_ h.waiting, UInt32.le_refl _⟩
        · intro m hm
          cases hm
        · -- what is kept is a part of what was kept
          rw [live, filterMap_filter]
          exact ((List.filter_sublist.map FutureFrame.media).trans (List.sublist_append_right _ _)).subperm
        · intro _ slot hslot
          cases hslot
        · intro _ _ m hm
          cases hm
      · rw [if_neg hgt] at hok
        obtain rfl := (Prod.mk.inj hok).1
        refine ⟨hbase.shrink h.idle rfl ?_ rfl ?_ ?_ (UInt32.le_refl _) ?_ h.waiting, UInt32.not_lt.mp hgt⟩
        · intro m hm
          cases hm
        · exact List.nil_subperm
        · intro _ slot hslot
          cases hslot
        · intro _ _ m hm
          cases hm
  exact { hfenced.1 with
          fences := by
            intro g hg
            rw [List.mem_append, List.mem_singleton] at hg
            obtain hg | rfl := hg
            · exact hfenced.1.fences g hg
            · exact hfenced.2 }

/-- One insertion that adds nothing but what is `new`. -/
theorem Safe.insert (h : Safe aead l s) {slot : Slot} {jitter : JitterBuffer}
    (hinserted : JitterBuffer.Inserted s.jitter slot jitter)
    (hnew : slot.kind = .audio → s.playbackActive = true ∧ slot.generation = s.downlinkGeneration ∧
      l.received slot.media ∧ slot.sequence ∈ l.committed ∧ slot.sequence ∉ (l.played ++ s.live).map Media.sequence)
    (hbound : LastUnused aead → slot.sequence ≠ 0xFFFFFFFF) : Safe aead l { s with jitter := jitter } := by
  have haudio := audio_inserted hinserted
  have hlive : ({ s with jitter := jitter } : UdpSession).live.Subperm
      ((if slot.kind = .audio then [slot.media] else []) ++ s.live) := by
    rw [live, live, ← List.append_assoc]
    exact (List.subperm_append_right _).mpr haudio
  have hmem : ∀ m ∈ ({ s with jitter := jitter } : UdpSession).live,
      (slot.kind = .audio ∧ m = slot.media) ∨ m ∈ s.live := by
    intro m hm
    have hm := hlive.subset hm
    rw [List.mem_append] at hm
    refine hm.imp_left (fun hm => ?_)
    by_cases hkind : slot.kind = .audio
    · rw [if_pos hkind, List.mem_singleton] at hm
      exact ⟨hkind, hm⟩
    · rw [if_neg hkind] at hm
      cases hm
  refine
    { idle := h.idle
      generation := hinserted.generation.trans h.generation
      active := ?_
      tracked := h.tracked
      committed := ?_
      distinct := ?_
      received := ?_
      bounded := ?_
      past := h.past
      ordered := ?_
      fences := h.fences
      waiting := h.waiting }
  · intro m hm
    have hm := haudio.subset hm
    rw [List.mem_append] at hm
    obtain hm | hm := hm
    · by_cases hkind : slot.kind = .audio
      · rw [if_pos hkind, List.mem_singleton] at hm
        obtain rfl := hm
        exact ⟨(hnew hkind).1, (hnew hkind).2.1⟩
      · rw [if_neg hkind] at hm
        cases hm
    · exact h.active m hm
  · intro m hm
    rw [List.mem_append] at hm
    obtain hm | hm := hm
    · exact h.committed m (List.mem_append_left _ hm)
    · obtain ⟨hkind, rfl⟩ | hm := hmem m hm
      · exact (hnew hkind).2.2.2.1
      · exact h.committed m (List.mem_append_right _ hm)
  · apply nodup_of_subperm (subperm_map Media.sequence ((List.subperm_append_left l.played).mpr hlive))
    by_cases hkind : slot.kind = .audio
    · rw [if_pos hkind, List.singleton_append, List.perm_middle.map Media.sequence |>.nodup_iff, List.map_cons,
        List.nodup_cons]
      exact ⟨(hnew hkind).2.2.2.2, h.distinct⟩
    · rw [if_neg hkind]
      exact h.distinct
  · intro m hm
    obtain ⟨hkind, rfl⟩ | hm := hmem m hm
    · exact (hnew hkind).2.2.1
    · exact h.received m hm
  · intro hlast
    refine ⟨fun x hx => ?_, fun m hm => ?_⟩
    · have hx := hinserted.used.subset hx
      rw [List.mem_cons] at hx
      obtain rfl | hx := hx
      · exact hbound hlast
      · exact (h.bounded hlast).1 x hx
    · obtain ⟨-, rfl⟩ | hm := hmem m hm
      · exact hbound hlast
      · exact (h.bounded hlast).2 m hm
  · intro hlast hconfigured m hm hgeneration
    obtain ⟨hcursor, hlt⟩ := h.ordered hlast hconfigured m hm hgeneration
    obtain ⟨hcursor', hle⟩ := hinserted.cursor hcursor
    exact ⟨hcursor', UInt32.lt_of_lt_of_le hlt hle⟩

theorem Safe.control (h : Safe aead l s) (sequence : UInt32) (nowUs : Int)
    (hbound : LastUnused aead → sequence ≠ 0xFFFFFFFF) : Safe aead l (s.insertControl sequence nowUs).1 :=
  h.insert (s.jitter.insertControl_inserted sequence s.downlinkGeneration nowUs) (fun hkind => by cases hkind) hbound

theorem replaceFrame_sublist (old new : FutureFrame) (frames : List (Option FutureFrame)) :
    ((replaceFrame old new frames).filterMap id).Subperm (new :: frames.filterMap id) := by
  induction frames with
  | nil => exact List.nil_subperm
  | cons frame frames ih =>
    cases frame with
    | none => simpa [replaceFrame] using ih
    | some frame =>
      rw [replaceFrame]
      by_cases hsame : frame.sequence = old.sequence
      · rw [if_pos hsame]
        exact (((List.sublist_cons_self frame _).cons_cons new)).subperm
      · rw [if_neg hsame]
        exact ((List.subperm_cons frame).mpr ih).trans (List.Perm.swap new frame _).subperm

/-- Keeping a frame for later adds that frame at most. -/
theorem bufferFutureAudio_spec (s : UdpSession) (header : Header) (plaintext : Bytes) (nowUs : Int) :
    ∃ frames, (s.bufferFutureAudio header plaintext nowUs).1 = { s with futureFrames := frames } ∧
      (frames.filterMap id).Subperm
        (⟨header.sequence, header.timestamp, header.generation, nowUs, plaintext⟩ :: s.futureFrames.filterMap id) := by
  have hsame := (List.sublist_cons_self
    (⟨header.sequence, header.timestamp, header.generation, nowUs, plaintext⟩ : FutureFrame)
    (s.futureFrames.filterMap id)).subperm
  rw [bufferFutureAudio]
  by_cases hknown : (s.futureFrames.filterMap id).any (fun other => other.sequence = header.sequence) = true
  · rw [if_pos hknown]
    exact ⟨_, rfl, hsame⟩
  · rw [if_neg hknown]
    cases hplace : place (⟨header.sequence, header.timestamp, header.generation, nowUs, plaintext⟩ : FutureFrame)
      s.futureFrames with
    | some frames => exact ⟨_, rfl, (place_perm hplace).subperm⟩
    | none =>
      cases oldestMatching header.generation s.futureFrames with
      | none => exact ⟨_, rfl, hsame⟩
      | some oldest =>
        dsimp only
        by_cases hle : header.sequence ≤ oldest.sequence
        · rw [if_pos hle]
          exact ⟨_, rfl, hsame⟩
        · rw [if_neg hle]
          exact ⟨_, rfl, replaceFrame_sublist oldest _ _⟩

theorem Safe.buffer (h : Safe aead l s) {header : Header} {plaintext : Bytes} (nowUs : Int)
    (hm : m = ⟨header.sequence, header.timestamp, header.generation, plaintext⟩) (hreceived : l.received m)
    (hcommitted : m.sequence ∈ l.committed) (hfresh : m.sequence ∉ (l.played ++ s.live).map Media.sequence)
    (hbound : LastUnused aead → m.sequence ≠ 0xFFFFFFFF) :
    Safe aead l (s.bufferFutureAudio header plaintext nowUs).1 := by
  obtain ⟨frames, heq, hframes⟩ := bufferFutureAudio_spec s header plaintext nowUs
  rw [heq]
  have hlive : ({ s with futureFrames := frames } : UdpSession).live.Subperm (m :: s.live) := by
    have hmap := subperm_map FutureFrame.media hframes
    rw [List.map_cons] at hmap
    rw [live, live, hm]
    exact ((List.subperm_append_left s.jitter.audio).mpr hmap).trans List.perm_middle.subperm
  refine { h with committed := ?_, distinct := ?_, received := ?_, bounded := ?_ }
  · intro x hx
    rw [List.mem_append] at hx
    obtain hx | hx := hx
    · exact h.committed x (List.mem_append_left _ hx)
    · obtain rfl | hx := List.mem_cons.mp (hlive.subset hx)
      · exact hcommitted
      · exact h.committed x (List.mem_append_right _ hx)
  · apply nodup_of_subperm (subperm_map Media.sequence ((List.subperm_append_left l.played).mpr hlive))
    rw [List.perm_middle.map Media.sequence |>.nodup_iff, List.map_cons, List.nodup_cons]
    exact ⟨hfresh, h.distinct⟩
  · intro x hx
    obtain rfl | hx := List.mem_cons.mp (hlive.subset hx)
    · exact hreceived
    · exact h.received x hx
  · intro hlast
    refine ⟨(h.bounded hlast).1, fun x hx => ?_⟩
    obtain rfl | hx := List.mem_cons.mp (hlive.subset hx)
    · exact hbound hlast
    · exact (h.bounded hlast).2 x hx

/-- Frames that leave the waiting room are in the jitter buffer or gone. -/
structure Released (b : JitterBuffer) (frames : List FutureFrame) (b' : JitterBuffer) : Prop where
  audio : b'.audio.Subperm (frames.map FutureFrame.media ++ b.audio)
  generation : b'.generation = b.generation
  used : ∀ slot ∈ b'.used, slot ∈ b.used ∨ ∃ frame ∈ frames, slot.sequence = frame.sequence
  cursor : b.cursorInitialized = true → b'.cursorInitialized = true ∧ b.expected ≤ b'.expected

theorem released_foldl (b : JitterBuffer) (frames : List FutureFrame) :
    Released b frames (frames.foldl insertFrame b) := by
  induction frames generalizing b with
  | nil => exact ⟨.refl _, rfl, fun slot h => .inl h, fun h => ⟨h, UInt32.le_refl _⟩⟩
  | cons frame frames ih =>
    have hone := b.insertAudio_inserted frame.sequence frame.timestamp frame.generation frame.payload frame.arrivedUs
    have haudio : (insertFrame b frame).audio.Subperm ([frame.media] ++ b.audio) := audio_inserted hone
    obtain ⟨hmore, hgeneration, hused, hcursor⟩ := ih (insertFrame b frame)
    rw [List.foldl_cons]
    refine ⟨?_, hgeneration.trans hone.generation, ?_, ?_⟩
    · refine hmore.trans (((List.subperm_append_left _).mpr haudio).trans ?_)
      rw [List.singleton_append, List.map_cons, List.cons_append]
      exact List.perm_middle.subperm
    · intro slot hslot
      obtain hslot | ⟨other, hother, heq⟩ := hused slot hslot
      · obtain rfl | hslot := List.mem_cons.mp (hone.used.subset hslot)
        · exact .inr ⟨frame, List.mem_cons_self, rfl⟩
        · exact .inl hslot
      · exact .inr ⟨other, List.mem_cons_of_mem _ hother, heq⟩
    · intro h
      obtain ⟨hinit, hle⟩ := hone.cursor h
      obtain ⟨hinit', hle'⟩ := hcursor hinit
      exact ⟨hinit', UInt32.le_trans hle hle'⟩

theorem matching_perm (frames : List (Option FutureFrame)) (generation : UInt32) :
    (matching frames generation).Perm ((frames.filterMap id).filter (fun frame => frame.generation = generation)) :=
  List.perm_insertionSort _ _

/-- The frames that match and those that stay are different ones. -/
theorem matching_stay (frames : List FutureFrame) (generation : UInt32) :
    (frames.filter (fun frame => frame.generation = generation) ++
      frames.filter (fun frame => frame.generation > generation)).Subperm frames := by
  have hsplit := List.filter_append_perm (fun frame : FutureFrame => decide (frame.generation = generation)) frames
  refine List.Subperm.trans ?_ hsplit.subperm
  rw [List.subperm_append_left]
  apply List.Sublist.subperm
  apply List.monotone_filter_right
  intro frame hframe
  have hne : frame.generation ≠ generation := by
    have hgt := of_decide_eq_true hframe
    grind
  simpa using hne

theorem Safe.release (h : Safe aead l s) (hactive : s.playbackActive = true) :
    Safe aead l (s.releaseFutureAudio s.downlinkGeneration) := by
  have hreleased := released_foldl s.jitter (matching s.futureFrames s.downlinkGeneration)
  have hmatching := matching_perm s.futureFrames s.downlinkGeneration
  have hkept : ∀ frame ∈ matching s.futureFrames s.downlinkGeneration,
      frame.media ∈ s.live ∧ frame.generation = s.downlinkGeneration := by
    intro frame hframe
    have hframe := hmatching.subset hframe
    rw [List.mem_filter] at hframe
    exact ⟨List.mem_append_right _ (List.mem_map_of_mem hframe.1), of_decide_eq_true hframe.2⟩
  refine h.shrink h.idle (hreleased.generation.trans h.generation) ?_ rfl ?_ ?_ (UInt32.le_refl _) ?_ h.waiting
  · intro m hm
    refine ⟨hactive, ?_⟩
    have hm := hreleased.audio.subset hm
    rw [List.mem_append] at hm
    obtain hm | hm := hm
    · obtain ⟨frame, hframe, rfl⟩ := List.mem_map.mp hm
      exact (hkept frame hframe).2
    · exact (h.active m hm).2
  · rw [live, live, releaseFutureAudio, filterMap_filter]
    dsimp only
    refine ((List.subperm_append_right _).mpr hreleased.audio).trans ?_
    have hall := subperm_map FutureFrame.media (matching_stay (s.futureFrames.filterMap id) s.downlinkGeneration)
    rw [List.map_append] at hall
    refine List.Subperm.trans ?_ ((List.subperm_append_left s.jitter.audio).mpr hall)
    rw [← List.append_assoc]
    refine (List.subperm_append_right _).mpr (List.Subperm.trans ?_ List.perm_append_comm.subperm)
    exact (List.subperm_append_right _).mpr (hmatching.map _).subperm
  · intro hlast slot hslot
    obtain hslot | ⟨frame, hframe, heq⟩ := hreleased.used slot hslot
    · exact (h.bounded hlast).1 slot hslot
    · rw [heq]
      exact (h.bounded hlast).2 _ (hkept frame hframe).1
  · intro hlast hconfigured m hm hgeneration
    obtain ⟨hcursor, hlt⟩ := h.ordered hlast hconfigured m hm hgeneration
    obtain ⟨hcursor', hle⟩ := hreleased.cursor hcursor
    exact ⟨hcursor', UInt32.lt_of_lt_of_le hlt hle⟩

theorem Safe.activate (h : Safe aead l s) : Safe aead l { s with playbackActive := true } :=
  { h with active := fun m hm => ⟨rfl, (h.active m hm).2⟩ }

theorem Safe.advance (h : Safe aead l s) (generation : UInt32) : Safe aead l (s.advanceGeneration generation).1 := by
  rw [advanceGeneration]
  by_cases hrefused : s.revoked = true ∨ generation < s.downlinkGeneration
  · rw [if_pos hrefused]
    exact h
  · rw [if_neg hrefused]
    dsimp only
    by_cases hgt : generation > s.downlinkGeneration
    · rw [if_pos hgt]
      refine Safe.release (Safe.activate (h.shrink h.idle rfl ?_ rfl ?_ ?_ (UInt32.le_of_lt hgt) ?_ h.waiting)) rfl
      · intro m hm
        cases hm
      · exact (List.sublist_append_right _ _).subperm
      · intro _ slot hslot
        cases hslot
      · -- nothing of the new generation was returned before
        intro _ _ m hm hgeneration
        have hle := (h.past m hm).2
        dsimp only at hgeneration
        grind
    · rw [if_neg hgt]
      exact h.activate.release rfl

theorem Safe.begin (h : Safe aead l s) (hready : s.ready = false) (sequence : UInt32) :
    Safe aead l { s with ready := true, jitter := s.jitter.beginAt sequence } := by
  refine h.shrink h.idle h.generation h.active rfl (.refl _) (fun hlast => (h.bounded hlast).1) (UInt32.le_refl _) ?_ ?_
  · intro _ hconfigured m hm
    have hplayed := (h.past m hm).1
    rw [h.waiting hconfigured hready] at hplayed
    cases hplayed
  · intro _ hready'
    cases hready'

theorem Safe.commit (h : Safe aead l s) {sequence : UInt32} (hn : s.replay.canAccept sequence = true)
    (source : Endpoint) :
    Safe aead { l with committed := l.committed ++ [sequence] }
      { s with boundSource := source, replay := s.replay.commit sequence } :=
  { h with
    tracked := h.tracked.commit hn
    committed := fun m hm => List.mem_append_left _ (h.committed m hm) }

theorem Safe.fresh (h : Safe aead l s) {sequence : UInt32} (hn : s.replay.canAccept sequence = true) :
    sequence ∉ (l.played ++ s.live).map Media.sequence := by
  intro hmem
  obtain ⟨m, hm, rfl⟩ := List.mem_map.mp hmem
  exact h.tracked.not_mem hn (h.committed m hm)

/-- What a call of `PopPlayout` returns and what it leaves. -/
theorem Safe.pop (h : Safe aead l s) {nowUs : Int} {frame : PlayoutFrame} (hpop : s.popPlayout nowUs = (s', frame)) :
    (frame.kind ≠ .audio → Safe aead l s') ∧
    (frame.kind = .audio →
      Safe aead { l with played := l.played ++ [frame.media], sinceFence := l.sinceFence ++ [frame.media] } s' ∧
      l.received frame.media ∧ frame.generation = s.downlinkGeneration ∧ s.playbackActive = true ∧
      (∀ m ∈ l.played, m.sequence ≠ frame.sequence) ∧
      (LastUnused aead → ∀ m ∈ l.sinceFence, m.generation = frame.generation → m.sequence < frame.sequence)) := by
  rw [popPlayout] at hpop
  by_cases hidle : s.revoked = true ∨ s.ready = false
  · rw [if_pos hidle] at hpop
    obtain ⟨rfl, rfl⟩ := Prod.mk.inj hpop
    exact ⟨fun _ => h, fun haudio => by cases haudio⟩
  · rw [if_neg hidle] at hpop
    rw [not_or, Bool.not_eq_true, Bool.not_eq_false] at hidle
    have hconfigured : s.configured = true := by
      have := h.idle
      rw [hidle.1] at this
      simpa using this
    change ({ s with jitter := (s.jitter.pop nowUs).1 }, (s.jitter.pop nowUs).2) = (s', frame) at hpop
    obtain ⟨rfl, rfl⟩ := Prod.mk.inj hpop
    have hpopped := s.jitter.pop_popped nowUs
    have hused := hpopped.used
    have hlive : ({ s with jitter := (s.jitter.pop nowUs).1 } : UdpSession).live.Subperm s.live := by
      rw [live, live]
      exact (List.subperm_append_right _).mpr (subperm_map _ (hused.filter _))
    have hbase : Safe aead l { s with jitter := (s.jitter.pop nowUs).1 } := by
      refine h.shrink h.idle (hpopped.generation.trans h.generation) ?_ rfl hlive ?_ (UInt32.le_refl _) ?_ h.waiting
      · intro m hm
        exact h.active m ((subperm_map Slot.media (hused.filter _)).subset hm)
      · intro hlast slot hslot
        exact (h.bounded hlast).1 slot (hused.subset hslot)
      · intro hlast _ m hm hgeneration
        obtain ⟨hcursor, hlt⟩ := h.ordered hlast hconfigured m hm hgeneration
        exact ⟨hpopped.cursor.trans hcursor, UInt32.lt_of_lt_of_le hlt (hpopped.forward (h.bounded hlast).1)⟩
    refine ⟨fun _ => hbase, fun haudio => ?_⟩
    obtain ⟨hcursor, slot, hkind, hframe, hperm, hnext⟩ := hpopped.audio haudio
    have hmedia : (s.jitter.pop nowUs).2.media = slot.media := by rw [hframe]; rfl
    -- the frame leaves the buffer: what is returned and what remains are different numbers
    have hmoved : (slot.media :: ({ s with jitter := (s.jitter.pop nowUs).1 } : UdpSession).live).Subperm s.live := by
      have hmap := subperm_map Slot.media (hperm.filter (fun slot => slot.kind = .audio))
      rw [List.filter_cons_of_pos (by simpa using hkind), List.map_cons] at hmap
      rw [live, live, ← List.cons_append]
      exact (List.subperm_append_right _).mpr hmap
    have hmem : slot.media ∈ s.live := hmoved.subset List.mem_cons_self
    have hactive := h.active slot.media (by
      have hslot : slot ∈ s.jitter.used := hperm.subset List.mem_cons_self
      exact List.mem_map_of_mem (List.mem_filter.mpr ⟨hslot, by simpa using hkind⟩))
    have hdistinct : ((l.played ++ [slot.media] ++ ({ s with jitter := (s.jitter.pop nowUs).1 } : UdpSession).live).map
        Media.sequence).Nodup := by
      rw [List.append_assoc, List.singleton_append]
      exact nodup_of_subperm (subperm_map _ ((List.subperm_append_left l.played).mpr hmoved)) h.distinct
    have hsequence : (s.jitter.pop nowUs).2.sequence = slot.media.sequence := by rw [hframe]; rfl
    have hgeneration : (s.jitter.pop nowUs).2.generation = slot.media.generation := by rw [hframe]; rfl
    rw [hmedia, hsequence, hgeneration]
    refine ⟨?_, h.received _ hmem, hactive.2, hactive.1, ?_, ?_⟩
    · refine { hbase with committed := ?_, distinct := hdistinct, past := ?_, ordered := ?_, waiting := ?_ }
      · intro m hm
        rw [List.mem_append, List.mem_append, List.mem_singleton] at hm
        obtain (hm | rfl) | hm := hm
        · exact hbase.committed m (List.mem_append_left _ hm)
        · exact h.committed _ (List.mem_append_right _ hmem)
        · exact hbase.committed m (List.mem_append_right _ hm)
      · intro m hm
        rw [List.mem_append, List.mem_singleton] at hm ⊢
        obtain hm | rfl := hm
        · exact ⟨.inl (hbase.past m hm).1, (hbase.past m hm).2⟩
        · refine ⟨.inr rfl, ?_⟩
          rw [hactive.2]
          exact UInt32.le_refl _
      · intro hlast hconf m hm hgen
        rw [List.mem_append, List.mem_singleton] at hm
        obtain hm | rfl := hm
        · exact hbase.ordered hlast hconf m hm hgen
        · exact ⟨hpopped.cursor.trans hcursor, (hnext (h.bounded hlast).1).2⟩
      · intro _ hready
        rw [show s.ready = false from hready] at hidle
        cases hidle.2
    · intro m hm heq
      rw [List.map_append, List.map_append] at hdistinct
      have hnodup := (List.nodup_append.mp hdistinct).1
      rw [List.nodup_append] at hnodup
      exact hnodup.2.2 _ (List.mem_map_of_mem hm) _ List.mem_cons_self heq
    · intro hlast m hm hgen
      obtain ⟨-, hlt⟩ := h.ordered hlast hconfigured m hm (hgen.trans hactive.2)
      exact UInt32.lt_of_lt_of_le hlt (hnext (h.bounded hlast).1).1

theorem Safe.mono (h : Safe aead l s) {received : Media → Prop} (hmono : ∀ m, l.received m → received m) :
    Safe aead { l with received } s :=
  { h with received := fun m hm => hmono m (h.received m hm) }

theorem Safe.stamp (h : Safe aead l s) (nowUs : Int) : Safe aead l { s with lastAuthenticatedReceiveUs := nowUs } :=
  h.of_same rfl rfl rfl rfl rfl rfl rfl rfl

/-- Whatever `Receive` does with a packet whose number is used up. -/
theorem Safe.admitted (h : Safe aead l s) {header : Header} {plaintext : Bytes} (nowUs : Int)
    (htype : header.type ≠ .probe)
    (hreceived : header.type = .audio →
      l.received ⟨header.sequence, header.timestamp, header.generation, plaintext⟩)
    (hcommitted : header.sequence ∈ l.committed)
    (hfresh : header.sequence ∉ (l.played ++ s.live).map Media.sequence)
    (hbound : LastUnused aead → header.sequence ≠ 0xFFFFFFFF) : Safe aead l (s.admitted header plaintext nowUs).1 := by
  rw [UdpSession.admitted]
  by_cases hmarked : header.type ≠ .audio ∧ header.generation ≠ 0
  · rw [if_pos hmarked]
    by_cases hready : s.ready = true
    · rw [if_pos hready]
      exact h.control header.sequence nowUs hbound
    · rw [if_neg hready]
      exact h
  · rw [if_neg hmarked]
    have ht := h.stamp nowUs
    have hbuffer : header.type = .audio →
        Safe aead l ({ s with lastAuthenticatedReceiveUs := nowUs }.bufferFutureAudio header plaintext nowUs).1 :=
      fun haudio => ht.buffer nowUs rfl (hreceived haudio) hcommitted hfresh hbound
    dsimp only
    by_cases hstale : header.type = .audio ∧ header.generation < s.downlinkGeneration
    · rw [if_pos hstale]
      exact ht
    · rw [if_neg hstale]
      by_cases hfuture : header.type = .audio ∧ header.generation > s.downlinkGeneration
      · rw [if_pos hfuture]
        by_cases hready : s.ready = true
        · rw [if_pos hready]
          exact hbuffer hfuture.1
        · rw [if_neg hready]
          exact ht
      · rw [if_neg hfuture]
        by_cases hack : header.type = .probeAck
        · rw [if_pos hack]
          by_cases hready : s.ready = true
          · rw [if_pos hready]
            exact ht.control header.sequence nowUs hbound
          · rw [if_neg hready]
            exact ht.begin (Bool.not_eq_true _ ▸ hready) _
        · rw [if_neg hack]
          by_cases hready : s.ready = false
          · rw [if_pos hready]
            exact ht
          · rw [if_neg hready]
            by_cases hearly : header.type = .audio ∧ s.playbackActive = false
            · rw [if_pos hearly]
              exact hbuffer hearly.1
            · rw [if_neg hearly]
              by_cases hkeepalive : header.type = .keepalive
              · rw [if_pos hkeepalive]
                exact ht.control header.sequence nowUs hbound
              · rw [if_neg hkeepalive]
                -- audio of the current generation while it plays
                have haudio : header.type = .audio := by
                  cases htyped : header.type with
                  | audio => rfl
                  | probe => exact absurd htyped htype
                  | probeAck => exact absurd htyped hack
                  | keepalive => exact absurd htyped hkeepalive
                have hactive : s.playbackActive = true := by simpa [haudio] using hearly
                have hcurrent : header.generation = s.downlinkGeneration := by
                  simp only [haudio, true_and] at hstale hfuture
                  grind
                exact ht.insert (s.jitter.insertAudio_inserted header.sequence header.timestamp header.generation
                  plaintext nowUs) (fun _ => ⟨hactive, hcurrent, hreceived haudio, hcommitted, hfresh⟩) hbound

theorem Safe.receive (h : Safe aead l s) {source : Endpoint} {datagram : Bytes} (nowUs : Int)
    {received : Media → Prop} (hmono : ∀ m, l.received m → received m)
    (hnew : ∀ m, s.opened aead source datagram = some m → received m) :
    ∃ committed, Safe aead { l with received, committed } (s.receive aead source datagram nowUs).1 := by
  have hkeep : ∃ committed, Safe aead { l with received, committed } s := ⟨l.committed, h.mono hmono⟩
  rw [UdpSession.receive]
  by_cases hrevoked : s.revoked = true ∨ s.configured = false
  · rw [if_pos hrevoked]
    exact hkeep
  · rw [if_neg hrevoked]
    cases hparse : parseDatagram datagram .downlink with
    | none => exact hkeep
    | some view =>
      dsimp only
      by_cases hsession : matchesSession view.header s.grant.mediaId s.grant.mediaEpoch = false
      · rw [if_pos hsession]
        exact hkeep
      · rw [if_neg hsession]
        by_cases hreplay : s.replay.canAccept view.header.sequence = false
        · rw [if_pos hreplay]
          exact hkeep
        · rw [if_neg hreplay]
          rw [Bool.not_eq_false] at hsession hreplay
          cases hauth : s.authenticate aead view with
          | none => exact hkeep
          | some plaintext =>
            dsimp only
            by_cases hwrong : s.wrongSource view.header source = true
            · rw [if_pos hwrong]
              exact hkeep
            · rw [if_neg hwrong]
              have hcommit := (h.mono hmono).commit hreplay (if s.boundSource.valid then s.boundSource else source)
              have hshape := (parseDatagram_spec hparse).1
              refine ⟨_, hcommit.admitted nowUs ?_ ?_ ?_ ?_ ?_⟩
              · intro htype
                rw [headerShapeValid, htype] at hshape
                split at hshape <;> simp at hshape
              · -- only the bound source may send audio
                intro haudio
                apply hnew
                rw [wrongSource] at hwrong
                have hsame : source.same s.boundSource = true := by
                  by_cases hvalid : s.boundSource.valid = true
                  · rw [if_pos hvalid] at hwrong
                    simpa using hwrong
                  · rw [if_neg hvalid] at hwrong
                    simp [haudio] at hwrong
                rw [opened, hparse]
                dsimp only
                rw [hsession, hsame, hauth, haudio]
                rfl
              · exact List.mem_append_right _ List.mem_cons_self
              · exact h.fresh hreplay
              · intro hlast
                rw [authenticate] at hauth
                cases hkey : s.downlinkKey with
                | none =>
                  rw [hkey] at hauth
                  cases hauth
                | some key =>
                  rw [hkey] at hauth
                  exact hlast _ _ _ _ _ _ _ hauth

/-- `Build` only moves the send counter. -/
theorem Safe.built (h : Safe aead l s) (type : DatagramType) (payload : Bytes) (timestamp generation : UInt32)
    (output : Option Nat) (encrypts : Bool) :
    Safe aead l (s.build type payload timestamp generation output encrypts).1 := by
  obtain heq | ⟨key, -, -, -, heq⟩ := build_cases s type payload timestamp generation output encrypts
  · rw [heq]
    exact h
  · rw [heq]
    exact h.of_same rfl rfl rfl rfl rfl rfl rfl rfl

theorem Safe.probe (h : Safe aead l s) (output : Option Nat) (encrypts : Bool) :
    Safe aead l (s.buildProbe output encrypts).1 := by
  rw [buildProbe]
  split
  · exact h
  · split
    · exact h
    · have hbuilt := h.built .probe [] 0 0 (some (headerBytes + tagBytes)) encrypts
      split
      · next heq =>
        rw [heq] at hbuilt
        exact hbuilt
      · next heq =>
        rw [heq] at hbuilt
        exact hbuilt.of_same rfl rfl rfl rfl rfl rfl rfl rfl

def ledger (aead : AeadPort) (es : List Event) (committed : List UInt32) : Ledger :=
  { received := Received aead es, played := playedFrames es, sinceFence := playedSinceFence es,
    fences := fencedGenerations es, committed }

variable {es : List Event} {e : Event}

theorem Received.snoc (h : Received aead es m) (he : configures e = false) : Received aead (es ++ [e]) m := by
  obtain ⟨before, source, datagram, nowUs, reply, rest, t, rfl, hrest, hrun, hopened⟩ := h
  refine ⟨before, source, datagram, nowUs, reply, rest ++ [e], t, by simp, ?_, hrun, hopened⟩
  intro f hf
  rw [List.mem_append, List.mem_singleton] at hf
  obtain hf | rfl := hf
  · exact hrest f hf
  · exact he

theorem playedFrames_snoc (he : configures e = false) :
    playedFrames (es ++ [e]) = playedFrames es ++ (played e).toList := by
  rw [playedFrames, playedFrames, since_snoc, he, if_neg Bool.false_ne_true, List.filterMap_append]
  cases h : played e <;> simp [h]

theorem playedSinceFence_snoc (he : configures e = false) :
    playedSinceFence (es ++ [e]) = if (fenced e).isSome then [] else playedSinceFence es ++ (played e).toList := by
  rw [playedSinceFence, playedSinceFence, since_snoc, he, Bool.false_or]
  by_cases hf : (fenced e).isSome = true
  · rw [if_pos hf, if_pos hf]
    rfl
  · rw [if_neg hf, if_neg hf, List.filterMap_append]
    cases h : played e <;> simp [h]

theorem fencedGenerations_snoc (he : configures e = false) :
    fencedGenerations (es ++ [e]) = fencedGenerations es ++ (fenced e).toList := by
  rw [fencedGenerations, fencedGenerations, since_snoc, he, if_neg Bool.false_ne_true, List.filterMap_append]
  cases h : fenced e <;> simp [h]

/-- A step that neither configures, nor fences, nor returns a frame. -/
theorem ledger_quiet (he : configures e = false) (hf : fenced e = none) (hp : played e = none)
    (committed : List UInt32) :
    ledger aead (es ++ [e]) committed = { ledger aead es committed with received := Received aead (es ++ [e]) } := by
  rw [ledger, ledger, playedFrames_snoc he, playedSinceFence_snoc he, fencedGenerations_snoc he, hf, hp]
  simp

theorem quiet_step (he : configures e = false) (hf : fenced e = none) (hp : played e = none)
    (h : ∃ committed, Safe aead { ledger aead es [] with received := Received aead (es ++ [e]), committed } s') :
    ∃ committed, Safe aead (ledger aead (es ++ [e]) committed) s' := by
  obtain ⟨committed, h⟩ := h
  exact ⟨committed, by rw [ledger_quiet he hf hp]; exact h⟩

theorem ledger_configured (he : configures e = true) (committed : List UInt32) :
    ledger aead (es ++ [e]) committed = { received := Received aead (es ++ [e]), committed } := by
  rw [ledger, playedFrames, playedSinceFence, fencedGenerations, since_snoc, since_snoc, he]
  rfl

theorem Received.mono_snoc (he : configures e = false) :
    ∀ m, (ledger aead es []).received m → Received aead (es ++ [e]) m :=
  fun _ hm => Received.snoc hm he

theorem configure_step {committed : List UInt32} (h : Safe aead (ledger aead es committed) s) (grant : SessionGrant)
    (setUplink setDownlink : Bool) (he : configures e = true) :
    ∃ committed', Safe aead (ledger aead (es ++ [e]) committed') (s.configure grant setUplink setDownlink).1 := by
  rw [configure]
  split
  · refine ⟨committed, ?_⟩
    rw [ledger_configured he]
    exact h.revoke.revoke.forget rfl _
  · refine ⟨[], ?_⟩
    rw [ledger_configured he]
    exact safe_configured aead _ _ rfl rfl rfl rfl rfl

theorem fence_step {committed : List UInt32} (h : Safe aead (ledger aead es committed) s) (generation : UInt32) :
    ∃ committed', Safe aead (ledger aead (es ++ [(.fenceGeneration generation, .done (s.fenceGeneration generation).2)])
      committed') (s.fenceGeneration generation).1 := by
  cases hfence : s.fenceGeneration generation with
  | mk s' ok =>
    cases ok with
    | false =>
      have hsame : s' = s := by
        rw [fenceGeneration] at hfence
        split at hfence
        · exact (Prod.mk.inj hfence).1.symm
        · split at hfence <;> cases (Prod.mk.inj hfence).2
      rw [hsame]
      exact quiet_step rfl rfl rfl ⟨committed, h.mono (Received.mono_snoc rfl)⟩
    | true =>
      refine ⟨committed, ?_⟩
      have hfenced := (h.fence hfence).mono (Received.mono_snoc (e := (.fenceGeneration generation, .done true)) rfl)
      rw [ledger, playedFrames_snoc rfl, playedSinceFence_snoc rfl, fencedGenerations_snoc rfl]
      simpa [played, fenced, ledger] using hfenced

theorem pop_step {committed : List UInt32} (h : Safe aead (ledger aead es committed) s) (nowUs : Int) :
    ∃ committed', Safe aead (ledger aead (es ++ [(.popPlayout nowUs, .frame (s.popPlayout nowUs).2)]) committed')
      (s.popPlayout nowUs).1 := by
  cases hpop : s.popPlayout nowUs with
  | mk s' frame =>
    by_cases haudio : frame.kind = .audio
    · have hplayed : played (.popPlayout nowUs, .frame frame) = some frame.media := if_pos haudio
      refine ⟨committed, ?_⟩
      have hsafe := ((h.pop hpop).2 haudio).1.mono (Received.mono_snoc (e := (.popPlayout nowUs, .frame frame)) rfl)
      rw [ledger, playedFrames_snoc rfl, playedSinceFence_snoc rfl, fencedGenerations_snoc rfl, hplayed]
      simpa [fenced, ledger] using hsafe
    · have hplayed : played (.popPlayout nowUs, .frame frame) = none := if_neg haudio
      exact quiet_step rfl rfl hplayed ⟨committed, ((h.pop hpop).1 haudio).mono (Received.mono_snoc rfl)⟩

theorem safe_step {committed : List UInt32} (hrun : Run (Step aead) {} es s) (h : Safe aead (ledger aead es committed) s)
    (hstep : Step aead s e s') : ∃ committed', Safe aead (ledger aead (es ++ [e]) committed') s' := by
  obtain ⟨op, reply⟩ := e
  obtain ⟨rfl, rfl⟩ : s' = (call aead s op).1 ∧ reply = (call aead s op).2 := by
    rw [show call aead s op = (s', reply) from hstep]
    exact ⟨rfl, rfl⟩
  clear hstep
  have hquiet : ∀ {op reply t}, configures (op, reply) = false → fenced (op, reply) = none →
      played (op, reply) = none → Safe aead (ledger aead es committed) t →
      ∃ committed', Safe aead (ledger aead (es ++ [(op, reply)]) committed') t :=
    fun he hf hp ht => quiet_step he hf hp ⟨committed, ht.mono (Received.mono_snoc he)⟩
  cases op with
  | configure grant setUplink setDownlink => exact configure_step h grant setUplink setDownlink rfl
  | revoke => exact hquiet rfl rfl rfl h.revoke
  | receive source datagram nowUs =>
    apply quiet_step rfl rfl rfl
    apply h.receive nowUs (Received.mono_snoc rfl)
    intro m hm
    exact ⟨es, source, datagram, nowUs, _, [], s, rfl, by simp, hrun, hm⟩
  | fenceGeneration generation => exact fence_step h generation
  | advanceGeneration generation => exact hquiet rfl rfl rfl (h.advance generation)
  | popPlayout nowUs => exact pop_step h nowUs
  | buildProbe output encrypts => exact hquiet rfl rfl rfl (h.probe output encrypts)
  | buildKeepalive output encrypts => exact hquiet rfl rfl rfl (h.built .keepalive [] 0 0 output encrypts)
  | buildAudio opus timestamp output encrypts => exact hquiet rfl rfl rfl (h.built .audio opus timestamp 0 output encrypts)

theorem run_safe (h : Run (Step aead) {} es s) : ∃ committed, Safe aead (ledger aead es committed) s := by
  refine h.invariant (R := fun es s => ∃ committed, Safe aead (ledger aead es committed) s) ?_ ?_
  · exact ⟨[], safe_configured aead _ _ rfl rfl rfl rfl rfl⟩
  · intro es t e u hrun hsafe hstep
    obtain ⟨committed, hsafe⟩ := hsafe
    exact safe_step hrun hsafe hstep

/-- Every audio frame of the playout was received from the bound source since the last
`Configure`, is of the current generation while playback is active, has a number that
no other frame had since then, comes after the frames of its generation that were
returned since the last fence, and is not below any fence. -/
theorem downlink_safe (h : Run (Step aead) {} es s) (before rest : List Event) (nowUs : Int) (frame : PlayoutFrame)
    (hes : es = before ++ (.popPlayout nowUs, .frame frame) :: rest) (haudio : frame.kind = .audio) :
    Received aead before frame.media ∧
      (∃ t, Run (Step aead) {} before t ∧ frame.generation = t.downlinkGeneration ∧ t.playbackActive = true) ∧
      (∀ m ∈ playedFrames before, m.sequence ≠ frame.sequence) ∧
      (LastUnused aead → ∀ m ∈ playedSinceFence before, m.generation = frame.generation → m.sequence < frame.sequence) ∧
      ∀ g ∈ fencedGenerations before, g ≤ frame.generation := by
  subst hes
  obtain ⟨t, ht, hrest⟩ := h.split
  obtain ⟨u, hstep, -⟩ := Run.cons_iff.mp hrest
  obtain ⟨committed, hsafe⟩ := run_safe ht
  have hpop : t.popPlayout nowUs = (u, frame) := by
    have hcall : call aead t (.popPlayout nowUs) = (u, .frame frame) := hstep
    rw [call] at hcall
    obtain ⟨hu, hframe⟩ := Prod.mk.inj hcall
    exact Prod.ext hu (Reply.frame.inj hframe)
  obtain ⟨-, hreceived, hgeneration, hactive, hdistinct, hordered⟩ := (hsafe.pop hpop).2 haudio
  refine ⟨hreceived, ⟨t, ht, hgeneration, hactive⟩, hdistinct, hordered, ?_⟩
  intro g hg
  rw [hgeneration]
  exact hsafe.fences g hg

def demoGrant : SessionGrant :=
  { SessionGrant.erased with server := { address := [10, 0, 0, 1], port := 9000 }, mediaEpoch := 1,
                             initialDownlinkGeneration := 1 }

/-- A stand-in that accepts what carries an empty tag, up to a number it never uses. -/
def demoAead : AeadPort where
  decrypt _ nonce _ ciphertext tag :=
    if tag = List.replicate 16 0 ∧ nonce.getLast? ≠ some 0xFF then some ciphertext else none
  decrypt_length := by
    intro key nonce aad ciphertext tag plaintext h
    split at h
    · rw [Option.some.inj h]
    · cases h

theorem demoAead_lastUnused : LastUnused demoAead := by
  rintro key salt sequence aad ciphertext tag plaintext h rfl
  simp [demoAead, makeNonce, writeU32] at h

def demoDatagram (type : DatagramType) (sequence generation : UInt32) (payload : Bytes) : Bytes :=
  encodeHeader
    { type := type, mediaId := List.replicate 8 0, mediaEpoch := 1, sequence := sequence, timestamp := 0,
      generation := generation, payloadLength := payload.length.toUInt32 } ++ payload ++ List.replicate 16 0

def demoReceive (type : DatagramType) (sequence generation : UInt32) (payload : Bytes) : Op :=
  .receive demoGrant.server (demoDatagram type sequence generation payload) 0

/-- A session that plays generation 1. -/
def demoBegun : List Op :=
  [.configure demoGrant true true, demoReceive .probeAck 0 0 [], .advanceGeneration 1]

def demoPlayed : PlayoutFrame := { kind := .audio, sequence := 1, generation := 1, payload := [7] }

theorem downlink_safe_first :
    LastUnused demoAead ∧
      Received demoAead (history (call demoAead) {} (demoBegun ++ [demoReceive .audio 1 1 [7]])) demoPlayed.media :=
  ⟨demoAead_lastUnused,
    (downlink_safe (run_history (call demoAead) {} (demoBegun ++ [demoReceive .audio 1 1 [7], .popPlayout 0])) _ [] 0
      demoPlayed (by decide +kernel) rfl).1⟩

/-- Packet 2 comes late, after a fence of the generation that goes on playing. -/
def demoFenced : List Op :=
  [.fenceGeneration 1, .advanceGeneration 1, demoReceive .audio 2 1 [7]]

def demoGap : List Op :=
  demoBegun ++ [demoReceive .audio 1 1 [7], demoReceive .audio 3 1 [7], .popPlayout 120000, .popPlayout 120000]

/-- A fence of the current generation starts the order afresh, and so does a new
`Configure` the generations. -/
theorem downlink_restarts :
    (∃ (before between : List Event) (first second : PlayoutFrame) (s : UdpSession),
      Run (Step demoAead) {} (before ++ (.popPlayout 120000, .frame first) :: between ++
        [(.popPlayout 120000, .frame second)]) s ∧
      (∀ e ∈ between, configures e = false) ∧ first.kind = .audio ∧ second.kind = .audio ∧
      first.generation = s.downlinkGeneration ∧ second.generation = s.downlinkGeneration ∧
      second.sequence < first.sequence) ∧
    ∃ (before between : List Event) (frame : PlayoutFrame) (s : UdpSession),
      Run (Step demoAead) {} (before ++ (.fenceGeneration 5, .done true) :: between ++ [(.popPlayout 0, .frame frame)]) s ∧
      frame.kind = .audio ∧ frame.generation < 5 := by
  have hgap : Run (Step demoAead) {} _ _ := run_of_history
    (history (call demoAead) {} demoGap ++ (.popPlayout 120000, .frame
        { kind := .audio, sequence := 3, generation := 1, payload := [7] }) ::
      history (call demoAead) (after (call demoAead) {} (demoGap ++ [.popPlayout 120000])) demoFenced ++
      [(.popPlayout 120000, .frame { kind := .audio, sequence := 2, generation := 1, payload := [7] })])
    (demoGap ++ .popPlayout 120000 :: demoFenced ++ [.popPlayout 120000]) (by decide +kernel)
  have hconfigured : Run (Step demoAead) {} _ _ := run_of_history
    (history (call demoAead) {} [.configure demoGrant true true] ++ (.fenceGeneration 5, .done true) ::
      history (call demoAead) (after (call demoAead) {} [.configure demoGrant true true, .fenceGeneration 5])
        (demoBegun ++ [demoReceive .audio 1 1 [7]]) ++
      [(.popPlayout 0, .frame demoPlayed)])
    ([.configure demoGrant true true, .fenceGeneration 5] ++ demoBegun ++
      [demoReceive .audio 1 1 [7], .popPlayout 0]) (by decide +kernel)
  exact ⟨⟨_, _, _, _, _, hgap, by decide +kernel, rfl, rfl, by decide +kernel, by decide +kernel, by decide⟩,
    _, _, _, _, hconfigured, rfl, by decide⟩

end UdpSession

end RealtimeVoice.Firmware
