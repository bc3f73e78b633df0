import RealtimeVoice.Firmware.Session

namespace RealtimeVoice.Firmware.Session

open RealtimeVoice.Base.Runs

abbrev Observation := SessionEvent × SessionSnapshot

/-- What the event sink has seen of one connection generation. -/
def traceOf (generation : Nat) (os : List Observation) : List Observation :=
  os.filter fun o => o.2.connectionGeneration = generation

def observations (es : List (Action × Reply)) : List Observation := es.filterMap fun e => e.2.observed

def trace (generation : Nat) (es : List (Action × Reply)) : List Observation := traceOf generation (observations es)

/-- The commit, then rising playback generations. -/
def Open (t : List Observation) : Prop :=
  ∃ committed advanced, t = (.committed, committed) :: advanced.map (fun p => (.playbackGenerationAdvanced, p)) ∧
    (committed :: advanced).Pairwise fun p q => p.playbackGeneration < q.playbackGeneration

/-- The same, and the revocation at the end. -/
def Closed (t : List Observation) : Prop := ∃ u revoked, Open u ∧ t = u ++ [(.revoked, revoked)]

def Owned (t : List Observation) : Prop := t = [] ∨ Open t ∨ Closed t

theorem open_single (p : SessionSnapshot) : Open [(.committed, p)] := ⟨p, [], rfl, List.pairwise_singleton _ _⟩

theorem Open.snoc {t : List Observation} {p : SessionSnapshot} (h : Open t)
    (hlast : ∀ o ∈ t, o.2.playbackGeneration < p.playbackGeneration) :
    Open (t ++ [(.playbackGenerationAdvanced, p)]) := by
  obtain ⟨committed, advanced, rfl, hrising⟩ := h
  refine ⟨committed, advanced ++ [p], by simp, ?_⟩
  rw [← List.cons_append, List.pairwise_append]
  refine ⟨hrising, List.pairwise_singleton _ _, ?_⟩
  intro q hq r hr
  obtain rfl := List.mem_singleton.mp hr
  obtain rfl | hq := List.mem_cons.mp hq
  · exact hlast (.committed, q) List.mem_cons_self
  · exact hlast (.playbackGenerationAdvanced, q) (List.mem_cons_of_mem _ (List.mem_map_of_mem hq))

theorem Open.count_revoked {t : List Observation} (h : Open t) : t.countP (fun o => o.1 = .revoked) = 0 := by
  obtain ⟨committed, advanced, rfl, -⟩ := h
  rw [List.countP_eq_zero]
  simp

theorem Closed.count_revoked {t : List Observation} (h : Closed t) : t.countP (fun o => o.1 = .revoked) = 1 := by
  obtain ⟨u, revoked, hu, rfl⟩ := h
  rw [List.countP_append, hu.count_revoked]
  rfl

section
variable {g : Nat} {os : List Observation} {o : Observation}

theorem traceOf_snoc_self (h : o.2.connectionGeneration = g) : traceOf g (os ++ [o]) = traceOf g os ++ [o] := by
  simp [traceOf, h]

theorem traceOf_snoc_ne (h : o.2.connectionGeneration ≠ g) : traceOf g (os ++ [o]) = traceOf g os := by
  simp [traceOf, h]

theorem mem_traceOf : o ∈ traceOf g os ↔ o ∈ os ∧ o.2.connectionGeneration = g := by
  simp [traceOf]

theorem traceOf_eq_nil : traceOf g os = [] ↔ ∀ o ∈ os, o.2.connectionGeneration ≠ g := by
  simp [traceOf]

end

section
variable {gate gate' : SessionGate} {n : Nat}

theorem SessionGate.beginFreshSession_ok (h : gate.beginFreshSession n = some gate') :
    gate.phase = .idle ∧ gate.lastSessionGeneration < n ∧ gate'.phase = .opening ∧
      gate'.lastSessionGeneration = gate.lastSessionGeneration ∧ gate'.sessionGeneration = n := by
  simp only [SessionGate.beginFreshSession, Option.ite_none_left_eq_some] at h
  obtain ⟨hguard, heq⟩ := h
  obtain rfl := Option.some.inj heq
  push Not at hguard
  exact ⟨hguard.1, hguard.2.2, rfl, rfl, rfl⟩

theorem SessionGate.commitMedia_ok {profile : Contracts.TransportProfile} {owner : MediaOwner}
    (h : gate.commitMedia profile owner = some gate') :
    gate.phase = .opening ∧ gate'.phase = .active ∧ gate'.lastSessionGeneration = gate.lastSessionGeneration ∧
      gate'.sessionGeneration = gate.sessionGeneration := by
  simp only [SessionGate.commitMedia, Option.ite_none_left_eq_some] at h
  obtain ⟨hguard, heq⟩ := h
  obtain rfl := Option.some.inj heq
  push Not at hguard
  exact ⟨hguard.1, rfl, rfl, rfl⟩

theorem SessionGate.advancePlaybackGeneration_ok (h : gate.advancePlaybackGeneration n = some gate') :
    gate.phase = .active ∧ gate.playbackGeneration < n ∧ gate' = { gate with playbackGeneration := n } := by
  simp only [SessionGate.advancePlaybackGeneration, Option.ite_none_left_eq_some] at h
  obtain ⟨hguard, heq⟩ := h
  push Not at hguard
  exact ⟨hguard.1, hguard.2, (Option.some.inj heq).symm⟩

theorem SessionGate.beginClose_ok (h : gate.beginClose = some gate') :
    (gate.phase = .opening ∨ gate.phase = .active) ∧ gate'.phase = .closing ∧
      gate'.lastSessionGeneration = gate.lastSessionGeneration ∧
      gate'.sessionGeneration = gate.sessionGeneration := by
  simp only [SessionGate.beginClose, Option.ite_none_left_eq_some] at h
  obtain ⟨hguard, heq⟩ := h
  obtain rfl := Option.some.inj heq
  refine ⟨?_, rfl, rfl, rfl⟩
  by_contra hnot
  exact hguard (not_or.mp hnot)

theorem SessionGate.finishClose_ok (h : gate.finishClose = some gate') :
    gate.phase = .closing ∧ gate'.phase = .idle ∧ gate'.lastSessionGeneration = gate.sessionGeneration ∧
      gate'.sessionGeneration = 0 := by
  simp only [SessionGate.finishClose, Option.ite_none_left_eq_some] at h
  obtain ⟨hguard, heq⟩ := h
  obtain rfl := Option.some.inj heq
  exact ⟨not_not.mp hguard, rfl, rfl, rfl⟩

end

/-- The record of the session agrees with its gate, and at most one revocation is under way. -/
structure Sound (s : State) : Prop where
  fresh : s.gate.phase ≠ .idle → s.gate.lastSessionGeneration < s.gate.sessionGeneration
  active : s.gate.phase = .active → s.snapshot.isSome
  snapshot : ∀ p, s.snapshot = some p → s.gate.phase = .active ∧
    p.connectionGeneration = s.gate.sessionGeneration ∧ p.playbackGeneration = s.gate.playbackGeneration
  revoking : s.frames.countP Frame.revokes = s.revocationInProgress.toNat
  closing : s.revocationInProgress = true → s.gate.phase = .closing

section
variable {s t : State} {p : SessionSnapshot}

theorem isCurrentOwner_iff : s.isCurrentOwner p = true ↔ s.gate.phase = .active ∧ ∃ c, s.snapshot = some c ∧
    c.connectionGeneration = p.connectionGeneration ∧ c.transportProfile = p.transportProfile ∧
    c.mediaOwner = p.mediaOwner := by
  cases hsnapshot : s.snapshot <;> simp [State.isCurrentOwner, hsnapshot, and_assoc]

theorem isCurrentPlayback_iff : s.isCurrentPlayback p = true ↔ s.gate.phase = .active ∧ s.snapshot = some p := by
  rw [State.isCurrentPlayback, Bool.and_eq_true, isCurrentOwner_iff]
  constructor
  · rintro ⟨⟨hphase, c, hc, hgeneration, hprofile, howner⟩, hplayback⟩
    rw [hc] at hplayback
    refine ⟨hphase, hc.trans (congrArg some ?_)⟩
    cases c
    cases p
    simp_all
  · rintro ⟨hphase, hp⟩
    exact ⟨⟨hphase, p, hp, rfl, rfl, rfl⟩, by simp [hp]⟩

theorem Sound.isCurrentOwner (h : Sound s) (hp : s.isCurrentOwner p = true) :
    s.gate.phase = .active ∧ p.connectionGeneration = s.gate.sessionGeneration := by
  obtain ⟨hphase, c, hc, hgeneration, -, -⟩ := isCurrentOwner_iff.mp hp
  exact ⟨hphase, hgeneration.symm.trans (h.snapshot c hc).2.1⟩

theorem Sound.no_revocation (h : Sound s) (hphase : s.gate.phase ≠ .closing) :
    ∀ f ∈ s.frames, f.revokes = false := by
  have hfree : s.revocationInProgress = false := by
    cases hprogress : s.revocationInProgress with
    | false => rfl
    | true => exact absurd (h.closing hprogress) hphase
  have hzero := h.revoking
  rw [hfree, Bool.toNat_false, List.countP_eq_zero] at hzero
  simpa using hzero

theorem Sound.rest {f : Frame} {rest : List Frame} (h : Sound s) (hframes : s.frames = f :: rest)
    (hf : f.revokes = true) : s.revocationInProgress = true ∧ rest.countP Frame.revokes = 0 := by
  have hone := h.revoking
  rw [hframes, List.countP_cons_of_pos hf] at hone
  cases hprogress : s.revocationInProgress with
  | false => simp [hprogress] at hone
  | true => exact ⟨rfl, by simpa [hprogress] using hone⟩

theorem sound_moves {o : Option Observation} (h : Sound s) (hm : Moves s o t) : Sound t := by
  cases hm with
  | idle => exact h
  | begun hgate =>
    obtain ⟨hidle, hlast, hphase, hlast', hsession⟩ := SessionGate.beginFreshSession_ok hgate
    have hfree := h.no_revocation (by simp [hidle])
    refine ⟨fun _ => by simpa only [hlast', hsession] using hlast, fun hactive => ?_, fun p hp => ?_, h.revoking,
      fun hprogress => ?_⟩
    · simp [hphase] at hactive
    · exact absurd ((h.snapshot p hp).1.symm.trans hidle) (by simp)
    · exact absurd ((h.closing hprogress).symm.trans hidle) (by simp)
  | committed hgate hgeneration hplayback =>
    obtain ⟨hopening, hphase, hlast, hsession⟩ := SessionGate.commitMedia_ok hgate
    refine ⟨fun _ => ?_, fun _ => rfl, fun q hq => ?_, ?_, fun hprogress => ?_⟩
    · simpa only [hlast, hsession] using h.fresh (by simp [hopening])
    · obtain rfl := Option.some.inj hq
      exact ⟨hphase, hgeneration.trans hsession.symm, hplayback⟩
    · simpa [Frame.revokes] using h.revoking
    · exact absurd ((h.closing hprogress).symm.trans hopening) (by simp)
  | @advancing gate p howner hgate =>
    obtain ⟨hactive, -, rfl⟩ := SessionGate.advancePlaybackGeneration_ok hgate
    refine ⟨h.fresh, fun _ => rfl, fun q hq => ?_, ?_, h.closing⟩
    · obtain rfl := Option.some.inj hq
      exact ⟨hactive, (h.isCurrentOwner howner).2, rfl⟩
    · simpa [Frame.revokes] using h.revoking
  | advanced hframes hcurrent =>
    refine ⟨h.fresh, h.active, h.snapshot, ?_, h.closing⟩
    simpa [hframes, Frame.revokes] using h.revoking
  | abandoned hgate hsnapshot =>
    obtain ⟨hbefore, hphase, hlast, hsession⟩ := SessionGate.beginClose_ok hgate
    refine ⟨fun _ => ?_, fun hactive => ?_, by simp, h.revoking, fun _ => hphase⟩
    · simpa only [hlast, hsession] using h.fresh (by rcases hbefore with hb | hb <;> simp [hb])
    · simp [hphase] at hactive
  | revoking hgate hsnapshot =>
    obtain ⟨hbefore, hphase, hlast, hsession⟩ := SessionGate.beginClose_ok hgate
    have hopen : s.gate.phase ≠ .closing := by rcases hbefore with hb | hb <;> simp [hb]
    refine ⟨fun _ => ?_, fun hactive => ?_, by simp, ?_, fun _ => hphase⟩
    · simpa only [hlast, hsession] using h.fresh (by rcases hbefore with hb | hb <;> simp [hb])
    · simp [hphase] at hactive
    · rw [List.countP_cons_of_pos rfl, List.countP_eq_zero.mpr (by simpa using h.no_revocation hopen)]
      rfl
  | audio hframes =>
    refine ⟨h.fresh, h.active, h.snapshot, ?_, h.closing⟩
    rw [← h.revoking, hframes, List.countP_cons_of_pos rfl, List.countP_cons_of_pos rfl]
  | revoked hframes =>
    refine ⟨h.fresh, h.active, h.snapshot, ?_, h.closing⟩
    rw [← h.revoking, hframes, List.countP_cons_of_pos rfl, List.countP_cons_of_pos rfl]
  | released hframes =>
    exact ⟨h.fresh, h.active, h.snapshot, (h.rest hframes rfl).2, by simp⟩
  | returned hframes hrevokes =>
    refine ⟨h.fresh, h.active, h.snapshot, ?_, h.closing⟩
    simpa [hframes, hrevokes] using h.revoking
  | finished hgate hfree =>
    obtain ⟨hclosing, hphase, hlast, hsession⟩ := SessionGate.finishClose_ok hgate
    refine ⟨fun hne => absurd hphase hne, fun hactive => ?_, fun p hp => ?_, h.revoking, fun hprogress => ?_⟩
    · simp [hphase] at hactive
    · exact absurd ((h.snapshot p hp).1.symm.trans hclosing) (by simp)
    · exact absurd (hprogress.symm.trans hfree) (by simp)

end

/-- A connection generation that has been committed. -/
def State.Known (s : State) (generation : Nat) : Prop :=
  generation ≤ s.gate.lastSessionGeneration ∨
    (s.gate.phase = .active ∨ s.gate.phase = .closing) ∧ generation = s.gate.sessionGeneration

def State.unannounced (s : State) : List SessionSnapshot := s.frames.filterMap Frame.unannounced

def State.advancing (s : State) : List SessionSnapshot := s.frames.filterMap Frame.advancing

/-- What has been seen of the generations that are over, and of the present one. -/
structure Told (os : List Observation) (s : State) : Prop where
  known : ∀ o ∈ os, s.Known o.2.connectionGeneration
  past : ∀ g, g ≠ s.gate.sessionGeneration ∨ s.gate.phase = .idle → traceOf g os = [] ∨ Closed (traceOf g os)
  active : s.gate.phase = .active → Open (traceOf s.gate.sessionGeneration os)
  reached : s.gate.phase = .active → ∀ o ∈ os, o.2.connectionGeneration = s.gate.sessionGeneration →
    o.2.playbackGeneration ≤ s.gate.playbackGeneration
  revoking : ∀ p ∈ s.unannounced, p.connectionGeneration = s.gate.sessionGeneration ∧
    Open (traceOf s.gate.sessionGeneration os)
  closing : s.gate.phase = .closing → s.unannounced = [] →
    traceOf s.gate.sessionGeneration os = [] ∨ Closed (traceOf s.gate.sessionGeneration os)

/-- The calls that may still announce a playback generation: only the last of them will. -/
structure Ahead (os : List Observation) (s : State) : Prop where
  known : ∀ p ∈ s.advancing, s.Known p.connectionGeneration
  reached : s.gate.phase = .active → ∀ p ∈ s.advancing, p.connectionGeneration = s.gate.sessionGeneration →
    p.playbackGeneration ≤ s.gate.playbackGeneration
  unseen : ∀ p ∈ s.advancing, s.isCurrentPlayback p = true →
    ∀ o ∈ os, o.2.connectionGeneration = p.connectionGeneration → o.2.playbackGeneration < p.playbackGeneration
  distinct : s.advancing.Nodup

section
variable {s t : State} {os : List Observation} {o : Option Observation}

theorem Sound.unannounced (h : Sound s) (hphase : s.gate.phase ≠ .closing) : s.unannounced = [] := by
  rw [State.unannounced, List.filterMap_eq_nil_iff]
  intro f hf
  have hrevokes := h.no_revocation hphase f hf
  cases f <;> first | rfl | cases hrevokes

theorem unannounced_rest {rest : List Frame} (h : rest.countP Frame.revokes = 0) :
    rest.filterMap Frame.unannounced = [] := by
  rw [List.filterMap_eq_nil_iff]
  intro f hf
  have hrevokes := List.countP_eq_zero.mp h f hf
  cases f <;> first | rfl | exact absurd rfl hrevokes

/-- A generation that is opened was not committed before. -/
theorem Told.opening (h : Told os s) (hs : Sound s) (hphase : s.gate.phase = .opening) :
    traceOf s.gate.sessionGeneration os = [] := by
  rw [traceOf_eq_nil]
  intro o ho heq
  have hlast := hs.fresh (by simp [hphase])
  obtain hknown | ⟨hknown, -⟩ := h.known o ho
  · omega
  · simp [hphase] at hknown

/-- What is told does not depend on the calls that have nothing to announce. -/
theorem Told.same (h : Told os s) (hgate : t.gate = s.gate) (hunannounced : t.unannounced = s.unannounced) :
    Told os t := by
  obtain ⟨hknown, hpast, hactive, hreached, hrevoking, hclosing⟩ := h
  refine ⟨?_, ?_, ?_, ?_, ?_, ?_⟩
  · simpa only [State.Known, hgate] using hknown
  · simpa only [hgate] using hpast
  · simpa only [hgate] using hactive
  · simpa only [hgate] using hreached
  · simpa only [hgate, hunannounced] using hrevoking
  · simpa only [hgate, hunannounced] using hclosing

theorem told_advanced {p : SessionSnapshot} {rest : List Frame} (hs : Sound s) (h : Told os s)
    (ha : Ahead os s) (hframes : s.frames = .settingGeneration p :: rest) (hcurrent : s.isCurrentPlayback p = true) :
    Told (os ++ [(.playbackGenerationAdvanced, p)]) { s with frames := .announcing p :: rest } := by
  obtain ⟨hactive, hsnapshot⟩ := isCurrentPlayback_iff.mp hcurrent
  obtain ⟨-, hgeneration, hplayback⟩ := hs.snapshot p hsnapshot
  have hfree := hs.unannounced (by simp [hactive])
  have hrest : State.unannounced { s with frames := .announcing p :: rest } = [] := by
    simpa [State.unannounced, hframes, Frame.unannounced] using hfree
  have hmem : p ∈ s.advancing := by simp [State.advancing, hframes, Frame.advancing]
  refine ⟨fun o ho => ?_, fun g hg => ?_, fun _ => ?_, fun _ o ho heq => ?_, by simp [hrest], fun hclosing => ?_⟩
  · obtain ho | ho := List.mem_append.mp ho
    · exact h.known o ho
    · obtain rfl := List.mem_singleton.mp ho
      exact .inr ⟨.inl hactive, hgeneration⟩
  · obtain hg | hg := hg
    · rw [traceOf_snoc_ne (fun heq => hg (heq.symm.trans hgeneration))]
      exact h.past g (.inl hg)
    · simp [hactive] at hg
  · rw [traceOf_snoc_self hgeneration]
    apply (h.active hactive).snoc
    intro o ho
    obtain ⟨ho, heq⟩ := mem_traceOf.mp ho
    exact ha.unseen p hmem hcurrent o ho (heq.trans hgeneration.symm)
  · obtain ho | ho := List.mem_append.mp ho
    · exact h.reached hactive o ho heq
    · obtain rfl := List.mem_singleton.mp ho
      exact hplayback.le
  · exact absurd (hactive.symm.trans hclosing) (by simp)

theorem told_revoked {p : SessionSnapshot} {rest : List Frame} (hs : Sound s) (h : Told os s)
    (hframes : s.frames = .revokingAudio p :: rest) :
    Told (os ++ [(.revoked, p)]) { s with frames := .revoking p :: rest } := by
  obtain ⟨hprogress, hcount⟩ := hs.rest hframes rfl
  have hphase := hs.closing hprogress
  obtain ⟨hgeneration, hopen⟩ := h.revoking p (by simp [State.unannounced, hframes, Frame.unannounced])
  have hrest : State.unannounced { s with frames := .revoking p :: rest } = [] := by
    simpa [State.unannounced, Frame.unannounced] using unannounced_rest hcount
  refine ⟨fun o ho => ?_, fun g hg => ?_, fun hactive => ?_, fun hactive => ?_, by simp [hrest], fun _ _ => .inr ?_⟩
  · obtain ho | ho := List.mem_append.mp ho
    · exact h.known o ho
    · obtain rfl := List.mem_singleton.mp ho
      exact .inr ⟨.inr hphase, hgeneration⟩
  · obtain hg | hg := hg
    · rw [traceOf_snoc_ne (fun heq => hg (heq.symm.trans hgeneration))]
      exact h.past g (.inl hg)
    · simp [hphase] at hg
  · exact absurd (hphase.symm.trans hactive) (by simp)
  · exact absurd (hphase.symm.trans hactive) (by simp)
  · rw [traceOf_snoc_self hgeneration]
    exact ⟨_, p, hopen, rfl⟩

theorem told_committed {gate : SessionGate} {p : SessionSnapshot} (hs : Sound s) (h : Told os s)
    (hgate : s.gate.commitMedia p.transportProfile p.mediaOwner = some gate)
    (hgeneration : p.connectionGeneration = s.gate.sessionGeneration)
    (hplayback : p.playbackGeneration = gate.playbackGeneration) :
    Told (os ++ [(.committed, p)])
      { s with gate := gate, snapshot := some p, frames := .committing p :: s.frames } := by
  obtain ⟨hopening, hphase, hlast, hsession⟩ := SessionGate.commitMedia_ok hgate
  have hfree := hs.unannounced (by simp [hopening])
  have hrest : State.unannounced
      { s with gate := gate, snapshot := some p, frames := .committing p :: s.frames } = [] := by
    simpa [State.unannounced, Frame.unannounced] using hfree
  have hnew := h.opening hs hopening
  refine ⟨fun o ho => ?_, fun g hg => ?_, fun _ => ?_, fun _ o ho heq => ?_, by simp [hrest], fun hclosing => ?_⟩
  · obtain ho | ho := List.mem_append.mp ho
    · obtain hknown | ⟨hknown, -⟩ := h.known o ho
      · exact .inl (hlast ▸ hknown)
      · simp [hopening] at hknown
    · obtain rfl := List.mem_singleton.mp ho
      exact .inr ⟨.inl hphase, hgeneration.trans hsession.symm⟩
  · obtain hg | hg := hg
    · rw [hsession] at hg
      rw [traceOf_snoc_ne (fun heq => hg (heq.symm.trans hgeneration))]
      exact h.past g (.inl hg)
    · simp [hphase] at hg
  · simp only [hsession]
    rw [traceOf_snoc_self hgeneration, hnew]
    exact open_single p
  · simp only [hsession] at heq
    obtain ho | ho := List.mem_append.mp ho
    · exact absurd heq (traceOf_eq_nil.mp hnew o ho)
    · obtain rfl := List.mem_singleton.mp ho
      exact hplayback.le
  · exact absurd (hphase.symm.trans hclosing) (by simp)

theorem told_moves (hs : Sound s) (h : Told os s) (ha : Ahead os s) (hm : Moves s o t) :
    Told (os ++ o.toList) t := by
  cases hm with
  | idle => simpa using h
  | begun hgate =>
    obtain ⟨hidle, hlast, hphase, hlast', hsession⟩ := SessionGate.beginFreshSession_ok hgate
    have hfree := hs.unannounced (by simp [hidle])
    rw [Option.toList_none, List.append_nil]
    refine ⟨fun o ho => ?_, fun g _ => h.past g (.inr hidle), fun hactive => ?_, fun hactive => ?_, ?_,
      fun hclosing => ?_⟩
    · obtain hknown | ⟨hknown, -⟩ := h.known o ho
      · exact .inl (hlast' ▸ hknown)
      · simp [hidle] at hknown
    · simp [hphase] at hactive
    · simp [hphase] at hactive
    · intro p hp
      have hp' : p ∈ s.unannounced := hp
      simp [hfree] at hp'
    · simp [hphase] at hclosing
  | committed hgate hgeneration hplayback => exact told_committed hs h hgate hgeneration hplayback
  | @advancing gate p howner hgate =>
    obtain ⟨hactive, hnew, rfl⟩ := SessionGate.advancePlaybackGeneration_ok hgate
    rw [Option.toList_none, List.append_nil]
    refine ⟨h.known, h.past, h.active, fun _ o ho heq => ?_, h.revoking, h.closing⟩
    exact (h.reached hactive o ho heq).trans hnew.le
  | advanced hframes hcurrent => exact told_advanced hs h ha hframes hcurrent
  | abandoned hgate hsnapshot =>
    obtain ⟨hbefore, hphase, hlast, hsession⟩ := SessionGate.beginClose_ok hgate
    have hopening : s.gate.phase = .opening := by
      obtain hb | hb := hbefore
      · exact hb
      · have hsome := hs.active hb
        simp [hsnapshot] at hsome
    have hfree := hs.unannounced (by simp [hopening])
    rw [Option.toList_none, List.append_nil]
    refine ⟨fun o ho => ?_, fun g hg => ?_, fun hactive => ?_, fun hactive => ?_, ?_, fun _ _ => .inl ?_⟩
    · obtain hknown | ⟨hknown, -⟩ := h.known o ho
      · exact .inl (hlast ▸ hknown)
      · simp [hopening] at hknown
    · apply h.past g
      simpa [hsession, hphase, hopening] using hg
    · simp [hphase] at hactive
    · simp [hphase] at hactive
    · intro p hp
      have hp' : p ∈ s.unannounced := hp
      simp [hfree] at hp'
    · simp only [hsession]
      exact h.opening hs hopening
  | @revoking gate p hgate hsnapshot =>
    obtain ⟨hbefore, hphase, hlast, hsession⟩ := SessionGate.beginClose_ok hgate
    obtain ⟨hactive, hgeneration, -⟩ := hs.snapshot p hsnapshot
    have hfree := hs.unannounced (by simp [hactive])
    rw [Option.toList_none, List.append_nil]
    refine ⟨fun o ho => ?_, fun g hg => ?_, fun hactive' => ?_, fun hactive' => ?_, ?_, fun _ hnone => ?_⟩
    · obtain hknown | ⟨-, hknown⟩ := h.known o ho
      · exact .inl (hlast ▸ hknown)
      · exact .inr ⟨.inr hphase, hknown.trans hsession.symm⟩
    · apply h.past g
      simpa [hsession, hphase, hactive] using hg
    · simp [hphase] at hactive'
    · simp [hphase] at hactive'
    · intro q hq
      simp only [hsession]
      have hq' : q = p ∨ q ∈ s.unannounced := by simpa [State.unannounced, Frame.unannounced] using hq
      obtain rfl | hq' := hq'
      · exact ⟨hgeneration, h.active hactive⟩
      · simp [hfree] at hq'
    · simp [State.unannounced, Frame.unannounced] at hnone
  | audio hframes =>
    rw [Option.toList_none, List.append_nil]
    exact h.same rfl (by simp [State.unannounced, hframes, Frame.unannounced])
  | revoked hframes => exact told_revoked hs h hframes
  | released hframes =>
    rw [Option.toList_none, List.append_nil]
    exact h.same rfl (by simp [State.unannounced, hframes, List.filterMap_cons, Frame.unannounced])
  | @returned f rest hframes hrevokes =>
    have hsame : rest.filterMap Frame.unannounced = s.unannounced := by
      rw [State.unannounced, hframes]
      cases f <;> first | rfl | cases hrevokes
    rw [Option.toList_none, List.append_nil]
    exact h.same rfl hsame
  | finished hgate hfree =>
    obtain ⟨hclosing, hphase, hlast, hsession⟩ := SessionGate.finishClose_ok hgate
    have hnone : s.unannounced = [] := by
      apply unannounced_rest
      rw [hs.revoking, hfree]
      rfl
    have hsince := hs.fresh (by simp [hclosing])
    rw [Option.toList_none, List.append_nil]
    refine ⟨fun o ho => .inl ?_, fun g _ => ?_, fun hactive => ?_, fun hactive => ?_, ?_, fun hclosing' => ?_⟩
    · simp only [hlast]
      obtain hknown | ⟨-, hknown⟩ := h.known o ho
      · exact hknown.trans hsince.le
      · exact hknown.le
    · by_cases hg : g = s.gate.sessionGeneration
      · subst hg
        exact h.closing hclosing hnone
      · exact h.past g (.inl hg)
    · simp [hphase] at hactive
    · simp [hphase] at hactive
    · intro p hp
      have hp' : p ∈ s.unannounced := hp
      simp [hnone] at hp'
    · simp [hphase] at hclosing'

theorem State.Known.of_gate {g : Nat} (h : s.Known g) (hgate : t.gate = s.gate) : t.Known g := by
  rwa [State.Known, hgate]

/-- The calls that may announce become fewer while the gate stays. -/
theorem Ahead.sublist (h : Ahead os s) (hgate : t.gate = s.gate) (hsnapshot : t.snapshot = s.snapshot)
    (hsub : t.advancing.Sublist s.advancing) : Ahead os t := by
  refine ⟨fun p hp => (h.known p (hsub.subset hp)).of_gate hgate, fun hactive p hp => ?_, fun p hp hcurrent => ?_,
    h.distinct.sublist hsub⟩
  · rw [hgate] at hactive ⊢
    exact h.reached hactive p (hsub.subset hp)
  · rw [isCurrentPlayback_iff, hgate, hsnapshot, ← isCurrentPlayback_iff] at hcurrent
    exact h.unseen p (hsub.subset hp) hcurrent

/-- Outside the active phase no call can announce. -/
theorem Ahead.inactive {os' : List Observation} (h : Ahead os s) (hphase : t.gate.phase ≠ .active)
    (hknown : ∀ g, s.Known g → t.Known g) (hframes : t.advancing = s.advancing) : Ahead os' t := by
  refine ⟨fun p hp => hknown _ (h.known p (hframes ▸ hp)), fun hactive => absurd hactive hphase,
    fun p _ hcurrent => ?_, hframes ▸ h.distinct⟩
  exact absurd (isCurrentPlayback_iff.mp hcurrent).1 hphase

theorem ahead_committed {gate : SessionGate} {p : SessionSnapshot} (hs : Sound s) (h : Ahead os s)
    (hgate : s.gate.commitMedia p.transportProfile p.mediaOwner = some gate)
    (hgeneration : p.connectionGeneration = s.gate.sessionGeneration) :
    Ahead (os ++ [(.committed, p)])
      { s with gate := gate, snapshot := some p, frames := .committing p :: s.frames } := by
  obtain ⟨hopening, hphase, hlast, hsession⟩ := SessionGate.commitMedia_ok hgate
  have hsince := hs.fresh (by simp [hopening])
  have hframes : State.advancing { s with gate := gate, snapshot := some p, frames := .committing p :: s.frames } =
      s.advancing := by
    simp [State.advancing, List.filterMap_cons, Frame.advancing]
  have hold : ∀ q ∈ s.advancing, q.connectionGeneration ≤ s.gate.lastSessionGeneration := by
    intro q hq
    obtain hknown | ⟨hknown, -⟩ := h.known q hq
    · exact hknown
    · simp [hopening] at hknown
  refine ⟨fun q hq => .inl ?_, fun _ q hq heq => ?_, fun q hq hcurrent => ?_, hframes ▸ h.distinct⟩
  · rw [hframes] at hq
    exact hlast ▸ hold q hq
  · rw [hframes] at hq
    have hle := hold q hq
    simp only [hsession] at heq
    omega
  · rw [hframes] at hq
    have hle := hold q hq
    obtain rfl := Option.some.inj (isCurrentPlayback_iff.mp hcurrent).2
    omega

theorem ahead_advancing {p : SessionSnapshot} (hs : Sound s) (ht : Told os s) (h : Ahead os s)
    (howner : s.isCurrentOwner p = true) (hnew : s.gate.playbackGeneration < p.playbackGeneration) :
    Ahead os { s with gate := { s.gate with playbackGeneration := p.playbackGeneration }, snapshot := some p,
                      frames := .settingGeneration p :: s.frames } := by
  obtain ⟨hactive, hgeneration⟩ := hs.isCurrentOwner howner
  refine ⟨fun q hq => ?_, fun _ q hq heq => ?_, fun q hq hcurrent o ho heq => ?_, ?_⟩
  · obtain rfl | hq := List.mem_cons.mp hq
    · exact .inr ⟨.inl hactive, hgeneration⟩
    · exact h.known q hq
  · obtain rfl | hq := List.mem_cons.mp hq
    · exact le_rfl
    · exact (h.reached hactive q hq heq).trans hnew.le
  · -- only the new generation is the current one, and nothing so high has been announced
    obtain rfl := Option.some.inj (isCurrentPlayback_iff.mp hcurrent).2
    exact (ht.reached hactive o ho (heq.trans hgeneration)).trans_lt hnew
  · refine List.Nodup.cons (fun hmem => ?_) h.distinct
    have hle := h.reached hactive p hmem hgeneration
    omega

theorem ahead_advanced {p : SessionSnapshot} {rest : List Frame} (h : Ahead os s)
    (hframes : s.frames = .settingGeneration p :: rest) (hcurrent : s.isCurrentPlayback p = true) :
    Ahead (os ++ [(.playbackGenerationAdvanced, p)]) { s with frames := .announcing p :: rest } := by
  have hsplit : s.advancing = p :: rest.filterMap Frame.advancing := by
    simp [State.advancing, hframes, Frame.advancing]
  have hrest := h.sublist (t := { s with frames := .announcing p :: rest }) rfl rfl
    (by rw [hsplit]; exact List.sublist_cons_self _ _)
  refine ⟨hrest.known, hrest.reached, fun q hq hq' => ?_, hrest.distinct⟩
  -- another call for the same generation would be the same one
  have heq : p = q :=
    Option.some.inj ((isCurrentPlayback_iff.mp hcurrent).2.symm.trans (isCurrentPlayback_iff.mp hq').2)
  have hdistinct := h.distinct
  rw [hsplit, List.nodup_cons, heq] at hdistinct
  exact absurd hq hdistinct.1

theorem ahead_moves (hs : Sound s) (ht : Told os s) (h : Ahead os s) (hm : Moves s o t) :
    Ahead (os ++ o.toList) t := by
  cases hm with
  | idle => simpa using h
  | begun hgate =>
    obtain ⟨hidle, -, hphase, hlast, -⟩ := SessionGate.beginFreshSession_ok hgate
    refine h.inactive (by simp [hphase]) (fun g hg => .inl ?_) rfl
    obtain hknown | ⟨hknown, -⟩ := hg
    · exact hlast ▸ hknown
    · simp [hidle] at hknown
  | committed hgate hgeneration hplayback => exact ahead_committed hs h hgate hgeneration
  | advancing howner hgate =>
    obtain ⟨-, hnew, rfl⟩ := SessionGate.advancePlaybackGeneration_ok hgate
    rw [Option.toList_none, List.append_nil]
    exact ahead_advancing hs ht h howner hnew
  | advanced hframes hcurrent => exact ahead_advanced h hframes hcurrent
  | abandoned hgate hsnapshot =>
    obtain ⟨-, hphase, hlast, hsession⟩ := SessionGate.beginClose_ok hgate
    refine h.inactive (by simp [hphase]) (fun g hg => ?_) rfl
    obtain hknown | ⟨-, hknown⟩ := hg
    · exact .inl (hlast ▸ hknown)
    · exact .inr ⟨.inr hphase, hknown.trans hsession.symm⟩
  | @revoking gate p hgate hsnapshot =>
    obtain ⟨-, hphase, hlast, hsession⟩ := SessionGate.beginClose_ok hgate
    refine h.inactive (by simp [hphase]) (fun g hg => ?_) rfl
    obtain hknown | ⟨-, hknown⟩ := hg
    · exact .inl (hlast ▸ hknown)
    · exact .inr ⟨.inr hphase, hknown.trans hsession.symm⟩
  | audio hframes =>
    rw [Option.toList_none, List.append_nil]
    exact h.sublist rfl rfl (by simp [State.advancing, hframes, List.filterMap_cons, Frame.advancing])
  | revoked hframes =>
    have hprogress := (hs.rest hframes rfl).1
    refine h.inactive (by simp [hs.closing hprogress]) (fun g hg => hg) ?_
    simp [State.advancing, hframes, List.filterMap_cons, Frame.advancing]
  | released hframes =>
    rw [Option.toList_none, List.append_nil]
    exact h.sublist rfl rfl (by simp [State.advancing, hframes, List.filterMap_cons, Frame.advancing])
  | returned hframes hrevokes =>
    rw [Option.toList_none, List.append_nil]
    refine h.sublist rfl rfl ?_
    rw [State.advancing, State.advancing, hframes]
    exact (List.sublist_cons_self _ _).filterMap _
  | finished hgate hfree =>
    obtain ⟨hclosing, hphase, hlast, -⟩ := SessionGate.finishClose_ok hgate
    refine h.inactive (by simp [hphase]) (fun g hg => .inl ?_) rfl
    have hsince := hs.fresh (by simp [hclosing])
    simp only [hlast]
    obtain hknown | ⟨-, hknown⟩ := hg
    · exact hknown.trans hsince.le
    · exact hknown.le

end

/-- The connection generation is over, or another one has been opened after it. -/
def State.Retired (s : State) (generation : Nat) : Prop :=
  generation ≤ s.gate.lastSessionGeneration ∨
    s.gate.phase ≠ .idle ∧ generation < s.gate.sessionGeneration ∨
    s.gate.phase = .closing ∧ generation = s.gate.sessionGeneration

section
variable {s t : State} {es fs : List (Action × Reply)} {g : Nat} {p : SessionSnapshot}

theorem State.Retired.keep (h : s.Retired g) (hlast : t.gate.lastSessionGeneration = s.gate.lastSessionGeneration)
    (hsession : t.gate.sessionGeneration = s.gate.sessionGeneration) (hidle : t.gate.phase ≠ .idle)
    (hclosing : s.gate.phase = .closing → t.gate.phase = .closing) : t.Retired g := by
  rw [State.Retired, hlast, hsession]
  obtain h | ⟨-, h⟩ | ⟨hphase, h⟩ := h
  · exact .inl h
  · exact .inr (.inl ⟨hidle, h⟩)
  · exact .inr (.inr ⟨hclosing hphase, h⟩)

theorem retired_moves {o : Option Observation} (hs : Sound s) (h : s.Retired g) (hm : Moves s o t) : t.Retired g := by
  cases hm with
  | begun hgate =>
    obtain ⟨hidle, -, -, hlast, -⟩ := SessionGate.beginFreshSession_ok hgate
    obtain h | ⟨hphase, -⟩ | ⟨hphase, -⟩ := h
    · exact .inl (hlast ▸ h)
    · exact absurd hidle hphase
    · exact absurd (hidle.symm.trans hphase) (by simp)
  | committed hgate hgeneration hplayback =>
    obtain ⟨hopening, hphase, hlast, hsession⟩ := SessionGate.commitMedia_ok hgate
    exact h.keep hlast hsession (by simp [hphase]) (by simp [hopening])
  | advancing howner hgate =>
    obtain ⟨-, -, rfl⟩ := SessionGate.advancePlaybackGeneration_ok hgate
    exact h
  | abandoned hgate hsnapshot =>
    obtain ⟨-, hphase, hlast, hsession⟩ := SessionGate.beginClose_ok hgate
    exact h.keep hlast hsession (by simp [hphase]) (fun _ => hphase)
  | revoking hgate hsnapshot =>
    obtain ⟨-, hphase, hlast, hsession⟩ := SessionGate.beginClose_ok hgate
    exact h.keep hlast hsession (by simp [hphase]) (fun _ => hphase)
  | finished hgate hfree =>
    obtain ⟨hclosing, -, hlast, -⟩ := SessionGate.finishClose_ok hgate
    have hsince := hs.fresh (by simp [hclosing])
    left
    simp only [hlast]
    obtain h | ⟨-, h⟩ | ⟨-, h⟩ := h <;> omega
  | idle => exact h
  | advanced hframes hcurrent => exact h
  | audio hframes => exact h
  | revoked hframes => exact h
  | released hframes => exact h
  | returned hframes hrevokes => exact h

theorem Sound.retired (hs : Sound s) (h : s.Retired p.connectionGeneration) : s.isCurrentOwner p = false := by
  rw [← Bool.not_eq_true]
  intro hcurrent
  obtain ⟨hactive, hgeneration⟩ := hs.isCurrentOwner hcurrent
  have hsince := hs.fresh (by simp [hactive])
  obtain h | ⟨-, h⟩ | ⟨hclosing, -⟩ := h
  · omega
  · omega
  · exact absurd (hactive.symm.trans hclosing) (by simp)

theorem moves_of_answers {e : Action × Reply} (he : Answers State.call s e t) : Moves s e.2.observed t := by
  have hm := moves_call s e.1
  rw [Answers] at he
  rwa [he] at hm

theorem observations_snoc (es : List (Action × Reply)) (e : Action × Reply) :
    observations (es ++ [e]) = observations es ++ e.2.observed.toList := by
  rw [observations, List.filterMap_append]
  cases h : e.2.observed <;> simp [observations, h]

theorem sound_run (hs : Sound s) (h : Run (Answers State.call) s fs t) : Sound t :=
  h.state_invariant hs (fun _ _ _ ht he => sound_moves ht (moves_of_answers he))

theorem retired_run (hs : Sound s) (h : Run (Answers State.call) s fs t) (hg : s.Retired g) : t.Retired g := by
  have hall : Sound t ∧ t.Retired g := by
    apply h.state_invariant (P := fun t => Sound t ∧ t.Retired g) ⟨hs, hg⟩
    rintro t e u ⟨ht, hg⟩ he
    exact ⟨sound_moves ht (moves_of_answers he), retired_moves ht hg (moves_of_answers he)⟩
  exact hall.2

theorem told_run (h : Run (Answers State.call) {} es s) : Sound s ∧ Told (observations es) s := by
  have hall : Sound s ∧ Told (observations es) s ∧ Ahead (observations es) s := by
    apply h.invariant (R := fun es s => Sound s ∧ Told (observations es) s ∧ Ahead (observations es) s)
    · refine ⟨⟨by simp, by simp, by simp, rfl, by simp⟩, ⟨?_, fun g _ => .inl rfl, ?_, ?_, ?_, ?_⟩, ⟨?_, ?_, ?_, ?_⟩⟩ <;>
        simp [observations, State.unannounced, State.advancing]
    · rintro es t e u - ⟨hs, ht, ha⟩ he
      have hm := moves_of_answers he
      rw [observations_snoc]
      exact ⟨sound_moves hs hm, told_moves hs ht ha hm, ahead_moves hs ht ha hm⟩
  exact ⟨hall.1, hall.2.1⟩

/-- Once a generation has left the active phase and its callbacks have run, its trace is closed. -/
theorem Told.settled {os : List Observation} (h : Told os s) (hs : Sound s)
    (hg : ¬(s.gate.phase = .active ∧ g = s.gate.sessionGeneration)) (hnone : s.unannounced = []) :
    traceOf g os = [] ∨ Closed (traceOf g os) := by
  by_cases heq : g = s.gate.sessionGeneration
  · subst heq
    cases hphase : s.gate.phase with
    | idle => exact h.past _ (.inr hphase)
    | opening => exact .inl (h.opening hs hphase)
    | active => exact absurd ⟨hphase, rfl⟩ hg
    | closing => exact h.closing hphase hnone
  · exact h.past g (.inl heq)

theorem Told.owned {os : List Observation} (h : Told os s) (hs : Sound s) (g : Nat) : Owned (traceOf g os) := by
  by_cases hactive : s.gate.phase = .active ∧ g = s.gate.sessionGeneration
  · exact .inr (.inl (hactive.2 ▸ h.active hactive.1))
  · cases hrevoking : s.unannounced with
    | nil => exact (h.settled hs hactive hrevoking).imp_right .inr
    | cons p rest =>
      by_cases heq : g = s.gate.sessionGeneration
      · exact .inr (.inl (heq ▸ (h.revoking p (by simp [hrevoking])).2))
      · exact (h.past g (.inl heq)).imp_right .inr

theorem finishClose_ok (hs : Sound s) (h : (s.finishClose g).2.result = some (.done true)) :
    (∀ f ∈ s.frames, f.revokes = false) ∧ s.gate.phase = .closing := by
  simp only [State.finishClose] at h
  split_ifs at h with hguard
  · simp [State.refuse] at h
  · split at h
    · simp [State.refuse] at h
    · rename_i gate hgate
      refine ⟨?_, (SessionGate.finishClose_ok hgate).1⟩
      have hzero := hs.revoking
      rw [Bool.eq_false_of_not_eq_true (not_or.mp hguard).1, Bool.toNat_false, List.countP_eq_zero] at hzero
      simpa using hzero

/-- Whatever the callbacks call: each connection generation is seen committed, then at rising
playback generations, then revoked at most once and never again; it is revoked exactly once
when it is no longer active and no revocation runs, which is so when `FinishClose` succeeds;
and a snapshot of a retired generation is never the current one again. -/
theorem ownership_trace (h : Run (Answers State.call) {} es s) :
    (∀ g, Owned (trace g es)) ∧
    (∀ g, ¬(s.gate.phase = .active ∧ g = s.gate.sessionGeneration) → (∀ f ∈ s.frames, f.revokes = false) →
      trace g es = [] ∨ (trace g es).countP (fun o => o.1 = .revoked) = 1) ∧
    (∀ g, (s.finishClose g).2.result = some (.done true) → (∀ f ∈ s.frames, f.revokes = false) ∧
      (trace g es = [] ∨ (trace g es).countP (fun o => o.1 = .revoked) = 1)) ∧
    ∀ p, s.Retired p.connectionGeneration → ∀ fs t, Run (Answers State.call) s fs t →
      t.isCurrentOwner p = false ∧ t.isCurrentPlayback p = false := by
  obtain ⟨hs, ht⟩ := told_run h
  have hsettled : ∀ g, ¬(s.gate.phase = .active ∧ g = s.gate.sessionGeneration) →
      (∀ f ∈ s.frames, f.revokes = false) →
      trace g es = [] ∨ (trace g es).countP (fun o => o.1 = .revoked) = 1 := by
    intro g hg hfree
    refine (ht.settled hs hg (unannounced_rest ?_)).imp_right Closed.count_revoked
    simpa [List.countP_eq_zero] using hfree
  refine ⟨ht.owned hs, hsettled, fun g hfinish => ?_, fun p hp fs t hrun => ?_⟩
  · obtain ⟨hfree, hclosing⟩ := finishClose_ok hs hfinish
    exact ⟨hfree, hsettled g (by simp [hclosing]) hfree⟩
  · have howner := (sound_run hs hrun).retired (retired_run hs hrun hp)
    exact ⟨howner, by simp [State.isCurrentPlayback, howner]⟩

end

def demoOwner : SessionSnapshot :=
  { connectionGeneration := 1, playbackGeneration := 0, transportProfile := .wssOpus, mediaOwner := .wss }

/-- The audio port answers the second generation with a third one and the close of the
session, and the transport tries to finish the close while it is revoked. -/
def demoReentrant : List Action :=
  [.call (.beginFreshSession 1), .call (.commitHello 1 .wssOpus .wss), .callbackReturns,
    .call (.advancePlaybackGeneration demoOwner 1), .callbackReturns, .callbackReturns,
    .call (.advancePlaybackGeneration demoOwner 2), .call (.advancePlaybackGeneration demoOwner 3), .callbackReturns,
    .call (.requestClose demoOwner), .call (.finishClose 1), .callbackReturns, .callbackReturns, .callbackReturns]

theorem ownership_trace_demo :
    ((trace 1 (history State.call {} demoReentrant)).map fun o => (o.1, o.2.playbackGeneration)) =
      [(.committed, 0), (.playbackGenerationAdvanced, 1), (.playbackGenerationAdvanced, 3), (.revoked, 3)] ∧
    Owned (trace 1 (history State.call {} demoReentrant)) ∧
    ((after State.call {} demoReentrant).finishClose 1).2.result = some (.done true) ∧
    (trace 1 (history State.call {} demoReentrant)).countP (fun o => o.1 = .revoked) = 1 ∧
    (after State.call {} demoReentrant).isCurrentOwner demoOwner = false := by
  obtain ⟨howned, -, hfinish, hretired⟩ := ownership_trace (run_history State.call {} demoReentrant)
  have hsucceeds : ((after State.call {} demoReentrant).finishClose 1).2.result = some (.done true) := by
    decide +kernel
  refine ⟨by decide +kernel, howned 1, hsucceeds, ?_, ?_⟩
  · exact (hfinish 1 hsucceeds).2.resolve_left (by decide +kernel)
  · exact (hretired demoOwner (.inr (.inr ⟨by decide +kernel, by decide +kernel⟩)) [] _ .nil).1

end RealtimeVoice.Firmware.Session
