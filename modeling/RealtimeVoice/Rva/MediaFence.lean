import RealtimeVoice.Rva.Stretches

namespace RealtimeVoice.Rva.Wire

open RealtimeVoice.Base RealtimeVoice.Base.Runs RealtimeVoice.Contracts RealtimeVoice.Rva
open RealtimeVoice.Rva.Runtime (Connection Owner SegmentTask)

section

variable {b b' : Binding} {sent : List Note} {r : Ref} {n : Nat}

/-- What was sent and what is in line to be sent, beside the records of the responses. -/
structure Sent (b : Binding) (sent : List Note) : Prop where
  told : ∀ item, .frame (.control item) ∈ sent → Told b item.event
  ordered : sent.Pairwise InOrder
  last : ∀ r, lastOf b r = (sent.filterMap (Note.sequenceOf r)).getLast?

theorem Sent.later (h : Sent b sent) (hb : Unheard b b') : Sent b' sent where
  told item hitem := (h.told item hitem).later hb.fenced
  ordered := h.ordered
  last r := (hb.last r).trans (h.last r)

theorem Sent.control (h : Sent b sent) {item : Outbound} (htold : Told b item.event) :
    Sent b (sent ++ [.frame (.control item)]) where
  told item' hitem := by
    obtain hitem | hitem := List.mem_append.mp hitem
    · exact h.told item' hitem
    · cases List.mem_singleton.mp hitem
      exact htold
  ordered := by
    rw [List.pairwise_append]
    refine ⟨h.ordered, List.pairwise_singleton _ _, ?_⟩
    intro note _ note' hnote'
    cases List.mem_singleton.mp hnote'
    cases note with
    | datagram _ _ _ => trivial
    | frame f => cases f <;> trivial
  last r := by
    rw [h.last r, List.filterMap_append]
    simp [Note.sequenceOf]

/-- The frame of an accepted response follows no stop of its own playback. -/
theorem Sent.media (h : Sent b sent) (hsane : Sane b) (haccepts : b.responses.accepts r = true) {g : Nat}
    (hg : ∀ rec, b.responses.heap[r]? = some rec → g = rec.target.generation) (hb : Heard r n b b') :
    Sent b' (sent ++ [.frame (.media r g n)]) where
  told item hitem := by
    obtain hitem | hitem := List.mem_append.mp hitem
    · exact (h.told item hitem).later hb.fenced
    · cases List.mem_singleton.mp hitem
  ordered := by
    rw [List.pairwise_append]
    refine ⟨h.ordered, List.pairwise_singleton _ _, ?_⟩
    intro note hnote note' hnote'
    cases List.mem_singleton.mp hnote'
    obtain ⟨-, rec, hrec, -, -⟩ := (Coordinator.accepts_iff b.responses r).mp haccepts
    cases note with
    | datagram _ _ _ => trivial
    | frame f =>
      cases f with
      | media _ _ _ => trivial
      | control item =>
        intro htarget
        rw [hg rec hrec] at htarget
        exact accepts_unfenced hsane haccepts hrec (h.told item hnote _ htarget)
  last r' := by
    rw [hb.last r', List.filterMap_append, h.last r']
    by_cases heq : r' = r
    · simp [Note.sequenceOf, heq]
    · simp [Note.sequenceOf, heq, Ne.symm heq]

theorem Sent.datagram {log line : List Note} (h : Sent b (log ++ line))
    (hline : ∀ r, line.filterMap (Note.sequenceOf r) = []) (g : Nat) (hb : Heard r n b b') :
    Sent b' ((log ++ [.datagram r g n]) ++ line) where
  told item hitem := by
    refine (h.told item ?_).later hb.fenced
    rw [List.mem_append] at hitem ⊢
    obtain hitem | hitem := hitem
    · left
      simpa using hitem
    · exact .inr hitem
  ordered := by
    obtain ⟨hlog, hrest, hacross⟩ := List.pairwise_append.mp h.ordered
    rw [List.append_assoc, List.pairwise_append]
    refine ⟨hlog, List.pairwise_cons.mpr ⟨fun _ _ => trivial, hrest⟩, ?_⟩
    intro note hnote note' hnote'
    obtain rfl | hnote' := List.mem_cons.mp hnote'
    · cases note with
      | datagram _ _ _ => trivial
      | frame f => cases f <;> trivial
    · exact hacross note hnote note' hnote'
  last r' := by
    have hlast := h.last r'
    rw [List.filterMap_append, hline, List.append_nil] at hlast ⊢
    rw [hb.last r', List.filterMap_append, hlast]
    by_cases heq : r' = r
    · simp [Note.sequenceOf, heq]
    · simp [Note.sequenceOf, heq, Ne.symm heq]

end

namespace Wired

variable {s t : Wired} {marks : Nat → Prop} {log : List Note}

def isMedia : Frame → Bool
  | .media _ _ _ => true
  | .control _ => false

/-- What every state of a run has; `log` is what the transports have been given, and
`marks` are generations known to be fenced. -/
structure Lined (marks : Nat → Prop) (log : List Note) (s : Wired) : Prop where
  sane : Sane s.connection.binding
  marked : ∀ g, marks g → Fenced s.connection.binding g
  timestamp : s.connection.downlinkTimestamp ≤ uint32Max
  applying : ∀ owner a, s.connection.applying owner = some a → ∀ e ∈ a.effect.outbound, Told s.connection.binding e
  output : ∀ item ∈ s.output, Told s.connection.binding item.event
  sent : Sent s.connection.binding (log ++ s.inLine)
  single : (s.wireLock.filter isMedia).length ≤ if sends s.connection.segmentTask then 1 else 0

theorem start_lined (limits : Runtime.Limits) (config : BindingConfig) : Lined (fun _ => False) [] (start limits config) where
  sane := ⟨Binding.init_consistent config, rfl⟩
  marked _ := False.elim
  timestamp := Nat.zero_le _
  applying owner a ha := by cases ha
  output item hitem := by cases hitem
  sent := ⟨by simp [start, inLine], List.Pairwise.nil, fun r => rfl⟩
  single := le_rfl

/-- A silent stretch of a task. -/
theorem Lined.silent (h : Lined marks log s) (hsilent : Silent s.connection t.connection) (houtput : t.output = s.output)
    (hlock : t.wireLock = s.wireLock) : Lined marks log t where
  sane := hsilent.binding.sane
  marked g hg := hsilent.binding.fenced g (h.marked g hg)
  timestamp := by
    rw [hsilent.timestamp]
    exact h.timestamp
  applying owner a ha e he := by
    obtain ⟨a', ha', heffect⟩ | htold := hsilent.applying owner a ha
    · rw [← heffect] at he
      exact (h.applying owner a' ha' e he).later hsilent.binding.fenced
    · exact htold e he
  output item hitem := by
    rw [houtput] at hitem
    exact (h.output item hitem).later hsilent.binding.fenced
  sent := by
    rw [inLine, hlock]
    exact h.sent.later hsilent.binding
  single := by
    rw [hlock, hsilent.sends]
    exact h.single

theorem Lined.no_media (h : Lined marks log s) (hidle : sends s.connection.segmentTask = false) :
    ∀ f ∈ s.wireLock, isMedia f = false := by
  have hsingle := h.single
  rw [hidle, if_neg (by simp), Nat.le_zero, List.length_eq_zero_iff, List.filter_eq_nil_iff] at hsingle
  intro f hf
  simpa using hsingle f hf

theorem Lined.line_silent (h : Lined marks log s) (hidle : sends s.connection.segmentTask = false) (r : Ref) :
    s.inLine.filterMap (Note.sequenceOf r) = [] := by
  rw [List.filterMap_eq_nil_iff]
  intro note hnote
  obtain ⟨f, hf, rfl⟩ := List.mem_map.mp hnote
  have hmedia := h.no_media hidle f hf
  cases f with
  | media _ _ _ => cases hmedia
  | control item => rfl

/-- The segment task ends with an error while it is not sending. -/
theorem Lined.stopTask (h : Lined marks log s) (hidle : sends s.connection.segmentTask = false) : Lined marks log s.stopTask := by
  refine h.silent ⟨.refl h.sane, rfl, ?_, hidle.symm⟩ rfl rfl
  exact fun owner a ha => .inl ⟨a, ha, rfl⟩

section

variable {e : Runtime.Event} {r : Ref} {payload : List UInt8}

/-- A packet of an active response goes out over UDP. -/
theorem Lined.sendAudio (h : Lined marks log s) (hgoes : handsOver s.connection e = some (r, payload))
    (hudp : overUdp s.connection = true) (hactive : s.connection.activeResponse = some r) :
    Lined marks (log ++ (s.sendAudio e r).2) (s.sendAudio e r).1 := by
  obtain ⟨hidle, -, segment, packet, hcall⟩ := handsOver_call hgoes
  rw [Wired.sendAudio]
  by_cases hspent : s.downlinkSequence ≥ uint32Max
  · rw [if_pos hspent, List.append_nil]
    exact h.stopTask hidle
  have haccepts := Binding.accepts_active h.sane.consistent hactive h.sane.opened
  obtain ⟨u, hheard, happlying, htimestamp, hparked⟩ :=
    sendMedia_udp h.sane hudp haccepts (Nat.le_of_not_ge hspent) segment packet payload
  rw [if_neg hspent, hcall]
  have hafter := hheard.trans hparked.binding
  refine ⟨hafter.sane, fun g hg => hafter.fenced g (h.marked g hg), ?_, ?_, fun item hitem => (h.output item hitem).later hafter.fenced, ?_, ?_⟩
  · rwa [hparked.timestamp]
  · intro owner a ha f hf
    rw [hparked.applying, happlying] at ha
    exact (h.applying owner a ha f hf).later hafter.fenced
  · exact h.sent.datagram (h.line_silent hidle) _ hafter
  · rw [hparked.parked]
    exact (h.single.trans (by rw [hidle]))

/-- A frame joins the line for the lock, or the segment goes no further. -/
theorem Lined.joinLock (h : Lined marks log s) (hgoes : handsOver s.connection e = some (r, payload))
    (hwss : overUdp s.connection = false)
    (hcarries : s.connection.binding.responses.accepts r = true →
      carries payload (generationOf s.connection r) = true) : Lined marks log (s.joinLock e r) := by
  obtain ⟨hidle, -, segment, packet, hcall⟩ := handsOver_call hgoes
  obtain ⟨n, hn⟩ := numbered_self hgoes
  have hcall := hcall n
  rw [hn] at hcall
  rw [Wired.joinLock, hcall]
  obtain ⟨haccepts, binding, hheard, hsending⟩ | hparked :=
    sendMedia_wss h.sane hwss hcarries h.timestamp segment packet n
  · rw [hsending]
    dsimp only
    refine ⟨hheard.sane, fun g hg => hheard.fenced g (h.marked g hg), h.timestamp, ?_,
      fun item hitem => (h.output item hitem).later hheard.fenced, ?_, ?_⟩
    · exact fun owner a ha f hf => (h.applying owner a ha f hf).later hheard.fenced
    · rw [inLine, List.map_append, ← List.append_assoc]
      refine h.sent.media h.sane haccepts ?_ hheard
      intro rec hrec
      rw [generationOf, hrec]
      rfl
    · rw [List.filter_append, List.filter_eq_nil_iff.mpr (by simpa using h.no_media hidle)]
      exact le_rfl
  · generalize (s.connection.sendMedia segment r packet payload n).1 = u at hparked ⊢
    have hline : Lined marks log { s with connection := u } := h.silent (hparked.silent hidle) rfl rfl
    cases htask : u.segmentTask with
    | sending _ _ _ =>
      have hnot := hparked.parked
      rw [htask] at hnot
      cases hnot
    | _ => exact hline

theorem Lined.runTask (h : Lined marks log s) (hsound : sound s (.task e) = true) (helsewhere : elsewhere e = false) :
    Lined marks (log ++ (s.runTask e).2) (s.runTask e).1 := by
  rw [sound] at hsound
  rw [Wired.runTask]
  cases hgoes : handsOver s.connection e with
  | none =>
    rw [List.append_nil]
    refine h.silent (call_silent h.sane e hgoes ?_ ?_) rfl rfl
    · rintro rfl
      cases helsewhere
    · rintro rfl
      cases helsewhere
  | some goes =>
    obtain ⟨r, payload⟩ := goes
    rw [hgoes] at hsound
    dsimp only at hsound ⊢
    cases hudp : overUdp s.connection with
    | true =>
      rw [hudp, if_pos rfl] at hsound
      rw [if_pos rfl]
      obtain ⟨-, hactive, -⟩ := handsOver_call hgoes
      refine h.sendAudio hgoes hudp (hactive.elim (fun hprebuffered => ?_) id)
      rw [hprebuffered] at hsound
      simpa using hsound
    | false =>
      rw [hudp, if_neg (by simp)] at hsound
      rw [if_neg (by simp), List.append_nil]
      refine h.joinLock hgoes hudp (fun haccepts => ?_)
      rw [haccepts] at hsound
      simpa using hsound

end

/-- The send of the frame at the head of the line is over. -/
theorem Lined.handed (h : Lined marks log s) {f : Frame} {rest : List Frame} (hlock : s.wireLock = f :: rest) :
    Sent s.connection.binding ((log ++ [.frame f]) ++ ({ s with wireLock := rest } : Wired).inLine) := by
  have hsent := h.sent
  rw [inLine, hlock] at hsent
  rw [List.append_assoc]
  exact hsent

theorem Lined.control_handed (h : Lined marks log s) {item : Outbound} {rest : List Frame}
    (hlock : s.wireLock = .control item :: rest) :
    Lined marks (log ++ [.frame (.control item)]) { s with wireLock := rest } where
  sane := h.sane
  marked := h.marked
  timestamp := h.timestamp
  applying := h.applying
  output := h.output
  sent := h.handed hlock
  single := by
    have hsingle := h.single
    rw [hlock] at hsingle
    exact hsingle

/-- With its frame the segment task leaves the line, which has no other frame of media. -/
theorem Lined.media_handed (h : Lined marks log s) {r : Ref} {g n : Nat} {rest : List Frame}
    (hlock : s.wireLock = .media r g n :: rest) :
    sends s.connection.segmentTask = true ∧ Sent s.connection.binding
      ((log ++ [.frame (.media r g n)]) ++ ({ s with wireLock := rest } : Wired).inLine) ∧
      (rest.filter isMedia).length = 0 := by
  have hsingle := h.single
  rw [hlock, List.filter_cons_of_pos rfl, List.length_cons] at hsingle
  cases hsends : sends s.connection.segmentTask with
  | false =>
    rw [hsends] at hsingle
    simp at hsingle
  | true =>
    rw [hsends, if_pos rfl] at hsingle
    exact ⟨rfl, h.handed hlock, by omega⟩

theorem mediaSent_parked {c : Connection} (h : Sane c.binding) (hsends : sends c.segmentTask = true) :
    ∃ u : Connection, u.binding = c.binding ∧ u.applying = c.applying ∧ u.downlinkTimestamp ≤ uint32Max ∧
      Parked u (c.call .mediaSent).1 := by
  rw [Connection.call]
  cases htask : c.segmentTask with
  | sending segment r packet =>
    obtain ⟨hbinding, happlying, htimestamp⟩ := advanceTimestamp_frame c
    refine ⟨c.advanceTimestamp, hbinding, happlying, htimestamp, nextPacket_parked ?_ segment r (packet + 1)⟩
    rwa [hbinding]
  | _ =>
    rw [htask] at hsends
    cases hsends

theorem Lined.written (h : Lined marks log s) :
    Lined marks (log ++ (s.call .written).2) (s.call .written).1 := by
  rw [call]
  split
  · rw [List.append_nil]
    exact h
  · rename_i item rest hlock
    have hhanded := h.control_handed hlock
    rw [acknowledge]
    cases item.ack with
    | none => exact ⟨hhanded.sane, hhanded.marked, hhanded.timestamp, hhanded.applying, hhanded.output, hhanded.sent,
        hhanded.single⟩
    | some owner =>
      exact ⟨hhanded.sane, hhanded.marked, hhanded.timestamp, hhanded.applying, hhanded.output, hhanded.sent,
        hhanded.single⟩
  · rename_i r g n rest hlock
    obtain ⟨hsends, hsent, hrest⟩ := h.media_handed hlock
    obtain ⟨u, hbinding, happlying, htimestamp, hparked⟩ := mediaSent_parked h.sane hsends
    have hunheard := hparked.binding
    rw [hbinding] at hunheard
    refine ⟨hunheard.sane, fun g hg => hunheard.fenced g (h.marked g hg), ?_, ?_,
      fun item hitem => (h.output item hitem).later hunheard.fenced, hsent.later hunheard, ?_⟩
    · rwa [hparked.timestamp]
    · intro owner a ha e he
      rw [hparked.applying, happlying] at ha
      exact (h.applying owner a ha e he).later hunheard.fenced
    · rw [hparked.parked]
      exact hrest.le

theorem Lined.timedOut (h : Lined marks log s) :
    Lined marks (log ++ (s.call .timedOut).2) (s.call .timedOut).1 := by
  rw [call]
  split
  · rw [List.append_nil]
    exact h
  · rename_i item rest hlock
    have hhanded := h.control_handed hlock
    exact ⟨hhanded.sane, hhanded.marked, hhanded.timestamp, hhanded.applying, hhanded.output, hhanded.sent,
        hhanded.single⟩
  · rename_i r g n rest hlock
    obtain ⟨-, hsent, hrest⟩ := h.media_handed hlock
    exact ⟨h.sane, h.marked, h.timestamp, h.applying, h.output, hsent, hrest.le⟩

theorem Lined.put (h : Lined marks log s) (owner : Owner) : Lined marks log (s.put owner) := by
  rw [Wired.put]
  split
  · rename_i a hack ha
    split
    · rename_i event hevent
      refine ⟨h.sane, h.marked, h.timestamp, h.applying, ?_, h.sent, h.single⟩
      intro item hitem
      obtain hitem | hitem := List.mem_append.mp hitem
      · exact h.output item hitem
      · obtain rfl := List.mem_singleton.mp hitem
        exact h.applying owner a ha event (List.mem_of_getElem? hevent)
    · exact h
  · exact h

theorem Lined.writerTake (h : Lined marks log s) :
    Lined marks (log ++ (s.call .writerTake).2) (s.call .writerTake).1 := by
  rw [call]
  split
  · rename_i item rest hwriter houtput
    have htold := h.output
    rw [houtput] at htold
    rw [List.append_nil]
    refine ⟨h.sane, h.marked, h.timestamp, h.applying, fun item' hitem => htold item' (List.mem_cons_of_mem _ hitem), ?_, ?_⟩
    · rw [inLine, List.map_append, ← List.append_assoc]
      exact h.sent.control (htold item List.mem_cons_self)
    · rw [List.filter_append, List.length_append]
      exact h.single
  · rw [List.append_nil]
    exact h

/-- One sound step. -/
theorem call_lined (h : Lined marks log s) (e : Event) (hsound : sound s e = true) :
    Lined marks (log ++ (s.call e).2) (s.call e).1 := by
  have hsame : ∀ {t : Wired}, Lined marks log t → Lined marks (log ++ []) t := fun ht => by rwa [List.append_nil]
  cases e with
  | task e =>
    rw [call.eq_def]
    split
    · rename_i owner heq
      split
      · refine hsame (h.silent (call_silent h.sane (.controlSent owner) rfl ?_ ?_) rfl rfl)
        · simp
        · simp
      · exact hsame h
    · rename_i e' hne heq
      obtain rfl := Event.task.inj heq
      cases helsewhere : elsewhere e with
      | true => exact hsame h
      | false => exact h.runTask hsound helsewhere
    all_goals rename_i heq; cases heq
  | sendFailed e =>
    rw [call]
    split
    · rename_i hfails
      obtain ⟨⟨r, payload⟩, hgoes⟩ := Option.isSome_iff_exists.mp hfails.1
      exact hsame (h.stopTask (handsOver_call hgoes).1)
    · exact hsame h
  | udpReply =>
    rw [call]
    split
    · exact hsame h
    · exact hsame (h.silent (.refl h.sane) rfl rfl)
  | put owner => exact hsame (h.put owner)
  | putOther event =>
    rw [call]
    split
    · rename_i hquiet
      refine hsame ⟨h.sane, h.marked, h.timestamp, h.applying, ?_, h.sent, h.single⟩
      intro item hitem
      obtain hitem | hitem := List.mem_append.mp hitem
      · exact h.output item hitem
      · obtain rfl := List.mem_singleton.mp hitem
        intro g hg
        rw [hquiet] at hg
        cases hg
    · exact hsame h
  | writerTake => exact h.writerTake
  | written => exact h.written
  | timedOut => exact h.timedOut

/-- A packet is given to the UDP transport only while its response is not fenced. -/
theorem Lined.datagram_unfenced (h : Lined marks log s) {e : Event} (hsound : sound s e = true) {r : Ref} {g n : Nat}
    (hnote : .datagram r g n ∈ (s.call e).2) : ¬Fenced s.connection.binding g := by
  have hsent : ∀ e', e = .task e' → .datagram r g n ∈ (s.runTask e').2 → ¬Fenced s.connection.binding g := by
    rintro e' rfl hnote
    rw [sound] at hsound
    rw [Wired.runTask] at hnote
    cases hgoes : handsOver s.connection e' with
    | none =>
      rw [hgoes] at hnote
      cases hnote
    | some goes =>
      obtain ⟨r', payload⟩ := goes
      rw [hgoes] at hsound hnote
      dsimp only at hsound hnote
      by_cases hudp : overUdp s.connection = true
      · rw [if_pos hudp] at hsound hnote
        have hactive : s.connection.activeResponse = some r' := by
          obtain ⟨-, hactive, -⟩ := handsOver_call hgoes
          refine hactive.elim (fun hprebuffered => ?_) id
          rw [hprebuffered] at hsound
          simpa using hsound
        have haccepts := Binding.accepts_active h.sane.consistent hactive h.sane.opened
        obtain ⟨-, rec, hrec, -, -⟩ := (Coordinator.accepts_iff _ r').mp haccepts
        rw [Wired.sendAudio] at hnote
        split at hnote
        · cases hnote
        · obtain ⟨rfl, rfl, rfl⟩ := Note.datagram.inj (List.mem_singleton.mp hnote)
          rw [generationOf, hrec]
          exact accepts_unfenced h.sane haccepts hrec
      · rw [if_neg hudp] at hnote
        cases hnote
  rw [call.eq_def] at hnote
  split at hnote
  · split at hnote <;> cases hnote
  · rename_i e' _
    split at hnote
    · cases hnote
    · exact hsent e' rfl hnote
  · split at hnote <;> cases hnote
  · split at hnote <;> cases hnote
  · cases hnote
  · split at hnote <;> cases hnote
  · split at hnote <;> cases hnote
  · split at hnote
    · cases hnote
    · cases List.mem_singleton.mp hnote
    · cases List.mem_singleton.mp hnote
  · split at hnote
    · cases hnote
    · cases List.mem_singleton.mp hnote
    · cases List.mem_singleton.mp hnote

theorem notes_snoc (es : List (Event × List Note)) (e : Event × List Note) : notes (es ++ [e]) = notes es ++ e.2 := by
  simp [notes]

theorem run_lined {es : List (Event × List Note)} (hs : Lined marks log s) (h : Run SoundStep s es t) :
    Lined marks (log ++ notes es) t := by
  refine h.invariant (R := fun es t => Lined marks (log ++ notes es) t) ?_ ?_
  · rwa [show notes [] = [] from rfl, List.append_nil]
  · intro es t e u _ ht hstep
    obtain ⟨hsound, hcall⟩ := hstep
    have hu := call_lined ht e.1 hsound
    rw [show t.call e.1 = (u, e.2) from hcall] at hu
    rwa [notes_snoc, ← List.append_assoc]

/-- In every run of sound steps no packet of a response goes to the UDP transport once
its playback is fenced, no frame of it follows its stop on the websocket, and where no frame
of it is in line for the lock its record has the sequence of the last packet that was handed
over. A frame is noted before it goes into the line, so one that is there counts as well. -/
theorem no_media_after_fence {limits : Runtime.Limits} {config : BindingConfig} {es fs : List (Event × List Note)}
    (hrun : Run SoundStep (start limits config) es s) (hlater : Run SoundStep s fs t) :
    (∀ g, Fenced s.connection.binding g → ∀ r n, .datagram r g n ∉ notes fs) ∧
      (notes (es ++ fs)).Pairwise InOrder ∧
      (∀ r, t.inLine.filterMap (Note.sequenceOf r) = [] →
        lastOf t.connection.binding r = ((notes (es ++ fs)).filterMap (Note.sequenceOf r)).getLast?) ∧
      ∀ r, lastOf t.connection.binding r =
        ((notes (es ++ fs) ++ t.inLine).filterMap (Note.sequenceOf r)).getLast? := by
  have hs := run_lined (start_lined limits config) hrun
  have ht := run_lined hs hlater
  rw [List.nil_append, show notes es ++ notes fs = notes (es ++ fs) by simp [notes]] at ht
  have hrecord : ∀ r, t.inLine.filterMap (Note.sequenceOf r) = [] →
      lastOf t.connection.binding r = ((notes (es ++ fs)).filterMap (Note.sequenceOf r)).getLast? := by
    intro r hline
    rw [ht.sent.last r, List.filterMap_append, hline, List.append_nil]
  refine ⟨?_, (List.pairwise_append.mp ht.sent.ordered).1, hrecord, ht.sent.last⟩
  have hinv : Lined (Fenced s.connection.binding) (notes es ++ notes fs) t ∧
      ∀ g, Fenced s.connection.binding g → ∀ r n, .datagram r g n ∉ notes fs := by
    refine hlater.invariant (R := fun fs t => Lined (Fenced s.connection.binding) (notes es ++ notes fs) t ∧
      ∀ g, Fenced s.connection.binding g → ∀ r n, .datagram r g n ∉ notes fs) ⟨?_, by simp [notes]⟩ ?_
    · rw [show notes [] = [] from rfl, List.append_nil]
      exact { hs with marked := fun _ => id }
    · intro fs t e u _ ⟨ht, hnone⟩ hstep
      obtain ⟨hsound, hcall⟩ := hstep
      have hu := call_lined ht e.1 hsound
      have hunfenced : ∀ r g n, .datagram r g n ∈ (t.call e.1).2 → ¬Fenced t.connection.binding g :=
        fun r g n => ht.datagram_unfenced hsound
      rw [show t.call e.1 = (u, e.2) from hcall] at hu hunfenced
      rw [notes_snoc, ← List.append_assoc]
      refine ⟨hu, fun g hg r n hnote => ?_⟩
      obtain hnote | hnote := List.mem_append.mp hnote
      · exact hnone g hg r n hnote
      · exact hunfenced r g n hnote (ht.marked g hg)
  exact hinv.2

theorem fenced_of_any {b : Binding} {r : Ref} {g : Nat}
    (h : (b.responses.heap[r]?).any (fun rec => rec.target.generation == g && rec.stopSent) = true) : Fenced b g := by
  rw [Option.any_eq_true] at h
  obtain ⟨rec, hrec, htest⟩ := h
  rw [Bool.and_eq_true, beq_iff_eq] at htest
  exact ⟨r, rec, hrec, htest⟩

theorem datagram_mem {sent : List Note} {r : Ref} {g n : Nat}
    (h : sent.any (fun note => match note with
      | .datagram r' g' n' => r' == r && g' == g && n' == n
      | .frame _ => false) = true) : .datagram r g n ∈ sent := by
  obtain ⟨note, hnote, htest⟩ := List.any_eq_true.mp h
  cases note with
  | datagram r' g' n' =>
    simp only [Bool.and_eq_true, beq_iff_eq] at htest
    obtain ⟨⟨rfl, rfl⟩, rfl⟩ := htest
    exact hnote
  | frame f => cases htest

def demoLimits : Runtime.Limits := { maxSegmentFrames := 100, playbackPrebufferPackets := 2 }

/-- The session opens, its event is written, and the first response begins. -/
def demoBegin (opening : Message) : List Event :=
  [.task (.control opening), .put .reader, .writerTake, .written, .task (.controlSent .reader),
    .task (.applyDone .reader), .task (.emitSegment { producerEpoch := 1, frames := 6 }), .task .take,
    .task .beginSent]

/-- Over the websocket the fence lands while the first frame waits for the lock. -/
def demoFenced : List Event :=
  demoBegin Binding.demoOpen ++
    [.putOther (.responseBegin "resp-00000001" 1), .writerTake, .task (.encoded [7] 0 false),
      .task (.acceptInterruption "resp-00000001" 1), .put .coordinator]

/-- The begin, the frame and the stop are written in this order, and the rest of the
segment is cut. -/
def demoWritten : List Event :=
  [.written, .writerTake, .written, .written, .task (.controlSent .coordinator)]

theorem no_media_after_fence_interrupted :
    let s := after call (start demoLimits Binding.demoConfig) demoFenced
    let t := after call s demoWritten
    (∀ r n, .datagram r 1 n ∉ notes (history call s demoWritten)) ∧
      (notes (history call (start demoLimits Binding.demoConfig) demoFenced ++ history call s demoWritten)).Pairwise
        InOrder ∧
      s.inLine.filterMap (Note.sequenceOf 0) = [0] ∧ t.inLine.filterMap (Note.sequenceOf 0) = [] ∧
      (notes (history call s demoWritten)).filterMap (Note.sequenceOf 0) = [0] ∧
      lastOf t.connection.binding 0 = some 0 ∧
      lastOf t.connection.binding 0 =
        ((notes (history call (start demoLimits Binding.demoConfig) demoFenced ++ history call s demoWritten)).filterMap
          (Note.sequenceOf 0)).getLast? := by
  obtain ⟨hearlier, hlater, hfenced, hbefore, hline, hnotes, hlast⟩ :
      Along (fun (s : Wired) (e : Event) => sound s e = true) call (start demoLimits Binding.demoConfig) demoFenced ∧
      Along (fun (s : Wired) (e : Event) => sound s e = true) call
        (after call (start demoLimits Binding.demoConfig) demoFenced) demoWritten ∧
      ((after call (start demoLimits Binding.demoConfig) demoFenced).connection.binding.responses.heap[0]?).any
        (fun rec => rec.target.generation == 1 && rec.stopSent) = true ∧
      (after call (start demoLimits Binding.demoConfig) demoFenced).inLine.filterMap (Note.sequenceOf 0) = [0] ∧
      (after call (after call (start demoLimits Binding.demoConfig) demoFenced) demoWritten).inLine.filterMap
        (Note.sequenceOf 0) = [] ∧
      (notes (history call (after call (start demoLimits Binding.demoConfig) demoFenced) demoWritten)).filterMap
        (Note.sequenceOf 0) = [0] ∧
      lastOf (after call (after call (start demoLimits Binding.demoConfig) demoFenced) demoWritten).connection.binding
        0 = some 0 := by
    decide +kernel
  obtain ⟨hnone, hordered, hrecord, -⟩ := no_media_after_fence (run_history_along hearlier) (run_history_along hlater)
  exact ⟨hnone 1 (fenced_of_any hfenced), hordered, hbefore, hline, hnotes, hlast, hrecord 0 hline⟩

def demoUdpConfig : BindingConfig := { Binding.demoConfig with allowedProfiles := [.udpOpusGcm], udpGrant := some [] }

/-- Over UDP the fence lands while the second packet of the prebuffer is encoded. -/
def demoEncoding : List Event :=
  demoBegin Binding.demoUdpOpen ++ [.task (.encoded [7] 0 false), .task (.acceptInterruption "resp-00000001" 1)]

theorem fenced_packet_sent :
    let s := after call (start demoLimits demoUdpConfig) demoEncoding
    let t := s.call (.task (.encoded [7] 0 false))
    Run Wired.Step (start demoLimits demoUdpConfig) (history call (start demoLimits demoUdpConfig) demoEncoding) s ∧
      Fenced s.connection.binding 1 ∧ .datagram 0 1 1 ∈ t.2 ∧ t.1.wireLock.isEmpty = true ∧
      lastOf t.1.connection.binding 0 = some 0 := by
  obtain ⟨hfenced, hsent, hrest⟩ :
      ((after call (start demoLimits demoUdpConfig) demoEncoding).connection.binding.responses.heap[0]?).any
        (fun rec => rec.target.generation == 1 && rec.stopSent) = true ∧
      ((after call (start demoLimits demoUdpConfig) demoEncoding).call (.task (.encoded [7] 0 false))).2.any
        (fun note => match note with
          | .datagram r g n => r == 0 && g == 1 && n == 1
          | .frame _ => false) = true ∧
      ((after call (start demoLimits demoUdpConfig) demoEncoding).call
          (.task (.encoded [7] 0 false))).1.wireLock.isEmpty = true ∧
      lastOf ((after call (start demoLimits demoUdpConfig) demoEncoding).call
          (.task (.encoded [7] 0 false))).1.connection.binding 0 = some 0 := by
    decide +kernel
  exact ⟨run_history _ _ _, fenced_of_any hfenced, datagram_mem hsent, hrest⟩

end Wired

end RealtimeVoice.Rva.Wire
