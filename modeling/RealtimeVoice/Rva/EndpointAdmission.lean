import RealtimeVoice.Rva.EndpointSession

namespace RealtimeVoice.Rva

open RealtimeVoice.Base RealtimeVoice.Base.Json RealtimeVoice.Base.Runs RealtimeVoice.Contracts RealtimeVoice.Firmware
open RealtimeVoice.Firmware.WssSession (increment increment_mod)
open RealtimeVoice.Firmware.Session (MediaOwner SessionGate)
open RealtimeVoice.Rva.Coordinator (Moves)
open RealtimeVoice.Udp (PacketHeader)

theorem mediaIdText_injective {bytes bytes' : List UInt8} (h : mediaIdText bytes = mediaIdText bytes') :
    bytes = bytes' := by
  have hread := readNibbles_hexByte bytes
  rw [mediaIdText, mediaIdText, String.ofList_inj] at h
  rw [h, readNibbles_hexByte] at hread
  exact (Option.some.inj hread).symm

/-- A command for a target that the binding names finds its way into the queue. -/
theorem enqueuePlaybackCommand_admitted {r : SupervisorReads} (hr : r.Ready) {responseId : String} {generation : Nat}
    (hid : identifierMatches responseId = true) (hmin : 1 ≤ generation) :
    Supervisor.enqueuePlaybackCommand r { responseId, generation } = true := by
  obtain ⟨hsimple, hlength⟩ := identifier_simple hid
  have hne : responseId ≠ "" := by
    rintro rfl
    revert hid
    decide
  have hsize : ¬Control.size responseId > Control.maxIdBytes := by
    rw [Control.size, utf8Length_simple hsimple]
    exact Nat.not_lt.mpr hlength
  simp only [Supervisor.enqueuePlaybackCommand, beq_eq_false_iff_ne.mpr hne, decide_eq_false hsize,
    beq_eq_false_iff_ne.mpr (Nat.one_le_iff_ne_zero.mp hmin), hr.queued]
  rfl

theorem commitMedia_some {gate : SessionGate} {profile : TransportProfile} {owner : MediaOwner}
    (hphase : gate.phase = .opening) (howner : SessionGate.ownerMatchesProfile profile owner = true) :
    gate.commitMedia profile owner =
      some { gate with transportProfile := some profile, mediaOwner := owner, phase := .active } := by
  rw [SessionGate.commitMedia, hphase, howner, if_neg (by decide)]

/-- The end of a response that is not complete tells the playback nothing. -/
theorem handleMessage_end {q : Supervisor} {session : Control.SessionIdentity} {responseId errorCode : String}
    {generation : Nat} {outcome : Control.ResponseOutcome} {finalMediaSequence : Option Nat} (r : SupervisorReads)
    (hlive : q.session.closed = false) (hopened : q.session.opened = true)
    (hmatches : q.session.sessionMatches session = true) (hactive : q.session.responseActive = true)
    (hid : q.session.responseId = responseId) (hgeneration : q.session.responseGeneration = generation)
    (houtcome : outcome ≠ .completed) :
    q.handleMessage r (.response { type := .responseEnd, session, responseId, generation, outcome, finalMediaSequence
                                   errorCode }) =
      ({ q with session := { q.session with responseActive := false, mediaActive := false } }, []) := by
  rw [Supervisor.handleMessage.eq_def]
  dsimp only
  rw [accept_end hlive hopened hmatches hactive hid hgeneration]
  dsimp only
  rw [Supervisor.handleResponse]
  dsimp only
  rw [if_neg houtcome]

/-- What the endpoint knows of an open binding. -/
structure Linked (openRequestId : String) (b : Binding) (p : Supervisor) : Prop where
  requestId : p.session.openRequestId = openRequestId
  opened : p.session.opened = b.opened
  live : p.session.closed = false
  epoch : p.expectedSessionEpoch = b.config.sessionEpoch
  identity : b.opened = true →
    p.session.session = { sessionId := b.config.sessionId, sessionEpoch := b.config.sessionEpoch } ∧
      p.session.mediaId = b.config.mediaId ∧ p.session.mediaEpoch = b.config.mediaEpoch
  gate : p.gate.phase = if b.opened then .active else .opening
  advanced : p.gate.playbackGeneration ≤ b.responses.session.generation
  unselected : b.opened = false → b.selectedMediaProfile = none
  owner : b.selectedMediaProfile = some .wssOpus → p.mediaOwner = .wss
  follows : Follows b.responses p.session
  media : b.selectedMediaProfile ≠ some .udpOpusGcm →
    p.session.nextMediaSequence = b.nextDownlinkSequence % 2 ^ 32
  texts : b.responses.active.isSome = true →
    p.session.nextResponseTextSequence = b.nextResponseTextSequence % 2 ^ 32
  utterance : p.session.utteranceActive = b.activeUtteranceId.isSome
  transcripts : ∀ utteranceId, b.activeUtteranceId = some utteranceId →
    p.session.utteranceId = utteranceId ∧ p.session.nextTranscriptSequence = b.nextTranscriptSequence % 2 ^ 32

/-- A session is opened on this request only. -/
def ServerEvent.Requested (openRequestId : String) : ServerEvent → Prop
  | .sessionOpened requestId _ _ _ _ => requestId = openRequestId
  | _ => True

/-- An event that the firmware reads. -/
structure ServerEvent.Legible (b : Binding) (e : ServerEvent) : Prop where
  admitted : e.Admitted
  inRange : e.InRange
  fits : e.Fits b
  clean : e.Clean
  grant : e.GrantReadable

theorem ServerEvent.Legible.of_config {b b' : Binding} {e : ServerEvent} (h : e.Legible b') (hconfig : b'.config = b.config) :
    e.Legible b where
  admitted := h.admitted
  inRange := h.inRange
  fits := by
    rw [ServerEvent.Fits, ← hconfig]
    exact h.fits
  clean := h.clean
  grant := h.grant

section Reactions

variable {cJSON : List Char → Option Json} {exact : Int → Prop} (hread : Reads exact cJSON)
  (hexact : ∀ n : Nat, n ≤ uint53Max → exact n) {config : BindingConfig} {openRequestId : String} {b b' : Binding}
  {p : Supervisor} (h : Linked openRequestId b p) (hp : p.running = true) (hlive : b.Live)

namespace Linked

theorem init (openRequestId : String) (config : BindingConfig) :
    Linked openRequestId (.init config) (.start openRequestId config.sessionEpoch) where
  requestId := rfl
  opened := rfl
  live := rfl
  epoch := rfl
  identity hopen := by cases hopen
  gate := rfl
  advanced := le_rfl
  unselected _ := rfl
  owner hwss := by cases hwss
  follows := .init _ rfl rfl openRequestId
  media _ := rfl
  texts hsome := by cases hsome
  utterance := rfl
  transcripts _ hsome := by cases hsome

include h

theorem sessionMatches (hlive : b.Live) :
    p.session.sessionMatches { sessionId := b.config.sessionId, sessionEpoch := b.config.sessionEpoch } = true := by
  rw [WssSession.sessionMatches, h.opened, hlive.1, (h.identity hlive.1).1]
  simp

/-- The coordinator has changed and the endpoint need not. -/
theorem unheard {responses : Coordinator} (hfollows : Follows responses p.session)
    (hgeneration : b.responses.session.generation ≤ responses.session.generation) :
    Linked openRequestId { b with responses } p :=
  { h with
    advanced := h.advanced.trans hgeneration
    follows := hfollows
    texts := fun hsome => h.texts (h.follows.responding.symm.trans (hfollows.responding.trans hsome)) }

end Linked

include hread hexact hp

/-- The frame of an event that the firmware reads goes to its session. -/
theorem react_event {e : ServerEvent} (he : e.Legible b) :
    ∃ m, e.DecodesTo b.config.sessionId b.config.sessionEpoch m ∧
      ∀ reads, (endpoint cJSON b.config).react p (.event e) reads = p.handleMessage reads m := by
  have hdata : encodeControl (e.message b.config.sessionId b.config.sessionEpoch) =
      .ok (dumps (.obj (e.message b.config.sessionId b.config.sessionEpoch))) := by
    rw [encodeControl, if_neg (Nat.not_lt.mpr he.fits)]
  obtain ⟨hiff, hdecodes⟩ := parseServerMessage_iff b.config.sessionId_valid b.config.sessionEpoch_valid he.admitted
    hread hexact he.inRange hdata
  obtain ⟨m, hm⟩ := hiff.mpr ⟨he.clean, he.grant⟩
  refine ⟨m, hdecodes m hm, fun reads => ?_⟩
  change p.handleFrame cJSON reads (.text _) = _
  rw [Supervisor.handleFrame.eq_def, if_pos hp]
  change p.handleControl cJSON reads _ = _
  rw [Supervisor.handleControl, hm]

include h hlive

theorem react_transcript (reads : SupervisorReads) {final : Bool} {utteranceId text : String} {n : Nat} {e : ServerEvent}
    (he : e = if final then .transcriptFinal utteranceId n text else .transcriptDelta utteranceId n text)
    (hlegible : e.Legible b) (hadvance : b.advanceTranscript utteranceId n final = .ok b') (hn : n ≤ uint32Max) :
    ∃ q, (endpoint cJSON b.config).react p (.event e) reads = (q, [.transcript text final]) ∧ q.running = true ∧
      Linked openRequestId b' q := by
  obtain ⟨m, hdecodes, hreact⟩ := react_event hread hexact hp hlegible
  obtain rfl : m = .transcript
      { final, session := { sessionId := b.config.sessionId, sessionEpoch := b.config.sessionEpoch }
        utteranceId, sequence := n, text } := by
    subst he
    cases final <;> exact hdecodes
  have hsequence : n % 2 ^ 32 = n := Nat.mod_eq_of_lt (Nat.lt_succ_of_le hn)
  rw [Binding.advanceTranscript] at hadvance
  split at hadvance
  · cases hadvance
  split at hadvance
  · cases hadvance
  rename_i active next hnext
  split at hadvance
  · cases hadvance
  rename_i hsame
  obtain ⟨rfl, rfl⟩ := not_or.mp hsame |>.imp not_not.mp not_not.mp
  have hstate : p.session.utteranceActive = false ∧ n = 0 ∨
      p.session.utteranceActive = true ∧ p.session.utteranceId = utteranceId ∧ n = p.session.nextTranscriptSequence := by
    cases hactive : b.activeUtteranceId with
    | none =>
      rw [hactive] at hnext
      dsimp only at hnext
      split at hnext
      · cases hnext
      · obtain ⟨-, rfl⟩ := Prod.mk.inj (Option.some.inj hnext)
        left
        rw [h.utterance, hactive]
        exact ⟨rfl, rfl⟩
    | some utterance =>
      rw [hactive] at hnext
      obtain ⟨rfl, rfl⟩ := Prod.mk.inj (Option.some.inj hnext)
      obtain ⟨hid, hsequence'⟩ := h.transcripts utterance hactive
      right
      rw [h.utterance, hactive]
      exact ⟨rfl, hid, (hsequence'.trans hsequence).symm⟩
  rw [hreact, Supervisor.handleMessage.eq_def]
  dsimp only
  rw [accept_transcript h.live (h.opened.trans hlive.1) (h.sessionMatches hlive) hstate]
  refine ⟨_, rfl, hp, ?_⟩
  cases final with
  | true =>
    obtain rfl := Except.ok.inj hadvance
    exact { h with
      follows := { h.follows with }
      utterance := rfl
      transcripts := fun _ hsome => by cases hsome }
  | false =>
    obtain rfl := Except.ok.inj hadvance
    refine { h with
      follows := { h.follows with }
      utterance := rfl
      transcripts := fun _ hsome => ?_ }
    obtain rfl := Option.some.inj hsome
    exact ⟨rfl, rfl⟩

theorem react_text (reads : SupervisorReads) {r : Ref} {rec : ResponseRecord} {text : String}
    (haccepts : b.responses.accepts r = true) (hrec : b.responses.heap[r]? = some rec) (hc : b.responses.Consistent)
    (hlegible : (ServerEvent.responseText rec.responseId rec.target.generation b.nextResponseTextSequence text).Legible b) :
    ∃ q, (endpoint cJSON b.config).react p
        (.event (.responseText rec.responseId rec.target.generation b.nextResponseTextSequence text)) reads =
      (q, [.responseText text]) ∧ q.running = true ∧
      Linked openRequestId { b with nextResponseTextSequence := b.nextResponseTextSequence + 1 } q := by
  obtain ⟨m, rfl, hreact⟩ := react_event hread hexact hp hlegible
  obtain ⟨hactive, -⟩ := (Coordinator.accepts_iff b.responses r).mp haccepts
  obtain ⟨hid, htarget, -⟩ := h.follows.target r rec (hc.active r hactive) hrec
  have hsome : b.responses.active.isSome = true := congrArg Option.isSome hactive
  have htexts := h.texts hsome
  have hn : b.nextResponseTextSequence % 2 ^ 32 = b.nextResponseTextSequence :=
    Nat.mod_eq_of_lt (Nat.lt_succ_of_le hlegible.admitted.2.2.1)
  rw [hreact, Supervisor.handleMessage.eq_def]
  dsimp only
  rw [accept_text h.live (h.opened.trans hlive.1) (h.sessionMatches hlive) (h.follows.responding.trans hsome) hid htarget
    (htexts.trans hn).symm]
  exact ⟨_, rfl, hp, { h with follows := { h.follows with }, texts := fun _ => rfl }⟩

theorem react_begin {reads : SupervisorReads} (hready : reads.Ready) {r : Ref} {rec : ResponseRecord} {responses : Coordinator}
    (hm : Moves b.responses (.begun r) responses) (hrec : responses.heap[r]? = some rec)
    (hb' : b' = { b with responses, nextResponseTextSequence := 0 })
    (hlegible : (ServerEvent.responseBegin rec.responseId rec.target.generation).Legible b') :
    ∃ q, (endpoint cJSON b.config).react p (.event (.responseBegin rec.responseId rec.target.generation)) reads =
      (q, [.begin { responseId := rec.responseId, generation := rec.target.generation }]) ∧ q.running = true ∧
      Linked openRequestId b' q := by
  subst hb'
  obtain ⟨m, rfl, hreact⟩ := react_event hread hexact hp hlegible
  obtain ⟨hactive, hfence, hfollows⟩ := h.follows.begun hm hrec rfl
  have hqueued := enqueuePlaybackCommand_admitted hready hlegible.admitted.1 hlegible.admitted.2
  have hadvance : p.gate.playbackGeneration < rec.target.generation := by
    refine h.advanced.trans_lt ?_
    rw [← h.follows.fence]
    exact hfence
  have hphase : p.gate.phase = .active := by rw [h.gate, if_pos hlive.1]
  rw [hreact, Supervisor.handleMessage.eq_def]
  dsimp only
  rw [accept_begin h.live (h.opened.trans hlive.1) (h.sessionMatches hlive) rec.responseId hactive hfence]
  dsimp only
  rw [Supervisor.handleResponse]
  dsimp only
  rw [SessionGate.advancePlaybackGeneration, if_neg (by simp [hphase, hadvance])]
  dsimp only
  rw [if_pos hqueued]
  refine ⟨_, rfl, hp, { h with
    advanced := ?_
    follows := hfollows
    texts := fun _ => rfl
    gate := by rw [← h.gate] }⟩
  exact hfollows.fence.le

theorem react_end {reads : SupervisorReads} (hready : reads.Ready) {r : Ref} {rec : ResponseRecord} {responses : Coordinator}
    (hm : Moves b.responses (.completed r) responses) (hrec : responses.heap[r]? = some rec)
    (hlegible : (ServerEvent.responseEnd rec.responseId rec.target.generation .completed none
      rec.lastMediaSequence).Legible { b with responses }) :
    ∃ q, (endpoint cJSON b.config).react p
        (.event (.responseEnd rec.responseId rec.target.generation .completed none rec.lastMediaSequence)) reads =
      (q, Sent.Item.expected (.event (.responseEnd rec.responseId rec.target.generation .completed none
        rec.lastMediaSequence)) reads) ∧ q.running = true ∧
      Linked openRequestId { b with responses } q := by
  obtain ⟨m, rfl, hreact⟩ := react_event hread hexact hp hlegible
  obtain ⟨⟨hactive, hid, htarget⟩, hfollows⟩ := h.follows.completed hm hrec
  obtain ⟨hresponse, hmin, -, last, hlast, -⟩ := hlegible.admitted
  rw [hreact, Supervisor.handleMessage.eq_def, hlast]
  dsimp only
  rw [accept_end h.live (h.opened.trans hlive.1) (h.sessionMatches hlive) hactive hid htarget]
  dsimp only
  rw [Supervisor.handleResponse]
  dsimp only
  rw [if_pos (show ResponseOutcome.completed.decoded = .completed from rfl),
    if_pos (enqueuePlaybackCommand_admitted hready hresponse hmin)]
  refine ⟨_, rfl, hp, { h with advanced := ?_, follows := hfollows, texts := fun hsome => ?_ }⟩
  · exact h.advanced.trans (Coordinator.moves_generation hm)
  · rw [← hfollows.responding] at hsome
    cases hsome

/-- The endpoint stops a playback with the server, and its response unless that was complete. -/
theorem answers_fence {r : Ref} {cause : StopCause} {responses : Coordinator} {g : Nat} {effect : ControlEffect}
    (hc : b.responses.Consistent) (hm : Moves b.responses (.fenced r g) responses) (hb' : b' = { b with responses })
    (heffect : b'.fenceEffect r g cause = .ok effect) (hlegible : ∀ e ∈ effect.outbound, e.Legible b') :
    (endpoint cJSON b.config).Answers SupervisorReads.Ready Sent.Item.final Sent.Item.expected (Linked openRequestId b') p
      (effect.outbound.map .event) := by
  obtain ⟨rec, hrec, rfl⟩ := Binding.fenceEffect_ok heffect
  subst hb'
  dsimp only at hlegible ⊢
  obtain ⟨⟨hid, htarget, hrecorded, hfence⟩, hfollows⟩ :=
    h.follows.fenced hc hm hrec (WssSession.parsePlaybackStopCause cause.text)
  have hstop := hlegible _ List.mem_cons_self
  obtain ⟨m, rfl, hreact⟩ := react_event hread hexact hp hstop
  obtain ⟨hresponse, hmin, -⟩ := hstop.admitted
  have hstopped : ∀ reads : SupervisorReads, reads.Ready → (endpoint cJSON b.config).react p
      (.event (.playbackStop rec.responseId rec.target.generation g cause)) reads =
      ({ p with session := Follows.stoppedAt p.session g (WssSession.parsePlaybackStopCause cause.text) },
        [.stop { responseId := rec.responseId, generation := rec.target.generation } g]) := by
    intro reads hready
    rw [hreact, Supervisor.handleMessage.eq_def]
    dsimp only
    rw [accept_stop h.live (h.opened.trans hlive.1) (h.sessionMatches hlive) hrecorded hid htarget hfence]
    dsimp only
    rw [if_pos (enqueuePlaybackCommand_admitted hready hresponse hmin)]
  have hadvanced : p.gate.playbackGeneration ≤ responses.session.generation :=
    h.advanced.trans (Coordinator.moves_generation hm)
  by_cases hcompleted : rec.outcome = some .completed
  · rw [if_pos hcompleted] at hfollows hlegible ⊢
    refine .single hp rfl fun reads hready =>
      ⟨_, hstopped reads hready, hp, { h with advanced := hadvanced, follows := hfollows, texts := ?_ }⟩
    intro hsome
    exact h.texts (h.follows.responding.symm.trans (hfollows.responding.trans hsome))
  · rw [if_neg hcompleted] at hfollows hlegible ⊢
    obtain ⟨hactive, hfollows⟩ := hfollows
    let q : Supervisor :=
      { p with session := Follows.stoppedAt p.session g (WssSession.parsePlaybackStopCause cause.text) }
    obtain ⟨m', rfl, hreact'⟩ := react_event hread hexact (p := q) hp
      (hlegible _ (List.mem_cons_of_mem _ List.mem_cons_self))
    have hexpected : ∀ reads, Sent.Item.expected (.event (.responseEnd rec.responseId rec.target.generation
        (Binding.stopOutcome cause) (Binding.stopErrorCode cause) none)) reads = [] := by
      intro reads
      cases cause <;> rfl
    have houtcome : (Binding.stopOutcome cause).decoded ≠ .completed := by cases cause <;> decide
    have hended := fun reads => (hreact' reads).trans (handleMessage_end (q := q) reads h.live (h.opened.trans hlive.1)
      (h.sessionMatches hlive) hactive hid htarget houtcome)
    refine .cons hp rfl fun reads hready => ⟨_, hstopped reads hready, .single hp rfl fun later _ =>
      ⟨_, (hended later).trans (congrArg (Prod.mk _) (hexpected later).symm), hp, ?_⟩⟩
    refine { h with advanced := hadvanced, follows := hfollows, texts := fun hsome => ?_ }
    rw [← hfollows.responding] at hsome
    cases hsome

/-- A session error or a close ends the session of the endpoint. -/
theorem react_final (reads : SupervisorReads) {e : ServerEvent} (he : Sent.Item.final (.event e) = true)
    (hlegible : e.Legible b) :
    ∃ q, (endpoint cJSON b.config).react p (.event e) reads = (q, Sent.Item.expected (.event e) reads) ∧
      q.running = false := by
  obtain ⟨m, hdecodes, hreact⟩ := react_event hread hexact hp hlegible
  rw [hreact, Supervisor.handleMessage.eq_def]
  cases e with
  | sessionError code retryable message =>
    subst hdecodes
    dsimp only
    rw [accept_error h.live (h.opened.trans hlive.1) (h.sessionMatches hlive)]
    exact ⟨_, rfl, rfl⟩
  | sessionClose reason =>
    subst hdecodes
    dsimp only
    obtain ⟨s, hs⟩ := accept_close h.live (h.opened.trans hlive.1) (h.sessionMatches hlive) reason "server"
    rw [hs]
    exact ⟨_, rfl, rfl⟩
  | _ => cases he

omit hlive

/-- The endpoint takes the session that it asked for. -/
theorem react_opened {reads : SupervisorReads} (hready : reads.Ready) {profile : TransportProfile}
    {grant : Option Message} (hopened : b.opened = false) (hsome : profile = .udpOpusGcm → b.config.udpGrant ≠ none)
    (hgrant : grant = if profile = .udpOpusGcm then b.config.udpGrant else none)
    (hb' : b' = { b with opened := true, selectedMediaProfile := some profile })
    (hlegible : (ServerEvent.sessionOpened openRequestId b.mediaIdHex b.config.mediaEpoch profile grant).Legible b') :
    ∃ q, (endpoint cJSON b.config).react p
        (.event (.sessionOpened openRequestId b.mediaIdHex b.config.mediaEpoch profile grant)) reads =
      (q, [.mediaProfile (if profile = .udpOpusGcm then .udp else .wss)]) ∧ q.running = true ∧
      Linked openRequestId b' q := by
  subst hb'
  obtain ⟨m, ⟨bytes, decoded, hbytes, hdecoded, rfl⟩, hreact⟩ := react_event hread hexact hp hlegible
  obtain rfl : b.config.mediaId = bytes := mediaIdText_injective hbytes
  have hsession : p.session.accept (.sessionOpened
      { requestId := openRequestId
        session := { sessionId := b.config.sessionId, sessionEpoch := b.config.sessionEpoch }
        mediaId := b.config.mediaId, mediaEpoch := b.config.mediaEpoch, selectedMediaProfile := profileText profile
        udpGrant := decoded, heartbeatIntervalMs := 15000, idleTimeoutMs := 45000 }) =
      ({ p.session with
          session := { sessionId := b.config.sessionId, sessionEpoch := b.config.sessionEpoch }
          mediaId := b.config.mediaId, mediaEpoch := b.config.mediaEpoch, opened := true }, .accepted) := by
    rw [WssSession.accept, if_neg (ne_true_of_eq_false h.live)]
    dsimp only
    rw [WssSession.acceptOpened, h.opened, hopened, if_neg Bool.false_ne_true,
      if_neg (not_not.mpr h.requestId.symm)]
  rw [hreact, Supervisor.handleMessage.eq_def]
  dsimp only
  rw [Supervisor.handleOpened, Supervisor.admitOpened, if_neg (not_not.mpr h.epoch.symm), hsession]
  have hphase : p.gate.phase = .opening := by rw [h.gate, hopened]; rfl
  have hfollows : Follows b.responses { p.session with
      session := { sessionId := b.config.sessionId, sessionEpoch := b.config.sessionEpoch }
      mediaId := b.config.mediaId, mediaEpoch := b.config.mediaEpoch, opened := true } := { h.follows with }
  have hmedia : p.session.nextMediaSequence = b.nextDownlinkSequence % 2 ^ 32 :=
    h.media (by rw [h.unselected hopened]; decide)
  have hunselected : true = false → some profile = none := fun hfalse => by cases hfalse
  cases profile with
  | wssOpus =>
    dsimp only
    rw [show Supervisor.parseTransportProfile (profileText .wssOpus) = some .wssOpus from rfl]
    dsimp only
    rw [if_neg (by rintro ⟨howner, -⟩; cases howner), commitMedia_some hphase rfl]
    dsimp only
    rw [hready.startsMedia]
    exact ⟨_, rfl, hp, { h with
      opened := rfl, identity := fun _ => ⟨rfl, rfl, rfl⟩, gate := rfl, unselected := hunselected, owner := fun _ => rfl
      follows := hfollows, media := fun _ => hmedia }⟩
  | udpOpusGcm =>
    have hdecodes : decoded.isNone = false := by
      rw [if_pos rfl] at hgrant
      cases decoded with
      | some _ => rfl
      | none =>
        cases grant with
        | none => exact absurd hgrant.symm (hsome rfl)
        | some _ => exact hdecoded.elim
    dsimp only
    rw [show Supervisor.parseTransportProfile (profileText .udpOpusGcm) = some .udpOpusGcm from rfl]
    dsimp only
    rw [hdecodes, hready.configuresUdp, if_neg (by rintro ⟨-, hnone | hnot⟩ <;> contradiction),
      commitMedia_some hphase rfl]
    dsimp only
    rw [hready.startsMedia]
    exact ⟨_, rfl, hp, { h with
      opened := rfl, identity := fun _ => ⟨rfl, rfl, rfl⟩, gate := rfl, unselected := hunselected
      owner := fun hwss => (by cases hwss), follows := hfollows, media := fun hudp => absurd rfl hudp }⟩

omit hread hexact

include hlive

/-- A media frame of the playing response reaches the playback. -/
theorem react_media (reads : SupervisorReads) {r : Ref} {rec : ResponseRecord} {responses : Coordinator} {timestamp : Nat}
    {payload frame : List UInt8} (hprofile : b.selectedMediaProfile = some .wssOpus)
    (hn : b.nextDownlinkSequence ≤ uint32Max) (hc : b.responses.Consistent) (hv : responses.Valid)
    (hnote : b.responses.noteMedia r b.nextDownlinkSequence = .ok responses) (hrec : responses.heap[r]? = some rec)
    (hframe : WssMediaFrame.serialize
      { mediaId := b.config.mediaId, mediaEpoch := b.config.mediaEpoch, sequence := b.nextDownlinkSequence, timestamp
        generation := rec.target.generation, payload } = .ok frame) :
    ∃ q, (endpoint cJSON b.config).react p (.media frame) reads =
      (q, (Supervisor.enqueueMedia reads (.media b.nextDownlinkSequence rec.target.generation payload)).2) ∧
      q.running = true ∧
      Linked openRequestId { b with responses, nextDownlinkSequence := b.nextDownlinkSequence + 1 } q := by
  obtain ⟨hchecked, -⟩ := WssMediaFrame.serialize_ok.mp hframe
  have hdecode := Udp.MediaFormat.firmware_decode_wss hframe (hv r rec hrec).generation
  obtain ⟨⟨header, body⟩, hparse, hpacket⟩ := Codec.decode_view.mp hdecode
  obtain ⟨hparse, hbody⟩ := MediaHeader.codec_decode.mp hparse
  obtain ⟨hheader, rfl⟩ := Prod.mk.inj hpacket
  have hfollows := h.follows.noted hnote
  have hflags : header.flags = 1 := congrArg PacketHeader.flags hheader
  have hmediaId : header.mediaId = b.config.mediaId := congrArg PacketHeader.mediaId hheader
  have hmediaEpoch : header.mediaEpoch.toNat = b.config.mediaEpoch := congrArg PacketHeader.mediaEpoch hheader
  have hsequence : header.sequence.toNat = b.nextDownlinkSequence := congrArg PacketHeader.sequence hheader
  have hgeneration : header.generation.toNat = rec.target.generation := congrArg PacketHeader.generation hheader
  have hlength : header.payloadLength.toNat = body.length := congrArg PacketHeader.payloadLength hheader
  obtain ⟨haccepts, rec₀, hrec₀, htarget⟩ : b.responses.accepts r = true ∧ ∃ rec₀ : ResponseRecord,
      b.responses.heap[r]? = some rec₀ ∧ rec.target = rec₀.target := by
    rw [Coordinator.noteMedia] at hnote
    split at hnote
    · cases hnote
    rename_i haccepts
    obtain rfl := Except.ok.inj hnote
    obtain ⟨rec₀, hrec₀, rfl⟩ := Coordinator.update_back hrec
    refine ⟨by simpa using haccepts, rec₀, hrec₀, ?_⟩
    rw [if_pos rfl]
  obtain ⟨hplaying, hfence, hcurrent⟩ := h.follows.accepts hc haccepts hrec₀
  rw [← htarget, ← hgeneration] at hfence hcurrent
  obtain ⟨-, hid, hepoch⟩ := h.identity hlive.1
  have hnext := h.media (by rw [hprofile]; decide)
  have hwire : b.nextDownlinkSequence % 2 ^ 32 = b.nextDownlinkSequence := Nat.mod_eq_of_lt (Nat.lt_succ_of_le hn)
  have haccept := accept_media h.live (h.opened.trans hlive.1) hparse hflags (hmediaId.trans hid.symm)
    (hmediaEpoch.trans hepoch.symm) hplaying hfence.le hcurrent.symm (hsequence.trans (hwire.symm.trans hnext.symm))
  have hnonempty : header.payloadLength ≠ 0 := by
    intro hzero
    rw [hzero] at hlength
    exact hchecked.payload (List.eq_nil_of_length_eq_zero hlength.symm)
  change ∃ q, p.handleFrame cJSON reads (.binary frame) = _ ∧ _
  rw [Supervisor.handleFrame.eq_def, if_pos hp]
  dsimp only
  rw [Supervisor.handleMedia, if_neg (not_not.mpr (h.owner hprofile)), haccept]
  dsimp only
  rw [if_neg hnonempty, hbody, hlength, List.take_length, hsequence, hgeneration]
  refine ⟨_, rfl, hp, { h with advanced := ?_, follows := { hfollows with }, media := fun _ => ?_, texts := fun hsome => ?_ }⟩
  · exact h.advanced.trans (Coordinator.moves_generation (Coordinator.noteMedia_moves hnote))
  · change increment p.session.nextMediaSequence = _
    rw [hnext, increment_mod]
  · exact h.texts (h.follows.responding.symm.trans (hfollows.responding.trans hsome))

end Reactions

namespace Binding

variable {b b' : Binding}

def tooLarge : RvaError := .binding "message_too_large"

theorem event_tooLarge {e : ServerEvent} {error : RvaError} (h : b.event e = .error error) : error = tooLarge := by
  rw [event] at h
  split at h
  · rename_i error' herror
    rw [encodeControl] at herror
    split at herror
    · obtain rfl := Except.error.inj h
      exact (Except.error.inj herror).symm
    · cases herror
  · cases h

/-- An event that is not dropped is sent as it is. -/
theorem map_event {e : ServerEvent} {f : ServerEvent → Reply} (h : (b.event e).map f ≠ .error tooLarge) :
    (b.event e).map f = .ok (f e) := by
  cases he : b.event e with
  | error error =>
    rw [he, event_tooLarge he] at h
    exact absurd rfl h
  | ok e' =>
    rw [event_ok he]
    rfl

theorem fenceEffect_error {r : Ref} {rec : ResponseRecord} {g : Nat} {cause : StopCause} {error : RvaError}
    (hrec : b.responses.heap[r]? = some rec) (h : b.fenceEffect r g cause = .error error) : error = tooLarge := by
  rw [fenceEffect, hrec] at h
  dsimp only at h
  cases hstop : b.event (.playbackStop rec.responseId rec.target.generation g cause) with
  | error error' =>
    rw [hstop] at h
    cases h
    exact event_tooLarge hstop
  | ok stop =>
    rw [hstop, ok_bind] at h
    split at h
    · cases h
    · cases hend : b.event
        (.responseEnd rec.responseId rec.target.generation (stopOutcome cause) (stopErrorCode cause) none) with
      | error error' =>
        rw [hend] at h
        cases h
        exact event_tooLarge hend
      | ok e =>
        rw [hend] at h
        cases h

theorem close_closed (v : VoiceSession) : v.close.closed = true := by
  rw [VoiceSession.close]
  split
  · assumption
  · split <;> rfl

/-- What the runtime takes care of beyond the checks of the binding: the texts are ones that the firmware
reads, no event is too large, no number of the downlink is spent without its frame, and the session is one
that the endpoint has asked for. -/
structure Carried (openRequestId : String) (b : Binding) (e : Event) (b' : Binding) : Prop where
  step : Step b e b'
  readable : ∀ event ∈ emits e.2, event.Clean ∧ event.GrantReadable
  requested : ∀ event ∈ emits e.2, event.Requested openRequestId
  fits : e.2 ≠ .error tooLarge
  numbered : b.selectedMediaProfile ≠ some .udpOpusGcm → (∀ frame, e.2 ≠ .ok (.media frame)) →
    b'.nextDownlinkSequence = b.nextDownlinkSequence
  generation : b'.responses.session.generation ≤ uint32Max

/-- The endpoint at the other end of a binding. -/
structure Bound (config : BindingConfig) (openRequestId : String) (b : Binding) (p : Supervisor) : Prop where
  config : b.config = config
  consistent : b.responses.Consistent
  valid : b.responses.Valid
  linked : b.closed = false → Linked openRequestId b p

section Admission

variable {cJSON : List Char → Option Json} {exact : Int → Prop} (hread : Reads exact cJSON)
  (hexact : ∀ n : Nat, n ≤ uint53Max → exact n) {openRequestId : String} {p : Supervisor}

include hread hexact

omit hread hexact in
theorem fenceEffect_tooLarge {r : Ref} {g : Nat} {cause : StopCause} {responses : Coordinator} {error : RvaError}
    (hm : b.responses.Moves (.fenced r g) responses) (hb' : b' = { b with responses })
    (h : b'.fenceEffect r g cause = .error error) : error = tooLarge := by
  obtain ⟨_, _, _, -, -, -, -, -, -, hrec⟩ := Coordinator.moves_fenced hm
  subst hb'
  exact fenceEffect_error hrec h

omit hread hexact in
theorem sentItems_control (c : Call) (effect : ControlEffect) :
    sentItems (c, .ok (.control effect)) = effect.outbound.map .event :=
  List.append_nil _

omit hread hexact in
/-- Media is noted in an open session only. -/
theorem noted_follows {responses : Coordinator} {r : Ref} {n : Nat}
    (hlinked : b.closed = false → Linked openRequestId b p) (hnote : b.responses.noteMedia r n = .ok responses) :
    Linked openRequestId b p ∧ Follows responses p.session := by
  cases Coordinator.noteMedia_moves hnote with
  | media _ _ hopen =>
    have hlinked := hlinked hopen
    exact ⟨hlinked, hlinked.follows.noted hnote⟩

omit hread hexact in
/-- The one frame of a call is answered, and the endpoint is linked to the binding after it. -/
theorem answers_linked {item : Sent.Item} (hp : p.running = true) (hfinal : item.final = false)
    (h : ∀ reads : SupervisorReads, reads.Ready → ∃ q, (endpoint cJSON b.config).react p item reads =
      (q, item.expected reads) ∧ q.running = true ∧ Linked openRequestId b' q) :
    (endpoint cJSON b.config).Answers SupervisorReads.Ready Sent.Item.final Sent.Item.expected
      (fun q => b'.closed = false → Linked openRequestId b' q) p [item] := by
  refine .single hp hfinal fun reads hready => ?_
  obtain ⟨q, hreact, hq, hlater⟩ := h reads hready
  exact ⟨q, hreact, hq, fun _ => hlater⟩

/-- The endpoint answers what a call sends as expected, and goes on with the binding. -/
theorem effect_answers {c : Call} {result : Result} (heffect : Effect b c b' result) (hc : b.responses.Consistent)
    (hv' : b'.responses.Valid) (hlinked : b.closed = false → Linked openRequestId b p) (hp : p.running = true)
    (hlegible : ∀ event ∈ emits result, event.Legible b')
    (hrequested : ∀ event ∈ emits result, event.Requested openRequestId)
    (hfits : result ≠ .error tooLarge)
    (hnumbered : b.selectedMediaProfile ≠ some .udpOpusGcm → (∀ frame, result ≠ .ok (.media frame)) →
      b'.nextDownlinkSequence = b.nextDownlinkSequence) :
    (endpoint cJSON b.config).Answers SupervisorReads.Ready Sent.Item.final Sent.Item.expected
      (fun q => b'.closed = false → Linked openRequestId b' q) p (sentItems (c, result)) := by
  have hgeneration := effect_generation heffect
  have hbefore : ∀ event ∈ emits result, event.Legible b :=
    fun event hevent => (hlegible event hevent).of_config (effect_config heffect)
  cases heffect with
  | rejected _ error => exact .nil hp hlinked
  | unmoved hlive _ => exact .nil hp hlinked
  | again hlive => exact .nil hp hlinked
  | uplink hlive =>
    have hlinked := hlinked hlive.2
    exact .nil hp fun _ => { hlinked with }
  | closed =>
    refine .nil hp fun hopen => ?_
    have hclosed : b.responses.session.close.closed = false := hopen
    rw [close_closed] at hclosed
    cases hclosed
  | started hlive hstarted =>
    have hlinked := hlinked hlive.2
    exact .nil hp fun _ => hlinked.unheard (hlinked.follows.started hstarted) hgeneration
  | @ended _ _ _ fact hlive hended =>
    have hlinked := hlinked hlive.2
    have hlater := hlinked.unheard (hlinked.follows.endedCall hc hlive.2 hended) hgeneration
    cases fact with
    | error error => exact .nil hp fun _ => hlater
    | ok fact => exact .nil hp fun _ => hlater
  | noted hn hnote =>
    obtain ⟨hopen, hfollows⟩ := noted_follows hlinked hnote
    exact .nil hp fun _ => hopen.unheard hfollows hgeneration
  | reserved hn hnote =>
    obtain ⟨hopen, hfollows⟩ := noted_follows hlinked hnote
    have hudp : b.selectedMediaProfile = some .udpOpusGcm := by
      by_contra hnot
      exact absurd (hnumbered hnot fun frame hframe => by cases hframe) (Nat.succ_ne_self _)
    have hlater := hopen.unheard hfollows hgeneration
    exact .nil hp fun _ => { hlater with media := fun hnot => absurd hudp hnot }
  | @serialized payload timestamp r responses result hlive hprofile hn hnote hresult =>
    have hlinked := hlinked hlive.2
    have hreply : ∃ reply, result = .ok reply := by
      cases result with
      | ok reply => exact ⟨reply, rfl⟩
      | error error =>
        have hudp : b.selectedMediaProfile ≠ some .udpOpusGcm := by rw [hprofile]; decide
        exact absurd (hnumbered hudp fun frame hframe => by cases hframe) (Nat.succ_ne_self _)
    obtain ⟨reply, rfl⟩ := hreply
    obtain ⟨n, -, hreply⟩ := bind_ok.mp hresult.symm
    split at hreply
    · cases hreply
    rename_i rec hrec
    obtain ⟨frame, hframe, hreply⟩ := bind_ok.mp hreply
    obtain rfl := pure_ok.mp hreply
    have hexpected : ∀ reads, Sent.Item.expected (.media frame) reads =
        (Supervisor.enqueueMedia reads (.media b.nextDownlinkSequence rec.target.generation payload)).2 := by
      intro reads
      rw [Sent.Item.expected, WssMediaFrame.parse_serialize hframe]
    refine answers_linked hp rfl fun reads hready => ?_
    rw [hexpected reads]
    exact react_media hlinked hp hlive reads hprofile hn hc hv' hnote hrec hframe
  | opened hopened hclosed hid hfield hsome hprofile hb' =>
    have hlinked := hlinked hclosed
    rw [map_event hfits] at hlegible hrequested ⊢
    obtain rfl := hrequested _ List.mem_cons_self
    exact answers_linked hp rfl fun reads hready => react_opened hread hexact hlinked hp hready hopened hsome hprofile hb'
      (hlegible _ List.mem_cons_self)
  | @fenced r cause _ _ g b' hlive hplayback hfence hb' =>
    have hm := Coordinator.fence_moves hfence (stopOutcome_ne cause)
    cases heffect : b'.fenceEffect r g cause with
    | error error =>
      rw [heffect] at hfits
      obtain rfl := fenceEffect_tooLarge hm hb' heffect
      exact absurd rfl hfits
    | ok effect =>
      rw [heffect] at hlegible
      rw [Except.map, sentItems_control]
      exact (answers_fence hread hexact (hlinked hlive.2) hp hlive hc hm hb' heffect hlegible).imp fun _ hq _ => hq
  | fenceFailed hlive hplayback hfence hb' herror =>
    obtain rfl := fenceEffect_tooLarge (Coordinator.fence_moves hfence (stopOutcome_ne _)) hb' herror
    exact absurd rfl hfits
  | @fencedOnRequest r _ _ g _ _ effect b' hlive hplayback hfence hb' heffect =>
    have hm := Coordinator.fence_moves hfence (stopOutcome_ne _)
    have hsame : ∀ event ∈ effect.outbound, event.Legible b' :=
      fun event hevent => (hlegible event hevent).of_config rfl
    rw [sentItems_control]
    exact (answers_fence hread hexact (hlinked hlive.2) hp hlive hc hm hb' heffect hsame).imp
      fun _ hq _ => { hq with }
  | @fencedOnClose r _ _ g reason effect b' hlive hplayback hfence hb' heffect hreason =>
    rw [map_event hfits] at hlegible ⊢
    have hm := Coordinator.fence_moves hfence (stopOutcome_ne _)
    have hanswers := answers_fence hread hexact (hlinked hlive.2) hp hlive hc hm hb' heffect fun e he =>
      hlegible e (List.mem_append_left _ he)
    have hclose := hlegible (.sessionClose reason) (List.mem_append_right _ List.mem_cons_self)
    have hlive' : b'.Live := by
      subst hb'
      cases hm with
      | fenced _ _ _ hopen _ _ => exact ⟨hlive.1, hopen⟩
    have hconfig : b'.config = b.config := by rw [hb']
    rw [sentItems_control, List.map_append]
    refine hanswers.append fun q hq hlater => ?_
    refine .last hq rfl (fun reads hready => ?_) []
    have hlast := react_final hread hexact hlater hq hlive' reads rfl hclose
    rwa [hconfig] at hlast
  | closing hlive hplayback hreason =>
    rw [map_event hfits] at hlegible ⊢
    exact .last hp rfl (fun reads _ => react_final hread hexact (hlinked hlive.2) hp hlive reads rfl
      (hlegible _ List.mem_cons_self)) []
  | @transcribed final _ text _ _ _ e _ hlive hid hseq hn hbytes hnonempty hadvance hcall he =>
    rw [map_event hfits] at hbefore ⊢
    have hexpected : ∀ reads, Sent.Item.expected (.event e) reads = [.transcript text final] := by
      intro reads
      subst he
      cases final <;> rfl
    have hfinal : Sent.Item.final (.event e) = false := by
      subst he
      cases final <;> rfl
    refine answers_linked hp hfinal fun reads _ => ?_
    rw [hexpected reads]
    exact react_transcript hread hexact (hlinked hlive.2) hp hlive reads he (hbefore _ List.mem_cons_self) hadvance hn
  | begun hlive hid hbegin hrec hb' =>
    rw [map_event hfits] at hlegible ⊢
    exact answers_linked hp rfl fun reads hready => react_begin hread hexact (hlinked hlive.2) hp hlive hready
      (Coordinator.begin_moves hbegin).1 hrec hb' (hlegible _ List.mem_cons_self)
  | texted hlive haccepts hrec hseq hn hbytes hnonempty hb' =>
    rw [map_event hfits] at hbefore ⊢
    subst hb'
    exact answers_linked hp rfl fun reads _ => react_text hread hexact (hlinked hlive.2) hp hlive reads haccepts hrec hc
      (hbefore _ List.mem_cons_self)
  | completed hlive hcomplete hrec hb' =>
    rw [map_event hfits] at hlegible ⊢
    subst hb'
    exact answers_linked hp rfl fun reads hready => react_end hread hexact (hlinked hlive.2) hp hlive hready
      (Coordinator.complete_moves hcomplete) hrec (hlegible _ List.mem_cons_self)
  | errored hlive hcode hbytes =>
    rw [map_event hfits] at hlegible ⊢
    exact .last hp rfl (fun reads _ => react_final hread hexact (hlinked hlive.2) hp hlive reads rfl
      (hlegible _ List.mem_cons_self)) []

/-- The relation of a binding and its endpoint is kept by a step that is carried. -/
theorem carried_answers {config : BindingConfig} {e : Event} (hgrant : Granted config)
    (h : Bound config openRequestId b p) (hp : p.running = true) (hs : Carried openRequestId b e b') :
    (endpoint cJSON config).Answers SupervisorReads.Ready Sent.Item.final Sent.Item.expected (Bound config openRequestId b') p
      (sentItems e) := by
  obtain ⟨rfl, hc, hv, hlinked⟩ := h
  have heffect := step_effect hs.step
  have hc' := step_consistent hs.step hc
  have hv' := effect_valid heffect hv
  have hlegible : ∀ event ∈ emits e.2, event.Legible b' := by
    intro event hevent
    obtain ⟨hfits, hrange⟩ := effect_sent heffect hc' event hevent
    obtain ⟨hclean, hready⟩ := hs.readable event hevent
    exact ⟨effect_admitted heffect hc hv hgrant event hevent, hrange hs.generation, hfits, hclean, hready⟩
  exact (effect_answers hread hexact heffect hc hv' hlinked hp hlegible hs.requested hs.fits hs.numbered).imp
    fun q hq => ⟨effect_config heffect, hc', hv', hq⟩

end Admission

instance (openRequestId : String) (e : ServerEvent) : Decidable (e.Requested openRequestId) :=
  match e with
  | .sessionOpened requestId _ _ _ _ => inferInstanceAs (Decidable (requestId = openRequestId))
  | .transcriptDelta .. | .transcriptFinal .. | .responseBegin .. | .responseText .. | .responseEnd ..
  | .playbackStop .. | .sessionError .. | .sessionClose .. => .isTrue trivial

def hasGrant : ServerEvent → Bool
  | .sessionOpened _ _ _ _ grant => grant.isSome
  | _ => false

/-- A call that is carried over the websocket and is answered. -/
def Answered (openRequestId : String) (b : Binding) (c : Call) : Prop :=
  (∀ event ∈ emits (b.call c).2, (event.Clean ∧ hasGrant event = false) ∧ event.Requested openRequestId) ∧
    (b.call c).2.toOption.isSome = true ∧
    ((b.call c).1.nextDownlinkSequence = b.nextDownlinkSequence ∨
      (match (b.call c).2 with | .ok (.media _) => true | _ => false) = true) ∧
    (b.call c).1.responses.session.generation ≤ uint32Max

instance (openRequestId : String) (b : Binding) (c : Call) : Decidable (Answered openRequestId b c) :=
  inferInstanceAs (Decidable (_ ∧ _))

theorem Answered.carried {openRequestId : String} {e : Event} (h : Answered openRequestId b e.1) (hstep : Step b e b') :
    Carried openRequestId b e b' := by
  obtain ⟨c, result⟩ := e
  have hcall : b.call c = (b', result) := hstep
  rw [Answered, hcall] at h
  obtain ⟨hevents, hanswered, hnumbered, hgeneration⟩ := h
  refine ⟨hstep, ?_, fun event hevent => (hevents event hevent).2, ?_, ?_, hgeneration⟩
  · intro event hevent
    obtain ⟨⟨hclean, hgrant⟩, -⟩ := hevents event hevent
    refine ⟨hclean, ?_⟩
    cases event with
    | sessionOpened _ _ _ _ grant =>
      cases grant with
      | none => trivial
      | some grant => cases hgrant
    | _ => trivial
  · rintro herror
    rw [herror] at hanswered
    cases hanswered
  · intro _ hframe
    refine hnumbered.resolve_right fun hmedia => ?_
    split at hmedia
    · rename_i frame hreply
      exact hframe frame hreply
    · cases hmedia

/-- A server that has a grant and allows the websocket. -/
def demoServer : BindingConfig := { demoGranted demoGrant with allowedProfiles := demoConfig.allowedProfiles }

theorem granted_server : Granted demoServer := granted_demo demoGrant

/-- A transcript, and a response that is complete and whose playback is interrupted. -/
def demoSession : List Call :=
  [.receiveControl demoOpen, .transcriptDelta "u1" 0 "turn", .transcriptFinal "u1" 1 "turn on", .responseBegin "r1" 1,
    .serializeAudio [7] 0 0, .responseText 0 0 "on", .responseEnd 0, .cancelActiveResponse "recognized_interrupt"]

end Binding

end RealtimeVoice.Rva
