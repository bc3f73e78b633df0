import RealtimeVoice.Rva.ClientChannel
import RealtimeVoice.Rva.EndpointAdmission
import RealtimeVoice.Rva.PlaybackTracking

namespace RealtimeVoice.Firmware

open RealtimeVoice.Firmware.Control (SessionIdentity ClientMessage)
open RealtimeVoice.Firmware.PlaybackState (PlaybackFact)

/-- The message that `DrainPlaybackFacts` makes of a fact. -/
def PlaybackState.PlaybackFact.message (session : SessionIdentity) (fact : PlaybackFact) : ClientMessage :=
  match fact.type with
  | .started =>
    .playbackStarted
      { session, target := ⟨fact.target.responseId, fact.target.generation⟩, firstMediaSequence := fact.firstMediaSequence }
  | .ended =>
    .playbackEnded
      { session, target := ⟨fact.target.responseId, fact.target.generation⟩, outcome := fact.outcome
        playedSamples := fact.playedSamples, lastMediaSequence := fact.lastMediaSequence }

end RealtimeVoice.Firmware

namespace RealtimeVoice.Rva

open RealtimeVoice.Base RealtimeVoice.Base.Json RealtimeVoice.Base.Loads RealtimeVoice.Base.Runs RealtimeVoice.Contracts
open RealtimeVoice.Firmware
open RealtimeVoice.Firmware.Control (SessionIdentity)
open RealtimeVoice.Firmware.PlaybackState (PlaybackFact State)
open RealtimeVoice.Rva.Coordinator (Moves Consistent)

/-- A server and an endpoint that play a session: what the binding has sent and the supervisor has still to
receive, the queue of commands and the packets that it has put in the playback queue so far, the state of the
playback task, the queue of its facts, and their texts on the way to the server. -/
structure PlaybackLoop where
  server : Binding
  downlink : List Sent.Item := []
  device : Supervisor
  commands : List QueuedCommand := []
  packets : List (Nat × Nat) := []
  playback : State := {}
  facts : List PlaybackFact := []
  uplink : List (List Char) := []

/-- Who takes the next step: the server serves a call, the supervisor receives a frame, the playback task takes a
command or goes on, the supervisor sends a fact, the server receives one. -/
inductive Turn
  | serve (call : Call)
  | deliver (reads : SupervisorReads)
  | command (nowUs : Int)
  | play (call : PlaybackState.Call)
  | drain
  | report

/-- What the loop runs on: the JSON parser and printer of the endpoint, and the interpreter of the server. -/
structure Platform where
  cJSON : List Char → Option Json
  printUnformatted : Json → Option (List Char)
  interpreter : Interpreter

namespace PlaybackLoop

def start (config : BindingConfig) (openRequestId : String) : PlaybackLoop :=
  { server := .init config, device := .start openRequestId config.sessionEpoch }

/-- A turn, where there is something to take and it is not refused. -/
def turn (P : Platform) (ℓ : PlaybackLoop) : Turn → Option PlaybackLoop
  | .serve call =>
    let (server, result) := ℓ.server.call call
    some { ℓ with server, downlink := ℓ.downlink ++ sentItems (call, result) }
  | .deliver reads =>
    match ℓ.downlink with
    | [] => none
    | item :: downlink =>
      let (device, events) := (endpoint P.cJSON ℓ.server.config).react ℓ.device item reads
      some { ℓ with
        downlink, device
        commands := ℓ.commands ++ events.filterMap RuntimeEvent.command?
        packets := ℓ.packets ++ events.filterMap RuntimeEvent.packet? }
  | .command nowUs =>
    match ℓ.commands with
    | [] => none
    | command :: commands =>
      let (playback, reply) := PlaybackState.call ℓ.playback (command.call nowUs)
      if reply.ok then some { ℓ with commands, playback, facts := ℓ.facts ++ reply.fact.toList } else none
  | .play call =>
    let (playback, reply) := PlaybackState.call ℓ.playback call
    some { ℓ with playback, facts := ℓ.facts ++ reply.fact.toList }
  | .drain =>
    match ℓ.facts, ℓ.device.opened with
    | fact :: facts, some opened =>
      match (fact.message opened.session).encode P.printUnformatted with
      | .error _ => none
      | .ok text => some { ℓ with facts, uplink := ℓ.uplink ++ [text] }
    | _, _ => none
  | .report =>
    match ℓ.uplink with
    | [] => none
    | text :: uplink =>
      match ℓ.server.receiveText P.interpreter (codes text) with
      | (_, .error _) => none
      | (server, .ok _) => some { ℓ with uplink, server }

theorem turn_serve (P : Platform) (ℓ : PlaybackLoop) (call : Call) :
    ℓ.turn P (.serve call) =
      some { ℓ with
        server := (ℓ.server.call call).1
        downlink := ℓ.downlink ++ sentItems (call, (ℓ.server.call call).2) } := rfl

theorem turn_report_ok {P : Platform} {ℓ : PlaybackLoop} {text : List Char} {uplink : List (List Char)}
    {message : Message} {server : Binding} {reply : Reply} (huplink : ℓ.uplink = text :: uplink)
    (hdecode : decodeControl P.interpreter (codes text) = .ok message)
    (hreply : ℓ.server.receiveControl message = (server, .ok reply)) :
    ℓ.turn P .report = some { ℓ with uplink, server } := by
  rw [turn, huplink]
  dsimp only
  rw [Binding.receiveText, hdecode]
  dsimp only
  rw [hreply]
  rfl

theorem turn_report_error {P : Platform} {ℓ : PlaybackLoop} {text : List Char} {uplink : List (List Char)}
    {message : Message} {server : Binding} {e : RvaError} (huplink : ℓ.uplink = text :: uplink)
    (hdecode : decodeControl P.interpreter (codes text) = .ok message)
    (hreply : ℓ.server.receiveControl message = (server, .error e)) : ℓ.turn P .report = none := by
  rw [turn, huplink]
  dsimp only
  rw [Binding.receiveText, hdecode]
  dsimp only
  rw [hreply]
  rfl

theorem turn_play (P : Platform) (ℓ : PlaybackLoop) (call : PlaybackState.Call) :
    ℓ.turn P (.play call) =
      some { ℓ with
        playback := (PlaybackState.call ℓ.playback call).1
        facts := ℓ.facts ++ (PlaybackState.call ℓ.playback call).2.fact.toList } := rfl

/-- The endpoint has this frame of the response that it plays, or conceals it as the final one. -/
def Heard (ℓ : PlaybackLoop) (n : Nat) : Prop :=
  (n, ℓ.playback.target.generation) ∈ ℓ.packets ∨ ℓ.playback.finalMediaSequence = some n

end PlaybackLoop

/-- The calls of a session over the websocket that goes on. -/
def Call.streamed : Call → Bool
  | .reserveDownlinkMedia _ | .noteDownlinkMedia _ _ | .close => false
  | _ => true

/-- The reply takes a report of the playback. -/
def reportsPlayback : Result → Bool
  | .ok (.control effect) => effect.playbackStarted.isSome || effect.playbackEnded.isSome
  | _ => false

namespace PlaybackLoop

/-- What the rest of both programs takes care of. On the server a call is carried to the endpoint and does not end the
session, and reports come from the endpoint only; on the endpoint nothing fails that the supervisor needs, the clock has
no negative times, no part of the audio path fails, what is written comes from a frame, and the counter of the samples
has at most fifteen digits. -/
def Fair (openRequestId : String) (ℓ : PlaybackLoop) : Turn → Prop
  | .serve call =>
    Binding.Carried openRequestId ℓ.server (call, (ℓ.server.call call).2) (ℓ.server.call call).1 ∧
      call.streamed = true ∧ reportsPlayback (ℓ.server.call call).2 = false ∧
      (sentItems (call, (ℓ.server.call call).2)).any Sent.Item.final = false
  | .command nowUs => 0 ≤ nowUs
  | .play call => call.own = true ∧ ∀ n samples out, call = .recordWritten n samples out → ℓ.Heard n
  | .drain => ∀ fact ∈ ℓ.facts.head?, fact.playedSamples < 10 ^ 15
  | .deliver reads => reads.Ready
  | .report => True

/-- A step of the loop. -/
def Step (P : Platform) (openRequestId : String) (ℓ : PlaybackLoop) (t : Turn) (ℓ' : PlaybackLoop) : Prop :=
  ℓ.Fair openRequestId t ∧ ℓ.turn P t = some ℓ'

end PlaybackLoop

/-- What the items say to the playback task, its queue not being full. -/
def toldCommands (items : List Sent.Item) : List QueuedCommand :=
  (items.flatMap fun item => item.expected {}).filterMap RuntimeEvent.command?

def toldPackets (items : List Sent.Item) : List (Nat × Nat) :=
  (items.flatMap fun item => item.expected {}).filterMap RuntimeEvent.packet?

theorem toldCommands_cons (item : Sent.Item) (items : List Sent.Item) :
    toldCommands (item :: items) = (item.expected {}).filterMap RuntimeEvent.command? ++ toldCommands items := by
  rw [toldCommands, List.flatMap_cons, List.filterMap_append]
  rfl

theorem toldPackets_cons (item : Sent.Item) (items : List Sent.Item) :
    toldPackets (item :: items) = (item.expected {}).filterMap RuntimeEvent.packet? ++ toldPackets items := by
  rw [toldPackets, List.flatMap_cons, List.filterMap_append]
  rfl

theorem toldCommands_append (items later : List Sent.Item) :
    toldCommands (items ++ later) = toldCommands items ++ toldCommands later := by
  rw [toldCommands, List.flatMap_append, List.filterMap_append]
  rfl

theorem toldPackets_append (items later : List Sent.Item) :
    toldPackets (items ++ later) = toldPackets items ++ toldPackets later := by
  rw [toldPackets, List.flatMap_append, List.filterMap_append]
  rfl

/-- The playback queue has no say in the commands. -/
theorem expected_commands (item : Sent.Item) (reads : SupervisorReads) :
    (item.expected reads).filterMap RuntimeEvent.command? = (item.expected {}).filterMap RuntimeEvent.command? := by
  cases item with
  | event e => rw [Sent.Item.expected_event e reads {}]
  | media frame =>
    rw [Sent.Item.expected, Sent.Item.expected]
    cases WssMediaFrame.parse frame with
    | error e => rfl
    | ok f =>
      dsimp only
      rw [Supervisor.enqueueMedia]
      split_ifs <;> rfl

/-- It keeps packets from the task, and adds none. -/
theorem expected_packets (item : Sent.Item) (reads : SupervisorReads) :
    (item.expected reads).filterMap RuntimeEvent.packet? ⊆ (item.expected {}).filterMap RuntimeEvent.packet? := by
  cases item with
  | event e => rw [Sent.Item.expected_event e reads {}]; exact List.Subset.refl _
  | media frame =>
    rw [Sent.Item.expected, Sent.Item.expected]
    cases WssMediaFrame.parse frame with
    | error e => exact List.Subset.refl _
    | ok f =>
      dsimp only
      rw [Supervisor.enqueueMedia]
      split_ifs
      · exact List.Subset.refl _
      · exact List.Subset.refl _
      · exact List.nil_subset _
      · exact List.nil_subset _

namespace Binding

variable {b b' : Binding} {openRequestId : String}

theorem told_quiet {e : ServerEvent} (hcommands : (Sent.Item.expected (.event e) {}).filterMap RuntimeEvent.command? = [])
    (hpackets : (Sent.Item.expected (.event e) {}).filterMap RuntimeEvent.packet? = [])
    (hresponses : b'.responses = b.responses) (hnext : b'.nextDownlinkSequence = b.nextDownlinkSequence) :
    Told b.responses b.nextDownlinkSequence b'.responses b'.nextDownlinkSequence (toldCommands [.event e])
      (toldPackets [.event e]) := by
  rw [toldCommands, toldPackets, List.flatMap_singleton, hcommands, hpackets, hresponses, hnext]
  exact .quiet

/-- A fence tells the playback task to stop. -/
theorem told_fence {r : Ref} {cause : StopCause} {responses : Coordinator} {g : Nat} {effect : ControlEffect}
    (hm : Moves b.responses (.fenced r g) responses)
    (heffect : Binding.fenceEffect { b with responses := responses } r g cause = .ok effect) :
    Told b.responses b.nextDownlinkSequence responses b.nextDownlinkSequence (toldCommands (effect.outbound.map .event))
      (toldPackets (effect.outbound.map .event)) := by
  obtain ⟨rec, hrec, rfl⟩ := fenceEffect_ok heffect
  have hend : Sent.Item.expected (.event (.responseEnd rec.responseId rec.target.generation (stopOutcome cause)
      (stopErrorCode cause) none)) {} = [] := by
    cases cause <;> rfl
  have htold : Told b.responses b.nextDownlinkSequence responses b.nextDownlinkSequence _ _ := .fenced hm hrec
  split
  · exact htold
  · rw [toldCommands, toldPackets, List.map_cons, List.map_singleton, List.flatMap_cons, List.flatMap_singleton, hend,
      List.append_nil]
    exact htold

/-- What a call tells the playback task through what it sends. -/
theorem effect_told {c : Call} {result : Result} (heffect : Effect b c b' result) (hc : b.responses.Consistent)
    (hfits : result ≠ .error tooLarge) (hstreamed : c.streamed = true) (hunreported : reportsPlayback result = false)
    (hfinal : (sentItems (c, result)).any Sent.Item.final = false)
    (hnumbered : b.selectedMediaProfile ≠ some .udpOpusGcm → (∀ frame, result ≠ .ok (.media frame)) →
      b'.nextDownlinkSequence = b.nextDownlinkSequence) :
    Told b.responses b.nextDownlinkSequence b'.responses b'.nextDownlinkSequence (toldCommands (sentItems (c, result)))
      (toldPackets (sentItems (c, result))) := by
  cases heffect with
  | rejected | unmoved | again | uplink => exact .quiet
  | closed | noted | reserved => cases hstreamed
  | started => cases hunreported
  | @ended _ m responses fact hlive hended =>
    obtain ⟨e, he⟩ | ⟨d, fact', he, -⟩ | ⟨d, e, r, he, hm⟩ :=
      b.responses.playbackEnded_moves m.target.1 m.target.2 m.playedSamples m.outcome m.lastMediaSequence hlive.2
    · obtain ⟨rfl, rfl⟩ := Prod.mk.inj (he.symm.trans hended)
      exact .quiet
    · obtain ⟨rfl, rfl⟩ := Prod.mk.inj (he.symm.trans hended)
      cases hunreported
    · cases hm with
      | unfinished hrec hplayback hfinish hsession =>
        exact absurd (hc.finishes hrec hplayback hlive.2 hfinish) hsession
  | @serialized payload timestamp r responses result hlive hprofile hn hnote hresult =>
    have hudp : b.selectedMediaProfile ≠ some .udpOpusGcm := by rw [hprofile]; decide
    cases result with
    | error error => exact absurd (hnumbered hudp fun frame hframe => by cases hframe) (Nat.succ_ne_self _)
    | ok reply =>
      obtain ⟨n, -, hreply⟩ := bind_ok.mp hresult.symm
      split at hreply
      · cases hreply
      rename_i rec hrec
      obtain ⟨frame, hframe, hreply⟩ := bind_ok.mp hreply
      obtain rfl := pure_ok.mp hreply
      have hexpected : Sent.Item.expected (.media frame) {} =
          [.media b.nextDownlinkSequence rec.target.generation payload] := by
        rw [Sent.Item.expected, WssMediaFrame.parse_serialize hframe]
        rfl
      have htold := Told.media (Coordinator.noteMedia_moves hnote) hrec
      rw [toldCommands, toldPackets, show sentItems (.serializeAudio payload timestamp r, .ok (.media frame)) =
        [.media frame] from rfl, List.flatMap_singleton, hexpected]
      exact htold
  | opened _ _ _ _ _ _ hb' =>
    rw [map_event hfits]
    subst hb'
    exact told_quiet rfl rfl rfl rfl
  | @fenced r cause _ _ g b' hlive hplayback hfence hb' =>
    have hm := Coordinator.fence_moves hfence (stopOutcome_ne cause)
    subst hb'
    cases heffect : Binding.fenceEffect { b with responses := _ } r g cause with
    | error error =>
      rw [heffect] at hfits
      obtain rfl := fenceEffect_tooLarge hm rfl heffect
      exact absurd rfl hfits
    | ok effect =>
      rw [Except.map, sentItems_control]
      exact told_fence hm heffect
  | fenceFailed hlive hplayback hfence hb' herror =>
    obtain rfl := fenceEffect_tooLarge (Coordinator.fence_moves hfence (stopOutcome_ne _)) hb' herror
    exact absurd rfl hfits
  | fencedOnRequest hlive hplayback hfence hb' heffect =>
    subst hb'
    rw [sentItems_control]
    exact told_fence (Coordinator.fence_moves hfence (stopOutcome_ne _)) heffect
  | fencedOnClose hlive hplayback hfence hb' heffect hreason =>
    rw [map_event hfits] at hfinal
    simp [sentItems, emits, Reply.emits, Sent.Item.final] at hfinal
  | closing hlive hplayback hreason =>
    rw [map_event hfits] at hfinal
    cases hfinal
  | @transcribed final _ text _ _ _ e _ hlive hid hseq hn hbytes hnonempty hadvance hcall he =>
    rw [map_event hfits]
    subst he
    obtain ⟨-, rfl⟩ := advanceTranscript_ok hadvance
    cases final <;> exact told_quiet rfl rfl rfl rfl
  | begun hlive hid hbegin hrec hb' =>
    rw [map_event hfits]
    subst hb'
    exact .begun (Coordinator.begin_moves hbegin).1 hrec
  | texted hlive haccepts hrec hseq hn hbytes hnonempty hb' =>
    rw [map_event hfits]
    subst hb'
    exact told_quiet rfl rfl rfl rfl
  | @completed r rec _ _ hlive hcomplete hrec hb' =>
    rw [map_event hfits]
    subst hb'
    have htold : Told b.responses b.nextDownlinkSequence _ b.nextDownlinkSequence _ _ :=
      .completed (Coordinator.complete_moves hcomplete) hrec
    have hcommands : ∀ last : Option Nat,
        (last.toList.map (RuntimeEvent.complete ⟨rec.responseId, rec.target.generation⟩)).filterMap RuntimeEvent.command? =
          last.toList.map (.complete rec.playbackTarget) := by
      intro last
      cases last <;> rfl
    have hpackets : ∀ last : Option Nat,
        (last.toList.map (RuntimeEvent.complete ⟨rec.responseId, rec.target.generation⟩)).filterMap RuntimeEvent.packet? =
          [] := by
      intro last
      cases last <;> rfl
    rw [toldCommands, toldPackets]
    change Told _ _ _ _ (List.filterMap _ ((rec.lastMediaSequence.toList.map _) ++ []))
      (List.filterMap _ ((rec.lastMediaSequence.toList.map _) ++ []))
    rw [List.append_nil, hcommands, hpackets]
    exact htold
  | errored =>
    rw [map_event hfits] at hfinal
    cases hfinal

theorem Carried.legible {config : BindingConfig} {e : Event} (hs : Carried openRequestId b e b') (hgrant : Granted config)
    (hconfig : b.config = config) (hc : b.responses.Consistent) (hv : b.responses.Valid) :
    ∀ event ∈ emits e.2, event.Legible (.init config) := by
  subst hconfig
  have heffect := step_effect hs.step
  intro event hevent
  obtain ⟨hfits, hrange⟩ := effect_sent heffect (step_consistent hs.step hc) event hevent
  obtain ⟨hclean, hready⟩ := hs.readable event hevent
  have hlegible : event.Legible b' :=
    ⟨effect_admitted heffect hc hv hgrant event hevent, hrange hs.generation, hfits, hclean, hready⟩
  have hconfig : b'.config = b.config := effect_config heffect
  exact hlegible.of_config hconfig

end Binding

/-- The session that an endpoint reports for, once it has been opened. -/
def SessionOf (config : BindingConfig) (p : Supervisor) : Prop :=
  ∀ opened, p.opened = some opened →
    opened.session = { sessionId := config.sessionId, sessionEpoch := config.sessionEpoch }

section Session

variable {cJSON : List Char → Option Json} {exact : Int → Prop} {config : BindingConfig} {p : Supervisor}

theorem handleMessage_opened (p : Supervisor) (r : SupervisorReads) (m : Control.ServerMessage) :
    (p.handleMessage r m).1.opened = p.opened ∨
      ∃ opened, m = .sessionOpened opened ∧ (p.handleMessage r m).1.opened = some opened := by
  cases m with
  | sessionOpened opened =>
    rw [Supervisor.handleMessage.eq_def]
    dsimp only
    rw [Supervisor.handleOpened.eq_def]
    split
    · exact .inl rfl
    · refine .inr ⟨opened, rfl, ?_⟩
      dsimp only
      split
      · rfl
      · split <;> rfl
  | response response =>
    left
    rw [Supervisor.handleMessage.eq_def]
    dsimp only
    split
    · rw [Supervisor.handleResponse.eq_def]
      dsimp only
      repeat' split
      all_goals rfl
    · rfl
  | playbackStop stop =>
    left
    rw [Supervisor.handleMessage.eq_def]
    dsimp only
    split
    · split <;> rfl
    · rfl
  | transcript _ | sessionError _ | sessionClose _ =>
    left
    rw [Supervisor.handleMessage.eq_def]
    dsimp only
    split <;> rfl

theorem handleMedia_opened (p : Supervisor) (r : SupervisorReads) (frame : List UInt8) :
    (p.handleMedia r frame).1.opened = p.opened := by
  rw [Supervisor.handleMedia.eq_def]
  repeat' split
  all_goals rfl

/-- An endpoint is opened for the session of the server only. -/
theorem SessionOf.react (h : SessionOf config p) (hread : Reads exact cJSON) (hexact : ∀ n : Nat, n ≤ uint53Max → exact n)
    (hp : p.running = true) {item : Sent.Item} (hlegible : ∀ e, item = .event e → e.Legible (.init config))
    (reads : SupervisorReads) : SessionOf config ((endpoint cJSON config).react p item reads).1 := by
  cases item with
  | media frame =>
    change SessionOf config (p.handleFrame cJSON reads (.binary frame)).1
    rw [Supervisor.handleFrame.eq_def, if_pos hp]
    intro opened hopened
    exact h opened ((handleMedia_opened p reads frame).symm.trans hopened)
  | event e =>
    obtain ⟨m, hdecodes, hreact⟩ := react_event (b := .init config) hread hexact hp (hlegible e rfl)
    have hsame : (endpoint cJSON config).react p (.event e) reads = _ := hreact reads
    rw [hsame]
    intro opened hopened
    obtain hsame | ⟨opened', rfl, hset⟩ := handleMessage_opened p reads m
    · exact h opened (hsame.symm.trans hopened)
    · obtain rfl := Option.some.inj (hset.symm.trans hopened)
      cases e with
      | sessionOpened requestId mediaId mediaEpoch profile grant =>
        obtain ⟨bytes, decoded, -, -, hm⟩ := hdecodes
        obtain rfl := Control.ServerMessage.sessionOpened.inj hm
        rfl
      | _ => cases hdecodes

end Session

/-- The text on its way is the report of this fact. -/
def Reported (P : Platform) (config : BindingConfig) (f : PlaybackFact) (text : List Char) : Prop :=
  f.playedSamples < 10 ^ 15 ∧
    (f.message { sessionId := config.sessionId, sessionEpoch := config.sessionEpoch }).encode P.printUnformatted = .ok text

/-- What holds in every state of the loop. -/
structure InStep (P : Platform) (config : BindingConfig) (openRequestId : String) (ℓ : PlaybackLoop) : Prop where
  configured : ℓ.server.config = config
  consistent : ℓ.server.responses.Consistent
  valid : ℓ.server.responses.Valid
  live : ℓ.server.closed = false
  held : ℓ.server.responses.playback ≠ none → ℓ.server.opened = true
  generation : ℓ.server.responses.session.generation ≤ uint32Max
  wire : (endpoint P.cJSON config).Answers SupervisorReads.Ready Sent.Item.final Sent.Item.expected
    (Binding.Bound config openRequestId ℓ.server) ℓ.device ℓ.downlink
  unended : ℓ.downlink.any Sent.Item.final = false
  legible : ∀ e, .event e ∈ ℓ.downlink → e.Legible (.init config)
  session : SessionOf config ℓ.device
  ledger : Ledger ℓ.server.responses ℓ.server.nextDownlinkSequence (ℓ.packets ++ toldPackets ℓ.downlink)
  coherent : PlaybackState.Coherent ℓ.playback
  stopRecord : PlaybackState.StopRecord ℓ.playback
  fence : ℓ.playback.fenceGeneration ≤ ℓ.server.responses.session.generation
  tracks : ∃ sent, List.Forall₂ (Reported P config) sent ℓ.uplink ∧
    Tracks ℓ.server.responses ℓ.playback (ℓ.commands ++ toldCommands ℓ.downlink) (sent ++ ℓ.facts)

theorem event_of_sent {e : Binding.Event} {event : ServerEvent} (h : .event event ∈ sentItems e) : event ∈ emits e.2 := by
  obtain hmem | hmem := List.mem_append.mp h
  · obtain ⟨event', hmem, heq⟩ := List.mem_map.mp hmem
    cases heq
    exact hmem
  · split at hmem
    · cases List.mem_singleton.mp hmem
    · cases hmem

namespace Binding

variable {b b' : Binding}

/-- Only an open session has a playback. -/
theorem effect_held {c : Call} {result : Result} (heffect : Effect b c b' result)
    (h : b.responses.playback ≠ none → b.opened = true) : b'.responses.playback ≠ none → b'.opened = true := by
  cases heffect with
  | rejected | unmoved | again | uplink | closing | errored | closed => exact h
  | opened _ _ _ _ _ _ hb' =>
    subst hb'
    exact fun _ => rfl
  | fenced hlive _ _ hb' | fenceFailed hlive _ _ hb' | fencedOnRequest hlive _ _ hb' | fencedOnClose hlive _ _ hb'
  | begun hlive _ _ _ hb' | texted hlive _ _ _ _ _ _ hb' | completed hlive _ _ hb' =>
    subst hb'
    exact fun _ => hlive.1
  | started hlive | ended hlive => exact fun _ => hlive.1
  | serialized hlive => exact fun _ => hlive.1
  | reserved _ hnote | noted _ hnote =>
    cases Coordinator.noteMedia_moves hnote with
    | media _ _ _ => exact h
  | transcribed final hlive _ _ _ _ _ hadvance =>
    obtain ⟨-, rfl⟩ := advanceTranscript_ok hadvance
    cases final <;> exact fun _ => hlive.1

end Binding

section Steps

variable {P : Platform} {exact : Int → Prop} (hread : Reads exact P.cJSON)
  (hexact : ∀ n : Nat, n ≤ uint53Max → exact n) (hprint : Prints Printed P.printUnformatted)
  (hlimit : 2 ≤ P.interpreter.cRecursionLimit) {config : BindingConfig} (hgrant : Binding.Granted config)
  {openRequestId : String} {ℓ ℓ' : PlaybackLoop}

theorem InStep.init : InStep P config openRequestId (.start config openRequestId) where
  configured := rfl
  consistent := Binding.init_consistent config
  valid := by simp [Coordinator.Valid, PlaybackLoop.start, Binding.init]
  live := rfl
  held h := absurd rfl h
  generation := Nat.zero_le _
  wire := .nil rfl ⟨rfl, Binding.init_consistent config, by simp [Coordinator.Valid, PlaybackLoop.start, Binding.init],
    fun _ => .init openRequestId config⟩
  unended := rfl
  legible e he := by cases he
  session opened hopened := by cases hopened
  ledger := .init _
  coherent := PlaybackState.coherent_init
  stopRecord := ⟨by simp [PlaybackLoop.start], by simp [PlaybackLoop.start]⟩
  fence := le_rfl
  tracks := ⟨[], .nil, .idle rfl rfl⟩

namespace InStep

variable (h : InStep P config openRequestId ℓ)

include h

include hread hexact hgrant in
theorem served {call : Call} (hfair : ℓ.Fair openRequestId (.serve call)) (hturn : ℓ.turn P (.serve call) = some ℓ') :
    InStep P config openRequestId ℓ' := by
  obtain ⟨hcarried, hstreamed, hunreported, hfinal⟩ := hfair
  rw [PlaybackLoop.turn_serve] at hturn
  obtain rfl := Option.some.inj hturn
  have hstep := hcarried.step
  have heffect := Binding.step_effect hstep
  have hconfig := Binding.effect_config heffect
  have hc' := Binding.step_consistent hstep h.consistent
  have htold := Binding.effect_told heffect h.consistent hcarried.fits hstreamed hunreported hfinal hcarried.numbered
  obtain ⟨hclosed, hgeneration⟩ := htold.frame
  obtain ⟨sent, hsent, htracks⟩ := h.tracks
  refine
    { configured := hconfig.trans h.configured
      consistent := hc'
      valid := Binding.effect_valid heffect h.valid
      live := hclosed.trans h.live
      held := Binding.effect_held heffect h.held
      generation := hcarried.generation
      wire := h.wire.append fun q hq hbound => Binding.carried_answers hread hexact hgrant hbound hq hcarried
      unended := ?_
      legible := fun e he => ?_
      session := h.session
      ledger := ?_
      coherent := h.coherent
      stopRecord := h.stopRecord
      fence := h.fence.trans hgeneration
      tracks := ⟨sent, hsent, ?_⟩ }
  · rw [List.any_append, h.unended, hfinal]
    rfl
  · obtain hmem | hmem := List.mem_append.mp he
    · exact h.legible e hmem
    · exact hcarried.legible hgrant h.configured h.consistent h.valid e (event_of_sent hmem)
  · rw [toldPackets_append, ← List.append_assoc]
    exact h.ledger.told htold h.consistent
  · rw [toldCommands_append, ← List.append_assoc]
    exact htracks.told htold h.consistent hc' h.fence fun r rec n hrec hn => (h.ledger.last r rec n hrec hn).1

include hread hexact in
theorem delivered {reads : SupervisorReads} (hready : reads.Ready) (hturn : ℓ.turn P (.deliver reads) = some ℓ') :
    InStep P config openRequestId ℓ' := by
  rw [PlaybackLoop.turn, h.configured] at hturn
  obtain ⟨sent, hsent, htracks⟩ := h.tracks
  cases hdownlink : ℓ.downlink with
  | nil =>
    rw [hdownlink] at hturn
    cases hturn
  | cons item downlink =>
    rw [hdownlink] at hturn
    obtain rfl := Option.some.inj hturn
    have hwire := h.wire
    have hunended := h.unended
    have hledger := h.ledger
    rw [hdownlink] at hwire hunended
    rw [hdownlink, toldPackets_cons, ← List.append_assoc] at hledger
    rw [hdownlink, toldCommands_cons, ← List.append_assoc] at htracks
    rw [List.any_cons, Bool.or_eq_false_iff] at hunended
    obtain ⟨hevents, hlater⟩ := hwire.tail hunended.1 hready
    rw [hevents, expected_commands item reads]
    refine
      { configured := h.configured
        consistent := h.consistent
        valid := h.valid
        live := h.live
        held := h.held
        generation := h.generation
        wire := hlater
        unended := hunended.2
        legible := fun e he => h.legible e (by rw [hdownlink]; exact List.mem_cons_of_mem _ he)
        session := ?_
        ledger := hledger.subset ?_
        coherent := h.coherent
        stopRecord := h.stopRecord
        fence := h.fence
        tracks := ⟨sent, hsent, htracks⟩ }
    · refine h.session.react hread hexact hwire.running (fun e he => h.legible e ?_) reads
      rw [hdownlink, he]
      exact List.mem_cons_self
    · intro packet hmem
      simp only [List.mem_append] at hmem ⊢
      exact hmem.imp_left (Or.imp_right fun hnew => expected_packets item reads hnew)

/-- The playback task has made a call that keeps it on the track of the server. -/
theorem called {call : PlaybackState.Call} {commands : List QueuedCommand}
    (hstop : ∀ target g out, call = .stop target g out → g ≤ ℓ.server.responses.session.generation)
    (htracks : ∃ sent, List.Forall₂ (Reported P config) sent ℓ.uplink ∧
      Tracks ℓ.server.responses (PlaybackState.call ℓ.playback call).1 (commands ++ toldCommands ℓ.downlink)
        (sent ++ (ℓ.facts ++ (PlaybackState.call ℓ.playback call).2.fact.toList))) :
    InStep P config openRequestId { ℓ with
      commands
      playback := (PlaybackState.call ℓ.playback call).1
      facts := ℓ.facts ++ (PlaybackState.call ℓ.playback call).2.fact.toList } := by
  have heffect := PlaybackState.call_effect ℓ.playback call
  obtain ⟨sent, -, hbefore⟩ := h.tracks
  exact
    { h with
      coherent := PlaybackState.effect_coherent h.coherent heffect
      stopRecord := PlaybackState.effect_stopRecord h.stopRecord heffect
      fence := fence_bounded heffect h.fence (hbefore.target_le h.consistent) hstop
      tracks := htracks }

/-- The next command is taken, except for a stop that finds the playback over. -/
theorem command_iff {nowUs : Int} {command : QueuedCommand} {commands : List QueuedCommand} (hnow : 0 ≤ nowUs)
    (hcommands : ℓ.commands = command :: commands) :
    (PlaybackState.call ℓ.playback (command.call nowUs)).2.ok = true ↔
      (command.isStop = true → ℓ.playback.active = true) := by
  obtain ⟨sent, hsent, htracks⟩ := h.tracks
  rw [hcommands] at htracks
  exact (htracks.commanded h.coherent h.stopRecord h.valid hnow h.ledger.stopped).1

theorem commanded {nowUs : Int} (hnow : 0 ≤ nowUs) (hturn : ℓ.turn P (.command nowUs) = some ℓ') :
    InStep P config openRequestId ℓ' := by
  obtain ⟨sent, hsent, htracks⟩ := h.tracks
  rw [PlaybackLoop.turn] at hturn
  cases hcommands : ℓ.commands with
  | nil =>
    rw [hcommands] at hturn
    cases hturn
  | cons command commands =>
    rw [hcommands] at hturn htracks
    obtain ⟨hok, hℓ'⟩ := Option.ite_none_right_eq_some.mp hturn
    obtain rfl := Option.some.inj hℓ'
    obtain ⟨-, hlater⟩ := htracks.commanded h.coherent h.stopRecord h.valid hnow h.ledger.stopped
    refine h.called (fun target g out hcall => ?_) ⟨sent, hsent, ?_⟩
    · cases command with
      | stop target' g' =>
        cases hcall
        exact (htracks.stop_fence).le
      | begin | complete => cases hcall
    · rw [← List.append_assoc]
      exact hlater hok

theorem played {call : PlaybackState.Call} (hfair : ℓ.Fair openRequestId (.play call))
    (hturn : ℓ.turn P (.play call) = some ℓ') : InStep P config openRequestId ℓ' := by
  obtain ⟨hown, hheard⟩ := hfair
  obtain ⟨sent, hsent, htracks⟩ := h.tracks
  rw [PlaybackLoop.turn_play] at hturn
  obtain rfl := Option.some.inj hturn
  refine h.called (fun target g out hcall => ?_) ⟨sent, hsent, ?_⟩
  · subst hcall
    cases hown
  · rw [← List.append_assoc]
    refine htracks.played h.coherent h.stopRecord hown fun n samples out r rec hcall hactive hplayback hrec htarget => ?_
    obtain hmem | hfinal := hheard n samples out hcall
    · refine (h.ledger.sent n _ (List.mem_append_left _ hmem)).2 r rec hrec ?_
      rw [htarget]
      rfl
    · exact htracks.final_spans h.ledger hfinal hactive hplayback hrec

theorem drained (hfair : ℓ.Fair openRequestId .drain) (hturn : ℓ.turn P .drain = some ℓ') :
    InStep P config openRequestId ℓ' := by
  obtain ⟨sent, hsent, htracks⟩ := h.tracks
  rw [PlaybackLoop.turn] at hturn
  split at hturn
  · rename_i fact facts opened hfacts hopened
    split at hturn
    · cases hturn
    · rename_i text htext
      obtain rfl := Option.some.inj hturn
      rw [h.session opened hopened] at htext
      have hplayed : fact.playedSamples < 10 ^ 15 := by
        refine hfair fact ?_
        rw [hfacts]
        rfl
      refine { h with tracks := ⟨sent ++ [fact], ?_, ?_⟩ }
      · exact List.rel_append hsent (.cons ⟨hplayed, htext⟩ .nil)
      · rw [hfacts] at htracks
        rw [List.append_assoc]
        exact htracks
  · cases hturn

/-- The next text is the report of a playback of the server, with numbers that it can read. -/
theorem reporting {text : List Char} {uplink : List (List Char)} (huplink : ℓ.uplink = text :: uplink) :
    ∃ f sent, Reported P config f text ∧ List.Forall₂ (Reported P config) sent uplink ∧
      Tracks ℓ.server.responses ℓ.playback (ℓ.commands ++ toldCommands ℓ.downlink) (f :: (sent ++ ℓ.facts)) ∧
      (f.message { sessionId := config.sessionId, sessionEpoch := config.sessionEpoch }).InRange ∧
      ℓ.server.Hears { sessionId := config.sessionId, sessionEpoch := config.sessionEpoch } := by
  obtain ⟨sent, hsent, htracks⟩ := h.tracks
  rw [huplink, List.forall₂_cons_right_iff] at hsent
  obtain ⟨f, sent, hf, hrest, rfl⟩ := hsent
  obtain ⟨r, rec, hplayback, hrec, htarget, hstarted, hended⟩ := htracks.reporting
  have hgeneration : f.target.generation ≤ uint32Max := by
    rw [htarget]
    exact (h.consistent.generation_le r rec hrec).trans h.generation
  have hlast : ∀ n, rec.Spans n → n ≤ uint32Max := by
    intro n hn
    obtain ⟨last, hsome, hle⟩ := (Option.any_eq_true _ _).mp hn.2
    exact (of_decide_eq_true hle).trans ((h.valid r rec hrec).last last hsome)
  refine ⟨f, sent, hf, hrest, htracks, ?_, ⟨?_, h.live⟩, ?_, ?_⟩
  · rw [PlaybackFact.message]
    cases htype : f.type with
    | started => exact ⟨hgeneration, hlast _ (hstarted htype)⟩
    | ended => exact ⟨hgeneration, hf.1, fun n hn => hlast n (hended htype n hn)⟩
  · exact h.held (by rw [hplayback]; exact Option.some_ne_none r)
  · rw [h.configured]
  · rw [h.configured]

include hread hexact hgrant in
/-- The server has taken a report. -/
theorem taken {message : Message} {reply : Reply} {responses : Coordinator} {a : Coordinator.Action}
    {uplink : List (List Char)}
    (hstep : Binding.Step ℓ.server (.receiveControl message, .ok reply) { ℓ.server with responses })
    (hm : Moves ℓ.server.responses a responses) (ha : (∃ r, a = .started r) ∨ ∃ r, a = .ended r)
    (hsilent : emits (.ok reply) = []) (hsent : sentItems (.receiveControl message, .ok reply) = [])
    (htracks : ∃ sent, List.Forall₂ (Reported P config) sent uplink ∧
      Tracks responses ℓ.playback (ℓ.commands ++ toldCommands ℓ.downlink) (sent ++ ℓ.facts)) :
    InStep P config openRequestId { ℓ with uplink, server := { ℓ.server with responses } } := by
  have hc' := Binding.step_consistent hstep h.consistent
  have hsession : responses.session.generation = ℓ.server.responses.session.generation ∧
      responses.session.closed = ℓ.server.responses.session.closed := by
    obtain ⟨r, rfl⟩ | ⟨r, rfl⟩ := ha
    · cases hm with
      | started _ _ => exact ⟨rfl, rfl⟩
    · cases hm with
      | ended _ _ _ _ =>
        dsimp only
        split <;> exact ⟨rfl, rfl⟩
  have hledger : Ledger responses ℓ.server.nextDownlinkSequence (ℓ.packets ++ toldPackets ℓ.downlink) := by
    obtain ⟨r, rfl⟩ | ⟨r, rfl⟩ := ha
    · exact h.ledger.started hm
    · exact h.ledger.ended hm
  have hheld : responses.playback ≠ none → ℓ.server.responses.playback ≠ none := by
    obtain ⟨r, rfl⟩ | ⟨r, rfl⟩ := ha
    · cases hm with
      | started _ _ => exact id
    · cases hm with
      | ended _ _ _ _ => exact fun hnone => absurd rfl hnone
  have hgeneration : responses.session.generation ≤ uint32Max := by
    rw [hsession.1]
    exact h.generation
  have hcarried : Binding.Carried openRequestId ℓ.server (.receiveControl message, .ok reply)
      { ℓ.server with responses } :=
    { step := hstep
      readable := fun event hevent => by rw [hsilent] at hevent; cases hevent
      requested := fun event hevent => by rw [hsilent] at hevent; cases hevent
      fits := by simp
      numbered := fun _ _ => rfl
      generation := hgeneration }
  have hwire : (endpoint P.cJSON config).Answers SupervisorReads.Ready Sent.Item.final Sent.Item.expected
      (Binding.Bound config openRequestId { ℓ.server with responses }) ℓ.device
      (ℓ.downlink ++ sentItems (.receiveControl message, .ok reply)) :=
    h.wire.append fun q hq hbound => Binding.carried_answers hread hexact hgrant hbound hq hcarried
  rw [hsent, List.append_nil] at hwire
  exact
    { configured := h.configured
      consistent := hc'
      valid := Binding.effect_valid (Binding.step_effect hstep) h.valid
      live := hsession.2.trans h.live
      held := fun hplayback => h.held (hheld hplayback)
      generation := hgeneration
      wire := hwire
      unended := h.unended
      legible := h.legible
      session := h.session
      ledger := hledger
      coherent := h.coherent
      stopRecord := h.stopRecord
      fence := h.fence.trans hsession.1.ge
      tracks := htracks }

include hread hexact hprint hlimit hgrant in
/-- The next report is taken, unless it is an end that the server does not wait for. -/
theorem reported {text : List Char} {uplink : List (List Char)} (huplink : ℓ.uplink = text :: uplink) :
    ∃ f r rec, Reported P config f text ∧ ℓ.server.responses.playback = some r ∧
      ℓ.server.responses.heap[r]? = some rec ∧ f.target = rec.playbackTarget ∧
      ((∃ ℓ', ℓ.turn P .report = some ℓ') ↔ (f.type = .ended → TakesEnd rec f.outcome)) ∧
      ∀ ℓ', ℓ.turn P .report = some ℓ' → InStep P config openRequestId ℓ' := by
  obtain ⟨f, sent, hf, hrest, htracks, hrange, hhears⟩ := h.reporting huplink
  obtain ⟨message, hdecode, hreadAs⟩ := client_channel hlimit hprint hrange hf.2
  cases htype : f.type with
  | started =>
    obtain ⟨r, rec, hplayback, hrec, htarget, -⟩ := htracks.reporting
    obtain ⟨c', r', hstarted, hlater⟩ := htracks.reported_started h.consistent htype
    have hcontrol : ℓ.server.receiveControl message =
        ({ ℓ.server with responses := c' }, .ok (.control { playbackStarted := some r' })) := by
      rw [PlaybackFact.message, htype] at hreadAs
      refine (hreadAs ℓ.server hhears).trans ?_
      dsimp only
      rw [hstarted]
      rfl
    have hturn := PlaybackLoop.turn_report_ok huplink hdecode hcontrol
    refine ⟨f, r, rec, hf, hplayback, hrec, htarget, ⟨fun _ hended => ?_, fun _ => ⟨_, hturn⟩⟩, fun ℓ' hℓ' => ?_⟩
    · cases htype.symm.trans hended
    obtain rfl := Option.some.inj (hturn.symm.trans hℓ')
    exact h.taken hread hexact hgrant hcontrol (Coordinator.playbackStarted_moves hstarted) (.inl ⟨_, rfl⟩) rfl rfl
      ⟨sent, hrest, hlater⟩
  | ended =>
    obtain ⟨r, rec, hplayback, hrec, htarget, hiff, hlater⟩ := htracks.reported_ended h.consistent h.live htype
    refine ⟨f, r, rec, hf, hplayback, hrec, htarget, ?_⟩
    rw [forall_prop_of_true htype, ← hiff]
    rw [PlaybackFact.message, htype] at hreadAs
    have hcontrol := hreadAs ℓ.server hhears
    dsimp only at hcontrol
    cases hended : ℓ.server.responses.playbackEnded f.target.responseId f.target.generation
        (Binding.outcomeWord f.outcome) f.playedSamples f.lastMediaSequence with
    | mk c' result =>
      rw [hended] at hcontrol
      cases result with
      | error e =>
        have hturn := PlaybackLoop.turn_report_error huplink hdecode hcontrol
        refine ⟨⟨?_, ?_⟩, fun ℓ' hℓ' => (by cases hturn.symm.trans hℓ')⟩
        · rintro ⟨ℓ', hℓ'⟩
          cases hturn.symm.trans hℓ'
        · rintro ⟨c'', fact, haccepted⟩
          cases hended.symm.trans haccepted
      | ok fact =>
        have hturn := PlaybackLoop.turn_report_ok huplink hdecode hcontrol
        refine ⟨⟨fun _ => ⟨c', fact, hended⟩, fun _ => ⟨_, hturn⟩⟩, ?_⟩
        intro ℓ' hℓ'
        obtain rfl := Option.some.inj (hturn.symm.trans hℓ')
        obtain ⟨e, he⟩ | ⟨d, fact', he, hm⟩ | ⟨d, e, r', he, -⟩ :=
          ℓ.server.responses.playbackEnded_moves f.target.responseId f.target.generation f.playedSamples
            (Binding.outcomeWord f.outcome) f.lastMediaSequence h.live
        · cases (Prod.mk.inj (he.symm.trans hended)).2
        · obtain ⟨rfl, -⟩ := Prod.mk.inj (he.symm.trans hended)
          exact h.taken hread hexact hgrant hcontrol hm (.inr ⟨_, rfl⟩) rfl rfl ⟨sent, hrest, hlater d fact hended⟩
        · cases (Prod.mk.inj (he.symm.trans hended)).2

end InStep

end Steps

/-- The server and the playback task are at the same point of the same playback. -/
def Agrees (c : Coordinator) (q : State) : Prop :=
  c.playback = none ∧ q.active = false ∨
  ∃ r rec, c.playback = some r ∧ c.heap[r]? = some rec ∧ q.active = true ∧ q.target = rec.playbackTarget ∧
    rec.stopSent = false ∧ rec.playbackStarted = q.started ∧
    q.finalMediaSequence = if rec.outcome = some .completed then rec.lastMediaSequence else none

theorem Tracks.agrees {c : Coordinator} {q : State} (h : Tracks c q [] []) : Agrees c q := by
  generalize hpipe : ([] : List QueuedCommand) = pipe at h
  generalize hflight : ([] : List PlaybackFact) = flight at h
  cases h with
  | idle hplayback hinactive => exact .inl ⟨hplayback, hinactive⟩
  | begun _ _ _ _ _ hdue =>
    subst hpipe
    cases hdue
  | ended => cases List.append_eq_nil_iff.mp hflight.symm |>.2
  | @playing r rec _ _ hplayback hrec hactive htarget _ hfinal hdue hannounced =>
    rw [← hpipe, due, eq_comm, List.append_eq_nil_iff] at hdue
    obtain ⟨hcomplete, hstop⟩ := hdue
    refine .inr ⟨r, rec, hplayback, hrec, hactive, htarget, ?_, ?_, ?_⟩
    · by_contra hsent
      rw [stopDue_sent (by simpa using hsent)] at hstop
      cases hstop
    · subst hflight
      generalize hstarted : q.started = started at hannounced
      cases hannounced with
      | silent hsilent => exact hsilent
      | taken htaken => exact htaken
    · by_cases hdone : rec.outcome = some .completed
      · rw [if_pos hdone]
        cases hsome : q.finalMediaSequence with
        | some n => exact (hfinal n hsome).2.symm
        | none =>
          rw [if_pos ⟨hdone, hsome⟩, List.map_eq_nil_iff, Option.toList_eq_nil_iff] at hcomplete
          exact hcomplete.symm
      · rw [if_neg hdone]
        cases hsome : q.finalMediaSequence with
        | some n => exact absurd (hfinal n hsome).1 hdone
        | none => rfl

/-- Neither side has lost the other: the endpoint runs and hands on what was sent, its playback task takes every
command but a stop that comes after the end, the server takes every report but an end that it does not wait for, and
with nothing on its way both are at the same point. -/
structure PlaybackLoop.InTouch (P : Platform) (ℓ : PlaybackLoop) : Prop where
  running : ℓ.device.running = true
  received : ∀ item rest reads, reads.Ready → ℓ.downlink = item :: rest →
    ((endpoint P.cJSON ℓ.server.config).react ℓ.device item reads).2 = item.expected reads
  commanded : ∀ nowUs command rest, 0 ≤ nowUs → ℓ.commands = command :: rest →
    ((∃ ℓ', ℓ.turn P (.command nowUs) = some ℓ') ↔ (command.isStop = true → ℓ.playback.active = true))
  reported : ∀ text rest, ℓ.uplink = text :: rest →
    ∃ f r rec, Reported P ℓ.server.config f text ∧ ℓ.server.responses.playback = some r ∧
      ℓ.server.responses.heap[r]? = some rec ∧ f.target = rec.playbackTarget ∧
      ((∃ ℓ', ℓ.turn P .report = some ℓ') ↔ (f.type = .ended → TakesEnd rec f.outcome))
  settled : ℓ.downlink = [] → ℓ.commands = [] → ℓ.facts = [] → ℓ.uplink = [] →
    Agrees ℓ.server.responses ℓ.playback

section Loop

variable {P : Platform} {exact : Int → Prop} (hread : Reads exact P.cJSON)
  (hexact : ∀ n : Nat, n ≤ uint53Max → exact n) (hprint : Prints Printed P.printUnformatted)
  (hlimit : 2 ≤ P.interpreter.cRecursionLimit) {config : BindingConfig} (hgrant : Binding.Granted config)
  {openRequestId : String} {ℓ ℓ' : PlaybackLoop}

include hread hexact hprint hlimit hgrant

theorem InStep.step (h : InStep P config openRequestId ℓ) {t : Turn} (hs : ℓ.Step P openRequestId t ℓ') :
    InStep P config openRequestId ℓ' := by
  obtain ⟨hfair, hturn⟩ := hs
  cases t with
  | serve call => exact h.served hread hexact hgrant hfair hturn
  | deliver reads => exact h.delivered hread hexact hfair hturn
  | command nowUs => exact h.commanded hfair hturn
  | play call => exact h.played hfair hturn
  | drain => exact h.drained hfair hturn
  | report =>
    cases huplink : ℓ.uplink with
    | nil =>
      rw [PlaybackLoop.turn, huplink] at hturn
      cases hturn
    | cons text uplink =>
      obtain ⟨-, -, -, -, -, -, -, -, hlater⟩ := h.reported hread hexact hprint hlimit hgrant huplink
      exact hlater ℓ' hturn

theorem InStep.inTouch (h : InStep P config openRequestId ℓ) : ℓ.InTouch P where
  running := h.wire.running
  received item rest reads hready hdownlink := by
    have hwire := h.wire
    have hunended := h.unended
    rw [hdownlink] at hwire hunended
    rw [List.any_cons, Bool.or_eq_false_iff] at hunended
    rw [h.configured]
    exact (hwire.tail hunended.1 hready).1
  commanded nowUs command rest hnow hcommands := by
    rw [← h.command_iff hnow hcommands, PlaybackLoop.turn, hcommands]
    dsimp only
    by_cases hok : (PlaybackState.call ℓ.playback (command.call nowUs)).2.ok = true
    · rw [if_pos hok]
      exact ⟨fun _ => hok, fun _ => ⟨_, rfl⟩⟩
    · rw [if_neg hok]
      refine ⟨?_, fun hyes => absurd hyes hok⟩
      rintro ⟨ℓ', hℓ'⟩
      cases hℓ'
  reported text rest huplink := by
    obtain ⟨f, r, rec, hf, hplayback, hrec, htarget, hiff, -⟩ :=
      h.reported hread hexact hprint hlimit hgrant huplink
    rw [h.configured]
    exact ⟨f, r, rec, hf, hplayback, hrec, htarget, hiff⟩
  settled hdownlink hcommands hfacts huplink := by
    obtain ⟨sent, hsent, htracks⟩ := h.tracks
    rw [huplink, List.forall₂_nil_right_iff] at hsent
    rw [hdownlink, hcommands, hfacts, hsent] at htracks
    exact htracks.agrees

/-- A server and an endpoint that play a session stay in touch, however their steps fall and whatever is on its way
between them. -/
theorem playback_loop {ts : List Turn}
    (h : Run (PlaybackLoop.Step P openRequestId) (.start config openRequestId) ts ℓ) : ℓ.InTouch P := by
  have hinv : InStep P config openRequestId ℓ :=
    h.state_invariant InStep.init fun _ _ _ ht hs => ht.step hread hexact hprint hlimit hgrant hs
  exact hinv.inTouch hread hexact hprint hlimit hgrant

end Loop

/-- A turn that is seen to be fair. -/
def PlaybackLoop.checked (openRequestId : String) (ℓ : PlaybackLoop) : Turn → Bool
  | .serve call =>
    decide (Binding.Answered openRequestId ℓ.server call) && call.streamed &&
      !reportsPlayback (ℓ.server.call call).2 && !(sentItems (call, (ℓ.server.call call).2)).any Sent.Item.final
  | .command nowUs => decide (0 ≤ nowUs)
  | .play (.recordWritten n _ _) => decide ((n, ℓ.playback.target.generation) ∈ ℓ.packets)
  | .play call => call.own
  | .drain => ℓ.facts.head?.all fun fact => decide (fact.playedSamples < 10 ^ 15)
  | .deliver reads => reads.configuresUdp && reads.startsMedia && reads.queued
  | .report => true

theorem PlaybackLoop.fair_of_checked {openRequestId : String} {ℓ : PlaybackLoop} {t : Turn}
    (h : ℓ.checked openRequestId t = true) : ℓ.Fair openRequestId t := by
  cases t with
  | serve call =>
    simp only [checked, Bool.and_eq_true, decide_eq_true_iff, Bool.not_eq_true'] at h
    obtain ⟨⟨⟨hanswered, hstreamed⟩, hunreported⟩, hfinal⟩ := h
    exact ⟨hanswered.carried rfl, hstreamed, hunreported, hfinal⟩
  | command nowUs =>
    have hnow : 0 ≤ nowUs := of_decide_eq_true h
    exact hnow
  | play call =>
    cases call with
    | recordWritten n samples out =>
      refine ⟨rfl, fun m _ _ hcall => .inl ?_⟩
      cases hcall
      exact of_decide_eq_true h
    | _ => exact ⟨h, fun _ _ _ hcall => by cases hcall⟩
  | drain =>
    intro fact hfact
    rw [checked, hfact] at h
    exact of_decide_eq_true h
  | deliver reads =>
    simp only [checked, Bool.and_eq_true] at h
    exact ⟨h.1.1, h.1.2, h.2⟩
  | report => trivial

def demoPlatform : Platform where
  cJSON := Json.read
  printUnformatted := some ∘ dumps
  interpreter := { cRecursionLimit := 1000, floatRepr := PyStr.key, cRecursionLimit_pos := by decide }

/-- A response is played in part, and interrupted. -/
def demoTurns : List Turn :=
  [.serve (.receiveControl Binding.demoOpen), .serve (.responseBegin "r1" 1), .serve (.serializeAudio [7] 0 0),
    .deliver {}, .deliver {}, .deliver {}, .command 0, .play (.recordWritten 0 240 true),
    .serve (.cancelActiveResponse "recognized_interrupt"), .drain, .deliver {}, .command 0, .deliver {}, .drain,
    .report, .report]

theorem playback_loop_demo :
    ∃ ℓ, Run (PlaybackLoop.Step demoPlatform "q1") (.start Binding.demoServer "q1") demoTurns ℓ ∧
      ℓ.InTouch demoPlatform ∧ ℓ.server.responses.playback = none ∧ ℓ.playback.stopRecorded = true := by
  have hany : (demoTurns.foldlM (fun (ℓ : PlaybackLoop) t =>
      if ℓ.checked "q1" t = true then ℓ.turn demoPlatform t else none)
      (PlaybackLoop.start Binding.demoServer "q1")).any
      (fun ℓ => ℓ.server.responses.playback.isNone && ℓ.playback.stopRecorded) = true := by decide +kernel
  obtain ⟨ℓ, hℓ, hend⟩ := (Option.any_eq_true _ _).mp hany
  rw [Bool.and_eq_true, Option.isNone_iff_eq_none] at hend
  have hrun : Run (PlaybackLoop.Step demoPlatform "q1") (.start Binding.demoServer "q1") demoTurns ℓ :=
    (Run.of_foldlM_if hℓ).mono fun _ _ _ hs => ⟨PlaybackLoop.fair_of_checked hs.1, hs.2⟩
  exact ⟨ℓ, hrun, playback_loop (reads_read fun _ => True) (fun _ _ => trivial) (fun _ _ _ _ => rfl) (by decide)
    Binding.granted_server hrun, hend⟩

end RealtimeVoice.Rva
