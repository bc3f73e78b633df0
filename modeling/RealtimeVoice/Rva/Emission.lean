import RealtimeVoice.Base.JsonText
import RealtimeVoice.Rva.Lifecycle

namespace RealtimeVoice.Rva

open RealtimeVoice.Base RealtimeVoice.Base.Json RealtimeVoice.Base.Runs RealtimeVoice.Contracts

def base64Char (n : Nat) : Char :=
  if n < 26 then Char.ofNat (65 + n)
  else if n < 52 then Char.ofNat (71 + n)
  else if n < 62 then Char.ofNat (n - 4)
  else if n = 62 then '+'
  else '/'

def b64encode : List UInt8 → List Char
  | x :: y :: z :: rest =>
    base64Char (x.toNat / 4) :: base64Char (x.toNat % 4 * 16 + y.toNat / 16) ::
      base64Char (y.toNat % 16 * 4 + z.toNat / 64) :: base64Char (z.toNat % 64) :: b64encode rest
  | [x, y] =>
    [base64Char (x.toNat / 4), base64Char (x.toNat % 4 * 16 + y.toNat / 16), base64Char (y.toNat % 16 * 4), '=']
  | [x] => [base64Char (x.toNat / 4), base64Char (x.toNat % 4 * 16), '=', '=']
  | [] => []

/-- The grant of a UDP media session. The ranges are those of the gateway's
settings and of the wall clock. -/
structure UdpGrant where
  host : String
  port : Nat
  expiresAt : Nat
  uplinkKey : List UInt8
  uplinkSalt : List UInt8
  downlinkKey : List UInt8
  downlinkSalt : List UInt8
  probeTimeoutMs : Nat
  host_ne : host ≠ ""
  port_range : 1 ≤ port ∧ port ≤ 65535
  expiresAt_range : 1 ≤ expiresAt ∧ expiresAt * 1000 ≤ uint53Max
  uplinkKey_length : uplinkKey.length = 16
  uplinkSalt_length : uplinkSalt.length = 8
  downlinkKey_length : downlinkKey.length = 16
  downlinkSalt_length : downlinkSalt.length = 8
  probeTimeoutMs_le : probeTimeoutMs ≤ 10000

namespace UdpGrant

def refreshAfterMs (g : UdpGrant) (nowMs : Int) : Nat :=
  (max 1000 (min 3600000 ((g.expiresAt : Int) * 1000 - nowMs - 5000))).toNat

/-- `_rva_udp_grant` at the wall clock `nowMs`. -/
def message (g : UdpGrant) (nowMs : Int) : Message :=
  [("host", .str g.host), ("port", nat g.port), ("expires_at_ms", nat (g.expiresAt * 1000)),
    ("refresh_after_ms", nat (g.refreshAfterMs nowMs)),
    ("uplink_key_b64", .str (String.ofList (b64encode g.uplinkKey))),
    ("uplink_salt_b64", .str (String.ofList (b64encode g.uplinkSalt))),
    ("downlink_key_b64", .str (String.ofList (b64encode g.downlinkKey))),
    ("downlink_salt_b64", .str (String.ofList (b64encode g.downlinkSalt))),
    ("probe_timeout_ms", nat g.probeTimeoutMs)]

end UdpGrant

def mediaIdText (bytes : List UInt8) : String := String.ofList (bytes.flatMap Binding.hexByte)

/-- The grant that goes with a profile. -/
def GrantFits (profile : TransportProfile) (grant : Option Message) : Prop :=
  match profile with
  | .wssOpus => grant = none
  | .udpOpusGcm => ∃ (g : UdpGrant) (nowMs : Int), grant = some (g.message nowMs)

/-- The events the binding can hand to `_event`: the texts its own check admits, and
its identifiers, sequences and generations. -/
def ServerEvent.Admitted : ServerEvent → Prop
  | .sessionOpened requestId mediaId mediaEpoch profile grant =>
    identifierMatches requestId = true ∧ (∃ bytes : List UInt8, bytes.length = 8 ∧ mediaId = mediaIdText bytes) ∧
      (1 ≤ mediaEpoch ∧ mediaEpoch ≤ uint32Max) ∧ GrantFits profile grant
  | .transcriptDelta utteranceId sequence text =>
    identifierMatches utteranceId = true ∧ sequence ≤ uint32Max ∧ utf8Length text.toList ≤ 4096 ∧ text ≠ ""
  | .transcriptFinal utteranceId sequence text =>
    identifierMatches utteranceId = true ∧ sequence ≤ uint32Max ∧ utf8Length text.toList ≤ 16384
  | .responseBegin responseId generation => identifierMatches responseId = true ∧ 1 ≤ generation
  | .responseText responseId generation sequence text =>
    identifierMatches responseId = true ∧ 1 ≤ generation ∧ sequence ≤ uint32Max ∧
      utf8Length text.toList ≤ 4096 ∧ text ≠ ""
  | .responseEnd responseId generation outcome errorCode finalMediaSequence =>
    identifierMatches responseId = true ∧ 1 ≤ generation ∧
      match outcome with
      | .completed => errorCode = none ∧ ∃ n, finalMediaSequence = some n ∧ n ≤ uint32Max
      | .cancelled => errorCode = none ∧ finalMediaSequence = none
      | .failed => errorCode = some "response_failed" ∧ finalMediaSequence = none
  | .playbackStop responseId generation fenceGeneration _ =>
    identifierMatches responseId = true ∧ 1 ≤ generation ∧ generation < fenceGeneration
  | .sessionError code _ message => Binding.isValidErrorCode code = true ∧ utf8Length message.toList ≤ 512
  | .sessionClose reason => reason ∈ Binding.closeReasons

/-- The values of a record that its events carry. -/
structure ResponseRecord.Valid (rec : ResponseRecord) : Prop where
  responseId : identifierMatches rec.responseId = true
  generation : 1 ≤ rec.target.generation
  last : ∀ n, rec.lastMediaSequence = some n → n ≤ uint32Max

namespace Coordinator

variable {c c' : Coordinator}

def Valid (c : Coordinator) : Prop := ∀ (r : Ref) (rec : ResponseRecord), c.heap[r]? = some rec → rec.Valid

theorem Valid.update (h : c.Valid) (r : Ref) {f : ResponseRecord → ResponseRecord}
    (hf : ∀ rec : ResponseRecord, rec.Valid → (f rec).Valid) : (c.update r f).Valid := by
  intro r' rec' hrec'
  obtain ⟨rec, hrec, rfl⟩ := update_back hrec'
  split
  · exact hf rec (h r' rec hrec)
  · exact h r' rec hrec

theorem Valid.moves (h : c.Valid) {a : Action} (hm : Moves c a c')
    (hbegun : ∀ r, a = .begun r → ∃ rec : ResponseRecord, c'.heap[r]? = some rec ∧ rec.Valid)
    (hmedia : ∀ r n, a = .media r n → n ≤ uint32Max) : c'.Valid := by
  cases hm with
  | idle => exact h
  | begun _ _ _ _ =>
    intro r rec hrec
    by_cases hlt : r < c.heap.length
    · rw [List.getElem?_append_left hlt] at hrec
      exact h r rec hrec
    · obtain ⟨rec', hrec', hvalid⟩ := hbegun c.heap.length rfl
      have hr : r = c.heap.length := by
        have hlt' := (List.getElem?_eq_some_iff.mp hrec).1
        rw [List.length_append, List.length_singleton] at hlt'
        exact Nat.le_antisymm (Nat.le_of_lt_succ hlt') (Nat.le_of_not_lt hlt)
      subst hr
      rw [hrec'] at hrec
      obtain rfl := Option.some.inj hrec
      exact hvalid
  | media _ _ _ =>
    refine h.update _ (fun rec hrec => ⟨hrec.responseId, hrec.generation, ?_⟩)
    intro n hn
    obtain rfl := Option.some.inj hn
    exact hmedia _ _ rfl
  | completed _ _ _ _ =>
    exact Valid.update (c := { c with active := none }) h _
      (fun rec hrec => ⟨hrec.responseId, hrec.generation, hrec.last⟩)
  | fenced _ _ _ _ _ _ =>
    exact Valid.update (c := { c with session := _, active := _ }) h _
      (fun rec hrec => ⟨hrec.responseId, hrec.generation, hrec.last⟩)
  | started _ _ => exact h.update _ (fun rec hrec => ⟨hrec.responseId, hrec.generation, hrec.last⟩)
  | ended _ _ _ _ => exact h.update _ (fun rec hrec => ⟨hrec.responseId, hrec.generation, hrec.last⟩)
  | unfinished _ _ _ _ => exact h.update _ (fun rec hrec => ⟨hrec.responseId, hrec.generation, hrec.last⟩)
  | closed => exact h

end Coordinator

namespace Binding

variable {b b' : Binding}

theorem effect_valid {c : Call} {result : Result} (h : Effect b c b' result) (hv : b.responses.Valid) :
    b'.responses.Valid := by
  obtain ⟨a, hmade⟩ := effect_made h
  refine hv.moves hmade.moves ?_ hmade.media
  intro r hr
  obtain ⟨responseId, producerEpoch, -, hid, hrec⟩ := hmade.begun r hr
  exact ⟨_, hrec, hid, Nat.le_add_left 1 _, by simp⟩

theorem effect_config {c : Call} {result : Result} (h : Effect b c b' result) : b'.config = b.config := by
  cases h with
  | opened _ _ _ _ _ _ hb' => rw [hb']
  | fenced _ _ _ hb' => rw [hb']
  | fenceFailed _ _ _ hb' _ => rw [hb']
  | fencedOnRequest _ _ _ hb' _ => rw [hb']; rfl
  | fencedOnClose _ _ _ hb' _ _ => rw [hb']
  | begun _ _ _ _ hb' => rw [hb']
  | texted _ _ _ _ _ _ _ hb' => rw [hb']
  | completed _ _ _ hb' => rw [hb']
  | transcribed final _ _ _ _ _ _ hadvance _ _ => exact (advanceTranscript_frame hadvance).2
  | _ => rfl

/-- The grant that `RvaWssConnection` hands to its binding. -/
def Granted (config : BindingConfig) : Prop :=
  ∀ m, config.udpGrant = some m → ∃ (g : UdpGrant) (nowMs : Int), m = g.message nowMs

theorem fenceEffect_admitted {r : Ref} {g : Nat} {cause : StopCause} {effect : ControlEffect}
    (h : b.fenceEffect r g cause = .ok effect) (hv : b.responses.Valid)
    (hfence : ∀ rec : ResponseRecord, b.responses.heap[r]? = some rec → rec.target.generation < g) :
    ∀ e ∈ effect.outbound, e.Admitted := by
  obtain ⟨rec, hrec, rfl⟩ := fenceEffect_ok h
  have hvalid := hv r rec hrec
  intro e he
  obtain rfl | he := List.mem_cons.mp he
  · exact ⟨hvalid.responseId, hvalid.generation, hfence rec hrec⟩
  · split at he
    · cases he
    · obtain rfl := List.mem_singleton.mp he
      cases cause <;> exact ⟨hvalid.responseId, hvalid.generation, rfl, rfl⟩

theorem emits_event {e : ServerEvent} {f : ServerEvent → Reply} {P : ServerEvent → Prop}
    (h : ∀ e' ∈ (f e).emits, P e') : ∀ e' ∈ emits ((b.event e).map f), P e' := by
  intro e' he'
  obtain ⟨error, heq⟩ | heq := event_map (b := b) e f
  · rw [heq] at he'
    cases he'
  · rw [heq] at he'
    exact h e' he'

/-- A fence is above the generation of the record it stops. -/
theorem fence_above {r : Ref} {cause : StopCause} {responses : Coordinator} {g : Nat}
    (hc : b.responses.Consistent)
    (hfence : b.responses.fence r (stopOutcome cause) (stopErrorCode cause) = .ok (responses, g)) :
    ∀ rec : ResponseRecord, responses.heap[r]? = some rec → rec.target.generation < g := by
  intro rec hrec
  obtain ⟨rec₀, outcome, code, hrec₀, -, -, hg, -, -, hrec'⟩ :=
    Coordinator.moves_fenced (Coordinator.fence_moves hfence (stopOutcome_ne cause))
  rw [hrec'] at hrec
  obtain rfl := Option.some.inj hrec
  have hle := hc.generation_le r rec₀ hrec₀
  rw [hg]
  exact Nat.lt_succ_of_le hle

/-- A completed response has a last media sequence. -/
theorem complete_last {c c' : Coordinator} {r : Ref} {rec : ResponseRecord} (h : c.complete r = .ok c')
    (hrec : c'.heap[r]? = some rec) : ∃ n, rec.lastMediaSequence = some n := by
  cases Coordinator.complete_moves h with
  | @completed _ rec₀ n hrec₀ hlast _ _ =>
    rw [Coordinator.rememberTerminal_eq] at hrec
    rw [Coordinator.update_self (c := c) { c with active := none } _ rfl hrec₀] at hrec
    obtain rfl := Option.some.inj hrec
    exact ⟨n, hlast⟩

/-- Whatever a call emits is within what the binding admits. -/
theorem effect_admitted {c : Call} {result : Result} (h : Effect b c b' result) (hc : b.responses.Consistent)
    (hv : b.responses.Valid) (hgrant : Granted b.config) : ∀ e ∈ emits result, e.Admitted := by
  have hv' := effect_valid h hv
  have hnone : ∀ e ∈ ([] : List ServerEvent), e.Admitted := by simp
  cases h with
  | @opened _ requestId profile grant _ _ _ hid _ hsome hprofile hb' =>
    refine emits_event (fun e' he' => ?_)
    obtain rfl := List.mem_singleton.mp he'
    refine ⟨hid, ⟨b.config.mediaId, b.config.mediaId_length, rfl⟩, b.config.mediaEpoch_range, ?_⟩
    cases profile with
    | wssOpus => exact hprofile
    | udpOpusGcm =>
      obtain ⟨m, hm⟩ := Option.ne_none_iff_exists'.mp (hsome rfl)
      obtain ⟨g, nowMs, rfl⟩ := hgrant m hm
      exact ⟨g, nowMs, hprofile.trans hm⟩
  | fenced _ _ hfence hb' =>
    subst hb'
    intro e he
    generalize heffect : Binding.fenceEffect _ _ _ _ = outcome at he
    cases outcome with
    | error error => cases he
    | ok effect => exact fenceEffect_admitted heffect hv' (fence_above hc hfence) e he
  | fencedOnRequest _ _ hfence hb' heffect =>
    subst hb'
    exact fenceEffect_admitted heffect hv' (fence_above hc hfence)
  | fencedOnClose _ _ hfence hb' heffect hreason =>
    subst hb'
    refine emits_event (fun e' he' => ?_)
    obtain he' | he' := List.mem_append.mp he'
    · exact fenceEffect_admitted heffect hv' (fence_above hc hfence) e' he'
    · obtain rfl := List.mem_singleton.mp he'
      exact hreason
  | closing _ _ hreason =>
    refine emits_event (fun e' he' => ?_)
    obtain rfl := List.mem_singleton.mp he'
    exact hreason
  | @ended _ _ _ fact _ _ =>
    cases fact with
    | error error => exact hnone
    | ok fact => exact hnone
  | serialized _ _ _ _ hresult =>
    intro e he
    cases result with
    | error error => cases he
    | ok reply =>
      obtain ⟨frame, rfl⟩ := serialized_media hresult.symm
      cases he
  | transcribed final _ hid hseq hle hbytes hnonempty _ hcall he =>
    refine emits_event (fun e' he' => ?_)
    obtain rfl := List.mem_singleton.mp he'
    subst he
    cases final with
    | true => exact ⟨hid, hle, hbytes⟩
    | false => exact ⟨hid, hle, hbytes, hnonempty rfl⟩
  | @begun _ _ _ r rec _ _ _ _ hrec hb' =>
    subst hb'
    refine emits_event (fun e' he' => ?_)
    obtain rfl := List.mem_singleton.mp he'
    exact ⟨(hv' r rec hrec).responseId, (hv' r rec hrec).generation⟩
  | @texted r rec _ _ _ _ _ hrec _ hle hbytes hne hb' =>
    refine emits_event (fun e' he' => ?_)
    obtain rfl := List.mem_singleton.mp he'
    exact ⟨(hv r rec hrec).responseId, (hv r rec hrec).generation, hle, hbytes, hne⟩
  | @completed r rec _ _ _ hcomplete hrec hb' =>
    subst hb'
    refine emits_event (fun e' he' => ?_)
    obtain rfl := List.mem_singleton.mp he'
    refine ⟨(hv' r rec hrec).responseId, (hv' r rec hrec).generation, rfl, ?_⟩
    obtain ⟨n, hn⟩ := complete_last hcomplete hrec
    exact ⟨n, hn, (hv' r rec hrec).last n hn⟩
  | errored _ hcode hbytes =>
    refine emits_event (fun e' he' => ?_)
    obtain rfl := List.mem_singleton.mp he'
    exact ⟨hcode, hbytes⟩
  | _ => exact hnone

/-- Every event of a run is one the binding admits. -/
theorem run_admitted {config : BindingConfig} (hgrant : Granted config) {es : List Event}
    (h : Run Step (.init config) es b) : ∀ e ∈ emitted es, e.Admitted := by
  have hinv : (b.config = config ∧ b.responses.Consistent ∧ b.responses.Valid) ∧ ∀ e ∈ emitted es, e.Admitted := by
    refine h.invariant (R := fun es b => (b.config = config ∧ b.responses.Consistent ∧ b.responses.Valid) ∧
      ∀ e ∈ emitted es, e.Admitted) ⟨⟨rfl, init_consistent config, by simp [Coordinator.Valid, Binding.init]⟩, by
        simp [emitted]⟩ ?_
    intro es t e u hr ht hs
    obtain ⟨⟨hconfig, hc, hv⟩, hes⟩ := ht
    have heffect := step_effect hs
    refine ⟨⟨(effect_config heffect).trans hconfig, step_consistent hs hc, effect_valid heffect hv⟩, ?_⟩
    intro e' he'
    rw [emitted_snoc, List.mem_append] at he'
    obtain he' | he' := he'
    · exact hes e' he'
    · exact effect_admitted heffect hc hv (hconfig ▸ hgrant) e' he'
  exact hinv.2

end Binding

end RealtimeVoice.Rva
