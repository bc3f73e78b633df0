import RealtimeVoice.Base.LoadsDumps
import RealtimeVoice.Firmware.ClientMessages
import RealtimeVoice.Rva.ControlInput
import RealtimeVoice.Rva.Decoding
import RealtimeVoice.Rva.StopOutcome

namespace RealtimeVoice.Rva

open RealtimeVoice.Base RealtimeVoice.Base.Json RealtimeVoice.Base.Loads RealtimeVoice.Contracts RealtimeVoice.Firmware
open RealtimeVoice.Firmware.Control (SessionIdentity ResponseTarget ClientMessage addString addNumber addSession addTarget)

theorem codes_injective : Function.Injective codes := by
  apply Function.Injective.list_map
  intro c d h
  by_contra hne
  exact toNat_ne hne h

theorem key_codes (s : String) : PyStr.key (codes s.toList) = s := by
  have htext := PyStr.text?_ofString s
  rw [PyStr.text?] at htext
  split at htext
  · exact Option.some.inj htext
  · cases htext

theorem rebuilds_uniqueObject : Rebuilds uniqueObject := by
  intro fields hkeys
  have hcodes : ((fields.map fun f => (codes f.1.toList, f.2)).map Prod.fst).Nodup := by
    rw [List.map_map]
    change (fields.map ((fun s : String => codes s.toList) ∘ Prod.fst)).Nodup
    rw [← List.map_map]
    apply hkeys.map
    intro s t h
    exact String.toList_inj.mp (codes_injective h)
  rw [uniqueObject, if_pos hcodes, List.map_map]
  congr 2
  conv => rhs; rw [← List.map_id fields]
  apply List.map_congr_left
  intro f _
  exact Prod.ext (key_codes f.1) rfl

/-- The integers that `cJSON` prints digit by digit: a double of up to fifteen digits. -/
def Printed (n : Int) : Prop := 0 ≤ n ∧ n < 10 ^ 15

theorem short_of_printed {n : Int} (h : Printed n) : Short n := by
  have hlength : (Nat.toDigits 10 n.natAbs).length ≤ 15 := by
    rw [Nat.length_toDigits_le_iff (by omega) (by omega)]
    have hrange := h.2
    have hsign := h.1
    omega
  exact hlength.trans (by decide)

/-- What the server makes of the text of an object that the firmware prints. -/
theorem decodeControl_printed {p : Interpreter} {printUnformatted : Json → Option (List Char)} {data : List Char}
    {fields : Message} (hprint : Prints Printed printUnformatted) (hlimit : 2 ≤ p.cRecursionLimit)
    (hplain : Plain Printed NulFree 2 (.obj fields)) (h : Control.print printUnformatted (some fields) = .ok data) :
    decodeControl p (codes data) = .ok fields := by
  rw [Control.print, Option.bind_some, hprint 2 (by decide) _ hplain] at h
  dsimp only at h
  split at h
  · cases h
  rename_i hsize
  obtain rfl := Except.ok.inj h
  have htext : (codes (dumps (.obj fields))).text? = some (String.ofList (dumps (.obj fields))) := by
    rw [← PyStr.text?_ofString, PyStr.ofString, String.toList_ofList]
    rfl
  rw [decodeControl, htext]
  dsimp only
  rw [String.toList_ofList, if_neg (show ¬_ > controlMaxBytes from hsize),
    loads_dumps rebuilds_uniqueObject (hplain.ints fun n => short_of_printed) hlimit]

section Roots

theorem identifier_of_isIdentifier {s : String} (h : Control.isIdentifier s = true) : identifierMatches s = true := by
  rw [Control.isIdentifier, Bool.and_eq_true, decide_eq_true_iff] at h
  obtain ⟨⟨hne, hsize⟩, hchars⟩ := h
  have hall : s.toList.all identifierChar = true := by
    rw [List.all_eq_true] at hchars ⊢
    intro c hc
    have hchar := hchars c hc
    simp only [identifierChar, Bool.or_eq_true, beq_iff_eq] at hchar ⊢
    tauto
  have hsimple : Simple s := List.all_eq_true.mpr fun c hc => identifierChar_simple (List.all_eq_true.mp hall c hc)
  rw [identifierMatches, Bool.and_eq_true, decide_eq_true_iff]
  refine ⟨⟨?_, ?_⟩, hall⟩
  · apply List.length_pos_of_ne_nil
    intro hnil
    exact hne (String.toList_eq_nil_iff.mp hnil)
  · rw [← utf8Length_simple hsimple]
    exact hsize

theorem identifier_nulFree {s : String} (h : identifierMatches s = true) : NulFree s :=
  simple_nulFree (identifier_simple h).1

theorem addString_nulFree {s : String} (h : NulFree s) (name : String) : addString name s = (name, .str s) := by
  rw [addString, cString_of_nulFree h]

theorem guard_some {q : Prop} [Decidable q] {u : Unit} : (guard q : Option Unit) = some u ↔ q := by
  rw [guard]
  split <;> simp [*]

theorem addSession_some {session : SessionIdentity} {fields : Message} (h : addSession session = some fields) :
    identifierMatches session.sessionId = true ∧ identifierMatches session.sessionEpoch = true ∧
      fields = [("session_id", .str session.sessionId), ("session_epoch", .str session.sessionEpoch)] := by
  rw [addSession] at h
  split at h
  · rename_i hids
    obtain ⟨hid, hepoch⟩ := Bool.and_eq_true_iff.mp hids
    have hid' := identifier_of_isIdentifier hid
    have hepoch' := identifier_of_isIdentifier hepoch
    obtain rfl := Option.some.inj h
    refine ⟨hid', hepoch', ?_⟩
    rw [addString_nulFree (identifier_nulFree hid'), addString_nulFree (identifier_nulFree hepoch')]
  · cases h

/-- A target as it stands in a message. -/
def targetJson (target : ResponseTarget) : Json :=
  .obj [("response_id", .str target.responseId), ("generation", nat target.generation)]

theorem addTarget_some {target : ResponseTarget} {fields : Message} (h : addTarget target = some fields) :
    identifierMatches target.responseId = true ∧ 1 ≤ target.generation ∧ fields = [("target", targetJson target)] := by
  rw [addTarget] at h
  split at h
  · rename_i htarget
    rw [Bool.and_eq_true, bne_iff_ne] at htarget
    have hid := identifier_of_isIdentifier htarget.1
    obtain rfl := Option.some.inj h
    refine ⟨hid, Nat.one_le_iff_ne_zero.mpr htarget.2, ?_⟩
    rw [addString_nulFree (identifier_nulFree hid)]
    rfl
  · cases h

theorem isTarget_targetJson {target : ResponseTarget} (hid : identifierMatches target.responseId = true)
    (hmin : 1 ≤ target.generation) (hmax : target.generation ≤ uint32Max) :
    IsTarget (targetJson target) (target.responseId, target.generation) :=
  ⟨_, rfl, rfl, rfl, hid, rfl, hmin, hmax⟩

theorem plain_str {depth : Nat} {s : String} (h : NulFree s) : Plain Printed NulFree depth (.str s) := by
  cases depth <;> exact h

theorem plain_nat {d n : Nat} (h : n < 10 ^ 15) : Plain Printed NulFree d (nat n) := by
  have hprinted : Printed n := ⟨Int.natCast_nonneg n, by exact_mod_cast h⟩
  cases d <;> exact hprinted

theorem uint32_printed {n : Nat} (h : n ≤ uint32Max) : n < 10 ^ 15 := h.trans_lt (by decide)

theorem plain_targetJson {target : ResponseTarget} (hid : identifierMatches target.responseId = true)
    (hmax : target.generation ≤ uint32Max) : Plain Printed NulFree 1 (targetJson target) := by
  refine ⟨show ["response_id", "generation"].Nodup by decide, ?_⟩
  simp only [List.forall_mem_cons, List.not_mem_nil, false_implies, implies_true, and_true]
  exact ⟨⟨by decide, plain_str (identifier_nulFree hid)⟩, by decide, plain_nat (uint32_printed hmax)⟩

theorem cancel_root {m : Control.ResponseCancelRequest} {fields : Message} (h : m.root = some fields) :
    identifierMatches m.session.sessionId = true ∧ identifierMatches m.session.sessionEpoch = true ∧
      identifierMatches m.requestId = true ∧ identifierMatches m.target.responseId = true ∧ 1 ≤ m.target.generation ∧
      fields =
        [("type", .str "response.cancel.request"), ("session_id", .str m.session.sessionId),
          ("session_epoch", .str m.session.sessionEpoch), ("request_id", .str m.requestId),
          ("target", targetJson m.target), ("cause", .str "user_request")] := by
  rw [Control.ResponseCancelRequest.root] at h
  simp only [Option.bind_eq_bind, Option.bind_eq_some_iff, Option.pure_def, Option.some.injEq,
    guard_some, exists_const] at h
  obtain ⟨hrequest, session, hsession, target, htarget, rfl⟩ := h
  have hrequest := identifier_of_isIdentifier hrequest
  obtain ⟨hid, hepoch, rfl⟩ := addSession_some hsession
  obtain ⟨hresponse, hgeneration, rfl⟩ := addTarget_some htarget
  refine ⟨hid, hepoch, hrequest, hresponse, hgeneration, ?_⟩
  rw [addString_nulFree (identifier_nulFree hrequest)]
  rfl

theorem started_root {m : Control.PlaybackStarted} {fields : Message} (h : m.root = some fields) :
    identifierMatches m.session.sessionId = true ∧ identifierMatches m.session.sessionEpoch = true ∧
      identifierMatches m.target.responseId = true ∧ 1 ≤ m.target.generation ∧
      fields =
        [("type", .str "playback.started"), ("session_id", .str m.session.sessionId),
          ("session_epoch", .str m.session.sessionEpoch), ("target", targetJson m.target),
          ("first_media_sequence", nat m.firstMediaSequence)] := by
  rw [Control.PlaybackStarted.root] at h
  simp only [Option.bind_eq_bind, Option.bind_eq_some_iff, Option.pure_def, Option.some.injEq] at h
  obtain ⟨session, hsession, target, htarget, rfl⟩ := h
  obtain ⟨hid, hepoch, rfl⟩ := addSession_some hsession
  obtain ⟨hresponse, hgeneration, rfl⟩ := addTarget_some htarget
  exact ⟨hid, hepoch, hresponse, hgeneration, rfl⟩

theorem ended_root {m : Control.PlaybackEnded} {fields : Message} (h : m.root = some fields) :
    identifierMatches m.session.sessionId = true ∧ identifierMatches m.session.sessionEpoch = true ∧
      identifierMatches m.target.responseId = true ∧ 1 ≤ m.target.generation ∧
      (m.outcome = .completed → m.lastMediaSequence.isSome = true) ∧
      fields =
        [("type", .str "playback.ended"), ("session_id", .str m.session.sessionId),
          ("session_epoch", .str m.session.sessionEpoch), ("target", targetJson m.target),
          ("outcome", .str (Control.outcomeText m.outcome)), ("played_samples", nat m.playedSamples)] ++
          (m.lastMediaSequence.map fun last => ("last_media_sequence", nat last)).toList := by
  rw [Control.PlaybackEnded.root] at h
  simp only [Option.bind_eq_bind, Option.bind_eq_some_iff, Option.pure_def, Option.some.injEq,
    guard_some, exists_const] at h
  obtain ⟨-, hcompleted, -, session, hsession, target, htarget, rfl⟩ := h
  obtain ⟨hid, hepoch, rfl⟩ := addSession_some hsession
  obtain ⟨hresponse, hgeneration, rfl⟩ := addTarget_some htarget
  refine ⟨hid, hepoch, hresponse, hgeneration, fun houtcome => ?_, ?_⟩
  · simpa [houtcome] using hcompleted
  · cases m.outcome <;> rfl

theorem closeReason_nulFree {reason : String} (h : reason ∈ Control.closeReasons) : NulFree reason := by
  have hall : ∀ s ∈ Control.closeReasons, NulFree s := by decide
  exact hall reason h

theorem initiator_nulFree {initiator : String} (h : initiator ∈ ["device", "server"]) : NulFree initiator := by
  have hall : ∀ s ∈ ["device", "server"], NulFree s := by decide
  exact hall initiator h

theorem close_root {m : Control.SessionClose} {fields : Message} (h : m.root = some fields) :
    identifierMatches m.session.sessionId = true ∧ identifierMatches m.session.sessionEpoch = true ∧
      m.reason ∈ Control.closeReasons ∧ m.initiatedBy ∈ ["device", "server"] ∧ Control.size m.detail ≤ 256 ∧
      fields =
        [("type", .str "session.close"), ("session_id", .str m.session.sessionId),
          ("session_epoch", .str m.session.sessionEpoch), ("reason", .str m.reason),
          ("initiated_by", .str m.initiatedBy)] ++ if m.detail = "" then [] else [addString "detail" m.detail] := by
  rw [Control.SessionClose.root] at h
  simp only [Option.bind_eq_bind, Option.bind_eq_some_iff, Option.pure_def, Option.some.injEq,
    guard_some, exists_const] at h
  obtain ⟨hreason, hinitiator, hsize, session, hsession, rfl⟩ := h
  obtain ⟨hid, hepoch, rfl⟩ := addSession_some hsession
  refine ⟨hid, hepoch, hreason, hinitiator, hsize, ?_⟩
  rw [addString_nulFree (closeReason_nulFree hreason), addString_nulFree (initiator_nulFree hinitiator)]
  rfl

/-- The profiles of the texts that the firmware may name. -/
theorem profiles_of_texts {texts : List String}
    (h : texts.all ([Control.wssProfile, Control.udpProfile].contains ·) = true) :
    ∃ profiles : List TransportProfile, profiles.map profileText = texts := by
  have hrange : texts ∈ Set.range (List.map profileText) := by
    rw [Set.range_list_map]
    intro s hs
    have hmem := List.all_eq_true.mp h s hs
    rw [List.contains_iff_mem, List.mem_pair] at hmem
    obtain rfl | rfl := hmem
    · exact ⟨.wssOpus, rfl⟩
    · exact ⟨.udpOpusGcm, rfl⟩
  exact hrange

theorem open_root {m : Control.SessionOpen} {fields : Message} (h : m.root = some fields) :
    identifierMatches m.requestId = true ∧ identifierMatches m.deviceId = true ∧
      ∃ (profiles : List TransportProfile) (preferred : TransportProfile), profiles.map profileText = m.supportedMediaProfiles ∧
        profileText preferred = m.preferredMediaProfile ∧ preferred ∈ profiles ∧ profiles.Nodup ∧
        1 ≤ profiles.length ∧ profiles.length ≤ 2 ∧
        fields =
          [("type", .str "session.open"), ("protocol_version", nat 1), ("request_id", .str m.requestId),
            ("device_id", .str m.deviceId),
            ("supported_media_profiles", .arr (profiles.map fun profile => .str (profileText profile))),
            ("preferred_media_profile", .str (profileText preferred)), Control.audio,
            ("capabilities", m.capabilities.json)] := by
  rw [Control.SessionOpen.root] at h
  split at h
  · rename_i hchecks
    simp only [Bool.and_eq_true, decide_eq_true_iff] at hchecks
    obtain ⟨⟨⟨⟨hrequest, hdevice⟩, hlength⟩, hpreferred⟩, htexts, hnodup⟩ := hchecks
    have hrequest := identifier_of_isIdentifier hrequest
    have hdevice := identifier_of_isIdentifier hdevice
    obtain ⟨profiles, hprofiles⟩ := profiles_of_texts htexts
    rw [List.contains_iff_mem, ← hprofiles] at hpreferred
    obtain ⟨preferred, hmem, hpreferred⟩ := List.mem_map.mp hpreferred
    rw [← hprofiles] at hnodup hlength
    rw [List.length_map] at hlength
    obtain rfl := Option.some.inj h
    refine ⟨hrequest, hdevice, profiles, preferred, hprofiles, hpreferred, hmem, hnodup.of_map, hlength.1, hlength.2, ?_⟩
    have hprofileFree : ∀ profile, NulFree (profileText profile) := by
      intro profile
      cases profile <;> decide
    rw [addString_nulFree (identifier_nulFree hrequest), addString_nulFree (identifier_nulFree hdevice), ← hpreferred,
      addString_nulFree (hprofileFree preferred), ← hprofiles, List.map_map]
    have htext : (fun profile => Json.str (Control.cString profile)) ∘ profileText =
        fun profile => Json.str (profileText profile) := by
      funext profile
      exact congrArg Json.str (cString_of_nulFree (hprofileFree profile))
    rw [htext]
    rfl
  · cases h

end Roots

end RealtimeVoice.Rva

namespace RealtimeVoice.Firmware.Control.ClientMessage

open RealtimeVoice.Base RealtimeVoice.Base.Json RealtimeVoice.Rva

/-- What the types of the fields can hold, no NUL in a detail and no more samples than have fifteen digits. -/
def InRange : ClientMessage → Prop
  | .sessionOpen _ => True
  | .responseCancelRequest m => m.target.generation ≤ Rva.uint32Max
  | .playbackStarted m => m.target.generation ≤ Rva.uint32Max ∧ m.firstMediaSequence ≤ Rva.uint32Max
  | .playbackEnded m =>
    m.target.generation ≤ Rva.uint32Max ∧ m.playedSamples < 10 ^ 15 ∧
      ∀ last, m.lastMediaSequence = some last → last ≤ Rva.uint32Max
  | .sessionClose m => NulFree m.detail

end RealtimeVoice.Firmware.Control.ClientMessage

namespace RealtimeVoice.Rva

open RealtimeVoice.Base RealtimeVoice.Base.Json RealtimeVoice.Base.Loads RealtimeVoice.Contracts RealtimeVoice.Firmware
open RealtimeVoice.Firmware.Control (SessionIdentity ResponseTarget ClientMessage)

theorem plain_root {m : ClientMessage} {fields : Message} (hrange : m.InRange) (h : m.root = some fields) :
    Plain Printed NulFree 2 (.obj fields) := by
  cases m with
  | sessionOpen m =>
    obtain ⟨hrequest, hdevice, profiles, preferred, -, -, -, -, -, -, rfl⟩ := open_root h
    have hprofile : ∀ profile, NulFree (profileText profile) := by
      intro profile
      cases profile <;> decide
    have haudio : Plain Printed NulFree 1 Control.audio.2 := by
      simp +decide [Control.audio, Plain, Control.addString, Control.addNumber, Control.cString, Printed]
    have hcapabilities : Plain Printed NulFree 1 m.capabilities.json := by
      simp +decide [Control.DeviceCapabilities.json, Plain]
    have hprofiles : Plain Printed NulFree 1 (.arr (profiles.map fun profile => .str (profileText profile))) := by
      intro v hv
      obtain ⟨profile, -, rfl⟩ := List.mem_map.mp hv
      exact hprofile profile
    have hversion := plain_nat (d := 1) (show 1 < 10 ^ 15 by decide)
    refine ⟨by simp +decide [Control.audio], ?_⟩
    simp only [List.forall_mem_cons, List.not_mem_nil, false_implies, implies_true, and_true]
    simp +decide [plain_str, hprofiles, haudio, hcapabilities, hversion, identifier_nulFree hrequest,
      identifier_nulFree hdevice, hprofile preferred]
  | responseCancelRequest m =>
    obtain ⟨hid, hepoch, hrequest, hresponse, -, rfl⟩ := cancel_root h
    have htarget := plain_targetJson hresponse hrange
    simp +decide [Plain, htarget, identifier_nulFree hid, identifier_nulFree hepoch, identifier_nulFree hrequest]
  | playbackStarted m =>
    obtain ⟨hid, hepoch, hresponse, -, rfl⟩ := started_root h
    have htarget := plain_targetJson hresponse hrange.1
    have hfirst := plain_nat (d := 1) (uint32_printed hrange.2)
    simp +decide [Plain, htarget, hfirst, identifier_nulFree hid, identifier_nulFree hepoch]
  | playbackEnded m =>
    obtain ⟨hid, hepoch, hresponse, -, -, rfl⟩ := ended_root h
    obtain ⟨hgeneration, hplayed, hlast⟩ := hrange
    have htarget := plain_targetJson hresponse hgeneration
    have hsamples := plain_nat (d := 1) hplayed
    have houtcome : NulFree (Control.outcomeText m.outcome) := by cases m.outcome <;> decide
    cases hsome : m.lastMediaSequence with
    | none =>
      simp +decide [Plain, htarget, hsamples, houtcome, identifier_nulFree hid, identifier_nulFree hepoch]
    | some last =>
      have hlast := plain_nat (d := 1) (uint32_printed (hlast last hsome))
      simp +decide [Plain, htarget, hsamples, houtcome, hlast, identifier_nulFree hid, identifier_nulFree hepoch]
  | sessionClose m =>
    obtain ⟨hid, hepoch, hreason, hinitiator, hsize, rfl⟩ := close_root h
    have hreasonFree := closeReason_nulFree hreason
    have hinitiatorFree := initiator_nulFree hinitiator
    split
    · simp +decide [Plain, identifier_nulFree hid, identifier_nulFree hepoch, hreasonFree, hinitiatorFree]
    · rw [addString_nulFree hrange]
      simp +decide [Plain, identifier_nulFree hid, identifier_nulFree hepoch, hreasonFree, hinitiatorFree]
      exact hrange

/-- The binding is open, for the session that a message names. -/
def Binding.Hears (b : Binding) (session : SessionIdentity) : Prop :=
  b.Live ∧ b.config.sessionId = session.sessionId ∧ b.config.sessionEpoch = session.sessionEpoch

theorem Binding.Hears.context {b : Binding} {session : SessionIdentity} (h : b.Hears session) {fields : Message}
    (hid : field fields "session_id" = .str session.sessionId)
    (hepoch : field fields "session_epoch" = .str session.sessionEpoch) : b.requireContext fields = .ok () := by
  apply requireContext_of_fields
  · rw [hid, h.2.1]
  · rw [hepoch, h.2.2]

/-- The capabilities under their names in the message. -/
def named (c : Control.DeviceCapabilities) : List (String × Bool) :=
  [("aec", c.aec), ("vad", c.vad), ("wake_word", c.wakeWord), ("display", c.display), ("touch", c.touch)]

/-- The server finds in the object what the firmware put into the message. -/
def ReadAs : ClientMessage → Message → Prop
  | .sessionOpen m, message =>
    ∃ profiles preferred, profiles.map profileText = m.supportedMediaProfiles ∧
      profileText preferred = m.preferredMediaProfile ∧
      parseSessionOpenObject message =
        .ok { requestId := m.requestId, deviceId := m.deviceId, supportedMediaProfiles := profiles
              preferredMediaProfile := preferred, capabilities := named m.capabilities }
  | .responseCancelRequest m, message =>
    ∀ b : Binding, b.Hears m.session → b.receiveControl message = b.cancel message ∧
      ((∀ previous, b.cancelRequests.get? m.requestId = some previous →
          previous = (m.target.responseId, m.target.generation)) →
        b.CancelRequest message m.requestId (m.target.responseId, m.target.generation))
  | .playbackStarted m, message =>
    ∀ b : Binding, b.Hears m.session → b.receiveControl message = b.commit do
      let (responses, r) ← b.responses.playbackStarted m.target.responseId m.target.generation m.firstMediaSequence
      return ({ b with responses := responses }, .control { playbackStarted := some r })
  | .playbackEnded m, message =>
    ∀ b : Binding, b.Hears m.session → b.receiveControl message =
      let (responses, result) := b.responses.playbackEnded m.target.responseId m.target.generation
        (Binding.outcomeWord m.outcome) m.playedSamples m.lastMediaSequence
      ({ b with responses := responses }, result.map fun fact => .control { playbackEnded := some fact })
  | .sessionClose m, message =>
    ∀ b : Binding, b.Hears m.session → b.receiveControl message = b.receiveClose message ∧
      b.parseClose message =
        if m.initiatedBy ≠ "device" then .error (.binding "invalid_close_initiator")
        else if m.reason = "server_shutdown" then .error (.binding "invalid_close_reason")
        else .ok m.reason

section Read

variable {fields : Message}

theorem readAs_open {m : Control.SessionOpen} (h : m.root = some fields) : ReadAs (.sessionOpen m) fields := by
  obtain ⟨hrequest, hdevice, profiles, preferred, hprofiles, hpreferred, hmem, hnodup, hmin, hmax, hroot⟩ := open_root h
  refine ⟨profiles, preferred, hprofiles, hpreferred, ?_⟩
  have hprofile : ∀ profile, profile? (.str (profileText profile)) = some profile := by
    intro profile
    cases profile <;> rfl
  have hfilter : (profiles.map fun profile => Json.str (profileText profile)).filterMap profile? = profiles := by
    rw [List.filterMap_map]
    have hsome : profile? ∘ (fun profile => Json.str (profileText profile)) = some := by
      funext profile
      exact hprofile profile
    rw [hsome, List.filterMap_some]
  have hparse : parseProfiles (field fields "supported_media_profiles") = .ok profiles := by
    rw [hroot]
    change parseProfiles (.arr (profiles.map fun profile => .str (profileText profile))) = _
    rw [parseProfiles, List.length_map, if_pos ⟨hmin, hmax⟩]
    dsimp only
    rw [hfilter, if_neg (by simp), if_pos hnodup]
  have hfields : requireExactFields fields
      ["type", "protocol_version", "request_id", "device_id", "supported_media_profiles", "preferred_media_profile",
        "audio", "capabilities"] = .ok () := by
    rw [hroot]
    exact requireExactFields_ok.mpr rfl
  have htype : field fields "type" = .str "session.open" := by rw [hroot]; rfl
  have hversion : field fields "protocol_version" = .int 1 := by rw [hroot]; rfl
  have hrequestId : field fields "request_id" = .str m.requestId := by rw [hroot]; rfl
  have hdeviceId : field fields "device_id" = .str m.deviceId := by rw [hroot]; rfl
  have hpreference : profile? (field fields "preferred_media_profile") = some preferred := by
    rw [hroot]
    exact hprofile preferred
  have haudio : validateAudio (field fields "audio") = .ok () := by rw [hroot]; rfl
  have hcapabilities : validateCapabilities (field fields "capabilities") = .ok (named m.capabilities) := by
    rw [hroot]
    rfl
  rw [parseSessionOpenObject, hfields, htype, Binding.eqStr_self, hversion, hrequestId, hdeviceId, hparse, hpreference,
    haudio, hcapabilities, Binding.requireIdentifier_str hrequest, Binding.requireIdentifier_str hdevice]
  simp only [ok_bind]
  rw [Binding.reject_of_not (by simp), Binding.reject_of_not (by decide), Binding.reject_of_not (not_not.mpr hmem)]
  rfl

theorem readAs_cancel {m : Control.ResponseCancelRequest} (hmax : m.target.generation ≤ uint32Max)
    (h : m.root = some fields) : ReadAs (.responseCancelRequest m) fields := by
  obtain ⟨hid, hepoch, hrequest, hresponse, hmin, rfl⟩ := cancel_root h
  rintro b ⟨hlive, hidentity, hidentity'⟩
  refine ⟨?_, fun hsingle => ?_⟩
  · rw [Binding.receiveControl_type hlive rfl (by decide), if_pos rfl]
  · exact
      { fields := rfl
        type := rfl
        sessionId := congrArg Json.str hidentity.symm
        sessionEpoch := congrArg Json.str hidentity'.symm
        requestId := ⟨rfl, hrequest⟩
        cause := rfl
        target := ⟨_, rfl, rfl, rfl, hresponse, rfl, hmin, hmax⟩
        single := hsingle }

theorem readAs_started {m : Control.PlaybackStarted} (hgeneration : m.target.generation ≤ uint32Max)
    (hfirst : m.firstMediaSequence ≤ uint32Max) (h : m.root = some fields) : ReadAs (.playbackStarted m) fields := by
  obtain ⟨hid, hepoch, hresponse, hmin, hroot⟩ := started_root h
  intro b hb
  have htype : field fields "type" = .str "playback.started" := by rw [hroot]; rfl
  have hfields : requireExactFields fields ["type", "session_id", "session_epoch", "target", "first_media_sequence"] =
      .ok () := by
    rw [hroot]
    exact requireExactFields_ok.mpr rfl
  have hcontext : b.requireContext fields = .ok () := hb.context (by rw [hroot]; rfl) (by rw [hroot]; rfl)
  have htarget : Binding.parseTarget (field fields "target") = .ok (m.target.responseId, m.target.generation) := by
    rw [hroot]
    exact parseTarget_iff.mpr (isTarget_targetJson hresponse hmin hgeneration)
  have hsequence : requireUint32 (field fields "first_media_sequence") "first_media_sequence" =
      .ok m.firstMediaSequence := by
    rw [hroot]
    exact (@requireUint32_iff _ _ 0 _).mpr ⟨rfl, Nat.zero_le _, hfirst⟩
  rw [Binding.receiveControl_type hb.1 htype (by decide), if_neg (by decide), if_pos rfl, Binding.playbackStarted,
    hfields, hcontext, htarget, hsequence]
  rfl

theorem parsePlaybackEnded_root {m : Control.PlaybackEnded} {b : Binding} (hb : b.Hears m.session)
    (hrange : (ClientMessage.playbackEnded m).InRange) (h : m.root = some fields) :
    b.parsePlaybackEnded fields =
      .ok { target := (m.target.responseId, m.target.generation), outcome := Binding.outcomeWord m.outcome
            playedSamples := m.playedSamples, lastMediaSequence := m.lastMediaSequence } := by
  obtain ⟨hid, hepoch, hresponse, hmin, hcompleted, hroot⟩ := ended_root h
  obtain ⟨hgeneration, hplayed, hlast⟩ := hrange
  have hfields : requireFields fields ["type", "session_id", "session_epoch", "target", "outcome", "played_samples"]
      "last_media_sequence" = .ok () := by
    rw [hroot]
    cases m.lastMediaSequence with
    | none => exact requireFields_ok.mpr (.inl rfl)
    | some last => exact requireFields_ok.mpr (.inr rfl)
  have hcontext : b.requireContext fields = .ok () := hb.context (by rw [hroot]; rfl) (by rw [hroot]; rfl)
  have htarget : Binding.parseTarget (field fields "target") = .ok (m.target.responseId, m.target.generation) := by
    rw [hroot]
    exact parseTarget_iff.mpr (isTarget_targetJson hresponse hmin hgeneration)
  have houtcome : Binding.playbackOutcome? (field fields "outcome") = .ok (Binding.outcomeWord m.outcome) := by
    rw [hroot]
    cases m.outcome <;> rfl
  have hsamples : Binding.requireUint53 (field fields "played_samples") "played_samples" = .ok m.playedSamples := by
    rw [hroot]
    exact requireUint53_iff.mpr ⟨rfl, hplayed.le.trans (by decide)⟩
  rw [Binding.parsePlaybackEnded, hfields, hcontext, htarget, houtcome, hsamples]
  simp only [ok_bind]
  cases hsome : m.lastMediaSequence with
  | none =>
    have habsent : field fields "last_media_sequence" = .null := by
      rw [hroot, hsome]
      rfl
    have hnot : ¬(Binding.outcomeWord m.outcome = .completed ∧ (none : Option Nat).isNone = true) := by
      rintro ⟨hword, -⟩
      have hdone : m.outcome = .completed := by
        revert hword
        cases m.outcome <;> simp [Binding.outcomeWord]
      have hnone := hcompleted hdone
      rw [hsome] at hnone
      cases hnone
    rw [habsent]
    change (reject _ _ >>= _) = _
    rw [Binding.reject_of_not hnot]
    rfl
  | some last =>
    have hpresent : field fields "last_media_sequence" = nat last := by
      rw [hroot, hsome]
      rfl
    have hsequence : requireUint32 (nat last) "last_media_sequence" = .ok last :=
      (@requireUint32_iff _ _ 0 _).mpr ⟨rfl, Nat.zero_le _, hlast last hsome⟩
    rw [hpresent]
    change ((requireUint32 (nat last) "last_media_sequence").map some >>= _) = _
    rw [hsequence]
    change (reject _ _ >>= _) = _
    rw [Binding.reject_of_not (by simp)]
    rfl

theorem readAs_ended {m : Control.PlaybackEnded} (hrange : (ClientMessage.playbackEnded m).InRange)
    (h : m.root = some fields) : ReadAs (.playbackEnded m) fields := by
  intro b hb
  have hparse := parsePlaybackEnded_root hb hrange h
  obtain ⟨-, -, -, -, -, hroot⟩ := ended_root h
  have htype : field fields "type" = .str "playback.ended" := by rw [hroot]; rfl
  rw [Binding.receiveControl_type hb.1 htype (by decide), if_neg (by decide), if_neg (by decide), if_pos rfl,
    Binding.playbackEnded, hparse]

theorem closeReason?_root {reason : String} (h : reason ∈ Control.closeReasons) :
    Binding.closeReason? (.str reason) =
      if reason = "server_shutdown" then .error (.binding "invalid_close_reason") else .ok reason := by
  have hall : ∀ reason ∈ Control.closeReasons, Binding.closeReason? (.str reason) =
      if reason = "server_shutdown" then .error (.binding "invalid_close_reason") else .ok reason := by
    simp only [Control.closeReasons, List.forall_mem_cons, List.not_mem_nil, false_implies, implies_true, and_true]
    exact ⟨rfl, rfl, rfl, rfl, rfl⟩
  exact hall reason h

/-- The server takes a close from the device only, and not for its own reason. -/
theorem parseClose_root {m : Control.SessionClose} {b : Binding} (hb : b.Hears m.session)
    (hrange : (ClientMessage.sessionClose m).InRange) (h : m.root = some fields) :
    b.parseClose fields =
      if m.initiatedBy ≠ "device" then .error (.binding "invalid_close_initiator")
      else if m.reason = "server_shutdown" then .error (.binding "invalid_close_reason")
      else .ok m.reason := by
  obtain ⟨hid, hepoch, hreason, hinitiator, hsize, hroot⟩ := close_root h
  change utf8Length m.detail.toList ≤ 256 at hsize
  rw [addString_nulFree hrange] at hroot
  have hfields : requireFields fields ["type", "session_id", "session_epoch", "reason", "initiated_by"] "detail" =
      .ok () := by
    rw [hroot]
    split
    · exact requireFields_ok.mpr (.inl rfl)
    · exact requireFields_ok.mpr (.inr rfl)
  have hcontext : b.requireContext fields = .ok () := hb.context (by rw [hroot]; rfl) (by rw [hroot]; rfl)
  have hinitiatedBy : field fields "initiated_by" = .str m.initiatedBy := by rw [hroot]; rfl
  have hreasonField : field fields "reason" = .str m.reason := by rw [hroot]; rfl
  rw [Binding.parseClose, hfields, hcontext, hinitiatedBy, hreasonField, closeReason?_root hreason]
  simp only [ok_bind]
  by_cases hdevice : m.initiatedBy = "device"
  · rw [if_neg (not_not.mpr hdevice), hdevice, Binding.eqStr_self, Binding.reject_of_not (by simp)]
    by_cases hshutdown : m.reason = "server_shutdown"
    · rw [if_pos hshutdown]
      rfl
    rw [if_neg hshutdown]
    simp only [ok_bind]
    by_cases hempty : m.detail = ""
    · have hlookup : fields.lookup "detail" = none := by
        rw [hroot, if_pos hempty]
        rfl
      rw [hlookup]
      rfl
    · have hlookup : fields.lookup "detail" = some (.str m.detail) := by
        rw [hroot, if_neg hempty]
        rfl
      rw [hlookup]
      dsimp only
      rw [Binding.requireText, if_neg (by simp), if_neg (Nat.not_lt.mpr hsize)]
      rfl
  · obtain hfalse | hserver := List.mem_pair.mp hinitiator
    · exact absurd hfalse hdevice
    rw [if_pos hdevice, hserver]
    rfl

theorem readAs_close {m : Control.SessionClose} (hrange : (ClientMessage.sessionClose m).InRange)
    (h : m.root = some fields) : ReadAs (.sessionClose m) fields := by
  intro b hb
  refine ⟨?_, parseClose_root hb hrange h⟩
  obtain ⟨-, -, -, -, -, hroot⟩ := close_root h
  have htype : field fields "type" = .str "session.close" := by rw [hroot]; rfl
  rw [Binding.receiveControl_type hb.1 htype (by decide), if_neg (by decide), if_neg (by decide), if_neg (by decide),
    if_pos rfl]

end Read

/-- Every control message that the firmware encodes is a message that the server decodes, to what it says. -/
theorem client_channel {p : Interpreter} (hlimit : 2 ≤ p.cRecursionLimit)
    {printUnformatted : Json → Option (List Char)} (hprint : Prints Printed printUnformatted) {m : ClientMessage}
    (hrange : m.InRange) {data : List Char} (h : m.encode printUnformatted = .ok data) :
    ∃ message, decodeControl p (codes data) = .ok message ∧ ReadAs m message := by
  have hencode : Control.print printUnformatted m.root = .ok data := by
    cases m <;> exact h
  cases hroot : m.root with
  | none =>
    rw [hroot] at hencode
    cases hencode
  | some fields =>
    rw [hroot] at hencode
    refine ⟨fields, decodeControl_printed hprint hlimit (plain_root hrange hroot) hencode, ?_⟩
    cases m with
    | sessionOpen m => exact readAs_open hroot
    | responseCancelRequest m => exact readAs_cancel hrange hroot
    | playbackStarted m => exact readAs_started hrange.1 hrange.2 hroot
    | playbackEnded m => exact readAs_ended hrange hroot
    | sessionClose m => exact readAs_close hrange hroot

/-- The stop of a playback that had played one frame. -/
def demoReport : ClientMessage :=
  .playbackEnded
    { session := { sessionId := "s1", sessionEpoch := "e1" }, target := { responseId := "r1", generation := 1 }
      outcome := .stopped, playedSamples := 1440, lastMediaSequence := some 0 }

theorem demoReport_encode : ∃ data, demoReport.encode (some ∘ dumps) = .ok data := by
  have hok : (demoReport.encode (some ∘ dumps)).isOk = true := by decide +kernel
  cases hdata : demoReport.encode (some ∘ dumps) with
  | ok data => exact ⟨data, rfl⟩
  | error e =>
    rw [hdata] at hok
    cases hok

theorem client_channel_demo :
    ∃ data, demoReport.encode (some ∘ dumps) = .ok data ∧
      ∃ message, decodeControl { cRecursionLimit := 1000, floatRepr := PyStr.key, cRecursionLimit_pos := by decide }
          (codes data) = .ok message ∧ ReadAs demoReport message := by
  obtain ⟨data, hdata⟩ := demoReport_encode
  have hrange : demoReport.InRange := by
    refine ⟨by decide, by decide, ?_⟩
    intro last hlast
    obtain rfl := Option.some.inj hlast
    decide
  exact ⟨data, hdata, client_channel (by decide) (fun _ _ _ _ => rfl) hrange hdata⟩

end RealtimeVoice.Rva
