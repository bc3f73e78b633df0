import RealtimeVoice.Desktop.Opened
import RealtimeVoice.Rva.ClientChannel
import RealtimeVoice.Rva.ControlChannel

namespace RealtimeVoice.Desktop.Control

open RealtimeVoice.Base RealtimeVoice.Base.Json RealtimeVoice.Contracts
open RealtimeVoice.Rva (Binding base64Char b64encode mediaIdText nat uint32Max ofNat_toNat)

section Checks

variable {code field name : String} {s : String} {n : Nat} {minimum maximum : Int}

theorem raise_not {q : Prop} [Decidable q] (h : ¬q) : raise q code = .ok () := if_neg h

theorem raise_ok {q : Prop} [Decidable q] : raise q code = .ok () ↔ ¬q := by
  constructor
  · intro h hq
    rw [raise, if_pos hq] at h
    cases h
  · exact raise_not

theorem bind_ok {α β : Type} {x : Except Failure α} {f : α → Except Failure β} {b : β} :
    x >>= f = .ok b ↔ ∃ a, x = .ok a ∧ f a = .ok b := by
  cases x with
  | error e =>
    refine iff_of_false (fun h => by cases h) ?_
    rintro ⟨a, h, -⟩
    cases h
  | ok a =>
    constructor
    · intro h
      exact ⟨a, rfl, h⟩
    · rintro ⟨a', h, hf⟩
      obtain rfl := Except.ok.inj h
      exact hf

theorem identifier_str (h : Rva.identifierMatches s = true) : identifier (.str s) name = .ok () := by
  apply raise_not
  intro hfalse
  cases h.symm.trans hfalse

theorem identifierOf_str (h : Rva.identifierMatches s = true) : identifierOf (.str s) name = .ok s := by
  rw [identifierOf, identifier_str h]
  rfl

theorem boundedInt_nat (h : minimum ≤ n ∧ n ≤ maximum) : boundedInt (nat n) minimum maximum name = .ok () :=
  raise_not (not_not_intro h)

theorem intOf_nat_iff {k : Int} :
    intOf (nat n) minimum maximum name = .ok k ↔ (minimum ≤ n ∧ n ≤ maximum) ∧ k = n := by
  change (boundedInt (nat n) minimum maximum name >>= fun _ => .ok (n : Int)) = _ ↔ _
  rw [bind_ok]
  constructor
  · rintro ⟨_, hcheck, h⟩
    exact ⟨not_not.mp (raise_ok.mp hcheck), (Except.ok.inj h).symm⟩
  · rintro ⟨h, rfl⟩
    exact ⟨(), boundedInt_nat h, rfl⟩

theorem intOf_nat (h : minimum ≤ n ∧ n ≤ maximum) : intOf (nat n) minimum maximum name = .ok (n : Int) :=
  intOf_nat_iff.mpr ⟨h, rfl⟩

theorem grantHost_iff {host : String} (hne : s ≠ "") :
    grantHost (.str s) = .ok host ↔ s.toList.length ≤ 253 ∧ host = s := by
  change (raise (s = "" ∨ s.toList.length > 253) _ >>= fun _ => .ok s) = _ ↔ _
  rw [bind_ok]
  constructor
  · rintro ⟨_, hcheck, h⟩
    have hvalid := not_or.mp (raise_ok.mp hcheck)
    exact ⟨Nat.not_lt.mp hvalid.2, (Except.ok.inj h).symm⟩
  · rintro ⟨hlong, rfl⟩
    refine ⟨(), raise_ok.mpr ?_, rfl⟩
    rintro (hempty | hover)
    · exact hne hempty
    · omega

theorem uint32_nat (hmin : minimum ≤ n) (hmax : n ≤ uint32Max) : uint32 (nat n) name minimum = .ok () := by
  apply boundedInt_nat
  exact ⟨hmin, by exact_mod_cast hmax⟩

theorem errorCode_str (h : Binding.isValidErrorCode s = true) : errorCode (.str s) = .ok () := by
  apply raise_not
  intro hfalse
  cases h.symm.trans hfalse

/-- A text of the right size is refused for a NUL only. -/
theorem text_str {maximumBytes : Nat} {allowEmpty : Bool} (hempty : allowEmpty = false → s ≠ "")
    (hsize : utf8Length s.toList ≤ maximumBytes) : text (.str s) maximumBytes allowEmpty = .ok () ↔ NulFree s := by
  rw [text]
  by_cases hnul : NulFree s
  · have hvalid : ¬((allowEmpty = false ∧ s = "") ∨ Char.ofNat 0 ∈ s.toList) := by
      rintro (⟨hnone, hs⟩ | hmem)
      · exact hempty hnone hs
      · exact hnul hmem
    rw [raise_not hvalid]
    exact iff_of_true (raise_not (Nat.not_lt.mpr hsize)) hnul
  · have hinvalid : (allowEmpty = false ∧ s = "") ∨ Char.ofNat 0 ∈ s.toList := .inr (not_not.mp hnul)
    rw [raise, if_pos hinvalid]
    exact iff_of_false (fun h => by cases h) hnul

theorem exactFields_ok {message : Message} {expected optional : List String}
    (hall : ∀ field ∈ expected, has message field = true) (hknown : ∀ f ∈ message, f.1 ∈ expected ++ optional) :
    exactFields message expected optional = .ok () := by
  rw [exactFields, raise_not]
  · apply raise_not
    rintro ⟨f, hf, hnot⟩
    exact hnot (hknown f hf)
  · rintro ⟨field, hfield, hnone⟩
    cases (hall field hfield).symm.trans hnone

theorem target_message {responseId : String} {generation : Nat} (hid : Rva.identifierMatches responseId = true)
    (hmin : 1 ≤ generation) (hmax : generation ≤ uint32Max) :
    target (.obj [("response_id", .str responseId), ("generation", nat generation)]) = .ok () := by
  rw [target, exactFields_ok (by simp [has, List.lookup]) (by simp)]
  change (identifier (.str responseId) _ >>= fun _ => uint32 (nat generation) _ 1) = _
  rw [identifier_str hid]
  exact uint32_nat (by exact_mod_cast hmin) hmax

end Checks

section Bytes

theorem value_base64Char {n : Nat} (h : n < 64) : base64Value (base64Char n) = some n := by
  revert n
  decide

theorem base64Char_ne {n : Nat} (h : n < 64) : base64Char n ≠ '=' := by
  revert n
  decide

theorem lowerHex_digit {n : Nat} (h : n < 16) :
    isHexSpace (lowerHex n) = false ∧ Loads.hexValue? (lowerHex n).toNat = some n ∧ (lowerHex n).isUpper = false := by
  revert n
  decide

theorem fromhex_hexByte (bytes : List UInt8) : fromhex (bytes.flatMap Binding.hexByte) = some bytes := by
  induction bytes with
  | nil => rfl
  | cons byte bytes ih =>
    have hlt := byte.toNat_lt
    obtain ⟨hspace, hhigh, -⟩ := lowerHex_digit (show byte.toNat / 16 < 16 by omega)
    obtain ⟨-, hlow, -⟩ := lowerHex_digit (show byte.toNat % 16 < 16 by omega)
    rw [List.flatMap_cons, Binding.hexByte, List.cons_append, List.cons_append, List.nil_append, fromhex, hspace, hhigh,
      hlow, ih, if_neg Bool.false_ne_true]
    change some (UInt8.ofNat (16 * (byte.toNat / 16) + byte.toNat % 16) :: bytes) = _
    rw [Nat.div_add_mod, UInt8.ofNat_toNat]

theorem not_isUpper_hexByte (bytes : List UInt8) : (bytes.flatMap Binding.hexByte).any Char.isUpper = false := by
  induction bytes with
  | nil => rfl
  | cons byte bytes ih =>
    have hlt := byte.toNat_lt
    obtain ⟨-, -, hhigh⟩ := lowerHex_digit (show byte.toNat / 16 < 16 by omega)
    obtain ⟨-, -, hlow⟩ := lowerHex_digit (show byte.toNat % 16 < 16 by omega)
    rw [List.flatMap_cons, List.any_append, ih, Binding.hexByte, List.any_cons, List.any_cons, hhigh, hlow]
    rfl

theorem mediaId_mediaIdText {bytes : List UInt8} (h : bytes.length = 8) :
    mediaId (.str (mediaIdText bytes)) = .ok bytes := by
  rw [mediaId, mediaIdText, String.toList_ofList, fromhex_hexByte]
  dsimp only
  rw [not_isUpper_hexByte, raise_not]
  · rfl
  · rintro (hne | hupper)
    · exact hne h
    · cases hupper

end Bytes

theorem bind_of_ok {ε α β : Type} {x : Except ε α} {a : α} {f : α → Except ε β} (h : x = .ok a) : (x >>= f) = f a := by
  rw [h]
  rfl

theorem seq_ok {x y : Except Failure Unit} (h : x = .ok ()) : (x >>= fun _ => y) = y := by
  rw [bind_of_ok h]

/-- What a message of the session is left to pass. -/
theorem validate_context {message : Message} {type sessionId sessionEpoch : String}
    (htype : get message "type" = .str type) (hknown : type ∈ serverTypes) (hopened : type ≠ "session.opened")
    (hid : Rva.identifierMatches sessionId = true) (hepoch : Rva.identifierMatches sessionEpoch = true)
    (hsession : get message "session_id" = .str sessionId)
    (hsessionEpoch : get message "session_epoch" = .str sessionEpoch)
    (hfields : exactFields message (["type", "session_id", "session_epoch"] ++ requiredFields message type)
      (if type = "session.close" then ["detail"] else []) = .ok ()) :
    validateServerMessage message = validateFields message type := by
  rw [validateServerMessage, htype]
  dsimp only
  rw [if_neg (not_not_intro hknown), if_neg hopened, hsession, hsessionEpoch, seq_ok (identifier_str hid),
    seq_ok (identifier_str hepoch), seq_ok hfields]

end RealtimeVoice.Desktop.Control

namespace RealtimeVoice.Rva

open RealtimeVoice.Base RealtimeVoice.Base.Json RealtimeVoice.Base.Loads RealtimeVoice.Base.Runs RealtimeVoice.Contracts
open RealtimeVoice.Desktop.Control (validateServerMessage parseSessionOpened loadPairs keepPairs exactFields_ok seq_ok
  raise_not bind_of_ok identifier_str identifierOf_str intOf_nat_iff grantHost_iff uint32_nat intOf_nat errorCode_str
  text_str target_message validate_context mediaId_mediaIdText value_base64Char base64Char_ne)

/-- The texts of an event that stand in a text field of its message. -/
def ServerEvent.spoken : ServerEvent → List String
  | .transcriptDelta _ _ text => [text]
  | .transcriptFinal _ _ text => [text]
  | .responseText _ _ _ text => [text]
  | .sessionError _ _ message => [message]
  | _ => []

section Message

open RealtimeVoice.Desktop.Control (has requiredFields exactFields raise identifier uint32 text target errorCode
  isAudioProfile boundedInt isOneOf)

variable {e : ServerEvent} {sessionId sessionEpoch : String} (hid : identifierMatches sessionId = true)
  (hepoch : identifierMatches sessionEpoch = true) (h : e.Admitted) (hrange : e.InRange)

include hid hepoch h hrange

omit hrange in
/-- Beyond the fields of the session an event is left to the checks of its type. -/
theorem validate_event (hne : e.typeText ≠ "session.opened") :
    validateServerMessage (e.message sessionId sessionEpoch) =
      Desktop.Control.validateFields (e.message sessionId sessionEpoch) e.typeText := by
  have htype : Desktop.Control.get (e.message sessionId sessionEpoch) "type" = .str e.typeText := by
    cases e <;> rfl
  have hknown : e.typeText ∈ Desktop.Control.serverTypes := by
    cases e <;> simp +decide [ServerEvent.typeText]
  refine validate_context htype hknown hne hid hepoch (by cases e <;> rfl) (by cases e <;> rfl) ?_
  cases e with
  | sessionOpened requestId mediaId mediaEpoch profile grant => exact absurd rfl hne
  | responseEnd responseId generation outcome code final =>
    obtain ⟨-, -, hvalues⟩ := h
    cases outcome with
    | completed =>
      obtain ⟨rfl, n, rfl, -⟩ := hvalues
      apply exactFields_ok <;> simp [ServerEvent.message, Desktop.Control.get, has, List.lookup, requiredFields,
        ServerEvent.typeText, ResponseOutcome.text, eqStr]
    | cancelled =>
      obtain ⟨rfl, rfl⟩ := hvalues
      apply exactFields_ok <;> simp [ServerEvent.message, Desktop.Control.get, has, List.lookup, requiredFields,
        ServerEvent.typeText, ResponseOutcome.text, eqStr]
    | failed =>
      obtain ⟨rfl, rfl⟩ := hvalues
      apply exactFields_ok <;> simp [ServerEvent.message, Desktop.Control.get, has, List.lookup, requiredFields,
        ServerEvent.typeText, ResponseOutcome.text, eqStr]
  | _ => apply exactFields_ok <;> simp [ServerEvent.message, has, List.lookup, requiredFields, ServerEvent.typeText]

/-- The desktop client takes every event whose texts have no NUL. -/
theorem validateServerMessage_iff :
    validateServerMessage (e.message sessionId sessionEpoch) = .ok () ↔ ∀ s ∈ e.spoken, NulFree s := by
  have hevent := validate_event hid hepoch h
  cases e with
  | sessionOpened requestId mediaId mediaEpoch profile grant =>
    obtain ⟨hrequest, -, -, hgrant⟩ := h
    refine iff_of_true ?_ (by simp [ServerEvent.spoken])
    generalize hmessage : (ServerEvent.sessionOpened requestId mediaId mediaEpoch profile grant).message sessionId
      sessionEpoch = message
    have hfields : exactFields message
        (["type", "request_id", "session_id", "session_epoch", "media_id", "media_epoch", "selected_media_profile",
          "audio", "heartbeat_interval_ms", "idle_timeout_ms", "max_control_message_bytes"] ++
          (if (Desktop.Control.get message "selected_media_profile").eqStr "udp-opus-gcm/1" then ["udp_grant"]
          else [])) = .ok () := by
      subst hmessage
      cases profile with
      | wssOpus =>
        obtain rfl : grant = none := hgrant
        apply exactFields_ok <;> simp [ServerEvent.message, Desktop.Control.get, has, List.lookup, profileText, eqStr]
      | udpOpusGcm =>
        obtain ⟨g, nowMs, rfl⟩ := hgrant
        apply exactFields_ok <;> simp [ServerEvent.message, Desktop.Control.get, has, List.lookup, profileText, eqStr]
    have hopened : validateServerMessage message = Desktop.Control.validateOpened message := by
      subst hmessage
      rfl
    have hparameters : ¬(isAudioProfile (Desktop.Control.get message "audio") = false ∨
        (Desktop.Control.get message "max_control_message_bytes").eqInt Desktop.Control.controlMaxBytes = false) := by
      subst hmessage
      rintro (haudio | hmax)
      · cases haudio
      · cases hmax
    rw [hopened, Desktop.Control.validateOpened, seq_ok hfields, seq_ok (raise_not hparameters)]
    subst hmessage
    exact identifier_str hrequest
  | transcriptDelta utteranceId sequence t =>
    obtain ⟨hutterance, hsequence, hsize, hne⟩ := h
    rw [hevent (by simp [ServerEvent.typeText])]
    change (identifier (.str utteranceId) _ >>= fun _ => uint32 (nat sequence) _ >>= fun _ =>
      text (.str t) 4096 false) = _ ↔ _
    rw [seq_ok (identifier_str hutterance), seq_ok (uint32_nat (Int.natCast_nonneg _) hsequence),
      text_str (fun _ => hne) hsize]
    simp [ServerEvent.spoken]
  | transcriptFinal utteranceId sequence t =>
    obtain ⟨hutterance, hsequence, hsize⟩ := h
    rw [hevent (by simp [ServerEvent.typeText])]
    change (identifier (.str utteranceId) _ >>= fun _ => uint32 (nat sequence) _ >>= fun _ =>
      text (.str t) 16384 true) = _ ↔ _
    rw [seq_ok (identifier_str hutterance), seq_ok (uint32_nat (Int.natCast_nonneg _) hsequence),
      text_str (fun hfinal => by cases hfinal) hsize]
    simp [ServerEvent.spoken]
  | responseBegin responseId generation =>
    obtain ⟨hresponse, hmin⟩ := h
    refine iff_of_true ?_ (by simp [ServerEvent.spoken])
    rw [hevent (by simp [ServerEvent.typeText])]
    change (identifier (.str responseId) _ >>= fun _ => uint32 (nat generation) _ 1) = _
    rw [seq_ok (identifier_str hresponse)]
    exact uint32_nat (by exact_mod_cast hmin) hrange
  | responseText responseId generation sequence t =>
    obtain ⟨hresponse, hmin, hsequence, hsize, hne⟩ := h
    rw [hevent (by simp [ServerEvent.typeText])]
    change (identifier (.str responseId) _ >>= fun _ => uint32 (nat generation) _ 1 >>= fun _ =>
      uint32 (nat sequence) _ >>= fun _ => text (.str t) 4096 false) = _ ↔ _
    rw [seq_ok (identifier_str hresponse), seq_ok (uint32_nat (by exact_mod_cast hmin) hrange),
      seq_ok (uint32_nat (Int.natCast_nonneg _) hsequence), text_str (fun _ => hne) hsize]
    simp [ServerEvent.spoken]
  | responseEnd responseId generation outcome code final =>
    obtain ⟨hresponse, hmin, hvalues⟩ := h
    refine iff_of_true ?_ (by simp [ServerEvent.spoken])
    cases outcome with
    | completed =>
      obtain ⟨rfl, n, rfl, hn⟩ := hvalues
      rw [hevent (by simp [ServerEvent.typeText])]
      change (identifier (.str responseId) _ >>= fun _ => uint32 (nat generation) _ 1 >>= fun _ =>
        uint32 (nat n) _ >>= fun _ => .ok ()) = _
      rw [seq_ok (identifier_str hresponse), seq_ok (uint32_nat (by exact_mod_cast hmin) hrange),
        seq_ok (uint32_nat (Int.natCast_nonneg _) hn)]
    | cancelled =>
      obtain ⟨rfl, rfl⟩ := hvalues
      rw [hevent (by simp [ServerEvent.typeText])]
      change (identifier (.str responseId) _ >>= fun _ => uint32 (nat generation) _ 1 >>= fun _ => .ok ()) = _
      rw [seq_ok (identifier_str hresponse), seq_ok (uint32_nat (by exact_mod_cast hmin) hrange)]
    | failed =>
      obtain ⟨rfl, rfl⟩ := hvalues
      rw [hevent (by simp [ServerEvent.typeText])]
      change (identifier (.str responseId) _ >>= fun _ => uint32 (nat generation) _ 1 >>= fun _ =>
        errorCode (.str "response_failed")) = _
      rw [seq_ok (identifier_str hresponse), seq_ok (uint32_nat (by exact_mod_cast hmin) hrange)]
      exact errorCode_str (by decide)
  | playbackStop responseId generation fenceGeneration cause =>
    obtain ⟨hresponse, hmin, hlt⟩ := h
    refine iff_of_true ?_ (by simp [ServerEvent.spoken])
    rw [hevent (by simp [ServerEvent.typeText])]
    have htarget := target_message hresponse hmin (hlt.le.trans hrange)
    have hfence : uint32 (nat fenceGeneration) "fence_generation" 1 = .ok () :=
      uint32_nat (by exact_mod_cast hmin.trans hlt.le) hrange
    cases cause <;>
    · change (target (.obj [("response_id", .str responseId), ("generation", nat generation)]) >>= fun _ =>
        uint32 (nat fenceGeneration) "fence_generation" 1 >>= fun _ => .ok ()) = _
      rw [seq_ok htarget, seq_ok hfence]
  | sessionError code retryable message =>
    obtain ⟨hcode, hsize⟩ := h
    rw [hevent (by simp [ServerEvent.typeText])]
    change (errorCode (.str code) >>= fun _ => text (.str message) 512 true) = _ ↔ _
    rw [seq_ok (errorCode_str hcode), text_str (fun hfinal => by cases hfinal) hsize]
    simp [ServerEvent.spoken]
  | sessionClose reason =>
    refine iff_of_true ?_ (by simp [ServerEvent.spoken])
    rw [hevent (by simp [ServerEvent.typeText])]
    have hreasons : ∀ reason ∈ Binding.closeReasons,
        isOneOf (.str reason) Desktop.Control.sessionCloseReasons = .ok true := by
      simp +decide
    change (isOneOf (.str reason) Desktop.Control.sessionCloseReasons >>= fun known =>
      raise (known = false) _ >>= fun _ => .ok ()) = _
    rw [hreasons reason h]
    rfl

end Message

section Text

theorem unique_items {items : List Json} (h : ∀ v ∈ items, Desktop.Control.unique v = true) :
    Desktop.Control.uniqueItems items = true := by
  induction items with
  | nil => rfl
  | cons v vs ih =>
    rw [Desktop.Control.uniqueItems, h v List.mem_cons_self, ih fun w hw => h w (List.mem_cons_of_mem v hw)]
    rfl

theorem unique_fields {fields : Message} (h : ∀ f ∈ fields, Desktop.Control.unique f.2 = true) :
    Desktop.Control.uniqueFields fields = true := by
  induction fields with
  | nil => rfl
  | cons f fs ih =>
    rw [Desktop.Control.uniqueFields, h f List.mem_cons_self, ih fun g hg => h g (List.mem_cons_of_mem f hg)]
    rfl

theorem unique_plain {exact : Int → Prop} {text : String → Prop} {depth : Nat} {v : Json}
    (h : Plain exact text depth v) : Desktop.Control.unique v = true := by
  induction depth generalizing v with
  | zero =>
    cases v with
    | arr items => cases h
    | obj fields => cases h
    | _ => rfl
  | succ depth ih =>
    cases v with
    | arr items => exact unique_items fun v hv => ih (h v hv)
    | obj fields =>
      rw [Desktop.Control.unique, decide_eq_true h.1, unique_fields fun f hf => ih (h.2 f hf).2]
      rfl
    | _ => rfl

theorem rebuilds_keepPairs : Rebuilds keepPairs := by
  intro fields _
  rw [keepPairs, List.map_map]
  congr 2
  conv => rhs; rw [← List.map_id fields]
  apply List.map_congr_left
  intro f _
  exact Prod.ext (key_codes f.1) rfl

theorem short_of_uint53 {n : Nat} (h : n ≤ uint53Max) : Short n := by
  have hlength : (Nat.toDigits 10 (n : Int).natAbs).length ≤ 16 := by
    rw [Int.natAbs_natCast, Nat.length_toDigits_le_iff (by omega) (by omega)]
    exact h.trans_lt (by decide)
  exact hlength.trans (by decide)

/-- `decode_control` gives back an object that was written within the size limit. -/
theorem decodeControl_dumps {p : Interpreter} (hlimit : 3 ≤ p.cRecursionLimit) {fields : Message}
    (hplain : Plain Short (fun _ => True) 3 (.obj fields))
    (hsize : utf8Length (dumps (.obj fields)) ≤ controlMaxBytes) :
    Desktop.Control.decodeControl (loadPairs p) (dumps (.obj fields)) = .ok fields := by
  have hloads : loadPairs p (dumps (.obj fields)) = some (.obj fields) := by
    rw [loadPairs, loads_dumps rebuilds_keepPairs hplain hlimit]
  have hfits : ¬utf8Length (dumps (.obj fields)) > Desktop.Control.controlMaxBytes := Nat.not_lt.mpr hsize
  rw [Desktop.Control.decodeControl, hloads, bind_of_ok (raise_not hfits)]
  dsimp only
  rw [unique_plain hplain]
  rfl

end Text

section Grant

open RealtimeVoice.Desktop.Control (exactFields grantFields grantKey grantHost intOf raise has)

theorem b64decode_b64encode (bytes : List UInt8) : Desktop.Control.b64decode (b64encode bytes) = some bytes := by
  induction bytes using b64encode.induct with
  | case1 x y z rest ih =>
    have hx := x.toNat_lt
    have hy := y.toNat_lt
    have hz := z.toNat_lt
    rw [b64encode, Desktop.Control.b64decode, value_base64Char (by omega), value_base64Char (by omega)]
    simp only [Option.bind_eq_bind, Option.bind_some]
    rw [if_neg (base64Char_ne (by omega)), value_base64Char (by omega), value_base64Char (by omega), ih]
    have hfirst : UInt8.ofNat (x.toNat / 4 * 4 + (x.toNat % 4 * 16 + y.toNat / 16) / 16) = x := ofNat_toNat (by omega)
    have hsecond : UInt8.ofNat ((x.toNat % 4 * 16 + y.toNat / 16) % 16 * 16 +
        (y.toNat % 16 * 4 + z.toNat / 64) / 4) = y := ofNat_toNat (by omega)
    have hthird : UInt8.ofNat ((y.toNat % 16 * 4 + z.toNat / 64) % 4 * 64 + z.toNat % 64) = z := ofNat_toNat (by omega)
    change some (_ :: _ :: _ :: rest) = _
    rw [hfirst, hsecond, hthird]
  | case2 x y =>
    have hx := x.toNat_lt
    have hy := y.toNat_lt
    rw [b64encode, Desktop.Control.b64decode, value_base64Char (by omega), value_base64Char (by omega)]
    simp only [Option.bind_eq_bind, Option.bind_some]
    rw [if_pos trivial, if_neg (by simp), if_neg (base64Char_ne (by omega)), value_base64Char (by omega)]
    have hfirst : UInt8.ofNat (x.toNat / 4 * 4 + (x.toNat % 4 * 16 + y.toNat / 16) / 16) = x := ofNat_toNat (by omega)
    have hsecond : UInt8.ofNat ((x.toNat % 4 * 16 + y.toNat / 16) % 16 * 16 + y.toNat % 16 * 4 / 4) = y :=
      ofNat_toNat (by omega)
    change some [_, _] = _
    rw [hfirst, hsecond]
  | case3 x =>
    have hx := x.toNat_lt
    rw [b64encode, Desktop.Control.b64decode, value_base64Char (by omega), value_base64Char (by omega)]
    simp only [Option.bind_eq_bind, Option.bind_some]
    rw [if_pos trivial, if_neg (by simp), if_pos trivial]
    have hfirst : UInt8.ofNat (x.toNat / 4 * 4 + x.toNat % 4 * 16 / 16) = x := ofNat_toNat (by omega)
    change some [_] = _
    rw [hfirst]
  | case4 => rfl

theorem grantKey_b64encode (bytes : List UInt8) : grantKey (.str (String.ofList (b64encode bytes))) = .ok bytes := by
  rw [grantKey, String.toList_ofList, b64decode_b64encode]
  rfl

/-- What the desktop client asks of a grant beyond what the gateway guarantees. -/
structure UdpGrant.Holdable (g : UdpGrant) : Prop where
  host : g.host.toList.length ≤ 253
  probeTimeout : 100 ≤ g.probeTimeoutMs

/-- The grant that the desktop client makes of the server's. -/
def UdpGrant.held (g : UdpGrant) (nowMs : Int) : Desktop.Control.UdpGrant :=
  { host := g.host, port := g.port, expiresAtMs := (g.expiresAt * 1000 : Nat), refreshAfterMs := g.refreshAfterMs nowMs
    uplinkKey := g.uplinkKey, uplinkSalt := g.uplinkSalt, downlinkKey := g.downlinkKey
    downlinkSalt := g.downlinkSalt, probeTimeoutMs := g.probeTimeoutMs }

theorem parseGrantFields_iff {g : UdpGrant} {nowMs : Int} {u : Desktop.Control.UdpGrant} :
    Desktop.Control.parseGrantFields (g.message nowMs) = .ok u ↔ g.Holdable ∧ u = g.held nowMs := by
  have hfields : exactFields (g.message nowMs) grantFields = .ok () := by
    apply exactFields_ok <;> simp [UdpGrant.message, grantFields, has, List.lookup]
  have huplinkKey : grantKey (Desktop.Control.get (g.message nowMs) "uplink_key_b64") = .ok g.uplinkKey :=
    grantKey_b64encode _
  have huplinkSalt : grantKey (Desktop.Control.get (g.message nowMs) "uplink_salt_b64") = .ok g.uplinkSalt :=
    grantKey_b64encode _
  have hdownlinkKey : grantKey (Desktop.Control.get (g.message nowMs) "downlink_key_b64") = .ok g.downlinkKey :=
    grantKey_b64encode _
  have hdownlinkSalt : grantKey (Desktop.Control.get (g.message nowMs) "downlink_salt_b64") = .ok g.downlinkSalt :=
    grantKey_b64encode _
  have hlengths : ¬(g.uplinkKey.length ≠ 16 ∨ g.downlinkKey.length ≠ 16 ∨ g.uplinkSalt.length ≠ 8 ∨
      g.downlinkSalt.length ≠ 8) := by
    simp [g.uplinkKey_length, g.uplinkSalt_length, g.downlinkKey_length, g.downlinkSalt_length]
  have hport : intOf (Desktop.Control.get (g.message nowMs) "port") 1 65535 "udp_port" = .ok (g.port : Int) :=
    intOf_nat ⟨by exact_mod_cast g.port_range.1, by exact_mod_cast g.port_range.2⟩
  have hexpires : intOf (Desktop.Control.get (g.message nowMs) "expires_at_ms") 1 (2 ^ 63 - 1) "udp_expiry" =
      .ok ((g.expiresAt * 1000 : Nat) : Int) := by
    have hmax : g.expiresAt * 1000 ≤ 2 ^ 53 - 1 := g.expiresAt_range.2
    have hmin := g.expiresAt_range.1
    apply intOf_nat
    omega
  obtain ⟨hlow, hhigh⟩ := refreshAfterMs_range g nowMs
  have hrefresh : intOf (Desktop.Control.get (g.message nowMs) "refresh_after_ms") 1000 3600000 "udp_refresh" =
      .ok (g.refreshAfterMs nowMs : Int) :=
    intOf_nat ⟨by exact_mod_cast hlow, by exact_mod_cast hhigh⟩
  have hhost : grantHost (Desktop.Control.get (g.message nowMs) "host") = grantHost (.str g.host) := rfl
  have hprobe : Desktop.Control.get (g.message nowMs) "probe_timeout_ms" = nat g.probeTimeoutMs := rfl
  rw [Desktop.Control.parseGrantFields, bind_of_ok hfields, bind_of_ok huplinkKey, bind_of_ok huplinkSalt,
    bind_of_ok hdownlinkKey, bind_of_ok hdownlinkSalt, bind_of_ok (raise_not hlengths), hhost]
  constructor
  · intro h
    obtain ⟨host, hheld, h⟩ := Desktop.Control.bind_ok.mp h
    obtain ⟨hlong, rfl⟩ := (grantHost_iff g.host_ne).mp hheld
    rw [bind_of_ok hport, bind_of_ok hexpires, bind_of_ok hrefresh, hprobe] at h
    obtain ⟨timeout, htimeout, h⟩ := Desktop.Control.bind_ok.mp h
    obtain ⟨hrange, rfl⟩ := intOf_nat_iff.mp htimeout
    exact ⟨⟨hlong, by exact_mod_cast hrange.1⟩, (Except.ok.inj h).symm⟩
  · rintro ⟨hg, rfl⟩
    have hheld : grantHost (.str g.host) = .ok g.host := (grantHost_iff g.host_ne).mpr ⟨hg.host, rfl⟩
    have htimeout : intOf (nat g.probeTimeoutMs) 100 10000 "udp_probe_timeout" = .ok (g.probeTimeoutMs : Int) :=
      intOf_nat ⟨by exact_mod_cast hg.probeTimeout, by exact_mod_cast g.probeTimeoutMs_le⟩
    rw [bind_of_ok hheld, bind_of_ok hport, bind_of_ok hexpires, bind_of_ok hrefresh, hprobe, bind_of_ok htimeout]
    rfl

/-- The desktop client holds the grant of an event. -/
def GrantHeld (grant : Option Message) (held : Option Desktop.Control.UdpGrant) : Prop :=
  match grant, held with
  | none, none => True
  | some grant, some u => ∃ (g : UdpGrant) (nowMs : Int), grant = g.message nowMs ∧ g.Holdable ∧ u = g.held nowMs
  | _, _ => False

theorem parseUdpGrant_iff_held {profile : TransportProfile} {grant : Option Message} (h : GrantFits profile grant)
    {held : Option Desktop.Control.UdpGrant} :
    Desktop.Control.parseUdpGrant ((grant.map Json.obj).getD .null) = .ok held ↔ GrantHeld grant held := by
  cases profile with
  | wssOpus =>
    obtain rfl : grant = none := h
    change Except.ok none = _ ↔ _
    cases held with
    | none => exact iff_of_true rfl trivial
    | some u => exact iff_of_false (fun h => by cases h) fun h => h
  | udpOpusGcm =>
    obtain ⟨g, nowMs, rfl⟩ := h
    change (Desktop.Control.parseGrantFields (g.message nowMs) >>= fun u => .ok (some u)) = _ ↔ _
    rw [Desktop.Control.bind_ok]
    constructor
    · rintro ⟨u, hu, h⟩
      obtain rfl := Except.ok.inj h
      obtain ⟨hholdable, rfl⟩ := parseGrantFields_iff.mp hu
      exact ⟨g, nowMs, rfl, hholdable, rfl⟩
    · intro hheld
      cases held with
      | none => cases hheld
      | some u =>
        obtain ⟨g', nowMs', hsame, hholdable, rfl⟩ := hheld
        refine ⟨g'.held nowMs', ?_, rfl⟩
        rw [hsame]
        exact parseGrantFields_iff.mpr ⟨hholdable, rfl⟩

/-- There is a grant exactly with the UDP profile. -/
theorem profile_of_held {profile : TransportProfile} {grant : Option Message} {held : Option Desktop.Control.UdpGrant}
    (h : GrantFits profile grant) (hheld : GrantHeld grant held) : profile = .udpOpusGcm ↔ held.isSome = true := by
  cases profile with
  | wssOpus =>
    obtain rfl : grant = none := h
    cases held with
    | none => simp
    | some u => cases hheld
  | udpOpusGcm =>
    obtain ⟨g, nowMs, rfl⟩ := h
    cases held with
    | none => cases hheld
    | some u => simp

end Grant

/-- The desktop client opens its session with the values of the event, which answers its request. -/
def ServerEvent.OpensTo (sessionId sessionEpoch requestId : String) (opened : Desktop.Control.SessionOpened) :
    ServerEvent → Prop
  | .sessionOpened id mediaId mediaEpoch profile grant =>
    id = requestId ∧ ∃ (bytes : List UInt8) (held : Option Desktop.Control.UdpGrant),
      mediaId = mediaIdText bytes ∧ GrantHeld grant held ∧
      opened = { requestId, sessionId, sessionEpoch, mediaId := bytes, mediaEpoch, selectedProfile := profile
                 heartbeatIntervalMs := 15000, idleTimeoutMs := 45000, udpGrant := held }
  | _ => False

section Opened

open RealtimeVoice.Desktop.Control (openedWith identifierOf mediaId intOf mediaProfile parseUdpGrant)

variable {sessionId sessionEpoch requestId : String} {bytes : List UInt8} {mediaEpoch : Nat}
  {profile : TransportProfile} {grant : Option Message} {opened : Desktop.Control.SessionOpened}

theorem openedWith_iff (hid : identifierMatches sessionId = true) (hepoch : identifierMatches sessionEpoch = true)
    (hlength : bytes.length = 8) (hmedia : 1 ≤ mediaEpoch ∧ mediaEpoch ≤ uint32Max) (hgrant : GrantFits profile grant) :
    openedWith ((ServerEvent.sessionOpened requestId (mediaIdText bytes) mediaEpoch profile grant).message sessionId
        sessionEpoch) requestId profile = .ok opened ↔
      (ServerEvent.sessionOpened requestId (mediaIdText bytes) mediaEpoch profile grant).OpensTo sessionId sessionEpoch
        requestId opened := by
  generalize hmessage : (ServerEvent.sessionOpened requestId (mediaIdText bytes) mediaEpoch profile grant).message
    sessionId sessionEpoch = message
  have hudp : Desktop.Control.get message "udp_grant" = (grant.map Json.obj).getD .null := by
    subst hmessage
    cases grant <;> rfl
  have hsession : identifierOf (Desktop.Control.get message "session_id") "session_id" = .ok sessionId := by
    subst hmessage
    exact identifierOf_str hid
  have hsessionEpoch : identifierOf (Desktop.Control.get message "session_epoch") "session_epoch" =
      .ok sessionEpoch := by
    subst hmessage
    exact identifierOf_str hepoch
  have hmediaId : mediaId (Desktop.Control.get message "media_id") = .ok bytes := by
    subst hmessage
    exact mediaId_mediaIdText hlength
  have hmediaEpoch : intOf (Desktop.Control.get message "media_epoch") 1 0xFFFFFFFF "media_epoch" =
      .ok (mediaEpoch : Int) := by
    subst hmessage
    exact intOf_nat ⟨by exact_mod_cast hmedia.1, by exact_mod_cast hmedia.2⟩
  have hheartbeat : intOf (Desktop.Control.get message "heartbeat_interval_ms") 5000 60000 "heartbeat" = .ok 15000 := by
    subst hmessage
    rfl
  have hidle : intOf (Desktop.Control.get message "idle_timeout_ms") 15000 180000 "idle_timeout" = .ok 45000 := by
    subst hmessage
    rfl
  have hunique : ∀ bytes' : List UInt8, mediaIdText bytes = mediaIdText bytes' → bytes' = bytes := by
    intro bytes' hsame
    have hback := Desktop.Control.fromhex_hexByte bytes'
    rw [← String.ofList_inj.mp hsame, Desktop.Control.fromhex_hexByte] at hback
    exact (Option.some.inj hback).symm
  have hprofile : ∀ held, GrantHeld grant held → ¬¬(profile = .udpOpusGcm ↔ held.isSome = true) := by
    intro held hheld
    exact not_not_intro (profile_of_held hgrant hheld)
  rw [openedWith, hudp, Desktop.Control.bind_ok]
  constructor
  · rintro ⟨held, hparse, h⟩
    have hheld := (parseUdpGrant_iff_held hgrant).mp hparse
    rw [bind_of_ok (raise_not (hprofile held hheld)), bind_of_ok hsession, bind_of_ok hsessionEpoch,
      bind_of_ok hmediaId, bind_of_ok hmediaEpoch, bind_of_ok hheartbeat, bind_of_ok hidle] at h
    exact ⟨rfl, bytes, held, rfl, hheld, (Except.ok.inj h).symm⟩
  · rintro ⟨-, bytes', held, hbytes, hheld, rfl⟩
    obtain rfl := hunique bytes' hbytes
    refine ⟨held, (parseUdpGrant_iff_held hgrant).mpr hheld, ?_⟩
    rw [bind_of_ok (raise_not (hprofile held hheld)), bind_of_ok hsession, bind_of_ok hsessionEpoch,
      bind_of_ok hmediaId, bind_of_ok hmediaEpoch, bind_of_ok hheartbeat, bind_of_ok hidle]
    rfl

theorem mapError_ok {ε ε' α : Type} {f : ε → ε'} {x : Except ε α} {a : α} : x.mapError f = .ok a ↔ x = .ok a := by
  cases x with
  | error e => exact iff_of_false (fun h => by cases h) fun h => by cases h
  | ok b => exact ⟨fun h => congrArg Except.ok (Except.ok.inj h), fun h => congrArg Except.ok (Except.ok.inj h)⟩

/-- What is left of `parse_session_opened` once the message is one that the checks let through. -/
theorem parseSessionOpened_ok {message : Message} {id : String} (hcheck : validateServerMessage message = .ok ())
    (htype : Desktop.Control.get message "type" = .str "session.opened")
    (hrequest : Desktop.Control.get message "request_id" = .str id)
    (hprofile : mediaProfile (Desktop.Control.get message "selected_media_profile") = .ok profile) :
    parseSessionOpened message requestId = .ok opened ↔
      id = requestId ∧ openedWith message requestId profile = .ok opened := by
  rw [parseSessionOpened, hcheck, htype, hrequest, hprofile]
  by_cases hsame : id = requestId
  · have heq : ¬(Json.str id).eqStr requestId = false := by
      simpa [eqStr] using hsame
    change ((if (Json.str id).eqStr requestId = false then _ else _) : Except _ _) = _ ↔ _
    rw [if_neg heq]
    exact mapError_ok.trans ⟨fun h => ⟨hsame, h⟩, fun h => h.2⟩
  · have hne : (Json.str id).eqStr requestId = false := by
      simpa [eqStr] using hsame
    change ((if (Json.str id).eqStr requestId = false then _ else _) : Except _ _) = _ ↔ _
    rw [if_pos hne]
    exact iff_of_false (fun h => by cases h) fun h => hsame h.1

theorem parseSessionOpened_other {message : Message} {type : String}
    (htype : Desktop.Control.get message "type" = .str type) (hne : type ≠ "session.opened") :
    parseSessionOpened message requestId ≠ .ok opened := by
  intro h
  rw [parseSessionOpened, htype] at h
  cases hcheck : validateServerMessage message with
  | error e =>
    rw [hcheck] at h
    cases h
  | ok _ =>
    have hother : (Json.str type).eqStr "session.opened" = false := beq_eq_false_iff_ne.mpr hne
    rw [hcheck, hother] at h
    cases h

variable {e : ServerEvent}

theorem parseSessionOpened_iff (hid : identifierMatches sessionId = true)
    (hepoch : identifierMatches sessionEpoch = true) (h : e.Admitted) (hrange : e.InRange) :
    parseSessionOpened (e.message sessionId sessionEpoch) requestId = .ok opened ↔
      e.OpensTo sessionId sessionEpoch requestId opened := by
  have htype : Desktop.Control.get (e.message sessionId sessionEpoch) "type" = .str e.typeText := by
    rw [Desktop.Control.get, lookup_type]
    rfl
  cases e with
  | sessionOpened id mediaId mediaEpoch profile grant =>
    have hcheck := (validateServerMessage_iff hid hepoch h hrange).mpr (by simp [ServerEvent.spoken])
    obtain ⟨-, ⟨bytes, hlength, rfl⟩, hmedia, hgrant⟩ := h
    have hprofile : mediaProfile (Desktop.Control.get ((ServerEvent.sessionOpened id (mediaIdText bytes) mediaEpoch
        profile grant).message sessionId sessionEpoch) "selected_media_profile") = .ok profile := by
      cases profile <;> rfl
    rw [parseSessionOpened_ok hcheck htype rfl hprofile]
    constructor
    · rintro ⟨rfl, hopened⟩
      exact (openedWith_iff hid hepoch hlength hmedia hgrant).mp hopened
    · intro hopens
      obtain rfl : id = requestId := hopens.1
      exact ⟨rfl, (openedWith_iff hid hepoch hlength hmedia hgrant).mpr hopens⟩
  | _ => exact iff_of_false (parseSessionOpened_other htype (by simp [ServerEvent.typeText])) fun hopens => hopens

end Opened

namespace Binding

variable {b : Binding}

/-- In every run whose generations fit 32 bits, the desktop client decodes the text of an event that the binding
emits to the object that was encoded. It takes the object if and only if no text of the event has a NUL, and a
session is opened with it if and only if the event answers the request and the client can hold the grant. -/
theorem desktop_channel {config : BindingConfig} (hgrant : Granted config) {es : List Event}
    (h : Run Step (.init config) es b) (hmax : b.responses.session.generation ≤ uint32Max)
    {p : Interpreter} (hlimit : 3 ≤ p.cRecursionLimit) :
    ∀ e ∈ emitted es, ∃ data, encodeControl (e.message config.sessionId config.sessionEpoch) = .ok data ∧
      Desktop.Control.decodeControl (loadPairs p) data = .ok (e.message config.sessionId config.sessionEpoch) ∧
      (validateServerMessage (e.message config.sessionId config.sessionEpoch) = .ok () ↔ ∀ s ∈ e.spoken, NulFree s) ∧
      ∀ requestId opened, parseSessionOpened (e.message config.sessionId config.sessionEpoch) requestId = .ok opened ↔
        e.OpensTo config.sessionId config.sessionEpoch requestId opened := by
  intro e he
  obtain ⟨rfl, hsent⟩ := run_sent h
  obtain ⟨hfits, hrange⟩ := hsent e he
  have hadmitted := run_admitted hgrant h e he
  have hid := b.config.sessionId_valid
  have hepoch := b.config.sessionEpoch_valid
  have hdata : encodeControl (e.message b.config.sessionId b.config.sessionEpoch) =
      .ok (dumps (.obj (e.message b.config.sessionId b.config.sessionEpoch))) := by
    rw [encodeControl, if_neg (Nat.not_lt.mpr hfits)]
  have hplain : Plain Short (fun _ => True) 3 (.obj (e.message b.config.sessionId b.config.sessionEpoch)) :=
    plain_message hadmitted (fun _ => short_of_uint53) (hrange hmax)
  refine ⟨_, hdata, decodeControl_dumps hlimit hplain hfits, ?_, ?_⟩
  · exact validateServerMessage_iff hid hepoch hadmitted (hrange hmax)
  · intro requestId opened
    exact parseSessionOpened_iff hid hepoch hadmitted (hrange hmax)

/-- Whether the desktop client opens its session with the object of an event. -/
def demoOpens (e : ServerEvent) : Bool := (parseSessionOpened (e.message "s1" "e1") "q1").isOk

theorem desktop_channel_demo :
    (emitted (demoRun demoGrant)).map (fun e => (decide (∀ s ∈ e.spoken, NulFree s), demoOpens e)) =
        [(true, true), (true, false), (false, false)] ∧
      (emitted (demoRun demoHasty)).map demoOpens = [false, false, false] ∧
      ∀ g, g = demoGrant ∨ g = demoHasty → ∀ e ∈ emitted (demoRun g), ∃ data,
        encodeControl (e.message "s1" "e1") = .ok data ∧
        Desktop.Control.decodeControl
            (loadPairs { cRecursionLimit := 1000, floatRepr := PyStr.key, cRecursionLimit_pos := by decide }) data =
          .ok (e.message "s1" "e1") ∧
        (validateServerMessage (e.message "s1" "e1") = .ok () ↔ ∀ s ∈ e.spoken, NulFree s) ∧
        ∀ requestId opened, parseSessionOpened (e.message "s1" "e1") requestId = .ok opened ↔
          e.OpensTo "s1" "e1" requestId opened := by
  refine ⟨by decide +kernel, by decide +kernel, ?_⟩
  rintro g (rfl | rfl)
  · exact desktop_channel (granted_demo demoGrant) (run_history call _ demoTranscripts) (by decide +kernel) (by decide)
  · exact desktop_channel (granted_demo demoHasty) (run_history call _ demoTranscripts) (by decide +kernel) (by decide)

end Binding

end RealtimeVoice.Rva
