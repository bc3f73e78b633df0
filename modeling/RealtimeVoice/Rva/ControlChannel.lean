import RealtimeVoice.Base.JsonStrings
import RealtimeVoice.Firmware.FixedBase64
import RealtimeVoice.Rva.Decoding
import RealtimeVoice.Rva.StopInFlight

namespace RealtimeVoice.Rva

open RealtimeVoice.Base RealtimeVoice.Base.Json RealtimeVoice.Base.Runs RealtimeVoice.Contracts RealtimeVoice.Firmware

section Base64

theorem base64Char_simple {n : Nat} (h : n < 64) : simpleChar (base64Char n) = true := by
  revert n
  decide

theorem base64Value_base64Char {n : Nat} (h : n < 64) : Control.base64Value (base64Char n) = some n := by
  revert n
  decide

theorem base64Char_ne_pad {n : Nat} (h : n < 64) : (base64Char n == '=') = false := by
  revert n
  decide

theorem b64encode_simple (bytes : List UInt8) : Simple (String.ofList (b64encode bytes)) := by
  rw [Simple, String.toList_ofList]
  induction bytes using b64encode.induct with
  | case1 x y z rest ih =>
    have hx := x.toNat_lt
    have hy := y.toNat_lt
    have hz := z.toNat_lt
    simp only [b64encode, List.all_cons, ih, Bool.and_true, Bool.and_eq_true]
    exact ⟨base64Char_simple (by omega), base64Char_simple (by omega), base64Char_simple (by omega),
      base64Char_simple (by omega)⟩
  | case2 x y =>
    have hx := x.toNat_lt
    have hy := y.toNat_lt
    simp only [b64encode, List.all_cons, List.all_nil, Bool.and_true, Bool.and_eq_true]
    exact ⟨base64Char_simple (by omega), base64Char_simple (by omega), base64Char_simple (by omega), by decide⟩
  | case3 x =>
    have hx := x.toNat_lt
    simp only [b64encode, List.all_cons, List.all_nil, Bool.and_true, Bool.and_eq_true]
    exact ⟨base64Char_simple (by omega), base64Char_simple (by omega), by decide, by decide⟩
  | case4 => rfl

theorem length_b64encode (bytes : List UInt8) : (b64encode bytes).length = (bytes.length + 2) / 3 * 4 := by
  have hlength := FixedBase64.length_encoded bytes
  rwa [FixedBase64.encoded, List.length_map] at hlength

theorem ofNat_toNat {n : Nat} {x : UInt8} (h : n % 256 = x.toNat) : UInt8.ofNat n = x :=
  FixedBase64.byte_eq h

/-- The groups that are left give the bytes that are left. -/
theorem decodeGroups_b64encode (size : Nat) (bytes output : List UInt8) (h : output.length + bytes.length = size) :
    Control.decodeGroups size (b64encode bytes) output = some (output ++ bytes) := by
  induction bytes using b64encode.induct generalizing output with
  | case1 x y z rest ih =>
    have hx := x.toNat_lt
    have hy := y.toNat_lt
    have hz := z.toNat_lt
    rw [List.length_cons, List.length_cons, List.length_cons] at h
    rw [b64encode, Control.decodeGroups]
    simp only [base64Char_ne_pad (show y.toNat % 16 * 4 + z.toNat / 64 < 64 by omega),
      base64Char_ne_pad (show z.toNat % 64 < 64 by omega), base64Value_base64Char (show x.toNat / 4 < 64 by omega),
      base64Value_base64Char (show x.toNat % 4 * 16 + y.toNat / 16 < 64 by omega),
      base64Value_base64Char (show y.toNat % 16 * 4 + z.toNat / 64 < 64 by omega),
      base64Value_base64Char (show z.toNat % 64 < 64 by omega), Bool.false_eq_true, if_false, Bool.or_self,
      Bool.and_false, Bool.false_and]
    rw [if_neg (by omega), ih _ (by simp; omega)]
    rw [ofNat_toNat (show (4 * (x.toNat / 4) + (x.toNat % 4 * 16 + y.toNat / 16) / 16) % 256 = x.toNat by omega),
      ofNat_toNat (show (16 * (x.toNat % 4 * 16 + y.toNat / 16) + (y.toNat % 16 * 4 + z.toNat / 64) / 4) % 256 =
        y.toNat by omega),
      ofNat_toNat (show (64 * (y.toNat % 16 * 4 + z.toNat / 64) + z.toNat % 64) % 256 = z.toNat by omega)]
    simp
  | case2 x y =>
    have hx := x.toNat_lt
    have hy := y.toNat_lt
    have hremaining : size - output.length = 2 := by
      rw [List.length_cons, List.length_singleton] at h
      omega
    rw [b64encode, Control.decodeGroups]
    simp only [base64Char_ne_pad (show y.toNat % 16 * 4 < 64 by omega),
      base64Value_base64Char (show x.toNat / 4 < 64 by omega),
      base64Value_base64Char (show x.toNat % 4 * 16 + y.toNat / 16 < 64 by omega),
      base64Value_base64Char (show y.toNat % 16 * 4 < 64 by omega), hremaining,
      show y.toNat % 16 * 4 % 4 = 0 by omega, BEq.rfl, bne_self_eq_false, List.isEmpty_nil, Bool.not_true,
      Bool.false_and, Bool.and_false, Bool.or_self, Bool.false_eq_true, if_false, if_true]
    rw [ofNat_toNat (show (4 * (x.toNat / 4) + (x.toNat % 4 * 16 + y.toNat / 16) / 16) % 256 = x.toNat by omega),
      ofNat_toNat (show (16 * (x.toNat % 4 * 16 + y.toNat / 16) + (y.toNat % 16 * 4) / 4) % 256 = y.toNat by omega)]
    simpa [Control.decodeGroups] using h
  | case3 x =>
    have hx := x.toNat_lt
    have hremaining : size - output.length = 1 := by
      rw [List.length_singleton] at h
      omega
    rw [b64encode, Control.decodeGroups]
    simp only [base64Value_base64Char (show x.toNat / 4 < 64 by omega),
      base64Value_base64Char (show x.toNat % 4 * 16 < 64 by omega), hremaining,
      show x.toNat % 4 * 16 % 16 = 0 by omega, BEq.rfl, bne_self_eq_false, List.isEmpty_nil, Bool.not_true,
      Bool.false_and, Bool.and_false, Bool.or_self, Bool.false_eq_true, if_false, if_true]
    rw [ofNat_toNat (show (4 * (x.toNat / 4) + (x.toNat % 4 * 16) / 16) % 256 = x.toNat by omega)]
    simpa [Control.decodeGroups] using h
  | case4 => simpa [b64encode, Control.decodeGroups] using h

theorem decodeFixedBase64_b64encode {size : Nat} {bytes : List UInt8} (h : bytes.length = size) :
    Control.decodeFixedBase64 size (String.ofList (b64encode bytes)) = some bytes := by
  have hsize : Control.size (String.ofList (b64encode bytes)) = (size + 2) / 3 * 4 := by
    rw [Control.size, utf8Length_simple (b64encode_simple bytes), String.toList_ofList, length_b64encode, h]
  rw [Control.decodeFixedBase64, if_pos hsize, String.toList_ofList, decodeGroups_b64encode size bytes [] (by simpa using h)]
  rfl

end Base64

theorem nibble_lowerHex {n : Nat} (h : n < 16) : Control.nibble (lowerHex n) = some n := by
  revert n
  decide

theorem readNibbles_hexByte (bytes : List UInt8) : Control.readNibbles (bytes.flatMap Binding.hexByte) = some bytes := by
  induction bytes with
  | nil => rfl
  | cons byte bytes ih =>
    have hlt := byte.toNat_lt
    rw [List.flatMap_cons, Binding.hexByte, List.cons_append, List.cons_append, List.nil_append, Control.readNibbles,
      nibble_lowerHex (by omega), nibble_lowerHex (by omega), ih]
    change some (UInt8.ofNat (16 * (byte.toNat / 16) + byte.toNat % 16) :: bytes) = _
    rw [Nat.div_add_mod, UInt8.ofNat_toNat]

theorem parseMediaId_mediaIdText {bytes : List UInt8} (h : bytes.length = 8) :
    Control.parseMediaId (mediaIdText bytes) = some bytes := by
  obtain ⟨hsimple, hlength⟩ := mediaIdText_simple bytes
  have hsize : Control.size (mediaIdText bytes) = 16 := by
    rw [Control.size, utf8Length_simple hsimple, hlength, h]
  rw [Control.parseMediaId, if_pos hsize, mediaIdText, String.toList_ofList, readNibbles_hexByte]

/-- What the firmware asks of a grant beyond what the gateway guarantees. -/
structure UdpGrant.Readable (g : UdpGrant) : Prop where
  host : utf8Length g.host.toList ≤ 253
  probeTimeout : 100 ≤ g.probeTimeoutMs

/-- The grant that the firmware makes of the server's. -/
def UdpGrant.decoded (g : UdpGrant) (nowMs : Int) : Control.UdpGrant :=
  { host := g.host, port := g.port, expiresAtMs := g.expiresAt * 1000, refreshAfterMs := g.refreshAfterMs nowMs
    uplinkKey := g.uplinkKey, uplinkSalt := g.uplinkSalt, downlinkKey := g.downlinkKey
    downlinkSalt := g.downlinkSalt, probeTimeoutMs := g.probeTimeoutMs }

section Grant

variable {fields : Message} {key : String} {g : UdpGrant} {nowMs : Int}

theorem getKey_of_lookup {size maximumBytes : Nat} {bytes : List UInt8} (hlength : bytes.length = size)
    (hpos : 0 < size) (hmax : (size + 2) / 3 * 4 ≤ maximumBytes)
    (h : fields.lookup key = some (.str (String.ofList (b64encode bytes)))) :
    (Control.getString (.obj fields) key maximumBytes false).bind (Control.decodeFixedBase64 size) = some bytes := by
  have hsimple := b64encode_simple bytes
  have hbytes : utf8Length (String.ofList (b64encode bytes)).toList = (size + 2) / 3 * 4 := by
    rw [utf8Length_simple hsimple, String.toList_ofList, length_b64encode, hlength]
  have hne : String.ofList (b64encode bytes) ≠ "" := by
    intro hempty
    rw [hempty] at hbytes
    change 0 = _ at hbytes
    omega
  rw [getString_of_lookup h (simple_nulFree hsimple) (fun _ => hne) (hbytes.trans_le hmax), Option.bind_some,
    decodeFixedBase64_b64encode hlength]

theorem getU64_of_lookup {n : Nat} (h : fields.lookup key = some (nat n)) (hmin : 1 ≤ n) (hmax : n ≤ uint53Max) :
    Control.getU64 (.obj fields) key = some n := by
  rw [Control.getU64, Control.getInteger, Control.item, h]
  dsimp only [nat]
  rw [if_pos, Int.toNat_natCast]
  exact ⟨Int.ofNat_le.mpr hmin, Int.ofNat_le.mpr hmax⟩

theorem getPositive_of_lookup {n : Nat} (h : fields.lookup key = some (nat n)) (hmin : 1 ≤ n) (hmax : n ≤ uint32Max) :
    Control.getU32 (.obj fields) key false = some n :=
  getU32_of_lookup h hmin hmax

theorem refreshAfterMs_range (g : UdpGrant) (nowMs : Int) :
    1000 ≤ g.refreshAfterMs nowMs ∧ g.refreshAfterMs nowMs ≤ 3600000 := by
  rw [UdpGrant.refreshAfterMs]
  omega

theorem parseUdpGrant_message (hnul : NulFree g.host) (h : g.Readable) :
    Control.parseUdpGrant (.obj (g.message nowMs)) = some (g.decoded nowMs) := by
  obtain ⟨hlow, hhigh⟩ := refreshAfterMs_range g nowMs
  have hrefresh : g.refreshAfterMs nowMs ≤ uint32Max := hhigh.trans (by decide)
  have hprobe : g.probeTimeoutMs ≤ uint32Max := g.probeTimeoutMs_le.trans (by decide)
  have hport : g.port ≤ uint32Max := g.port_range.2.trans (by decide)
  have hexpires : 1 ≤ g.expiresAt * 1000 := by
    have hmin := g.expiresAt_range.1
    omega
  rw [Control.parseUdpGrant,
    if_pos (show Control.hasExactFields _ _ _ = true by simp [UdpGrant.message, Control.hasExactFields, List.lookup]),
    getString_of_lookup (s := g.host) (by simp [UdpGrant.message]) hnul (fun _ => g.host_ne) h.host,
    getPositive_of_lookup (n := g.port) (by simp [UdpGrant.message, List.lookup]) g.port_range.1 hport,
    getU64_of_lookup (by simp [UdpGrant.message, List.lookup]) hexpires g.expiresAt_range.2,
    getPositive_of_lookup (n := g.refreshAfterMs nowMs) (by simp [UdpGrant.message, List.lookup])
      (Nat.le_trans (by decide) hlow) hrefresh,
    getKey_of_lookup g.uplinkKey_length (by decide) (by decide) (by simp [UdpGrant.message, List.lookup]),
    getKey_of_lookup g.uplinkSalt_length (by decide) (by decide) (by simp [UdpGrant.message, List.lookup]),
    getKey_of_lookup g.downlinkKey_length (by decide) (by decide) (by simp [UdpGrant.message, List.lookup]),
    getKey_of_lookup g.downlinkSalt_length (by decide) (by decide) (by simp [UdpGrant.message, List.lookup]),
    getPositive_of_lookup (n := g.probeTimeoutMs) (by simp [UdpGrant.message, List.lookup])
      (Nat.le_trans (by decide) h.probeTimeout) hprobe]
  simp only [Option.bind_eq_bind, Option.bind_some, guard, if_pos g.port_range.2, if_pos (And.intro hlow hhigh),
    if_pos (And.intro h.probeTimeout g.probeTimeoutMs_le)]
  rfl

theorem getString_some {s v : String} {maximumBytes : Nat} {allowEmpty : Bool} (hs : fields.lookup key = some (.str s))
    (hnul : NulFree s) (h : Control.getString (.obj fields) key maximumBytes allowEmpty = some v) :
    utf8Length s.toList ≤ maximumBytes := by
  rw [Control.getString, Control.item, hs] at h
  dsimp only at h
  rw [cString_of_nulFree hnul] at h
  split at h
  · cases h
  · rename_i hfits
    rw [Bool.not_eq_true, Bool.or_eq_false_iff, decide_eq_false_iff_not] at hfits
    exact Nat.not_lt.mp hfits.2

theorem getU32_some {n m : Nat} {allowZero : Bool} (hn : fields.lookup key = some (nat n))
    (h : Control.getU32 (.obj fields) key allowZero = some m) : m = n := by
  rw [Control.getU32, Control.getInteger, Control.item, hn] at h
  obtain ⟨-, h⟩ := Option.ite_none_right_eq_some.mp h
  exact (Option.some.inj h).symm

/-- The grants that the firmware reads. -/
theorem parseUdpGrant_iff (hnul : NulFree g.host) :
    (Control.parseUdpGrant (.obj (g.message nowMs))).isSome ↔ g.Readable := by
  refine ⟨fun h => ?_, fun h => by rw [parseUdpGrant_message hnul h]; rfl⟩
  rw [Control.parseUdpGrant,
    if_pos (show Control.hasExactFields _ _ _ = true by simp [UdpGrant.message, Control.hasExactFields, List.lookup])]
    at h
  obtain ⟨decoded, hdecoded⟩ := Option.isSome_iff_exists.mp h
  simp only [Option.bind_eq_bind, Option.bind_eq_some_iff, guard] at hdecoded
  obtain ⟨host, hhost, port, -, _, -, _, -, _, -, _, -, _, -, _, -, _, -, _, -, probe, hprobe, _, hguard, -⟩ := hdecoded
  obtain rfl : probe = g.probeTimeoutMs := getU32_some (by simp [UdpGrant.message, List.lookup]) hprobe
  constructor
  · exact getString_some (by simp [UdpGrant.message]) hnul hhost
  · split at hguard
    · rename_i hrange
      exact hrange.1
    · cases hguard

end Grant

section Opened

variable {sessionId sessionEpoch requestId mediaId : String} {mediaEpoch : Nat} (profile : TransportProfile)
  (grant : Option Message)

/-- The grant that goes with the profile, as the firmware looks for it. -/
def grantOf (profile : TransportProfile) (grant : Option Message) : Option (Option Control.UdpGrant) :=
  match profile, grant with
  | .udpOpusGcm, some grant => (Control.parseUdpGrant (.obj grant)).map some
  | .wssOpus, none => some none
  | _, _ => none

def audioProfile : Json :=
  .obj [("codec", .str "opus"), ("sample_rate_hz", .int 16000), ("channels", .int 1), ("frame_duration_ms", .int 60)]

/-- All fields but the grant are always accepted. -/
theorem parseOpened_message (hid : identifierMatches sessionId = true) (hepoch : identifierMatches sessionEpoch = true)
    {bytes : List UInt8} (hrequest : identifierMatches requestId = true) (hlength : bytes.length = 8)
    (hmedia : 1 ≤ mediaEpoch ∧ mediaEpoch ≤ uint32Max) :
    Control.parseOpened (.obj ((ServerEvent.sessionOpened requestId (mediaIdText bytes) mediaEpoch profile grant).message
        sessionId sessionEpoch)) =
      (Control.valid (grantOf profile grant)).map fun udpGrant => .sessionOpened
        { requestId, session := { sessionId, sessionEpoch }, mediaId := bytes, mediaEpoch
          selectedMediaProfile := profileText profile, udpGrant, heartbeatIntervalMs := 15000, idleTimeoutMs := 45000 } := by
  obtain ⟨hsimple, hbytes⟩ := mediaIdText_simple bytes
  rw [hlength] at hbytes
  have hne : mediaIdText bytes ≠ "" := by
    intro hempty
    rw [hempty] at hbytes
    cases hbytes
  have hsize : utf8Length (mediaIdText bytes).toList ≤ 16 := ((utf8Length_simple hsimple).trans hbytes).le
  have hprofile : NulFree (profileText profile) ∧ profileText profile ≠ "" ∧
      utf8Length (profileText profile).toList ≤ 32 ∧ profileText profile ∈ [Control.wssProfile, Control.udpProfile] := by
    cases profile <;> decide
  rw [Control.parseOpened, getSession_of_lookup hid hepoch (by simp [ServerEvent.message, List.lookup])
      (by simp [ServerEvent.message, List.lookup]),
    getId_of_lookup (by simp [ServerEvent.message, List.lookup]) hrequest,
    getString_of_lookup (s := mediaIdText bytes) (by simp [ServerEvent.message, List.lookup]) (simple_nulFree hsimple)
      (fun _ => hne) hsize,
    Option.bind_some, parseMediaId_mediaIdText hlength,
    getPositive_of_lookup (n := mediaEpoch) (by simp [ServerEvent.message, List.lookup]) hmedia.1 hmedia.2,
    getString_of_lookup (s := profileText profile) (by simp [ServerEvent.message, List.lookup]) hprofile.1
      (fun _ => hprofile.2.1) hprofile.2.2.1,
    getPositive_of_lookup (n := 15000) (by simp [ServerEvent.message, List.lookup]; rfl) (by decide) (by decide),
    getPositive_of_lookup (n := 45000) (by simp [ServerEvent.message, List.lookup]; rfl) (by decide) (by decide),
    getPositive_of_lookup (n := controlMaxBytes) (by simp [ServerEvent.message, List.lookup]) (by decide) (by decide),
    show Control.hasExactFields _ _ _ = true by
      cases grant <;> simp [ServerEvent.message, Control.hasExactFields, List.lookup],
    show Control.item _ "audio" = some audioProfile by simp [ServerEvent.message, Control.item, List.lookup, audioProfile],
    show Control.item _ "udp_grant" = grant.map .obj by
      cases grant <;> simp [ServerEvent.message, Control.item, List.lookup]]
  have haudio : ((some audioProfile).map Control.isAudioProfile).getD false = true := by decide
  simp only [fields_true, valid_some, ok_bind, valid_guard haudio, valid_guard (show 5000 ≤ 15000 ∧ 15000 ≤ 60000 by decide),
    valid_guard (show 15000 ≤ 45000 ∧ 45000 ≤ 180000 by decide),
    valid_guard (show controlMaxBytes = Control.maxControlBytes from rfl), hprofile.2.2.2, not_true_eq_false, if_false]
  cases profile with
  | wssOpus =>
    cases grant with
    | none => rfl
    | some grant => rfl
  | udpOpusGcm =>
    cases grant with
    | none => rfl
    | some grant =>
      rw [if_pos (show profileText .udpOpusGcm = Control.udpProfile from rfl), Option.map_some, Option.bind_some, grantOf]
      cases Control.parseUdpGrant (.obj grant) with
      | none => rfl
      | some decoded => rfl

end Opened

/-- The strings of an event that its own checks leave free. -/
def ServerEvent.texts : ServerEvent → List String
  | .sessionOpened _ _ _ _ (some grant) => strings (.obj grant)
  | .transcriptDelta _ _ text => [text]
  | .transcriptFinal _ _ text => [text]
  | .responseText _ _ _ text => [text]
  | .sessionError _ _ message => [message]
  | _ => []

/-- No text of the event has a NUL or spells its escape. -/
def ServerEvent.Clean (e : ServerEvent) : Prop := ∀ s ∈ e.texts, Json.Clean s

instance (e : ServerEvent) : Decidable e.Clean := inferInstanceAs (Decidable (∀ s ∈ e.texts, Json.Clean s))

/-- The firmware can hold the grant of the event, if it has one. -/
def ServerEvent.GrantReadable : ServerEvent → Prop
  | .sessionOpened _ _ _ _ (some grant) => ∃ (g : UdpGrant) (nowMs : Int), grant = g.message nowMs ∧ g.Readable
  | _ => True

def ServerEvent.typeText : ServerEvent → String
  | .sessionOpened .. => "session.opened"
  | .transcriptDelta .. => "transcript.delta"
  | .transcriptFinal .. => "transcript.final"
  | .responseBegin .. => "response.begin"
  | .responseText .. => "response.text"
  | .responseEnd .. => "response.end"
  | .playbackStop .. => "playback.stop"
  | .sessionError .. => "session.error"
  | .sessionClose .. => "session.close"

theorem lookup_type (e : ServerEvent) (sessionId sessionEpoch : String) :
    (e.message sessionId sessionEpoch).lookup "type" = some (.str e.typeText) := by
  cases e <;> rfl

section Message

variable {e : ServerEvent} {sessionId sessionEpoch : String} (hid : identifierMatches sessionId = true)
  (hepoch : identifierMatches sessionEpoch = true) (h : e.Admitted)

include hid hepoch h

/-- Every other string is an identifier, a constant or a key. -/
theorem strings_message : ∀ s ∈ strings (.obj (e.message sessionId sessionEpoch)), Simple s ∨ s ∈ e.texts := by
  have hid := (identifier_simple hid).1
  have hepoch := (identifier_simple hepoch).1
  cases e with
  | sessionOpened requestId mediaId mediaEpoch profile grant =>
    obtain ⟨hrequest, ⟨bytes, -, rfl⟩, -, -⟩ := h
    have hrequest := (identifier_simple hrequest).1
    have hmediaId := (mediaIdText_simple bytes).1
    have hprofile : Simple (profileText profile) := by cases profile <;> decide
    cases grant with
    | none =>
      simp +decide [ServerEvent.message, strings, stringsFields, nat, ServerEvent.texts, hid, hepoch, hrequest, hmediaId,
        hprofile]
    | some grant =>
      simp +decide [ServerEvent.message, strings, stringsFields, nat, ServerEvent.texts, hid, hepoch, hrequest, hmediaId,
        hprofile]
      exact fun s hs => .inr hs
  | transcriptDelta utteranceId sequence text =>
    have hutterance := (identifier_simple h.1).1
    simp +decide [ServerEvent.message, strings, stringsFields, nat, ServerEvent.texts, hid, hepoch, hutterance]
  | transcriptFinal utteranceId sequence text =>
    have hutterance := (identifier_simple h.1).1
    simp +decide [ServerEvent.message, strings, stringsFields, nat, ServerEvent.texts, hid, hepoch, hutterance]
  | responseBegin responseId generation =>
    have hresponse := (identifier_simple h.1).1
    simp +decide [ServerEvent.message, strings, stringsFields, nat, ServerEvent.texts, hid, hepoch, hresponse]
  | responseText responseId generation sequence text =>
    have hresponse := (identifier_simple h.1).1
    simp +decide [ServerEvent.message, strings, stringsFields, nat, ServerEvent.texts, hid, hepoch, hresponse]
  | responseEnd responseId generation outcome errorCode finalMediaSequence =>
    have hresponse := (identifier_simple h.1).1
    obtain ⟨-, -, hvalues⟩ := h
    cases outcome with
    | completed =>
      obtain ⟨rfl, n, rfl, -⟩ := hvalues
      simp +decide [ServerEvent.message, strings, stringsFields, nat, ServerEvent.texts, hid, hepoch, hresponse]
    | cancelled =>
      obtain ⟨rfl, rfl⟩ := hvalues
      simp +decide [ServerEvent.message, strings, stringsFields, nat, ServerEvent.texts, hid, hepoch, hresponse]
    | failed =>
      obtain ⟨rfl, rfl⟩ := hvalues
      simp +decide [ServerEvent.message, strings, stringsFields, nat, ServerEvent.texts, hid, hepoch, hresponse]
  | playbackStop responseId generation fenceGeneration cause =>
    have hresponse := (identifier_simple h.1).1
    have hcause : Simple cause.text := by cases cause <;> decide
    simp +decide [ServerEvent.message, strings, stringsFields, nat, ServerEvent.texts, hid, hepoch, hresponse, hcause]
  | sessionError code retryable message =>
    have hcode := (errorCode_simple h.1).1
    simp +decide [ServerEvent.message, strings, stringsFields, ServerEvent.texts, hid, hepoch, hcode]
  | sessionClose reason =>
    have hreason : ∀ reason ∈ Binding.closeReasons, Simple reason := by decide
    simp +decide [ServerEvent.message, strings, stringsFields, ServerEvent.texts, hid, hepoch, hreason reason h]

omit hid hepoch h in
theorem texts_subset : ∀ s ∈ e.texts, s ∈ strings (.obj (e.message sessionId sessionEpoch)) := by
  cases e with
  | sessionOpened requestId mediaId mediaEpoch profile grant =>
    cases grant with
    | none => simp [ServerEvent.texts]
    | some grant =>
      intro s hs
      exact strings_obj.mpr ⟨("udp_grant", .obj grant), by simp [ServerEvent.message], .inr hs⟩
  | _ => simp [ServerEvent.texts, ServerEvent.message, strings, stringsFields]

omit hid hepoch h in
theorem plain_grant {exact : Int → Prop} (hexact : ∀ n : Nat, n ≤ uint53Max → exact n) (g : UdpGrant) (nowMs : Int) :
    Plain exact (fun _ => True) 2 (.obj (g.message nowMs)) := by
  have hport := hexact _ (g.port_range.2.trans (by decide))
  have hexpires := hexact _ g.expiresAt_range.2
  have hrefresh := hexact _ ((refreshAfterMs_range g nowMs).2.trans (by decide))
  have hprobe := hexact _ (g.probeTimeoutMs_le.trans (by decide))
  push_cast at hexpires
  simp [UdpGrant.message, Plain, nat, hport, hexpires, hrefresh, hprobe]

omit hid hepoch in
theorem plain_message {exact : Int → Prop} (hexact : ∀ n : Nat, n ≤ uint53Max → exact n) (hrange : e.InRange) :
    Plain exact (fun _ => True) 3 (.obj (e.message sessionId sessionEpoch)) := by
  have hsmall : ∀ n : Nat, n ≤ uint32Max → exact n := fun n hn => hexact n (hn.trans (by decide))
  cases e with
  | sessionOpened requestId mediaId mediaEpoch profile grant =>
    obtain ⟨-, -, hmedia, hgrant⟩ := h
    have hconst : exact 16000 ∧ exact 1 ∧ exact 60 ∧ exact 15000 ∧ exact 45000 ∧ exact (controlMaxBytes : Nat) :=
      ⟨hsmall 16000 (by decide), hsmall 1 (by decide), hsmall 60 (by decide), hsmall 15000 (by decide),
        hsmall 45000 (by decide), hsmall controlMaxBytes (by decide)⟩
    have hgrant : ∀ m, grant = some m → Plain exact (fun _ => True) 2 (.obj m) := by
      rintro m rfl
      cases profile with
      | wssOpus => cases hgrant
      | udpOpusGcm =>
        obtain ⟨g, nowMs, hm⟩ := hgrant
        exact Option.some.inj hm ▸ plain_grant hexact g nowMs
    cases grant with
    | none => simp [ServerEvent.message, Plain, nat, hsmall _ hmedia.2, hconst]
    | some m =>
      have hplain := hgrant m rfl
      simp only [Plain, true_and] at hplain
      simpa [ServerEvent.message, Plain, nat, hsmall _ hmedia.2, hconst] using hplain
  | transcriptDelta utteranceId sequence text => simp [ServerEvent.message, Plain, nat, hsmall _ h.2.1]
  | transcriptFinal utteranceId sequence text => simp [ServerEvent.message, Plain, nat, hsmall _ h.2.1]
  | responseBegin responseId generation => simp [ServerEvent.message, Plain, nat, hsmall _ hrange]
  | responseText responseId generation sequence text =>
    simp [ServerEvent.message, Plain, nat, hsmall _ hrange, hsmall _ h.2.2.1]
  | responseEnd responseId generation outcome errorCode finalMediaSequence =>
    obtain ⟨-, -, hvalues⟩ := h
    cases outcome with
    | completed =>
      obtain ⟨rfl, n, rfl, hn⟩ := hvalues
      simp [ServerEvent.message, Plain, nat, hsmall _ hrange, hsmall _ hn]
    | cancelled =>
      obtain ⟨rfl, rfl⟩ := hvalues
      simp [ServerEvent.message, Plain, nat, hsmall _ hrange]
    | failed =>
      obtain ⟨rfl, rfl⟩ := hvalues
      simp [ServerEvent.message, Plain, nat, hsmall _ hrange]
  | playbackStop responseId generation fenceGeneration cause =>
    simp [ServerEvent.message, Plain, nat, hsmall _ hrange, hsmall generation (h.2.2.le.trans hrange)]
  | sessionError code retryable message => simp [ServerEvent.message, Plain]
  | sessionClose reason => simp [ServerEvent.message, Plain]

omit hid hepoch in
/-- The grant that the firmware finds in the event is there if and only if the firmware can hold it. -/
theorem grantOf_readable {requestId mediaId : String} {mediaEpoch : Nat} {profile : TransportProfile}
    {grant : Option Message} (he : e = .sessionOpened requestId mediaId mediaEpoch profile grant)
    (hnul : ∀ s ∈ e.texts, NulFree s) :
    (e.GrantReadable → ∃ decoded, grantOf profile grant = some decoded ∧ GrantDecodes grant decoded) ∧
      (grantOf profile grant ≠ none → e.GrantReadable) := by
  subst he
  obtain ⟨-, -, -, hgrant⟩ := h
  cases profile with
  | wssOpus =>
    obtain rfl : grant = none := hgrant
    exact ⟨fun _ => ⟨none, rfl, trivial⟩, fun _ => trivial⟩
  | udpOpusGcm =>
    obtain ⟨g, nowMs, rfl⟩ := hgrant
    have hhost : ∀ g' nowMs', g.message nowMs = UdpGrant.message g' nowMs' → NulFree g'.host := by
      intro g' nowMs' hsame
      refine hnul _ (strings_obj.mpr ⟨("host", .str g'.host), ?_, .inr (by simp [strings])⟩)
      rw [hsame]
      exact List.mem_cons_self
    constructor
    · rintro ⟨g', nowMs', hsame, hreadable⟩
      refine ⟨some (g'.decoded nowMs'), ?_, g', nowMs', hsame, rfl⟩
      rw [grantOf, hsame, parseUdpGrant_message (hhost g' nowMs' hsame) hreadable]
      rfl
    · intro hsome
      have hparsed : (Control.parseUdpGrant (.obj (g.message nowMs))).isSome := by
        rw [grantOf, ne_eq, Option.map_eq_none_iff] at hsome
        exact Option.isSome_iff_ne_none.mpr hsome
      exact ⟨g, nowMs, rfl, (parseUdpGrant_iff (hhost g nowMs rfl)).mp hparsed⟩

/-- The firmware reads every event whose texts have no NUL, except one whose grant it cannot hold. -/
theorem parseMessage_ok (hrange : e.InRange) (hnul : ∀ s ∈ e.texts, NulFree s) (hready : e.GrantReadable) :
    ∃ m, Control.parseMessage (.obj (e.message sessionId sessionEpoch)) e.typeText = .ok m ∧
      e.DecodesTo sessionId sessionEpoch m := by
  cases e with
  | sessionOpened requestId mediaId mediaEpoch profile grant =>
    obtain ⟨decoded, hgrant, hdecodes⟩ := (grantOf_readable h rfl hnul).1 hready
    obtain ⟨hrequest, ⟨bytes, hlength, rfl⟩, hmedia, -⟩ := h
    have hparse := parseOpened_message profile grant hid hepoch hrequest hlength hmedia
    rw [hgrant, valid_some] at hparse
    exact ⟨_, hparse, bytes, decoded, rfl, hdecodes, rfl⟩
  | transcriptDelta utteranceId sequence text =>
    obtain ⟨hutterance, hsequence, hsize, hempty⟩ := h
    exact ⟨_, parseTranscript_message hid hepoch hutterance hsequence (hnul text (by simp [ServerEvent.texts]))
      (fun _ => hempty) hsize, rfl⟩
  | transcriptFinal utteranceId sequence text =>
    obtain ⟨hutterance, hsequence, hsize⟩ := h
    exact ⟨_, parseTranscript_message hid hepoch hutterance hsequence (hnul text (by simp [ServerEvent.texts]))
      (fun hfinal => by cases hfinal) hsize, rfl⟩
  | responseBegin responseId generation =>
    exact ⟨_, parseResponse_begin hid hepoch h.1 h.2 hrange, rfl⟩
  | responseText responseId generation sequence text =>
    obtain ⟨hresponse, hmin, hsequence, hsize, hempty⟩ := h
    exact ⟨_, parseResponse_text hid hepoch hresponse hmin hrange hsequence (hnul text (by simp [ServerEvent.texts]))
      hempty hsize, rfl⟩
  | responseEnd responseId generation outcome errorCode finalMediaSequence =>
    exact ⟨_, parseResponse_end hid hepoch h hrange, rfl⟩
  | playbackStop responseId generation fenceGeneration cause =>
    exact ⟨_, parsePlaybackStop_message hid hepoch h.1 h.2.1 h.2.2 hrange, rfl⟩
  | sessionError code retryable message =>
    exact ⟨_, parseError_message hid hepoch h.1 (hnul message (by simp [ServerEvent.texts])) h.2, rfl⟩
  | sessionClose reason => exact ⟨_, parseClose_message hid hepoch h, rfl⟩

theorem parseMessage_unreadable (hnul : ∀ s ∈ e.texts, NulFree s) (hready : ¬e.GrantReadable) :
    Control.parseMessage (.obj (e.message sessionId sessionEpoch)) e.typeText = .error .missingOrInvalidField := by
  cases e with
  | sessionOpened requestId mediaId mediaEpoch profile grant =>
    have hnone := not_imp_comm.mp (grantOf_readable h rfl hnul).2 hready
    obtain ⟨hrequest, ⟨bytes, hlength, rfl⟩, hmedia, -⟩ := h
    have hparse := parseOpened_message profile grant hid hepoch hrequest hlength hmedia
    rw [hnone] at hparse
    exact hparse
  | _ => exact absurd trivial hready

omit hid hepoch h in
theorem getString_type :
    Control.getString (.obj (e.message sessionId sessionEpoch)) "type" 32 false = some e.typeText := by
  have htype : NulFree e.typeText ∧ e.typeText ≠ "" ∧ utf8Length e.typeText.toList ≤ 32 := by
    cases e <;> dsimp only [ServerEvent.typeText] <;> decide
  exact getString_of_lookup (lookup_type e sessionId sessionEpoch) htype.1 (fun _ => htype.2.1) htype.2.2

/-- What the firmware makes of the text of an event. -/
theorem parseServerMessage_event {cJSON : List Char → Option Json} {exact : Int → Prop} (hread : Reads exact cJSON)
    (hexact : ∀ n : Nat, n ≤ uint53Max → exact n) (hrange : e.InRange) {data : List Char}
    (hdata : encodeControl (e.message sessionId sessionEpoch) = .ok data) :
    (¬e.Clean → Control.parseServerMessage cJSON data = .error .malformedJson) ∧
    (e.Clean → Control.parseServerMessage cJSON data =
      Control.parseMessage (.obj (e.message sessionId sessionEpoch)) e.typeText) := by
  have hplain := @plain_message e sessionId sessionEpoch h _ hexact hrange
  have hclean : Control.escapedNull <:+: dumps (.obj (e.message sessionId sessionEpoch)) ↔ ¬e.Clean := by
    change escapedNull <:+: _ ↔ _
    rw [escapedNull_infix_dumps hplain, ServerEvent.Clean, not_forall]
    simp only [not_forall, exists_prop]
    constructor
    · rintro ⟨s, hs, hnot⟩
      obtain hsimple | htext := strings_message hid hepoch h s hs
      · exact absurd (simple_clean hsimple) hnot
      · exact ⟨s, htext, hnot⟩
    · rintro ⟨s, hs, hnot⟩
      exact ⟨s, texts_subset s hs, hnot⟩
  rw [encodeControl] at hdata
  split at hdata
  · cases hdata
  rename_i hfits
  change ¬_ > Control.maxControlBytes at hfits
  obtain rfl := Except.ok.inj hdata
  have hnil : dumps (.obj (e.message sessionId sessionEpoch)) ≠ [] := by simp [dumps]
  rw [Control.parseServerMessage, if_neg hnil, if_neg hfits, if_neg (nul_not_mem_dumps hplain)]
  constructor
  · intro hnot
    rw [if_pos (hclean.mpr hnot)]
  · intro he
    have hnulFree : Plain exact NulFree 3 (.obj (e.message sessionId sessionEpoch)) := by
      refine hplain.mono fun s hs _ => ?_
      obtain hsimple | htext := strings_message hid hepoch h s hs
      · exact simple_nulFree hsimple
      · exact (he s htext).1
    rw [if_neg fun hinfix => hclean.mp hinfix he, hread 3 (by decide) _ hnulFree]
    dsimp only
    rw [getString_type]

/-- The firmware reads the text of an event if and only if the texts of the event are clean and it can
hold the grant, and then it reads the values of the event. -/
theorem parseServerMessage_iff {cJSON : List Char → Option Json} {exact : Int → Prop} (hread : Reads exact cJSON)
    (hexact : ∀ n : Nat, n ≤ uint53Max → exact n) (hrange : e.InRange) {data : List Char}
    (hdata : encodeControl (e.message sessionId sessionEpoch) = .ok data) :
    ((∃ m, Control.parseServerMessage cJSON data = .ok m) ↔ e.Clean ∧ e.GrantReadable) ∧
      ∀ m, Control.parseServerMessage cJSON data = .ok m → e.DecodesTo sessionId sessionEpoch m := by
  obtain ⟨hunclean, hclean⟩ := parseServerMessage_event hid hepoch h hread hexact hrange hdata
  by_cases he : e.Clean
  · have hnul : ∀ s ∈ e.texts, NulFree s := fun s hs => (he s hs).1
    by_cases hready : e.GrantReadable
    · obtain ⟨m, hm, hdecodes⟩ := parseMessage_ok hid hepoch h hrange hnul hready
      rw [hclean he, hm]
      refine ⟨iff_of_true ⟨m, rfl⟩ ⟨he, hready⟩, ?_⟩
      intro m' hm'
      exact Except.ok.inj hm' ▸ hdecodes
    · rw [hclean he, parseMessage_unreadable hid hepoch h hnul hready]
      exact ⟨iff_of_false (fun ⟨_, hm⟩ => by cases hm) fun hboth => hready hboth.2, fun m hm => by cases hm⟩
  · rw [hunclean he]
    exact ⟨iff_of_false (fun ⟨_, hm⟩ => by cases hm) fun hboth => he hboth.1, fun m hm => by cases hm⟩

end Message

/-- What the size check lets through, and what the 32 bits of the wire can hold. -/
structure Sent (b : Binding) (e : ServerEvent) : Prop where
  fits : e.Fits b
  inRange : b.responses.session.generation ≤ uint32Max → e.InRange

namespace Binding

variable {b b' : Binding}

theorem emits_sent {e : ServerEvent} {f : ServerEvent → Reply} {P : ServerEvent → Prop}
    (h : e.Fits b → ∀ e' ∈ (f e).emits, P e') : ∀ e' ∈ emits ((b.event e).map f), P e' := by
  cases he : b.event e with
  | error error => simp [emits, Except.map]
  | ok e' =>
    obtain rfl := event_ok he
    exact h (fits_of_event he)

/-- The events of an applied fence, each within the size limit. -/
theorem fenceEffect_sent {r : Ref} {cause : StopCause} {effect : ControlEffect} {g : Nat}
    (h : b.fenceEffect r g cause = .ok effect) (hg : g ≤ b.responses.session.generation)
    (hc : b.responses.Consistent) : ∀ e ∈ effect.outbound, Sent b e := by
  rw [fenceEffect] at h
  split at h
  · simp at h
  rename_i rec hrec
  simp only [bind_ok] at h
  obtain ⟨stop, hstop, h⟩ := h
  obtain rfl := event_ok hstop
  have hsent : Sent b (.playbackStop rec.responseId rec.target.generation g cause) :=
    ⟨fits_of_event hstop, fun hmax => hg.trans hmax⟩
  split at h
  · obtain rfl := pure_ok.mp h
    simpa using hsent
  · simp only [bind_ok, pure_ok] at h
    obtain ⟨e, he, rfl⟩ := h
    obtain rfl := event_ok he
    have hend : Sent b (.responseEnd rec.responseId rec.target.generation (stopOutcome cause) (stopErrorCode cause)
        none) := ⟨fits_of_event he, fun hmax => (hc.generation_le r rec hrec).trans hmax⟩
    simpa using ⟨hsent, hend⟩

theorem fence_generation {r : Ref} {cause : StopCause} {responses : Coordinator} {g : Nat}
    (h : b.responses.fence r (stopOutcome cause) (stopErrorCode cause) = .ok (responses, g)) :
    responses.session.generation = g := by
  obtain ⟨-, -, -, -, -, -, -, hg, -⟩ := Coordinator.moves_fenced (Coordinator.fence_moves h (stopOutcome_ne cause))
  exact hg

/-- Everything that a call emits has gone through the size check. -/
theorem effect_sent {c : Call} {result : Result} (h : Effect b c b' result) (hc : b'.responses.Consistent) :
    ∀ e ∈ emits result, Sent b' e := by
  have hplain : ∀ {e : ServerEvent}, e.Fits b' → e.InRange → Sent b' e := fun hfits hrange => ⟨hfits, fun _ => hrange⟩
  cases h with
  | opened _ _ _ _ _ _ hb' =>
    refine emits_sent fun hfits e' he' => ?_
    obtain rfl := List.mem_singleton.mp he'
    exact hplain hfits trivial
  | fenced _ _ hfence hb' =>
    subst hb'
    intro e he
    generalize heffect : Binding.fenceEffect _ _ _ _ = outcome at he
    cases outcome with
    | error error => cases he
    | ok effect => exact fenceEffect_sent heffect (fence_generation hfence).ge hc e he
  | fencedOnRequest _ _ hfence hb' heffect =>
    subst hb'
    intro e he
    obtain ⟨hfits, hrange⟩ := fenceEffect_sent heffect (fence_generation hfence).ge hc e he
    exact ⟨hfits, hrange⟩
  | fencedOnClose _ _ hfence hb' heffect _ =>
    subst hb'
    refine emits_sent fun hfits e' he' => ?_
    obtain he' | he' := List.mem_append.mp he'
    · exact fenceEffect_sent heffect (fence_generation hfence).ge hc e' he'
    · obtain rfl := List.mem_singleton.mp he'
      exact hplain hfits trivial
  | closing _ _ _ =>
    refine emits_sent fun hfits e' he' => ?_
    obtain rfl := List.mem_singleton.mp he'
    exact hplain hfits trivial
  | @ended _ _ _ fact _ _ => cases fact <;> simp [emits, Except.map, Reply.emits]
  | serialized _ _ _ _ hresult =>
    intro e he
    cases result with
    | error error => cases he
    | ok reply =>
      obtain ⟨frame, rfl⟩ := serialized_media hresult.symm
      cases he
  | transcribed final _ _ _ _ _ _ _ _ he =>
    refine emits_sent fun hfits e' he' => ?_
    obtain rfl := List.mem_singleton.mp he'
    refine hplain hfits ?_
    subst he
    cases final <;> exact trivial
  | @begun _ _ _ r rec _ _ _ _ hrec hb' =>
    subst hb'
    refine emits_sent fun hfits e' he' => ?_
    obtain rfl := List.mem_singleton.mp he'
    exact ⟨hfits, fun hmax => (hc.generation_le r rec hrec).trans hmax⟩
  | @texted r rec _ _ _ _ _ hrec _ _ _ _ hb' =>
    subst hb'
    refine emits_sent fun hfits e' he' => ?_
    obtain rfl := List.mem_singleton.mp he'
    exact ⟨hfits, fun hmax => (hc.generation_le r rec hrec).trans hmax⟩
  | @completed r rec _ _ _ _ hrec hb' =>
    subst hb'
    refine emits_sent fun hfits e' he' => ?_
    obtain rfl := List.mem_singleton.mp he'
    exact ⟨hfits, fun hmax => (hc.generation_le r rec hrec).trans hmax⟩
  | errored _ _ _ =>
    refine emits_sent fun hfits e' he' => ?_
    obtain rfl := List.mem_singleton.mp he'
    exact hplain hfits trivial
  | _ => simp [emits, Reply.emits]

theorem effect_generation {c : Call} {result : Result} (h : Effect b c b' result) :
    b.responses.session.generation ≤ b'.responses.session.generation := by
  obtain ⟨a, hmade⟩ := effect_made h
  exact Coordinator.moves_generation hmade.moves

theorem run_sent {config : BindingConfig} {es : List Event} (h : Run Step (.init config) es b) :
    b.config = config ∧ ∀ e ∈ emitted es, Sent b e := by
  refine h.invariant (R := fun es b => b.config = config ∧ ∀ e ∈ emitted es, Sent b e) ⟨rfl, by simp [emitted]⟩ ?_
  rintro es t e u hr ⟨hconfig, hall⟩ hs
  have heffect := step_effect hs
  have hsame := effect_config heffect
  refine ⟨hsame.trans hconfig, fun e' he' => ?_⟩
  rw [emitted_snoc, List.mem_append] at he'
  obtain he' | he' := he'
  · obtain ⟨hfits, hrange⟩ := hall e' he'
    refine ⟨?_, fun hmax => hrange ((effect_generation heffect).trans hmax)⟩
    rw [ServerEvent.Fits, hsame]
    exact hfits
  · exact effect_sent heffect (step_consistent hs (run_consistent hr)) e' he'

/-- In every run whose generations fit 32 bits, the firmware reads the text of an event that the binding
emits if and only if no text of the event has a NUL or spells its escape and the firmware can hold the
grant of the event. It then has the values of the event. -/
theorem control_channel {config : BindingConfig} (hgrant : Granted config) {es : List Event}
    (h : Run Step (.init config) es b) (hmax : b.responses.session.generation ≤ uint32Max)
    {cJSON : List Char → Option Json} {exact : Int → Prop} (hread : Reads exact cJSON)
    (hexact : ∀ n : Nat, n ≤ uint53Max → exact n) :
    ∀ e ∈ emitted es, ∃ data, encodeControl (e.message config.sessionId config.sessionEpoch) = .ok data ∧
      ((∃ m, Control.parseServerMessage cJSON data = .ok m) ↔ e.Clean ∧ e.GrantReadable) ∧
      ∀ m, Control.parseServerMessage cJSON data = .ok m → e.DecodesTo config.sessionId config.sessionEpoch m := by
  intro e he
  obtain ⟨rfl, hsent⟩ := run_sent h
  obtain ⟨hfits, hrange⟩ := hsent e he
  have hdata : encodeControl (e.message b.config.sessionId b.config.sessionEpoch) =
      .ok (dumps (.obj (e.message b.config.sessionId b.config.sessionEpoch))) := by
    rw [encodeControl, if_neg (Nat.not_lt.mpr hfits)]
  exact ⟨_, hdata, parseServerMessage_iff b.config.sessionId_valid b.config.sessionEpoch_valid
    (run_admitted hgrant h e he) hread hexact (hrange hmax) hdata⟩

def demoGrant : UdpGrant where
  host := "media.local"
  port := 41000
  expiresAt := 1900000000
  uplinkKey := [0, 1, 2, 3, 4, 5, 6, 7, 8, 9, 10, 11, 12, 13, 14, 15]
  uplinkSalt := [16, 17, 18, 19, 20, 21, 22, 23]
  downlinkKey := [32, 33, 34, 35, 36, 37, 38, 39, 40, 41, 42, 43, 44, 45, 46, 47]
  downlinkSalt := [48, 49, 50, 51, 52, 53, 54, 55]
  probeTimeoutMs := 3000
  host_ne := by decide
  port_range := by decide
  expiresAt_range := by decide
  uplinkKey_length := rfl
  uplinkSalt_length := rfl
  downlinkKey_length := rfl
  downlinkSalt_length := rfl
  probeTimeoutMs_le := by decide

/-- A grant whose probe timeout is shorter than a client takes. -/
def demoHasty : UdpGrant := { demoGrant with probeTimeoutMs := 50, probeTimeoutMs_le := by decide }

def demoGranted (g : UdpGrant) : BindingConfig :=
  { demoConfig with allowedProfiles := [.udpOpusGcm], udpGrant := some (g.message 1899990000000) }

theorem granted_demo (g : UdpGrant) : Granted (demoGranted g) := by
  intro m hm
  exact ⟨g, 1899990000000, (Option.some.inj hm).symm⟩

/-- A session over UDP with two transcripts, of which the second has a NUL. -/
def demoTranscripts : List Call :=
  [.receiveControl demoUdpOpen, .transcriptFinal "u1" 0 "turn on \\u00e9", .transcriptFinal "u2" 0 "off\x00"]

def demoRun (g : UdpGrant) : List Event := history call (.init (demoGranted g)) demoTranscripts

/-- Whether the firmware reads the text of an event. -/
def demoRead (e : ServerEvent) : Bool :=
  (encodeControl (e.message "s1" "e1")).toOption.any fun data => (Control.parseServerMessage Json.read data).isOk

theorem control_channel_demo :
    (emitted (demoRun demoGrant)).map demoRead = [true, true, false] ∧
      (emitted (demoRun demoHasty)).head?.map demoRead = some false ∧
      ∀ g, g = demoGrant ∨ g = demoHasty → ∀ e ∈ emitted (demoRun g), ∃ data,
        encodeControl (e.message "s1" "e1") = .ok data ∧
        ((∃ m, Control.parseServerMessage Json.read data = .ok m) ↔ e.Clean ∧ e.GrantReadable) ∧
        ∀ m, Control.parseServerMessage Json.read data = .ok m → e.DecodesTo "s1" "e1" m := by
  refine ⟨by decide +kernel, by decide +kernel, ?_⟩
  rintro g (rfl | rfl)
  · exact control_channel (granted_demo demoGrant) (run_history call _ demoTranscripts) (by decide +kernel)
      (reads_read fun _ => True) fun _ _ => trivial
  · exact control_channel (granted_demo demoHasty) (run_history call _ demoTranscripts) (by decide +kernel)
      (reads_read fun _ => True) fun _ _ => trivial

end Binding

end RealtimeVoice.Rva
