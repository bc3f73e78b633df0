import RealtimeVoice.Base.Runs
import RealtimeVoice.Base.Utf8

namespace RealtimeVoice.Firmware.Ui

open RealtimeVoice.Base RealtimeVoice.Base.Runs

abbrev Bytes := List UInt8

/-- The loop of `TruncateUtf8`, down from the byte at `cut`. Behind the text a `std::string`
has a zero. -/
def backUp (text : Bytes) : Nat → Nat
  | 0 => 0
  | cut + 1 => if text.getD (cut + 1) 0 &&& 0xC0 == 0x80 then backUp text cut else cut + 1

def truncateUtf8 (text : Bytes) (maxBytes : Nat) : Bytes :=
  if text.length ≤ maxBytes then text else text.take (backUp text maxBytes)

section Truncate

variable {text : Bytes} {cut maxBytes : Nat}

theorem backUp_le (text : Bytes) (cut : Nat) : backUp text cut ≤ cut := by
  induction cut with
  | zero => exact le_rfl
  | succ cut ih =>
    rw [backUp]
    split_ifs
    · exact ih.trans (Nat.le_succ cut)
    · exact le_rfl

theorem continuation_iff (h : cut < text.length) :
    (text.getD cut 0 &&& 0xC0 == 0x80) = true ↔ Utf8.Continuation text[cut] := by
  rw [List.getD_eq_getElem _ _ h, beq_iff_eq, Utf8.Continuation]

/-- The loop ends between two characters. -/
theorem backUp_valid (h : Utf8.Valid text) (hcut : cut < text.length) : Utf8.Valid (text.take (backUp text cut)) := by
  induction cut with
  | zero => exact Utf8.valid_nil
  | succ cut ih =>
    rw [backUp]
    split_ifs with hcontinuation
    · exact ih (Nat.lt_of_succ_lt hcut)
    · rw [h.take_iff hcut, ← continuation_iff hcut]
      exact hcontinuation

/-- The loop passes no place between two characters. -/
theorem le_backUp (h : Utf8.Valid text) (hcut : cut < text.length) {n : Nat} (hn : n ≤ cut)
    (hvalid : Utf8.Valid (text.take n)) : n ≤ backUp text cut := by
  induction cut with
  | zero => exact hn
  | succ cut ih =>
    rw [backUp]
    split_ifs with hcontinuation
    · have hne : n ≠ cut + 1 := by
        rintro rfl
        exact (h.take_iff hcut).mp hvalid ((continuation_iff hcut).mp hcontinuation)
      exact ih (Nat.lt_of_succ_lt hcut) (by omega)
    · exact hn

theorem truncateUtf8_front (text : Bytes) (maxBytes : Nat) : truncateUtf8 text maxBytes <+: text := by
  rw [truncateUtf8]
  split_ifs
  · exact List.prefix_rfl
  · exact List.take_prefix _ _

theorem length_truncateUtf8 (text : Bytes) (maxBytes : Nat) : (truncateUtf8 text maxBytes).length ≤ maxBytes := by
  rw [truncateUtf8]
  split_ifs with hfits
  · exact hfits
  · exact (List.length_take_le _ _).trans (backUp_le text maxBytes)

theorem truncateUtf8_valid (h : Utf8.Valid text) (maxBytes : Nat) : Utf8.Valid (truncateUtf8 text maxBytes) := by
  rw [truncateUtf8]
  split_ifs with hfits
  · exact h
  · exact backUp_valid h (not_le.mp hfits)

theorem front_truncateUtf8 (h : Utf8.Valid text) {front : Bytes} (hfront : front <+: text)
    (hvalid : Utf8.Valid front) (hlength : front.length ≤ maxBytes) : front <+: truncateUtf8 text maxBytes := by
  rw [truncateUtf8]
  split_ifs with hfits
  · exact hfront
  · rw [List.prefix_iff_eq_take] at hfront
    rw [hfront] at hvalid ⊢
    exact List.take_prefix_take_left (le_backUp h (not_le.mp hfits) hlength hvalid)

theorem truncateUtf8_of_le (h : text.length ≤ maxBytes) : truncateUtf8 text maxBytes = text := if_pos h

/-- A text is cut to its longest beginning of whole characters within the limit, and not at all
when it is within the limit. -/
theorem truncateUtf8_longest (h : Utf8.Valid text) (maxBytes : Nat) :
    truncateUtf8 text maxBytes <+: text ∧ (truncateUtf8 text maxBytes).length ≤ maxBytes ∧
      Utf8.Valid (truncateUtf8 text maxBytes) ∧
      (∀ front, front <+: text → Utf8.Valid front → front.length ≤ maxBytes →
        front <+: truncateUtf8 text maxBytes) ∧
      (text.length ≤ maxBytes → truncateUtf8 text maxBytes = text) := by
  refine ⟨truncateUtf8_front text maxBytes, length_truncateUtf8 text maxBytes, truncateUtf8_valid h maxBytes, ?_, ?_⟩
  · intro front hfront hvalid hlength
    exact front_truncateUtf8 h hfront hvalid hlength
  · exact truncateUtf8_of_le

end Truncate

/-- The text of the host test: a limit of four bytes is inside its second character. -/
def chinese : Bytes := ['中', '文', '语', '音'].flatMap String.utf8EncodeChar

theorem truncateUtf8_longest_chinese : truncateUtf8 chinese 4 <+: chinese ∧ Utf8.Valid (truncateUtf8 chinese 4) ∧
    truncateUtf8 chinese 4 = String.utf8EncodeChar '中' := by
  have hvalid : Utf8.Valid chinese := ByteArray.isValidUTF8_utf8Encode
  obtain ⟨hfront, -, hwhole, -⟩ := truncateUtf8_longest hvalid 4
  exact ⟨hfront, hwhole, by decide +kernel⟩

inductive ConnectionState
  | offline | connecting | online | error
deriving DecidableEq

inductive ConversationState
  | idle | connecting | listening | thinking | speaking
deriving DecidableEq

inductive Transport
  | wss | udp
deriving DecidableEq

inductive Page
  | home | wifi | wifiKeyboard | endpoint
deriving DecidableEq

structure WifiNetwork where
  ssid : Bytes
  rssi : Int8 := -127
  secured : Bool := true
deriving DecidableEq

structure UiState where
  connection : ConnectionState := .offline
  conversation : ConversationState := .idle
  preferredTransport : Transport := .wss
  activeTransport : Transport := .wss
  page : Page := .home
  asrText : Bytes := []
  responseText : Bytes := []
  wifiNetworks : List WifiNetwork := []
  selectedSsid : Bytes := []
  endpointDraft : Bytes := []
  configMessage : Bytes := []
deriving DecidableEq

inductive CommandKind
  | setConnection | setConversation | setPreferredTransport | setActiveTransport
  | setAsrText | appendAsrText | setResponseText | appendResponseText | clearTranscript
  | openWifi | clearWifiNetworks | addWifiNetwork | openWifiKeyboard
  | openEndpoint | setEndpointDraft | setConfigMessage
  | backHome | settingsPressed | micPressed | transportPressed
deriving DecidableEq

structure UiCommand where
  kind : CommandKind := .setConnection
  value : UInt32 := 0
  text : Bytes := []
deriving DecidableEq

inductive EventKind
  | startConversation | stopConversation | selectTransport | requestWifiScan | saveWifi | saveEndpoint
  | exitProvisioning
deriving DecidableEq

structure UiEvent where
  kind : EventKind := .startConversation
  transport : Transport := .wss
  text : Bytes := []
  secret : Bytes := []
deriving DecidableEq

def maxTranscriptBytes : Nat := 768

/-- `EnumValue`: the enumerators in their order, the bound one past the last of them. -/
def enumValue {α : Type} (enumerators : List α) (value : UInt32) (fallback : α) : α :=
  enumerators.getD value.toNat fallback

def connectionStates : List ConnectionState := [.offline, .connecting, .online, .error]

def conversationStates : List ConversationState := [.idle, .connecting, .listening, .thinking, .speaking]

def transports : List Transport := [.wss, .udp]

def appendBounded (destination text : Bytes) : Bytes := truncateUtf8 (destination ++ text) maxTranscriptBytes

def addWifiNetwork (networks : List WifiNetwork) (network : WifiNetwork) : List WifiNetwork :=
  if network.ssid ≠ [] ∧ (∀ n ∈ networks, n.ssid ≠ network.ssid) ∧ networks.length < 20 then
    networks ++ [network]
  else networks

def reduce (state : UiState) (command : UiCommand) : UiState × Option UiEvent :=
  match command.kind with
  | .setConnection =>
    ({ state with connection := enumValue connectionStates command.value state.connection }, none)
  | .setConversation =>
    ({ state with conversation := enumValue conversationStates command.value state.conversation }, none)
  | .setPreferredTransport =>
    ({ state with preferredTransport := enumValue transports command.value state.preferredTransport }, none)
  | .setActiveTransport =>
    ({ state with activeTransport := enumValue transports command.value state.activeTransport }, none)
  | .setAsrText => ({ state with asrText := truncateUtf8 command.text maxTranscriptBytes }, none)
  | .appendAsrText => ({ state with asrText := appendBounded state.asrText command.text }, none)
  | .setResponseText => ({ state with responseText := truncateUtf8 command.text maxTranscriptBytes }, none)
  | .appendResponseText => ({ state with responseText := appendBounded state.responseText command.text }, none)
  | .clearTranscript => ({ state with asrText := [], responseText := [] }, none)
  | .openWifi => ({ state with page := .wifi }, none)
  | .clearWifiNetworks => ({ state with wifiNetworks := [] }, none)
  | .addWifiNetwork =>
    let network : WifiNetwork :=
      { ssid := truncateUtf8 command.text 32
        rssi := (command.value &&& 0xff).toUInt8.toInt8
        secured := command.value &&& 0x100 != 0 }
    ({ state with wifiNetworks := addWifiNetwork state.wifiNetworks network }, none)
  | .openWifiKeyboard =>
    ({ state with selectedSsid := truncateUtf8 command.text 32, page := .wifiKeyboard }, none)
  | .openEndpoint => ({ state with endpointDraft := truncateUtf8 command.text 255, page := .endpoint }, none)
  | .setEndpointDraft => ({ state with endpointDraft := truncateUtf8 command.text 255 }, none)
  | .setConfigMessage => ({ state with configMessage := truncateUtf8 command.text 96 }, none)
  | .backHome => ({ state with page := .home, selectedSsid := [], configMessage := [] }, none)
  | .settingsPressed =>
    ({ state with page := .wifi, configMessage := [] }, some { kind := .requestWifiScan, transport := .wss })
  | .micPressed =>
    if state.conversation ≠ .idle then
      ({ state with conversation := .idle },
        some { kind := .stopConversation, transport := state.activeTransport })
    else
      ({ state with conversation := .connecting },
        some { kind := .startConversation, transport := state.preferredTransport })
  | .transportPressed =>
    if state.conversation = .idle then
      let preferred := if state.preferredTransport = .wss then Transport.udp else .wss
      ({ state with preferredTransport := preferred }, some { kind := .selectTransport, transport := preferred })
    else (state, none)

/-- A text on the display: UTF-8, and within its limit. -/
def Shown (maxBytes : Nat) (text : Bytes) : Prop := Utf8.Valid text ∧ text.length ≤ maxBytes

theorem Shown.truncated {text : Bytes} (h : Utf8.Valid text) (maxBytes : Nat) :
    Shown maxBytes (truncateUtf8 text maxBytes) :=
  ⟨truncateUtf8_valid h maxBytes, length_truncateUtf8 text maxBytes⟩

theorem Shown.nil (maxBytes : Nat) : Shown maxBytes [] := ⟨Utf8.valid_nil, Nat.zero_le _⟩

theorem Shown.appendBounded {destination text : Bytes} (h : Shown maxTranscriptBytes destination)
    (htext : Utf8.Valid text) : Shown maxTranscriptBytes (appendBounded destination text) :=
  .truncated (h.1.append htext) maxTranscriptBytes

/-- Every text is shown, and at most twenty networks, each once and with a name. -/
structure UiState.Displayable (state : UiState) : Prop where
  asrText : Shown maxTranscriptBytes state.asrText
  responseText : Shown maxTranscriptBytes state.responseText
  selectedSsid : Shown 32 state.selectedSsid
  endpointDraft : Shown 255 state.endpointDraft
  configMessage : Shown 96 state.configMessage
  ssids : ∀ n ∈ state.wifiNetworks, Shown 32 n.ssid ∧ n.ssid ≠ []
  distinct : (state.wifiNetworks.map (·.ssid)).Nodup
  networks : state.wifiNetworks.length ≤ 20

theorem displayable_init : UiState.Displayable {} where
  asrText := .nil _
  responseText := .nil _
  selectedSsid := .nil _
  endpointDraft := .nil _
  configMessage := .nil _
  ssids _ hn := by cases hn
  distinct := List.nodup_nil
  networks := Nat.zero_le _

section Reduce

variable {state : UiState} {command : UiCommand}

theorem UiState.Displayable.addWifiNetwork (h : state.Displayable) {network : WifiNetwork}
    (hshown : Shown 32 network.ssid) :
    UiState.Displayable { state with wifiNetworks := addWifiNetwork state.wifiNetworks network } := by
  rw [Ui.addWifiNetwork]
  split_ifs with hadded
  · obtain ⟨hname, hnew, hroom⟩ := hadded
    refine { h with ssids := ?_, distinct := ?_, networks := ?_ }
    · intro n hn
      rcases List.mem_append.mp hn with hn | hn
      · exact h.ssids n hn
      · obtain rfl := List.mem_singleton.mp hn
        exact ⟨hshown, hname⟩
    · rw [List.map_append, List.map_singleton, List.nodup_append_comm, List.singleton_append, List.nodup_cons]
      refine ⟨?_, h.distinct⟩
      rw [List.mem_map]
      rintro ⟨n, hn, heq⟩
      exact hnew n hn heq
    · rw [List.length_append]
      exact hroom
  · exact h

/-- Whatever the command, the display keeps to its limits. -/
theorem reduce_displayable (h : state.Displayable) (htext : Utf8.Valid command.text) :
    (reduce state command).1.Displayable := by
  obtain ⟨kind, value, text⟩ := command
  cases kind
  case setConnection | setConversation | setPreferredTransport | setActiveTransport | openWifi => exact { h with }
  case setAsrText => exact { h with asrText := .truncated htext _ }
  case appendAsrText => exact { h with asrText := h.asrText.appendBounded htext }
  case setResponseText => exact { h with responseText := .truncated htext _ }
  case appendResponseText => exact { h with responseText := h.responseText.appendBounded htext }
  case clearTranscript => exact { h with asrText := .nil _, responseText := .nil _ }
  case clearWifiNetworks =>
    exact { h with
      ssids := fun n hn => absurd hn List.not_mem_nil
      distinct := List.nodup_nil
      networks := Nat.zero_le _ }
  case addWifiNetwork => exact h.addWifiNetwork (.truncated htext 32)
  case openWifiKeyboard => exact { h with selectedSsid := .truncated htext _ }
  case openEndpoint | setEndpointDraft => exact { h with endpointDraft := .truncated htext _ }
  case setConfigMessage => exact { h with configMessage := .truncated htext _ }
  case backHome => exact { h with selectedSsid := .nil _, configMessage := .nil _ }
  case settingsPressed => exact { h with configMessage := .nil _ }
  case micPressed =>
    simp only [reduce]
    split <;> exact { h with }
  case transportPressed =>
    simp only [reduce]
    split
    · exact { h with }
    · exact h

end Reduce

/-- After any commands with texts in UTF-8 the display keeps to its limits. -/
theorem run_displayable {es : List (UiCommand × Option UiEvent)} {state : UiState}
    (h : Run (Answers reduce) {} es state) (htext : ∀ e ∈ es, Utf8.Valid e.1.text) : state.Displayable := by
  induction h with
  | nil => exact displayable_init
  | @snoc es state state' e hr hs ih =>
    have hbefore := ih fun e he => htext e (List.mem_append_left _ he)
    have hstate : (reduce state e.1).1 = state' := congrArg Prod.fst hs
    rw [← hstate]
    exact reduce_displayable hbefore (htext e (List.mem_append_right _ List.mem_cons_self))

end RealtimeVoice.Firmware.Ui
