import RealtimeVoice.Base.Url

namespace RealtimeVoice.Worker

open RealtimeVoice.Base.Url

inductive Environment
  | development | production
deriving DecidableEq

inductive Runner
  | deterministic | livekit
deriving DecidableEq

inductive TtsProvider
  | remoteCosyvoice | mimo | cosyvoice
deriving DecidableEq

/-- The settings that the start of the worker and its heartbeat read. -/
structure Settings where
  workerId : String := "worker-local-1"
  environment : Environment := .development
  maxSessions : Nat := 5
  maxSessions_range : 1 ≤ maxSessions ∧ maxSessions ≤ 1024 := by decide
  labToken : String := "replace-with-device-token"
  allowLabAuth : Bool := true
  grantSigningKey : String := "replace-with-random-grant-key"
  internalToken : String := "replace-with-random-internal-token"
  directorUrl : String := ""
  heartbeatEnabled : Bool := true
  providerReadinessRequired : Bool := false
  rvaEnabled : Bool := true
  rvaUdpEnabled : Bool := false
  rvaPublicWsUrl : String := "ws://127.0.0.1:8081/rva/v1/voice"
  udpAdvertiseHost : String := ""
  runner : Runner := .deterministic
  deepseekApiKey : Option String := none
  funasrWsUrl : String := "ws://127.0.0.1:1111/v1/asr/stream"
  ttsProvider : TtsProvider := .remoteCosyvoice
  remoteCosyvoiceUrl : String := "http://127.0.0.1:2222"
  mimoApiKey : Option String := none
  cosyvoiceUrl : String := "http://127.0.0.1:50000"

namespace Settings

def isPlaceholder (secret : String) : Bool := "replace-with-".toList.isPrefixOf secret.toList

/-- `if condition: raise ValueError(message)`. -/
def refuse (condition : Bool) (message : String) : Except String Unit :=
  if condition then .error message else .ok ()

def requireLivekit (settings : Settings) : Except String Unit :=
  match settings.deepseekApiKey with
  | none => .error "VOICE_LLM_API_KEY is required for the livekit runner"
  | some key => refuse (isPlaceholder key) "VOICE_LLM_API_KEY must not use the repository placeholder"

def requireWorker (settings : Settings) : Except String Unit := do
  settings.requireLivekit
  refuse (settings.funasrWsUrl = "") "VOICE_FUNASR_URL is required"
  match settings.ttsProvider with
  | .remoteCosyvoice =>
    refuse (settings.remoteCosyvoiceUrl = "") "VOICE_REMOTE_COSYVOICE_URL/VOICE_COSYVOICE_URL is required"
  | .mimo => refuse settings.mimoApiKey.isNone "VOICE_MIMO_API_KEY is required"
  | .cosyvoice => refuse (settings.cosyvoiceUrl = "") "VOICE_COSYVOICE_URL is required"

/-- The checks of the public URL. Unlike the contract's they do not look for a user name. -/
def validatePublicUrl (checkNetloc : String → Bool) (settings : Settings) : Except String Unit := do
  match urlsplit checkNetloc settings.rvaPublicWsUrl with
  | none => .error "Invalid URL"
  | some url =>
    refuse ((url.scheme ≠ "ws" ∧ url.scheme ≠ "wss") ∨ url.hostname = none)
      "VOICE_RVA_PUBLIC_WS_URL must be an absolute ws:// or wss:// URL"
    refuse (url.path ≠ "/rva/v1/voice" ∨ url.query ≠ "" ∨ url.fragment ≠ "")
      "VOICE_RVA_PUBLIC_WS_URL must use the canonical /rva/v1/voice path"
    refuse (settings.environment = .production ∧ url.scheme ≠ "wss")
      "production requires VOICE_RVA_PUBLIC_WS_URL to use wss://"

def validateRuntime (checkNetloc : String → Bool) (settings : Settings) : Except String Unit := do
  refuse (isPlaceholder settings.internalToken) "VOICE_INTERNAL_TOKEN must not use the repository placeholder"
  refuse (isPlaceholder settings.grantSigningKey) "VOICE_GRANT_SIGNING_KEY must not use the repository placeholder"
  refuse (settings.grantSigningKey.utf8ByteSize < 16) "VOICE_GRANT_SIGNING_KEY must contain at least 16 bytes"
  refuse (settings.allowLabAuth && isPlaceholder settings.labToken)
    "VOICE_LAB_TOKEN must not use the repository placeholder"
  refuse (settings.environment = .production ∧ settings.allowLabAuth) "production requires VOICE_ALLOW_LAB_AUTH=false"
  refuse (settings.directorUrl ≠ "" ∧ ¬settings.heartbeatEnabled)
    "VOICE_HEARTBEAT_ENABLED must be true when VOICE_DIRECTOR_URL is configured"
  refuse (settings.environment = .production ∧ settings.directorUrl = "") "production requires VOICE_DIRECTOR_URL"
  refuse (settings.environment = .production ∧ ¬settings.providerReadinessRequired)
    "production requires VOICE_PROVIDER_READINESS_REQUIRED=true"
  refuse (!settings.rvaEnabled) "VOICE_RVA_ENABLED must remain true for the RVA worker"
  settings.validatePublicUrl checkNetloc
  refuse (settings.rvaUdpEnabled ∧ settings.udpAdvertiseHost = "")
    "VOICE_UDP_ADVERTISE_HOST is required when UDP is enabled"
  if settings.runner = .livekit then settings.requireWorker

theorem refuse_ok {condition : Bool} {message : String} (h : refuse condition message = .ok ()) :
    condition = false := by
  cases condition with
  | false => rfl
  | true => simp [refuse] at h

theorem bind_ok {x : Except String Unit} {f : Unit → Except String Unit} (h : x >>= f = .ok ()) :
    x = .ok () ∧ f () = .ok () := by
  cases x with
  | error message => exact absurd h (by simp [bind, Except.bind])
  | ok value => exact ⟨rfl, h⟩

variable {checkNetloc : String → Bool} {settings : Settings}

theorem validatePublicUrl_ok (h : settings.validatePublicUrl checkNetloc = .ok ()) :
    ∃ url, urlsplit checkNetloc settings.rvaPublicWsUrl = some url ∧ (url.scheme = "ws" ∨ url.scheme = "wss") ∧
      url.hostname ≠ none ∧ url.path = "/rva/v1/voice" ∧ url.query = "" ∧ url.fragment = "" := by
  rw [validatePublicUrl] at h
  cases hurl : urlsplit checkNetloc settings.rvaPublicWsUrl with
  | none =>
    rw [hurl] at h
    exact absurd h (by simp)
  | some url =>
    rw [hurl] at h
    obtain ⟨habsolute, h⟩ := bind_ok h
    obtain ⟨hcanonical, -⟩ := bind_ok h
    have habsolute' := of_decide_eq_false (refuse_ok habsolute)
    have hcanonical' := of_decide_eq_false (refuse_ok hcanonical)
    push Not at habsolute' hcanonical'
    obtain ⟨hscheme, hhostname⟩ := habsolute'
    obtain ⟨hpath, hquery, hfragment⟩ := hcanonical'
    refine ⟨url, rfl, ?_, hhostname, hpath, hquery, hfragment⟩
    by_cases hws : url.scheme = "ws"
    · exact .inl hws
    · exact .inr (hscheme hws)

/-- A worker that starts has RVA enabled and a public URL that passes its own checks. -/
theorem validateRuntime_ok (h : settings.validateRuntime checkNetloc = .ok ()) :
    settings.rvaEnabled = true ∧ settings.validatePublicUrl checkNetloc = .ok () := by
  rw [validateRuntime] at h
  iterate 8 obtain ⟨-, h⟩ := bind_ok h
  obtain ⟨henabled, h⟩ := bind_ok h
  obtain ⟨hurl, -⟩ := bind_ok h
  exact ⟨by simpa using refuse_ok henabled, hurl⟩

end Settings

end RealtimeVoice.Worker
