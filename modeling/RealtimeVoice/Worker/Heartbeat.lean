import RealtimeVoice.Contracts.Heartbeat
import RealtimeVoice.Worker.Config
import RealtimeVoice.Worker.SessionRuns

namespace RealtimeVoice.Worker

open RealtimeVoice.Base RealtimeVoice.Base.Runs RealtimeVoice.Base.Url RealtimeVoice.Contracts

/-- `CombinedLeaseRegistry`: the registries of all bindings. -/
structure CombinedLeaseRegistry where
  registries : List RvaSessionRegistry

namespace CombinedLeaseRegistry

def activeLeaseRenewals (c : CombinedLeaseRegistry) : List LeaseRenewal :=
  c.registries.flatMap RvaSessionRegistry.activeLeaseRenewals

def pendingLeaseReleases (c : CombinedLeaseRegistry) : List LeaseRenewal :=
  (c.registries.flatMap RvaSessionRegistry.pendingReleases).take 64

end CombinedLeaseRegistry

/-- The readiness that `_send_once` reads: the UDP gateway and the providers. -/
structure Readiness where
  udpReady : Bool
  providersHealthy : Bool

namespace Process

def leaseRegistry (s : Process) : CombinedLeaseRegistry := { registries := [s.registry] }

def rvaProfiles (settings : Settings) (ready : Readiness) : List TransportProfile :=
  if settings.rvaUdpEnabled ∧ ready.udpReady then [.wssOpus, .udpOpusGcm] else [.wssOpus]

def heartbeatFields (settings : Settings) (ready : Readiness) (s : Process) (bindings : List BindingAdvertisement) :
    HeartbeatFields where
  workerId := settings.workerId
  publicWssUrl := settings.rvaPublicWsUrl
  activeSessions := s.admission.activeCount
  maxSessions := settings.maxSessions
  draining := s.admission.draining
  healthy := (ready.providersHealthy || !settings.providerReadinessRequired) &&
    !(settings.rvaUdpEnabled && !ready.udpReady)
  profiles := (if settings.rvaEnabled then rvaProfiles settings ready else []).eraseDups
  bindings := bindings
  activeLeases := s.leaseRegistry.activeLeaseRenewals
  releasedLeases := s.leaseRegistry.pendingLeaseReleases

/-- The payload of `_send_once`, or nothing when one of its validators raises. -/
def heartbeat (checkNetloc : String → Bool) (settings : Settings) (ready : Readiness) (s : Process) :
    Option WorkerHeartbeat := do
  let bindings ←
    if settings.rvaEnabled then
      (bindingAdvertisement checkNetloc .rva settings.rvaPublicWsUrl (rvaProfiles settings ready)).map ([·])
    else some []
  (heartbeatFields settings ready s bindings).validate checkNetloc

variable {s : Process} {settings : Settings} {ready : Readiness} {checkNetloc : String → Bool}

/-- The Director draws a fresh epoch for each route lease, so that grants of one
principal that agree on the epoch agree on the fencing token. -/
def EpochsFenced (handlers : List Handler) : Prop :=
  ∀ h ∈ handlers, ∀ h' ∈ handlers, ∀ claim ∈ h.auth.leaseClaim, ∀ claim' ∈ h'.auth.leaseClaim,
    (claim.tenantId, claim.deviceId, claim.sessionEpoch) = (claim'.tenantId, claim'.deviceId, claim'.sessionEpoch) →
      claim = claim'

instance (handlers : List Handler) : Decidable (EpochsFenced handlers) :=
  inferInstanceAs (Decidable (∀ h ∈ handlers, ∀ h' ∈ handlers, ∀ claim ∈ h.auth.leaseClaim,
    ∀ claim' ∈ h'.auth.leaseClaim, (claim.tenantId, claim.deviceId, claim.sessionEpoch) =
      (claim'.tenantId, claim'.deviceId, claim'.sessionEpoch) → claim = claim'))

theorem leaseClaim_principal {auth : AuthContext} {claim : LeaseRenewal} (h : auth.leaseClaim = some claim) :
    (claim.tenantId, claim.deviceId) = auth.principal := by
  rw [AuthContext.leaseClaim] at h
  simp only [Option.bind_eq_bind, Option.bind_eq_some_iff, Option.some.injEq] at h
  obtain ⟨sessionEpoch, -, fencingToken, -, rfl⟩ := h
  rfl

theorem Sound.activeLeases_length (hs : Sound s) :
    s.leaseRegistry.activeLeaseRenewals.length ≤ s.admission.maxSessions := by
  rw [CombinedLeaseRegistry.activeLeaseRenewals, leaseRegistry, List.flatMap_singleton]
  refine Nat.le_trans (List.length_filterMap_le _ _) ?_
  rw [Dict.values, List.length_map]
  exact hs.connections_le

/-- The claims of connections are as different as their principals. -/
theorem Sound.activeLeases_unique (hs : Sound s) :
    (s.leaseRegistry.activeLeaseRenewals.map (fun l => (l.tenantId, l.deviceId))).Nodup := by
  rw [CombinedLeaseRegistry.activeLeaseRenewals, leaseRegistry, List.flatMap_singleton]
  have hsub : ∀ cs : List Connection,
      ((cs.filterMap Connection.leaseClaim).map (fun l => (l.tenantId, l.deviceId))).Sublist
        (cs.map (fun c => c.auth.principal)) := by
    intro cs
    induction cs with
    | nil => exact .slnil
    | cons c cs ih =>
      rw [List.map_cons]
      cases hclaim : c.leaseClaim with
      | none =>
        rw [List.filterMap_cons_none hclaim]
        exact ih.cons _
      | some claim =>
        rw [List.filterMap_cons_some hclaim, List.map_cons, leaseClaim_principal hclaim]
        exact ih.cons_cons _
  exact (hsub _).nodup hs.principals_nodup

theorem Sound.releasedLeases_unique (hs : Sound s) (hepochs : EpochsFenced s.handlers) :
    (s.leaseRegistry.pendingLeaseReleases.map (fun l => (l.tenantId, l.deviceId, l.sessionEpoch))).Nodup := by
  rw [CombinedLeaseRegistry.pendingLeaseReleases, leaseRegistry, List.flatMap_singleton]
  have hall : (s.registry.pendingReleases.map (fun l => (l.tenantId, l.deviceId, l.sessionEpoch))).Nodup := by
    refine hs.registered.nodup.map_on ?_
    intro claim hclaim claim' hclaim' hsame
    obtain ⟨h, hh, hhclaim⟩ := hs.registered.sourced claim hclaim
    obtain ⟨h', hh', hhclaim'⟩ := hs.registered.sourced claim' hclaim'
    exact hepochs h hh h' hh' claim hhclaim claim' hhclaim' hsame
  exact ((List.take_sublist _ _).map _).nodup hall

theorem rvaProfiles_unique (settings : Settings) (ready : Readiness) :
    rvaProfiles settings ready ≠ [] ∧ (rvaProfiles settings ready).Nodup := by
  rw [rvaProfiles]
  split <;> decide

theorem rvaProfiles_eraseDups (settings : Settings) (ready : Readiness) :
    (rvaProfiles settings ready).eraseDups = rvaProfiles settings ready := by
  rw [rvaProfiles]
  split <;> decide

/-- The registry never stands in the way of a heartbeat. -/
theorem Sound.fields_valid (hs : Sound s) (hmax : s.admission.maxSessions = settings.maxSessions)
    (hepochs : EpochsFenced s.handlers) (henabled : settings.rvaEnabled = true) {binding : BindingAdvertisement}
    (hprofiles : binding.profiles = rvaProfiles settings ready) :
    (heartbeatFields settings ready s [binding]).Valid checkNetloc := by
  have hadvertised : (heartbeatFields settings ready s [binding]).profiles = rvaProfiles settings ready := by
    simp only [heartbeatFields, henabled, if_true]
    exact rvaProfiles_eraseDups settings ready
  constructor
  · exact settings.maxSessions_range
  · rw [hadvertised]
    exact rvaProfiles_unique settings ready
  · have hlength := hs.activeLeases_length
    rw [hmax] at hlength
    exact hlength
  · exact hs.activeLeases_unique
  · exact List.length_take_le _ _
  · exact hs.releasedLeases_unique hepochs
  · exact List.nodup_singleton _
  · intro _
    rw [hadvertised, ← hprofiles]
    exact ⟨fun p hp => ⟨binding, List.mem_singleton_self _, hp⟩, fun b hb p hp => List.mem_singleton.mp hb ▸ hp⟩
  · intro hempty
    exact absurd hempty (List.cons_ne_nil _ _)

/-- What the contract asks of a URL beyond the checks made at the start. -/
theorem canonicalEndpoint_iff (h : settings.validatePublicUrl checkNetloc = .ok ()) :
    canonicalEndpoint checkNetloc settings.rvaPublicWsUrl = true ↔
      ∀ url, urlsplit checkNetloc settings.rvaPublicWsUrl = some url → url.username = none := by
  obtain ⟨url, hurl, hscheme, hhostname, hpath, hquery, hfragment⟩ := Settings.validatePublicUrl_ok h
  rw [canonicalEndpoint, hurl]
  simp only [decide_eq_true_eq, Option.some.injEq, forall_eq']
  refine ⟨fun hall => hall.2.2.2.2.2.1, fun husername => ?_⟩
  exact ⟨hscheme, hhostname, hpath, hquery, hfragment, husername, SplitResult.password_eq_none husername⟩

/-- Settings whose heartbeat passes the validators that the settings alone decide. -/
def Advertisable (checkNetloc : String → Bool) (settings : Settings) : Prop :=
  identifierPattern settings.workerId = true ∧
    ∀ url, urlsplit checkNetloc settings.rvaPublicWsUrl = some url → url.username = none

theorem Sound.heartbeat_iff (hs : Sound s) (hmax : s.admission.maxSessions = settings.maxSessions)
    (hepochs : EpochsFenced s.handlers) (hruntime : settings.validateRuntime checkNetloc = .ok ()) :
    (heartbeat checkNetloc settings ready s).isSome = true ↔ Advertisable checkNetloc settings := by
  obtain ⟨henabled, hurl⟩ := Settings.validateRuntime_ok hruntime
  rw [heartbeat, if_pos henabled, Advertisable, ← canonicalEndpoint_iff hurl, bindingAdvertisement]
  by_cases hcanonical : canonicalEndpoint checkNetloc settings.rvaPublicWsUrl = true
  · rw [dif_pos ⟨rvaProfiles_unique settings ready, hcanonical⟩, Option.map_some, Option.bind_eq_bind,
      Option.bind_some, HeartbeatFields.validate_isSome]
    refine and_congr Iff.rfl ⟨fun _ => hcanonical, fun _ => ?_⟩
    exact hs.fields_valid hmax hepochs henabled rfl
  · rw [dif_neg (fun h => hcanonical h.2)]
    simp [hcanonical]

/-- In every run the registered connections have different principals and are no more
than `max_sessions`, deadlines belong to registered connections, a claim whose connection
was removed stays pending until it is acknowledged, and the heartbeat passes its
validators exactly when the settings pass theirs. -/
theorem registry_invariant {es : List (Call × Option Stage)}
    (hruntime : settings.validateRuntime checkNetloc = .ok ())
    (hr : Run Step (start settings.maxSessions) es s) (hepochs : EpochsFenced s.handlers) :
    (s.registry.connections.values.map (fun c => c.auth.principal)).Nodup ∧
      s.registry.connections.size ≤ settings.maxSessions ∧
      (∀ claim deadline, s.registry.leaseDeadlines.get? claim = some deadline →
        ∃ p c, s.registry.connections.get? p = some c ∧ c.leaseClaim = some claim) ∧
      (∀ es₁ e es₂ s₁ s₂, es = es₁ ++ e :: es₂ → Run Step (start settings.maxSessions) es₁ s₁ → Step s₁ e s₂ →
        Run Step s₂ es₂ s → ∀ p c claim, s₁.registry.connections.get? p = some c →
          s₂.registry.connections.get? p ≠ some c → c.leaseClaim = some claim →
          (∀ f ∈ es₂, claim ∉ f.1.acked) → claim ∈ s.registry.pendingReleases) ∧
      ∀ ready, (heartbeat checkNetloc settings ready s).isSome = true ↔ Advertisable checkNetloc settings := by
  have hs := run_sound hr
  have hmax := run_maxSessions hr
  refine ⟨hs.principals_nodup, ?_, hs.registered.linked, ?_, ?_⟩
  · rw [← hmax]
    exact hs.connections_le
  · intro es₁ e es₂ s₁ s₂ _ hr₁ he hr₂ p c claim hc hgone hclaim hnot
    exact pending_until_acknowledged (run_sound hr₁) he hr₂ hc hgone hclaim hnot
  · exact fun ready => hs.heartbeat_iff hmax hepochs hruntime

def sampleSettings (rvaPublicWsUrl : String) : Settings :=
  { labToken := "device-token"
    grantSigningKey := "0123456789abcdef"
    internalToken := "internal"
    directorUrl := "http://127.0.0.1:8080"
    rvaPublicWsUrl := rvaPublicWsUrl
    maxSessions_range := fiveSessions_range }

/-- A session is registered, and then its lease is revoked. -/
theorem registry_invariant_revoked :
    ∃ es s, Run Step (start 5) es s ∧ sampleAuth.leaseClaim.toList = s.registry.pendingReleases ∧
      s.registry.connections.size = 0 ∧
      (heartbeat (fun _ => true) (sampleSettings "wss://voice.example.com/rva/v1/voice") ⟨false, true⟩ s).isSome =
        true := by
  have hr := run_history call (start 5)
    (connecting 0 sampleAuth ++ [.revokeSessionEpochs sampleAuth.sessionEpoch.toList])
  refine ⟨_, _, hr, by decide +kernel, by decide +kernel, ?_⟩
  have hvalid : (sampleSettings "wss://voice.example.com/rva/v1/voice").validateRuntime (fun _ => true) = .ok () := by
    decide +kernel
  have hinvariant := registry_invariant hvalid hr (by decide +kernel)
  refine (hinvariant.2.2.2.2 ⟨false, true⟩).mpr ⟨by decide, fun url hurl => ?_⟩
  have husername : (urlsplit (fun _ => true) "wss://voice.example.com/rva/v1/voice").bind SplitResult.username =
      none := by decide +kernel
  have hurl' : urlsplit (fun _ => true) "wss://voice.example.com/rva/v1/voice" = some url := hurl
  rwa [hurl'] at husername

/-- The worker starts with a user name in its public URL, and its first heartbeat is refused. -/
theorem heartbeat_refused_userinfo :
    (sampleSettings "wss://worker@voice.example.com/rva/v1/voice").validateRuntime (fun _ => true) = .ok () ∧
      Run Step (start 5) [] (start 5) ∧ EpochsFenced (start 5).handlers ∧
      heartbeat (fun _ => true) (sampleSettings "wss://worker@voice.example.com/rva/v1/voice") ⟨false, true⟩ (start 5) =
        none :=
  ⟨by decide +kernel, .nil, by decide +kernel, by decide +kernel⟩

end Process

end RealtimeVoice.Worker
