import RealtimeVoice.Base.Url
import RealtimeVoice.Contracts.Models

namespace RealtimeVoice.Contracts

open RealtimeVoice.Base.Url

variable (checkNetloc : String → Bool)

/-- The `canonical_endpoint` validator. Every transport profile is one of `rva/1`. -/
def canonicalEndpoint (publicWssUrl : String) : Bool :=
  match urlsplit checkNetloc publicWssUrl with
  | none => false
  | some parsed =>
    (parsed.scheme = "ws" ∨ parsed.scheme = "wss") ∧ parsed.hostname ≠ none ∧ parsed.path = "/rva/v1/voice" ∧
      parsed.query = "" ∧ parsed.fragment = "" ∧ parsed.username = none ∧ parsed.password = none

/-- Build a `BindingAdvertisement`, or fail its validation. -/
def bindingAdvertisement (controlProtocol : ControlProtocol) (publicWssUrl : String)
    (profiles : List TransportProfile) : Option BindingAdvertisement :=
  if h : (profiles ≠ [] ∧ profiles.Nodup) ∧ canonicalEndpoint checkNetloc publicWssUrl = true then
    some
      { controlProtocol := controlProtocol
        publicWssUrl := publicWssUrl
        profiles := profiles
        profiles_unique := h.1 }
  else none

/-- The arguments of `WorkerHeartbeat` before it validates them. -/
structure HeartbeatFields where
  workerId : String
  publicWssUrl : String
  activeSessions : Nat
  maxSessions : Nat := 5
  draining : Bool := false
  healthy : Bool := true
  profiles : List TransportProfile := [.wssOpus]
  bindings : List BindingAdvertisement := []
  activeLeases : List LeaseRenewal := []
  releasedLeases : List LeaseRenewal := []

namespace HeartbeatFields

/-- `bounded_active_leases` and the bounds on the fields, apart from the worker's name. -/
structure Valid (f : HeartbeatFields) : Prop where
  maxSessions_range : 1 ≤ f.maxSessions ∧ f.maxSessions ≤ 1024
  profiles_unique : f.profiles ≠ [] ∧ f.profiles.Nodup
  activeLeases_bounded : f.activeLeases.length ≤ f.maxSessions
  activeLeases_unique : (f.activeLeases.map (fun l => (l.tenantId, l.deviceId))).Nodup
  releasedLeases_bounded : f.releasedLeases.length ≤ 64
  releasedLeases_unique : (f.releasedLeases.map (fun l => (l.tenantId, l.deviceId, l.sessionEpoch))).Nodup
  bindings_unique : (f.bindings.map (fun b => b.controlProtocol)).Nodup
  bindings_cover : f.bindings ≠ [] →
    (∀ p ∈ f.profiles, ∃ b ∈ f.bindings, p ∈ b.profiles) ∧ ∀ b ∈ f.bindings, ∀ p ∈ b.profiles, p ∈ f.profiles
  bindings_resolve : f.bindings = [] → (bindingAdvertisement checkNetloc .rva f.publicWssUrl f.profiles).isSome = true

instance (f : HeartbeatFields) : Decidable (f.Valid checkNetloc) :=
  decidable_of_iff
    ((1 ≤ f.maxSessions ∧ f.maxSessions ≤ 1024) ∧ (f.profiles ≠ [] ∧ f.profiles.Nodup) ∧
      f.activeLeases.length ≤ f.maxSessions ∧ (f.activeLeases.map (fun l => (l.tenantId, l.deviceId))).Nodup ∧
      f.releasedLeases.length ≤ 64 ∧
      (f.releasedLeases.map (fun l => (l.tenantId, l.deviceId, l.sessionEpoch))).Nodup ∧
      (f.bindings.map (fun b => b.controlProtocol)).Nodup ∧
      (f.bindings ≠ [] → (∀ p ∈ f.profiles, ∃ b ∈ f.bindings, p ∈ b.profiles) ∧
        ∀ b ∈ f.bindings, ∀ p ∈ b.profiles, p ∈ f.profiles) ∧
      (f.bindings = [] → (bindingAdvertisement checkNetloc .rva f.publicWssUrl f.profiles).isSome = true))
    ⟨fun ⟨h₁, h₂, h₃, h₄, h₅, h₆, h₇, h₈, h₉⟩ => ⟨h₁, h₂, h₃, h₄, h₅, h₆, h₇, h₈, h₉⟩,
      fun ⟨h₁, h₂, h₃, h₄, h₅, h₆, h₇, h₈, h₉⟩ => ⟨h₁, h₂, h₃, h₄, h₅, h₆, h₇, h₈, h₉⟩⟩

/-- Build a `WorkerHeartbeat`, or fail its validation. -/
def validate (f : HeartbeatFields) : Option WorkerHeartbeat := do
  let workerId ← identifier? f.workerId
  if h : f.Valid checkNetloc then
    some
      { workerId := workerId
        publicWssUrl := f.publicWssUrl
        activeSessions := f.activeSessions
        maxSessions := f.maxSessions
        draining := f.draining
        healthy := f.healthy
        profiles := f.profiles
        bindings := f.bindings
        activeLeases := f.activeLeases
        releasedLeases := f.releasedLeases
        maxSessions_range := h.maxSessions_range
        profiles_unique := h.profiles_unique
        activeLeases_bounded := h.activeLeases_bounded
        activeLeases_unique := h.activeLeases_unique
        releasedLeases_bounded := h.releasedLeases_bounded
        releasedLeases_unique := h.releasedLeases_unique
        bindings_unique := h.bindings_unique
        bindings_cover := fun hne p =>
          ⟨(h.bindings_cover hne).1 p, fun ⟨b, hb, hp⟩ => (h.bindings_cover hne).2 b hb p hp⟩ }
  else none

theorem validate_isSome (f : HeartbeatFields) :
    (f.validate checkNetloc).isSome = true ↔ identifierPattern f.workerId = true ∧ f.Valid checkNetloc := by
  rw [validate, identifier?]
  by_cases hid : identifierPattern f.workerId = true
  · rw [dif_pos hid]
    by_cases hvalid : f.Valid checkNetloc
    · simp [hid, hvalid]
    · simp [hvalid]
  · rw [dif_neg hid]
    simp [hid]

end HeartbeatFields

end RealtimeVoice.Contracts
