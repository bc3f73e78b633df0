import RealtimeVoice.Base.Dict
import RealtimeVoice.Contracts.Models

namespace RealtimeVoice.Worker

open RealtimeVoice.Base RealtimeVoice.Contracts

/-- A `run` call of the registry: its connection, told apart by a number, and the
grant it was authorized with. A session without a grant holds no lease. -/
structure Session where
  connection : Nat
  auth : ConnectGrantClaims
deriving DecidableEq

abbrev Principal := Identifier × Identifier

def principal (auth : ConnectGrantClaims) : Principal := (auth.tenantId, auth.deviceId)

def leaseClaim (auth : ConnectGrantClaims) : LeaseRenewal where
  tenantId := auth.tenantId
  deviceId := auth.deviceId
  sessionEpoch := auth.sessionEpoch
  fencingToken := auth.fencingToken
  fencingToken_pos := auth.fencingToken_pos

/-- The lease side of `RvaSessionRegistry`. A claim is its own key. -/
structure Registry where
  connections : Dict Principal Session := {}
  leaseDeadlines : Dict LeaseRenewal Time := {}
  pendingReleases : List LeaseRenewal := []
  closing : Bool := false
deriving DecidableEq

namespace Registry

def queueLeaseRelease (r : Registry) (auth : ConnectGrantClaims) : Registry :=
  if leaseClaim auth ∈ r.pendingReleases then r
  else { r with pendingReleases := r.pendingReleases ++ [leaseClaim auth] }

def queueAll (r : Registry) (sessions : List Session) : Registry :=
  sessions.foldl (fun r session => r.queueLeaseRelease session.auth) r

/-- The start of `run`, under the lock. -/
def run (r : Registry) (session : Session) : Registry :=
  if r.closing then r.queueLeaseRelease session.auth
  else
    { r with
      connections := r.connections.set (principal session.auth) session
      leaseDeadlines := r.leaseDeadlines.set (leaseClaim session.auth) session.auth.exp }

/-- The end of `run`, once its connection is closed. -/
def finish (r : Registry) (session : Session) : Registry :=
  let connections :=
    if (r.connections.get? (principal session.auth)).any (fun current => current.connection = session.connection) then
      r.connections.erase (principal session.auth)
    else r.connections
  { r with
    connections := connections
    leaseDeadlines := r.leaseDeadlines.erase (leaseClaim session.auth) }.queueLeaseRelease session.auth

def abortStartup (r : Registry) (auth : ConnectGrantClaims) : Registry := r.queueLeaseRelease auth

def close (r : Registry) : Registry :=
  { r.queueAll r.connections.values with connections := {}, leaseDeadlines := {}, closing := true }

def snapshotActiveLeaseReleases (r : Registry) : Registry := r.queueAll r.connections.values

/-- `_remove_claims_locked`. -/
def removeClaims (r : Registry) (claims : List LeaseRenewal) : Registry :=
  let removed := r.connections.values.filter (fun session => leaseClaim session.auth ∈ claims)
  { r with
    leaseDeadlines := r.leaseDeadlines.filter (fun claim _ => claim ∉ claims)
    connections := r.connections.filter (fun _ session => leaseClaim session.auth ∉ claims) }.queueAll removed

def revokeLeaseClaims (r : Registry) (claims : List LeaseRenewal) : Registry :=
  if claims = [] then r else r.removeClaims claims

def revokeSessionEpochs (r : Registry) (sessionEpochs : List Identifier) : Registry :=
  r.revokeLeaseClaims ((r.connections.values.filter (fun session => session.auth.sessionEpoch ∈ sessionEpochs)).map
    (fun session => leaseClaim session.auth))

def revokeExpiredLeases (r : Registry) (now : Time) : Registry :=
  r.removeClaims ((r.leaseDeadlines.entries.filter (fun e => e.2 ≤ now)).map Prod.fst)

/-- One round of `extend_lease_deadlines`: only a deadline that still runs is moved. -/
def extendLeaseDeadline (expiresAt now : Time) (r : Registry) (claim : LeaseRenewal) : Registry :=
  match r.leaseDeadlines.get? claim with
  | none => r
  | some deadline =>
    if now < deadline then { r with leaseDeadlines := r.leaseDeadlines.set claim expiresAt } else r

def extendLeaseDeadlines (r : Registry) (expiresAt : Time) (acceptedClaims : List LeaseRenewal) (now : Time) :
    Registry :=
  acceptedClaims.foldl (extendLeaseDeadline expiresAt now) r

def leaseRenewalDeadline (r : Registry) (renewals : List LeaseRenewal) : Option Time :=
  ((r.leaseDeadlines.entries.filter (fun e => e.1 ∈ renewals)).map Prod.snd).min?

def activeLeaseRenewals (r : Registry) : List LeaseRenewal :=
  r.connections.values.map (fun session => leaseClaim session.auth)

/-- The releases that one heartbeat carries, as `CombinedLeaseRegistry` cuts them. -/
def pendingLeaseReleases (r : Registry) : List LeaseRenewal := r.pendingReleases.take 64

def acknowledgeLeaseReleases (r : Registry) (releases : List LeaseRenewal) : Registry :=
  { r with pendingReleases := r.pendingReleases.filter (fun release => release ∉ releases) }

variable {r : Registry} {claim : LeaseRenewal} {deadline : Time}

@[simp]
theorem queueLeaseRelease_leaseDeadlines (r : Registry) (auth : ConnectGrantClaims) :
    (r.queueLeaseRelease auth).leaseDeadlines = r.leaseDeadlines := by
  rw [queueLeaseRelease]
  split <;> rfl

@[simp]
theorem queueAll_leaseDeadlines (r : Registry) (sessions : List Session) :
    (r.queueAll sessions).leaseDeadlines = r.leaseDeadlines := by
  induction sessions generalizing r with
  | nil => rfl
  | cons session sessions ih =>
    rw [queueAll, List.foldl_cons]
    exact (ih _).trans (queueLeaseRelease_leaseDeadlines r session.auth)

theorem run_deadline {session : Session} (h : (r.run session).leaseDeadlines.get? claim = some deadline) :
    r.leaseDeadlines.get? claim = some deadline ∨ claim = leaseClaim session.auth ∧ deadline = session.auth.exp := by
  rw [run] at h
  split at h
  · rw [queueLeaseRelease_leaseDeadlines] at h
    exact .inl h
  · rw [Dict.get?_set] at h
    split at h
    · rename_i hclaim
      exact .inr ⟨hclaim, (Option.some.inj h).symm⟩
    · exact .inl h

theorem finish_deadline {session : Session} (h : (r.finish session).leaseDeadlines.get? claim = some deadline) :
    r.leaseDeadlines.get? claim = some deadline := by
  rw [finish, queueLeaseRelease_leaseDeadlines] at h
  by_cases hclaim : claim = leaseClaim session.auth
  · subst hclaim
    simp at h
  · rwa [Dict.get?_erase_ne _ hclaim] at h

theorem close_deadline : (r.close).leaseDeadlines.get? claim = none := rfl

theorem removeClaims_deadline {claims : List LeaseRenewal}
    (h : (r.removeClaims claims).leaseDeadlines.get? claim = some deadline) :
    claim ∉ claims ∧ r.leaseDeadlines.get? claim = some deadline := by
  rw [removeClaims, queueAll_leaseDeadlines, Dict.get?_filter, Option.filter_eq_some_iff] at h
  exact ⟨by simpa using h.2, h.1⟩

theorem revokeLeaseClaims_deadline {claims : List LeaseRenewal}
    (h : (r.revokeLeaseClaims claims).leaseDeadlines.get? claim = some deadline) :
    r.leaseDeadlines.get? claim = some deadline := by
  rw [revokeLeaseClaims] at h
  split at h
  · exact h
  · exact (removeClaims_deadline h).2

/-- After an expiry sweep every deadline left is in the future. -/
theorem revokeExpiredLeases_deadline {now : Time}
    (h : (r.revokeExpiredLeases now).leaseDeadlines.get? claim = some deadline) :
    now < deadline ∧ r.leaseDeadlines.get? claim = some deadline := by
  obtain ⟨hnot, hold⟩ := removeClaims_deadline h
  refine ⟨?_, hold⟩
  by_contra hexpired
  apply hnot
  rw [List.mem_map]
  refine ⟨(claim, deadline), ?_, rfl⟩
  rw [List.mem_filter]
  exact ⟨(Dict.mem_entries_iff _ _ _).mpr hold, by simpa using hexpired⟩

theorem extendLeaseDeadlines_deadline {expiresAt now : Time} {acceptedClaims : List LeaseRenewal}
    (h : (r.extendLeaseDeadlines expiresAt acceptedClaims now).leaseDeadlines.get? claim = some deadline) :
    r.leaseDeadlines.get? claim = some deadline ∨ claim ∈ acceptedClaims ∧ deadline = expiresAt := by
  induction acceptedClaims generalizing r with
  | nil => exact .inl h
  | cons c cs ih =>
    rw [extendLeaseDeadlines, List.foldl_cons] at h
    obtain hold | ⟨hmem, hdeadline⟩ := ih h
    · rw [extendLeaseDeadline] at hold
      split at hold
      · exact .inl hold
      · split at hold
        · rw [Dict.get?_set] at hold
          split at hold
          · rename_i hclaim
            exact .inr ⟨by simp [hclaim], (Option.some.inj hold).symm⟩
          · exact .inl hold
        · exact .inl hold
    · exact .inr ⟨List.mem_cons_of_mem _ hmem, hdeadline⟩

end Registry

end RealtimeVoice.Worker
