import RealtimeVoice.Base.Runs
import RealtimeVoice.Base.Dict
import RealtimeVoice.Contracts.Models

namespace RealtimeVoice.Director.Store

open RealtimeVoice.Base RealtimeVoice.Base.Runs RealtimeVoice.Contracts

inductive StoreError
  | leaseConflict (routeKey : String)
  | workerNotFound (workerId : String)
  | workerCapacity (workerId : String)
  | validation
deriving DecidableEq

structure GrantConsumeResult where
  consumed : Bool
  reason : String
deriving DecidableEq

structure State where
  workers : Dict String WorkerSnapshot := {}
  leases : Dict String RouteLease := {}
  fencing : Dict String Nat := {}
  consumedJti : Dict String Time := {}
deriving DecidableEq

structure AcquireArgs where
  tenantId : String
  deviceId : String
  workerId : String
  workerActiveSessions : Int
  workerMaxSessions : Int
  sessionEpoch : String
  now : Time
  expiresAt : Time
deriving DecidableEq

inductive Call
  | heartbeat (heartbeat : WorkerHeartbeat) (expiresAt : Time)
  | listWorkers (now : Time)
  | setDraining (workerId : String) (draining : Bool) (now : Time)
  | acquireRoute (args : AcquireArgs)
  | releaseRoute (lease : RouteLease)
  | renewRoute (workerId : String) (renewal : LeaseRenewal) (now expiresAt : Time)
  | releaseRouteClaim (workerId : String) (release : LeaseRenewal)
  | consumeGrantResult (claims : ConnectGrantClaims) (now : Time)
deriving DecidableEq

inductive Reply
  | snapshot (worker : WorkerSnapshot)
  | workers (workers : List WorkerSnapshot)
  | lease (lease : RouteLease)
  | flag (matched : Bool)
  | grant (result : GrantConsumeResult)
  | error (error : StoreError)
deriving DecidableEq

def heartbeat (s : State) (heartbeat : WorkerHeartbeat) (expiresAt : Time) : State × Reply :=
  let snapshot : WorkerSnapshot := { toWorkerHeartbeat := heartbeat, heartbeatExpiresAt := expiresAt }
  let snapshot := match s.workers.get? heartbeat.workerId.val with
    | some current => if current.draining then { snapshot with draining := true } else snapshot
    | none => snapshot
  ({ s with workers := s.workers.set heartbeat.workerId.val snapshot }, .snapshot snapshot)

def listWorkers (s : State) (now : Time) : State × Reply :=
  let workers := s.workers.filter (fun _ w => !decide (w.heartbeatExpiresAt ≤ now))
  ({ s with workers := workers }, .workers workers.values)

def setDraining (s : State) (workerId : String) (draining : Bool) (now : Time) : State × Reply :=
  match s.workers.get? workerId with
  | none => (s, .error (.workerNotFound workerId))
  | some worker =>
    if worker.heartbeatExpiresAt ≤ now then (s, .error (.workerNotFound workerId))
    else
      let updated := { worker with draining := draining }
      ({ s with workers := s.workers.set workerId updated }, .snapshot updated)

/-- The validation of `RouteLease(...)`: every identifier field has to match. -/
def makeLease (a : AcquireArgs) (fencingToken : Nat) (h : 1 ≤ fencingToken) : Option RouteLease := do
  let tenantId ← identifier? a.tenantId
  let deviceId ← identifier? a.deviceId
  let workerId ← identifier? a.workerId
  let sessionEpoch ← identifier? a.sessionEpoch
  return { tenantId, deviceId, workerId, sessionEpoch, fencingToken
           expiresAt := a.expiresAt, fencingToken_pos := h }

def purge (leases : Dict String RouteLease) (now : Time) : Dict String RouteLease :=
  leases.filter (fun _ l => !decide (l.expiresAt ≤ now))

def reserved (leases : Dict String RouteLease) (workerId : String) : Nat :=
  leases.values.countP (fun l => l.workerId.val == workerId)

def acquireRoute (s : State) (a : AcquireArgs) : State × Reply :=
  let routeKey := encodeRouteKey a.tenantId a.deviceId
  let leases := purge s.leases a.now
  let s := { s with leases := leases }
  if (leases.get? routeKey).any (a.now < ·.expiresAt) then (s, .error (.leaseConflict routeKey))
  else if max a.workerActiveSessions (reserved leases a.workerId) ≥ a.workerMaxSessions then
    (s, .error (.workerCapacity a.workerId))
  else
    let fencingToken := (s.fencing.get? routeKey).getD 0 + 1
    let s := { s with fencing := s.fencing.set routeKey fencingToken }
    -- the token is already spent when the lease does not validate
    match makeLease a fencingToken (Nat.le_add_left 1 _) with
    | none => (s, .error .validation)
    | some lease => ({ s with leases := leases.set routeKey lease }, .lease lease)

def releaseRoute (s : State) (lease : RouteLease) : State × Reply :=
  if s.leases.get? lease.routeKey ≠ some lease then (s, .flag false)
  else ({ s with leases := s.leases.erase lease.routeKey }, .flag true)

/-- The lease belongs to this worker, session epoch and fencing token. -/
def claimMatches (current : RouteLease) (workerId : String) (claim : LeaseRenewal) : Bool :=
  current.workerId.val == workerId && current.sessionEpoch == claim.sessionEpoch &&
    current.fencingToken == claim.fencingToken

def renewRoute (s : State) (workerId : String) (renewal : LeaseRenewal) (now expiresAt : Time) :
    State × Reply :=
  let routeKey := encodeRouteKey renewal.tenantId.val renewal.deviceId.val
  match s.leases.get? routeKey with
  | none => (s, .flag false)
  | some current =>
    if current.expiresAt ≤ now ∨ claimMatches current workerId renewal = false then (s, .flag false)
    else ({ s with leases := s.leases.set routeKey { current with expiresAt := expiresAt } }, .flag true)

def releaseRouteClaim (s : State) (workerId : String) (release : LeaseRenewal) : State × Reply :=
  let routeKey := encodeRouteKey release.tenantId.val release.deviceId.val
  match s.leases.get? routeKey with
  | none => (s, .flag false)
  | some current =>
    if claimMatches current workerId release = false then (s, .flag false)
    else ({ s with leases := s.leases.erase routeKey }, .flag true)

def consumeGrantResult (s : State) (claims : ConnectGrantClaims) (now : Time) : State × Reply :=
  let routeKey := encodeRouteKey claims.tenantId.val claims.deviceId.val
  let s := { s with consumedJti := s.consumedJti.filter (fun _ expiry => decide (now < expiry)) }
  let refuse (reason : String) : State × Reply := (s, .grant { consumed := false, reason := reason })
  match s.leases.get? routeKey with
  | none => refuse "no_route"
  | some current =>
    if current.expiresAt ≤ now then refuse "route_expired"
    else if claims.exp ≤ now then refuse "grant_expired"
    else if current.tenantId ≠ claims.tenantId ∨ current.deviceId ≠ claims.deviceId then
      refuse "route_principal_mismatch"
    else if current.workerId ≠ claims.workerId then refuse "worker_mismatch"
    else if current.sessionEpoch ≠ claims.sessionEpoch then refuse "session_epoch_mismatch"
    else if current.fencingToken ≠ claims.fencingToken then refuse "fencing_token_mismatch"
    else if (s.consumedJti.get? claims.jti.val).isSome then refuse "grant_replay"
    else
      ({ s with consumedJti := s.consumedJti.set claims.jti.val claims.exp },
        .grant { consumed := true, reason := "consumed" })

def call (s : State) : Call → State × Reply
  | .heartbeat hb expiresAt => heartbeat s hb expiresAt
  | .listWorkers now => listWorkers s now
  | .setDraining workerId draining now => setDraining s workerId draining now
  | .acquireRoute args => acquireRoute s args
  | .releaseRoute lease => releaseRoute s lease
  | .renewRoute workerId renewal now expiresAt => renewRoute s workerId renewal now expiresAt
  | .releaseRouteClaim workerId release => releaseRouteClaim s workerId release
  | .consumeGrantResult claims now => consumeGrantResult s claims now

abbrev Event := Call × Reply

abbrev Step : State → Event → State → Prop := Answers call

end RealtimeVoice.Director.Store
