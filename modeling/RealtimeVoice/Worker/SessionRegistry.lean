import RealtimeVoice.Base.Runs
import RealtimeVoice.Worker.Admission

namespace RealtimeVoice.Worker

open RealtimeVoice.Base RealtimeVoice.Base.Runs RealtimeVoice.Contracts

/-- What `WorkerAuthenticator.verify` lets through: the claims of a Director grant, or
a lab credential, which comes without epoch, fencing token and deadline. -/
structure AuthContext where
  tenantId : Identifier
  deviceId : Identifier
  sessionEpoch : Option Identifier := none
  fencingToken : Option { n : Nat // 1 ≤ n } := none
  expiresAt : Option Time := none
deriving DecidableEq

namespace AuthContext

def principal (auth : AuthContext) : Principal := (auth.tenantId, auth.deviceId)

def leaseClaim (auth : AuthContext) : Option LeaseRenewal := do
  let sessionEpoch ← auth.sessionEpoch
  let fencingToken ← auth.fencingToken
  some
    { tenantId := auth.tenantId
      deviceId := auth.deviceId
      sessionEpoch := sessionEpoch
      fencingToken := fencingToken.val
      fencingToken_pos := fencingToken.property }

end AuthContext

/-- A registered `RvaWssConnection`, told apart by the call of `rva_voice` that made it. -/
structure Connection where
  handler : Nat
  auth : AuthContext
deriving DecidableEq

def Connection.leaseClaim (c : Connection) : Option LeaseRenewal := c.auth.leaseClaim

inductive CloseTask
  | scheduled | retiring | done
deriving DecidableEq

structure RvaSessionRegistry where
  connections : Dict Principal Connection := {}
  leaseDeadlines : Dict LeaseRenewal Time := {}
  pendingReleases : List LeaseRenewal := []
  expiryTask : Bool := false
  closing : Bool := false
  closed : Bool := false
  closeTask : Option CloseTask := none
deriving DecidableEq

namespace RvaSessionRegistry

/-- Append a claim that is not waiting yet. -/
def queue (pending : List LeaseRenewal) (claim : LeaseRenewal) : List LeaseRenewal :=
  if claim ∈ pending then pending else pending ++ [claim]

def queueLeaseRelease (r : RvaSessionRegistry) (auth : AuthContext) : RvaSessionRegistry :=
  { r with pendingReleases := auth.leaseClaim.elim r.pendingReleases (queue r.pendingReleases) }

def queueAll (r : RvaSessionRegistry) (connections : List Connection) : RvaSessionRegistry :=
  { r with pendingReleases := (connections.filterMap Connection.leaseClaim).foldl queue r.pendingReleases }

def startExpiryEnforcement (r : RvaSessionRegistry) : RvaSessionRegistry :=
  if r.closing ∨ r.closed then r else { r with expiryTask := true }

/-- The locked part of `run` on a registry that is open. -/
def register (r : RvaSessionRegistry) (c : Connection) : RvaSessionRegistry :=
  let r := { r with connections := r.connections.set c.auth.principal c }
  match c.leaseClaim, c.auth.expiresAt with
  | some claim, some expiresAt =>
    { r with leaseDeadlines := r.leaseDeadlines.set claim expiresAt }.startExpiryEnforcement
  | _, _ => r

def detachExpiryTaskIfIdle (r : RvaSessionRegistry) : RvaSessionRegistry × Bool :=
  if r.leaseDeadlines.size = 0 then ({ r with expiryTask := false }, r.expiryTask) else (r, false)

/-- The locked part of the teardown of `run`. The flag tells whether an expiry task
is left to be waited for. -/
def unregister (r : RvaSessionRegistry) (c : Connection) : RvaSessionRegistry × Bool :=
  let connections :=
    if (r.connections.get? c.auth.principal).any (fun current => current.handler = c.handler) then
      r.connections.erase c.auth.principal
    else r.connections
  let leaseDeadlines := c.leaseClaim.elim r.leaseDeadlines r.leaseDeadlines.erase
  ({ r with connections := connections, leaseDeadlines := leaseDeadlines }.queueLeaseRelease
    c.auth).detachExpiryTaskIfIdle

/-- `close` as far as it schedules its owner task, once in the life of the registry. -/
def close (r : RvaSessionRegistry) : RvaSessionRegistry :=
  if r.closeTask = none ∧ ¬r.closed then { r with closing := true, closeTask := some .scheduled } else r

/-- `_close_owner` up to its wait for the retired connections, and the end of it. -/
def closeOwner (r : RvaSessionRegistry) : RvaSessionRegistry :=
  match r.closeTask with
  | some .scheduled =>
    { r.queueAll r.connections.values with
      connections := {}
      leaseDeadlines := {}
      expiryTask := false
      closeTask := some .retiring }
  | some .retiring => { r with closing := false, closed := true, closeTask := some .done }
  | _ => r

def snapshotActiveLeaseReleases (r : RvaSessionRegistry) : RvaSessionRegistry := r.queueAll r.connections.values

/-- `_remove_claims_locked`. A connection without a lease is never removed. -/
def removeClaims (r : RvaSessionRegistry) (claims : List LeaseRenewal) : RvaSessionRegistry :=
  { r with
    leaseDeadlines := r.leaseDeadlines.filter (fun claim _ => claim ∉ claims)
    connections := r.connections.filter (fun _ c => !c.leaseClaim.any (· ∈ claims)) }.queueAll
      (r.connections.values.filter (fun c => c.leaseClaim.any (· ∈ claims)))

def revokeLeaseClaims (r : RvaSessionRegistry) (claims : List LeaseRenewal) : RvaSessionRegistry :=
  if claims = [] then r else r.removeClaims claims

/-- The claims are collected before the lock is awaited: a call that is overtaken
there is `revokeLeaseClaims` of the claims it collected. -/
def revokeSessionEpochs (r : RvaSessionRegistry) (sessionEpochs : List Identifier) : RvaSessionRegistry :=
  r.revokeLeaseClaims
    ((r.connections.values.filter (fun c => c.auth.sessionEpoch.any (· ∈ sessionEpochs))).filterMap
      Connection.leaseClaim)

def revokeExpiredLeases (r : RvaSessionRegistry) (now : Time) : RvaSessionRegistry :=
  r.removeClaims ((r.leaseDeadlines.entries.filter (fun e => e.2 ≤ now)).map Prod.fst)

def extendLeaseDeadline (expiresAt now : Time) (r : RvaSessionRegistry) (claim : LeaseRenewal) : RvaSessionRegistry :=
  match r.leaseDeadlines.get? claim with
  | none => r
  | some deadline =>
    if now < deadline then { r with leaseDeadlines := r.leaseDeadlines.set claim expiresAt } else r

def extendLeaseDeadlines (r : RvaSessionRegistry) (expiresAt : Time) (acceptedClaims : List LeaseRenewal) (now : Time) :
    RvaSessionRegistry :=
  acceptedClaims.foldl (extendLeaseDeadline expiresAt now) r

def activeLeaseRenewals (r : RvaSessionRegistry) : List LeaseRenewal :=
  r.connections.values.filterMap Connection.leaseClaim

def acknowledgeLeaseReleases (r : RvaSessionRegistry) (releases : List LeaseRenewal) : RvaSessionRegistry :=
  { r with pendingReleases := r.pendingReleases.filter (fun release => release ∉ releases) }

end RvaSessionRegistry

/-- How an await ends; a returned value is read by the grant consumption only. -/
inductive Outcome
  | returned (value : Bool)
  | raised
  | cancelled
deriving DecidableEq

def Outcome.escapes : Outcome → Bool
  | .returned _ => false
  | .raised | .cancelled => true

/-- The awaits of a call of `rva_voice` that owns a token. -/
inductive Point
  | transferring                 -- the second look of `reserve` at the registry, under its lock
  | returning (raises : Bool)    -- the shielded release of a reservation not handed over
  | consuming                    -- `consume_director_grant`
  | accepting                    -- `websocket.accept`
  | aborting                     -- the lock of `abort_startup`
  | starting                     -- the lock of `run`
  | running                      -- `connection.run`
  | closing                      -- `connection.wait_closed`
  | removing                     -- the lock of the teardown
  | expiring                     -- the detached expiry task
  | releasing (rejects : Bool)   -- the lock of `admission.release`
deriving DecidableEq

inductive Stage
  | entering
  | admitting
  | holding (token : Nat) (point : Point)
  | leaving (token : Option Nat)
  | finished (token : Option Nat)
deriving DecidableEq

/-- A call of `rva_voice` after its authentication has passed. -/
structure Handler where
  auth : AuthContext
  stage : Stage := .entering
deriving DecidableEq

/-- A worker process: the admission and the registry that its calls share. -/
structure Process where
  admission : SharedSessionAdmission
  registry : RvaSessionRegistry := {}
  handlers : List Handler := []

inductive Call
  | arrive (auth : AuthContext)
  | resume (handler : Nat) (outcome : Outcome)
  | revokeSessionEpochs (sessionEpochs : List Identifier)
  | revokeLeaseClaims (claims : List LeaseRenewal)
  | revokeExpiredLeases (now : Time)
  | extendLeaseDeadlines (expiresAt : Time) (acceptedClaims : List LeaseRenewal) (now : Time)
  | snapshotActiveLeaseReleases
  | acknowledgeLeaseReleases (releases : List LeaseRenewal)
  | close
  | closeOwner
  | expiryStopped (drains : Bool)
  | setDraining (value : Bool)

namespace Process

/-- What a call does from the end of one await to the next one. -/
def proceed (admission : SharedSessionAdmission) (registry : RvaSessionRegistry) (c : Connection) :
    Stage → Outcome → SharedSessionAdmission × RvaSessionRegistry × Stage
  | .entering, .returned _ =>
    (admission, registry, if registry.closing ∨ registry.closed then .leaving none else .admitting)
  | .admitting, .returned _ =>
    ((admission.reserve c.auth.principal).1, registry,
      (admission.reserve c.auth.principal).2.elim (.leaving none) (.holding · .transferring))
  | .entering, _ | .admitting, _ => (admission, registry, .finished none)
  | .holding token .transferring, .returned _ =>
    (admission, registry, .holding token
      (if registry.closing ∨ registry.closed then .returning false else .consuming))
  | .holding token .transferring, _ => (admission, registry, .holding token (.returning true))
  -- The release runs in a task of its own; a cancellation is kept until it is done.
  | .holding token (.returning raises), .returned _ =>
    (admission.release token, registry, if raises then .finished token else .leaving token)
  | .holding token (.returning _), _ => (admission, registry, .holding token (.returning true))
  | .holding token .consuming, .returned value =>
    (admission, registry, .holding token (if value then .accepting else .releasing true))
  | .holding token .accepting, .returned _ => (admission, registry, .holding token .starting)
  | .holding token .starting, .returned _ =>
    if registry.closing ∨ registry.closed then
      (admission, registry.queueLeaseRelease c.auth, .holding token (.releasing true))
    else (admission, registry.register c, .holding token .running)
  | .holding token .consuming, _ | .holding token .accepting, _ | .holding token .starting, _ =>
    (admission, registry, .holding token .aborting)
  | .holding token .running, _ => (admission, registry, .holding token .closing)
  | .holding token .closing, _ => (admission, registry, .holding token .removing)
  | .holding token .removing, .returned _ =>
    (admission, (registry.unregister c).1,
      .holding token (if (registry.unregister c).2 then .expiring else .releasing false))
  | .holding token .expiring, .returned _ => (admission, registry, .holding token (.releasing false))
  | .holding token .aborting, .returned _ =>
    (admission, registry.queueLeaseRelease c.auth, .holding token (.releasing false))
  | .holding token (.releasing rejects), .returned _ =>
    (admission.release token, registry, if rejects then .leaving token else .finished token)
  -- An exception in the cleanup leaves the token where it is.
  | .holding token .removing, _ | .holding token .expiring, _ | .holding token .aborting, _
  | .holding token (.releasing _), _ => (admission, registry, .finished token)
  | .leaving token, _ | .finished token, _ => (admission, registry, .finished token)

def resume (s : Process) (i : Nat) (h : Handler) (outcome : Outcome) : Process :=
  let (admission, registry, stage) := proceed s.admission s.registry ⟨i, h.auth⟩ h.stage outcome
  { admission := admission, registry := registry, handlers := s.handlers.set i { h with stage := stage } }

def withRegistry (s : Process) (f : RvaSessionRegistry → RvaSessionRegistry) : Process :=
  { s with registry := f s.registry }

/-- One operation; a resumed call answers where it was waiting. -/
def call (s : Process) : Call → Process × Option Stage
  | .arrive auth => ({ s with handlers := s.handlers ++ [{ auth := auth }] }, none)
  | .resume i outcome =>
    match s.handlers[i]? with
    | none => (s, none)
    | some h => (s.resume i h outcome, some h.stage)
  | .revokeSessionEpochs sessionEpochs => (s.withRegistry (·.revokeSessionEpochs sessionEpochs), none)
  | .revokeLeaseClaims claims => (s.withRegistry (·.revokeLeaseClaims claims), none)
  | .revokeExpiredLeases now => (s.withRegistry (·.revokeExpiredLeases now), none)
  | .extendLeaseDeadlines expiresAt acceptedClaims now =>
    (s.withRegistry (·.extendLeaseDeadlines expiresAt acceptedClaims now), none)
  | .snapshotActiveLeaseReleases => (s.withRegistry (·.snapshotActiveLeaseReleases), none)
  | .acknowledgeLeaseReleases releases => (s.withRegistry (·.acknowledgeLeaseReleases releases), none)
  | .close => (s.withRegistry (·.close), none)
  | .closeOwner => (s.withRegistry (·.closeOwner), none)
  -- The expiry task ends by itself only when it fails closed.
  | .expiryStopped drains =>
    ({ s with
        admission := s.admission.setDraining (s.admission.draining || drains)
        registry := { s.registry with expiryTask := false } }, none)
  | .setDraining value => ({ s with admission := s.admission.setDraining value }, none)

abbrev Step (s : Process) (e : Call × Option Stage) (t : Process) : Prop := Answers call s e t

/-- A worker that has just started. -/
def start (maxSessions : Nat) : Process := { admission := { maxSessions := maxSessions } }

end Process

end RealtimeVoice.Worker
