import RealtimeVoice.Base.Runs
import RealtimeVoice.Director.Store
import RealtimeVoice.Worker.Registry

namespace RealtimeVoice.Director

open RealtimeVoice.Base RealtimeVoice.Base.Runs RealtimeVoice.Contracts RealtimeVoice.Worker

structure Ttl where
  heartbeatSeconds : Time
  leaseSeconds : Time

/-- A heartbeat request on its way, told apart from the others by a number. -/
structure Request where
  number : Nat
  heartbeat : WorkerHeartbeat
deriving DecidableEq

def Request.workerId (request : Request) : String := request.heartbeat.workerId.val

/-- `WorkerHeartbeatResponse`, together with the request that it answers. -/
structure Response where
  request : Request
  draining : Bool
  heartbeatExpiresAt : Time
  leaseExpiresAt : Time
  rejectedSessionEpochs : List Identifier
deriving DecidableEq

/-- Where a call of `DirectorService.heartbeat` stands: before each store operation
it may be suspended for as long as it takes. -/
inductive Stage
  | announce
  | releasing (draining : Bool) (rest : List LeaseRenewal)
  | renewing (draining : Bool) (rest : List LeaseRenewal) (rejected : List Identifier)
deriving DecidableEq

/-- A call of `DirectorService.heartbeat` in progress; `now` is read on entry. -/
structure Handler where
  request : Request
  now : Time
  stage : Stage
deriving DecidableEq

structure BootstrapRequest where
  tenantId : Identifier
  deviceId : Identifier
  supportedProfiles : List TransportProfile := [.wssOpus]
  controlProtocol : ControlProtocol := .rva
deriving DecidableEq

structure Candidate where
  worker : WorkerSnapshot
  publicWssUrl : String
  profiles : List TransportProfile
deriving DecidableEq

/-- A call of `DirectorService.bootstrap` in progress, with the candidates it has not tried. -/
structure Bootstrap where
  request : BootstrapRequest
  now : Time
  candidates : List Candidate
deriving DecidableEq

/-- The sort key of a candidate: load, then sessions, then name. -/
def Candidate.precedes (a b : Candidate) : Bool :=
  let load (c : Candidate) : ℚ := c.worker.activeSessions / c.worker.maxSessions
  if load a ≠ load b then load a < load b
  else if a.worker.activeSessions ≠ b.worker.activeSessions then a.worker.activeSessions < b.worker.activeSessions
  else a.worker.workerId.val ≤ b.worker.workerId.val

def candidateWorkers (workers : List WorkerSnapshot) (request : BootstrapRequest) : List Candidate :=
  (workers.filterMap candidate).insertionSort (fun a b => a.precedes b)
where
  candidate (worker : WorkerSnapshot) : Option Candidate := do
    let binding ← worker.resolvedBindings.find? (fun b => b.controlProtocol = request.controlProtocol)
    let allowed := request.supportedProfiles.filter (fun p => p ∈ binding.profiles)
    if worker.healthy ∧ ¬worker.draining ∧ worker.availableSlots > 0 ∧ allowed ≠ [] then
      some { worker := worker, publicWssUrl := binding.publicWssUrl, profiles := allowed }
    else none

/-- The worker's side of a heartbeat: `_send_once` between its awaits. -/
inductive Exchange
  | idle
  | prepared (heartbeat : WorkerHeartbeat)
  | awaiting (request : Request)
  | extended (response : Response)
  | settled (rejected : List LeaseRenewal)
deriving DecidableEq

structure WorkerProcess where
  registry : Registry := {}
  exchange : Exchange := .idle
  running : List Session := []

/-- The Director, the worker processes and the messages between them, under one
clock. `released` records the releases the store has carried out; nothing reads it. -/
structure Cluster where
  clock : Time := 0
  store : Store.State := {}
  requests : List Request := []
  handlers : List Handler := []
  responses : List Response := []
  bootstraps : List Bootstrap := []
  grants : List ConnectGrantClaims := []
  authorized : List ConnectGrantClaims := []
  workers : String → WorkerProcess := fun _ => {}
  numbers : Nat := 0
  released : List (String × LeaseRenewal) := []

inductive Event
  | tick (now : Time)
  | bootstrap (request : BootstrapRequest)
  | acquire (index : Nat) (sessionEpoch jti : Identifier)
  | consume (index : Nat)
  | start (index : Nat)
  | abort (index : Nat)
  | finish (worker : String) (index : Nat)
  | close (worker : String)
  | snapshot (worker : String)
  | revokeEpochs (worker : String) (sessionEpochs : List Identifier)
  | enforceExpiry (worker : String)
  | prepare (worker : String) (heartbeat : WorkerHeartbeat)
  | post (worker : String)
  | receive (worker : String) (index : Nat)
  | settle (worker : String)
  | conclude (worker : String)
  | fail (worker : String)
  | arrive (index : Nat)
  | advance (index : Nat)
  | crash (index : Nat)
  | release (workerId : Identifier) (claim : LeaseRenewal)
  | setDraining (workerId : String) (draining : Bool)

namespace Cluster

def setWorker (s : Cluster) (worker : String) (process : WorkerProcess) : Cluster :=
  { s with workers := Function.update s.workers worker process }

def withRegistry (s : Cluster) (worker : String) (f : Registry → Registry) : Cluster :=
  s.setWorker worker { s.workers worker with registry := f (s.workers worker).registry }

def releaseClaim (s : Cluster) (workerId : String) (claim : LeaseRenewal) : Cluster :=
  let result := Store.releaseRouteClaim s.store workerId claim
  { s with
    store := result.1
    released := if result.2 = .flag true then s.released ++ [(workerId, claim)] else s.released }

/-- One stretch of `DirectorService.heartbeat`, up to and including a store operation. -/
def advance (ttl : Ttl) (s : Cluster) (index : Nat) (h : Handler) : Cluster :=
  match h.stage with
  | .announce =>
    let result := Store.heartbeat s.store h.request.heartbeat (h.now + ttl.heartbeatSeconds)
    let draining := match result.2 with
      | .snapshot worker => worker.draining
      | _ => false
    { s with
      store := result.1
      handlers := s.handlers.set index { h with stage := .releasing draining h.request.heartbeat.releasedLeases } }
  | .releasing draining (claim :: rest) =>
    { s.releaseClaim h.request.workerId claim with
      handlers := s.handlers.set index { h with stage := .releasing draining rest } }
  | .releasing draining [] =>
    { s with handlers := s.handlers.set index { h with stage := .renewing draining h.request.heartbeat.activeLeases [] } }
  | .renewing draining (claim :: rest) rejected =>
    let result := Store.renewRoute s.store h.request.workerId claim h.now (h.now + ttl.leaseSeconds)
    let rejected := if result.2 = .flag true then rejected else rejected ++ [claim.sessionEpoch]
    { s with
      store := result.1
      handlers := s.handlers.set index { h with stage := .renewing draining rest rejected } }
  | .renewing draining [] rejected =>
    let response : Response :=
      { request := h.request
        draining := draining
        heartbeatExpiresAt := h.now + ttl.heartbeatSeconds
        leaseExpiresAt := h.now + ttl.leaseSeconds
        rejectedSessionEpochs := rejected }
    { s with handlers := s.handlers.eraseIdx index, responses := s.responses ++ [response] }

/-- `ConnectGrantClaims(...)` for a fresh lease, absent where it does not validate. -/
def issueGrant (b : Bootstrap) (c : Candidate) (lease : RouteLease) (expiresAt : Time) (jti : Identifier) :
    Option ConnectGrantClaims :=
  if h : c.profiles ≠ [] ∧ c.profiles.Nodup then
    some
      { tenantId := b.request.tenantId
        deviceId := b.request.deviceId
        workerId := c.worker.workerId
        sessionEpoch := lease.sessionEpoch
        fencingToken := lease.fencingToken
        profiles := c.profiles
        controlProtocol := b.request.controlProtocol
        iat := b.now
        exp := expiresAt
        jti := jti
        fencingToken_pos := lease.fencingToken_pos
        profiles_unique := h }
  else none

/-- One round of the loop of `bootstrap` over its candidates. -/
def acquire (ttl : Ttl) (s : Cluster) (index : Nat) (b : Bootstrap) (sessionEpoch jti : Identifier) : Cluster :=
  match b.candidates with
  | [] => { s with bootstraps := s.bootstraps.eraseIdx index }
  | c :: rest =>
    let result := Store.acquireRoute s.store
      { tenantId := b.request.tenantId.val
        deviceId := b.request.deviceId.val
        workerId := c.worker.workerId.val
        workerActiveSessions := c.worker.activeSessions
        workerMaxSessions := c.worker.maxSessions
        sessionEpoch := sessionEpoch.val
        now := b.now
        expiresAt := b.now + ttl.leaseSeconds }
    let s := { s with store := result.1 }
    match result.2 with
    | .error (.workerCapacity _) => { s with bootstraps := s.bootstraps.set index { b with candidates := rest } }
    | .lease lease =>
      { s with
        bootstraps := s.bootstraps.eraseIdx index
        grants := s.grants ++ (issueGrant b c lease (b.now + ttl.leaseSeconds) jti).toList }
    | _ => { s with bootstraps := s.bootstraps.eraseIdx index }

/-- A grant that passes verification is offered to the store once more, and admits
a session where the store consumes it. -/
def consume (s : Cluster) (grant : ConnectGrantClaims) : Cluster :=
  let result := Store.consumeGrantResult s.store grant s.clock
  { s with
    store := result.1
    authorized :=
      if result.2 = .grant { consumed := true, reason := "consumed" } then s.authorized ++ [grant] else s.authorized }

/-- The accepted claims of a response, as `exchange_heartbeat` filters them. -/
def acceptedClaims (response : Response) : List LeaseRenewal :=
  response.request.heartbeat.activeLeases.filter (fun c => c.sessionEpoch ∉ response.rejectedSessionEpochs)

def rejectedClaims (response : Response) : List LeaseRenewal :=
  response.request.heartbeat.activeLeases.filter (fun c => c.sessionEpoch ∈ response.rejectedSessionEpochs)

/-- One step of the cluster. An event that nothing waits for changes nothing. -/
def step (ttl : Ttl) (s : Cluster) : Event → Cluster
  | .tick now => { s with clock := max s.clock now }
  | .bootstrap request =>
    let result := Store.listWorkers s.store s.clock
    let candidates := match result.2 with
      | .workers workers => candidateWorkers workers request
      | _ => []
    { s with
      store := result.1
      bootstraps := s.bootstraps ++ [{ request := request, now := s.clock, candidates := candidates }] }
  | .acquire index sessionEpoch jti =>
    match s.bootstraps[index]? with
    | none => s
    | some b => s.acquire ttl index b sessionEpoch jti
  | .consume index =>
    match s.grants[index]? with
    | none => s
    | some grant => if grant.exp ≤ s.clock then s else s.consume grant
  | .start index =>
    match s.authorized[index]? with
    | none => s
    | some auth =>
      let process := s.workers auth.workerId.val
      let session : Session := { connection := s.numbers, auth := auth }
      { s.setWorker auth.workerId.val
          { process with registry := process.registry.run session, running := process.running ++ [session] } with
        authorized := s.authorized.eraseIdx index
        numbers := s.numbers + 1 }
  | .abort index =>
    match s.authorized[index]? with
    | none => s
    | some auth =>
      { s.withRegistry auth.workerId.val (·.abortStartup auth) with authorized := s.authorized.eraseIdx index }
  | .finish worker index =>
    match (s.workers worker).running[index]? with
    | none => s
    | some session =>
      s.setWorker worker
        { s.workers worker with
          registry := (s.workers worker).registry.finish session
          running := (s.workers worker).running.eraseIdx index }
  | .close worker => s.withRegistry worker (·.close)
  | .snapshot worker => s.withRegistry worker (·.snapshotActiveLeaseReleases)
  | .revokeEpochs worker sessionEpochs => s.withRegistry worker (·.revokeSessionEpochs sessionEpochs)
  | .enforceExpiry worker => s.withRegistry worker (·.revokeExpiredLeases s.clock)
  | .prepare worker heartbeat =>
    let process := s.workers worker
    if process.exchange = .idle ∧ heartbeat.workerId.val = worker ∧
        heartbeat.activeLeases = process.registry.activeLeaseRenewals ∧
        heartbeat.releasedLeases = process.registry.pendingLeaseReleases then
      s.setWorker worker { process with exchange := .prepared heartbeat }
    else s
  | .post worker =>
    let process := s.workers worker
    match process.exchange with
    | .prepared heartbeat =>
      if (process.registry.leaseRenewalDeadline heartbeat.activeLeases).any (· ≤ s.clock) then
        s.setWorker worker
          { process with registry := process.registry.revokeExpiredLeases s.clock, exchange := .idle }
      else
        let request : Request := { number := s.numbers, heartbeat := heartbeat }
        { s.setWorker worker { process with exchange := .awaiting request } with
          requests := s.requests ++ [request]
          numbers := s.numbers + 1 }
    | _ => s
  | .receive worker index =>
    let process := s.workers worker
    match s.responses[index]? with
    | none => s
    | some response =>
      if process.exchange = .awaiting response.request then
        { s.setWorker worker
            { process with
              registry :=
                process.registry.extendLeaseDeadlines response.leaseExpiresAt (acceptedClaims response) s.clock
              exchange := .extended response } with
          responses := s.responses.eraseIdx index }
      else s
  | .settle worker =>
    let process := s.workers worker
    match process.exchange with
    | .extended response =>
      s.setWorker worker
        { process with
          registry := (process.registry.revokeExpiredLeases s.clock).acknowledgeLeaseReleases
            response.request.heartbeat.releasedLeases
          exchange := .settled (rejectedClaims response) }
    | _ => s
  | .conclude worker =>
    let process := s.workers worker
    match process.exchange with
    | .settled rejected =>
      s.setWorker worker { process with registry := process.registry.revokeLeaseClaims rejected, exchange := .idle }
    | _ => s
  | .fail worker =>
    let process := s.workers worker
    match process.exchange with
    | .awaiting _ =>
      s.setWorker worker { process with registry := process.registry.revokeExpiredLeases s.clock, exchange := .idle }
    | _ => s
  | .arrive index =>
    match s.requests[index]? with
    | none => s
    | some request =>
      { s with
        requests := s.requests.eraseIdx index
        handlers := s.handlers ++ [{ request := request, now := s.clock, stage := .announce }] }
  | .advance index =>
    match s.handlers[index]? with
    | none => s
    | some h => s.advance ttl index h
  | .crash index => { s with handlers := s.handlers.eraseIdx index }
  | .release workerId claim => s.releaseClaim workerId.val claim
  | .setDraining workerId draining => { s with store := (Store.setDraining s.store workerId draining s.clock).1 }

abbrev Step (ttl : Ttl) : Cluster → Event × Unit → Cluster → Prop := Answers (fun s e => (s.step ttl e, ()))

end Cluster

end RealtimeVoice.Director
