import RealtimeVoice.Director.RedisStore
import RealtimeVoice.Director.Service

namespace RealtimeVoice.Director.Draining

open RealtimeVoice.Base RealtimeVoice.Base.Runs RealtimeVoice.Contracts

/-- How far a call of `bootstrap` has come. `pending` is a worker that the Redis store has
read and whose drain key it has not read yet. -/
inductive Stage
  | listing (pending : Option WorkerSnapshot) (workers : List WorkerSnapshot)
  | trying (candidates : List Candidate)
  | selected (candidate : Candidate)
  | failed
deriving DecidableEq

structure Boot where
  request : BootstrapRequest
  now : Time
  stage : Stage := .listing none []
deriving DecidableEq

namespace Boot

def listed (b : Boot) (workers : List WorkerSnapshot) : Boot :=
  match candidateWorkers workers b.request with
  | [] => { b with stage := .failed }
  | candidates => { b with stage := .trying candidates }

def acquireArgs (b : Boot) (c : Candidate) (leaseSeconds : Time) (sessionEpoch : String) : Store.AcquireArgs :=
  { tenantId := b.request.tenantId.val
    deviceId := b.request.deviceId.val
    workerId := c.worker.workerId.val
    workerActiveSessions := c.worker.activeSessions
    workerMaxSessions := c.worker.maxSessions
    sessionEpoch := sessionEpoch
    now := b.now
    expiresAt := b.now + leaseSeconds }

/-- The loop over the candidates goes on where a worker is full and ends with any other answer. -/
def answered (b : Boot) (c : Candidate) (rest : List Candidate) : Store.Reply → Boot
  | .lease _ => { b with stage := .selected c }
  | .error (.workerCapacity _) => { b with stage := .trying rest }
  | _ => { b with stage := .failed }

/-- The worker does not get the session of this call. -/
def Spares (workerId : String) (b : Boot) : Prop :=
  match b.stage with
  | .listing _ workers => ∀ x ∈ workers, x.workerId.val = workerId → x.draining = true
  | .trying candidates => ∀ c ∈ candidates, c.worker.workerId.val ≠ workerId
  | .selected c => c.worker.workerId.val ≠ workerId
  | .failed => True

end Boot

theorem candidateWorkers_not_draining {workers : List WorkerSnapshot} {request : BootstrapRequest} {c : Candidate}
    (h : c ∈ candidateWorkers workers request) : c.worker ∈ workers ∧ c.worker.draining = false := by
  rw [candidateWorkers, List.mem_insertionSort, List.mem_filterMap] at h
  obtain ⟨worker, hworker, hc⟩ := h
  simp only [candidateWorkers.candidate, Option.bind_eq_bind, Option.bind_eq_some_iff] at hc
  obtain ⟨binding, -, hc⟩ := hc
  split at hc
  · rename_i hready
    obtain rfl := Option.some.inj hc
    exact ⟨hworker, by simpa using hready.2.1⟩
  · cases hc

namespace Boot
variable {workerId : String} {b : Boot}

theorem listed_spares {workers : List WorkerSnapshot}
    (h : ∀ x ∈ workers, x.workerId.val = workerId → x.draining = true) : (b.listed workers).Spares workerId := by
  rw [listed]
  split
  · trivial
  · intro c hc heq
    obtain ⟨hworker, hdraining⟩ := candidateWorkers_not_draining hc
    rw [h _ hworker heq] at hdraining
    cases hdraining

theorem Spares.answered_spares {c : Candidate} {rest : List Candidate} (h : b.Spares workerId)
    (hstage : b.stage = .trying (c :: rest)) (reply : Store.Reply) : (b.answered c rest reply).Spares workerId := by
  rw [Spares, hstage] at h
  rw [answered.eq_def]
  split
  · exact h c List.mem_cons_self
  · exact fun c' hc' => h c' (List.mem_cons_of_mem _ hc')
  · trivial

end Boot

/-- The calls that began at or after a position in the list of all calls. -/
def SparedFrom (first : Nat) (workerId : String) (boots : List Boot) : Prop :=
  ∀ i b, first ≤ i → boots[i]? = some b → b.Spares workerId

section
variable {first : Nat} {workerId : String} {boots : List Boot}

theorem sparedFrom_length (boots : List Boot) : SparedFrom boots.length workerId boots := by
  intro i b hi hb
  rw [List.getElem?_eq_none hi] at hb
  cases hb

theorem SparedFrom.begin (h : SparedFrom first workerId boots) (request : BootstrapRequest) (now : Time) :
    SparedFrom first workerId (boots ++ [({ request := request, now := now } : Boot)]) := by
  intro i b hi hb
  rw [List.getElem?_append] at hb
  split at hb
  · exact h i b hi hb
  · have hmem := List.mem_of_getElem? hb
    rw [List.mem_singleton] at hmem
    subst hmem
    exact fun x hx => absurd hx List.not_mem_nil

theorem SparedFrom.set (h : SparedFrom first workerId boots) {i : Nat} {b' : Boot}
    (hb' : first ≤ i → b'.Spares workerId) : SparedFrom first workerId (boots.set i b') := by
  intro j b hj hb
  rw [List.getElem?_set] at hb
  split at hb
  · rename_i hij
    subst hij
    split at hb
    · obtain rfl := Option.some.inj hb
      exact hb' hj
    · cases hb
  · exact h j b hj hb

end

namespace Memory

/-- One store in memory and the calls of `bootstrap` that use it, finished ones included. -/
structure System where
  clock : Time := 0
  store : Store.State := {}
  boots : List Boot := []

inductive Event
  | tick (now : Time)
  | call (c : Store.Call)
  | begin (request : BootstrapRequest)
  | list (index : Nat)
  | acquire (index : Nat) (sessionEpoch : String)

def System.call (leaseSeconds : Time) (s : System) : Event → System × Option Store.Reply
  | .tick now => ({ s with clock := max s.clock now }, none)
  | .call c => ({ s with store := (Store.call s.store c).1 }, some (Store.call s.store c).2)
  | .begin request => ({ s with boots := s.boots ++ [{ request := request, now := s.clock }] }, none)
  | .list index =>
    match s.boots[index]? with
    | none => (s, none)
    | some b =>
      match b.stage, Store.listWorkers s.store b.now with
      | .listing _ _, (store, .workers workers) =>
        ({ s with store := store, boots := s.boots.set index (b.listed workers) }, none)
      | _, _ => (s, none)
  | .acquire index sessionEpoch =>
    match s.boots[index]? with
    | none => (s, none)
    | some b =>
      match b.stage with
      | .trying (c :: rest) =>
        let (store, reply) := Store.acquireRoute s.store (b.acquireArgs c leaseSeconds sessionEpoch)
        ({ s with store := store, boots := s.boots.set index (b.answered c rest reply) }, none)
      | .trying [] => ({ s with boots := s.boots.set index { b with stage := .failed } }, none)
      | _ => (s, none)

/-- The heartbeat record of the worker has not expired. -/
def Live (workerId : String) (s : System) : Prop :=
  (s.store.workers.get? workerId).any (fun worker => s.clock < worker.heartbeatExpiresAt)

/-- The event does not end the draining, and reads no clock that is ahead. -/
def Keeps (workerId : String) (s : System) : Event → Prop
  | .call (.setDraining id draining _) => id = workerId → draining = true
  | .call (.listWorkers now) => now ≤ s.clock
  | _ => True

def KeepStep (leaseSeconds : Time) (workerId : String) (s : System) (e : Event × Option Store.Reply) (t : System) :
    Prop :=
  (Live workerId s ∧ Keeps workerId s e.1) ∧ Answers (System.call leaseSeconds) s e t

/-- The record of the worker says that it drains. -/
def Drained (workerId : String) (s : System) : Prop :=
  ∃ worker, s.store.workers.get? workerId = some worker ∧ worker.draining = true

/-- Records are kept under the names of their workers. -/
def Keyed (s : Store.State) : Prop := ∀ k x, s.workers.get? k = some x → x.workerId.val = k

section
variable {s t : Store.State} {workerId : String} {x : WorkerSnapshot}

theorem acquireRoute_workers (s : Store.State) (a : Store.AcquireArgs) :
    (Store.acquireRoute s a).1.workers = s.workers := by
  simp only [Store.acquireRoute]
  split_ifs
  · rfl
  · rfl
  · split <;> rfl

theorem renewRoute_workers (s : Store.State) (w : String) (renewal : LeaseRenewal) (now expiresAt : Time) :
    (Store.renewRoute s w renewal now expiresAt).1.workers = s.workers := by
  simp only [Store.renewRoute]
  split
  · rfl
  · split_ifs <;> rfl

theorem releaseRoute_workers (s : Store.State) (lease : RouteLease) :
    (Store.releaseRoute s lease).1.workers = s.workers := by
  rw [Store.releaseRoute]
  split_ifs <;> rfl

theorem releaseRouteClaim_workers (s : Store.State) (w : String) (release : LeaseRenewal) :
    (Store.releaseRouteClaim s w release).1.workers = s.workers := by
  simp only [Store.releaseRouteClaim]
  split
  · rfl
  · split_ifs <;> rfl

theorem consumeGrantResult_workers (s : Store.State) (claims : ConnectGrantClaims) (now : Time) :
    (Store.consumeGrantResult s claims now).1.workers = s.workers := by
  simp only [Store.consumeGrantResult]
  split
  · rfl
  · split_ifs <;> rfl

theorem heartbeat_workers (s : Store.State) (hb : WorkerHeartbeat) (expiresAt : Time) :
    ∃ x : WorkerSnapshot, (Store.heartbeat s hb expiresAt).1.workers = s.workers.set hb.workerId.val x ∧
      x.workerId = hb.workerId ∧ ∀ current, s.workers.get? hb.workerId.val = some current → current.draining = true →
        x.draining = true := by
  simp only [Store.heartbeat]
  cases hcurrent : s.workers.get? hb.workerId.val with
  | none => exact ⟨_, rfl, rfl, by simp⟩
  | some current =>
    cases hdraining : current.draining with
    | true => exact ⟨_, rfl, by simp [hdraining], by simp [hdraining]⟩
    | false => exact ⟨_, rfl, by simp [hdraining], by simp [hdraining]⟩

theorem setDraining_workers (s : Store.State) (id : String) (draining : Bool) (now : Time) :
    (Store.setDraining s id draining now).1.workers = s.workers ∨ ∃ x, s.workers.get? id = some x ∧
      (Store.setDraining s id draining now).1.workers = s.workers.set id { x with draining := draining } := by
  simp only [Store.setDraining]
  cases hx : s.workers.get? id with
  | none => exact .inl rfl
  | some x =>
    dsimp only
    split_ifs
    · exact .inl rfl
    · exact .inr ⟨x, rfl, rfl⟩

/-- What a call does to the record of one worker. -/
theorem keyed_call (h : Keyed s) (c : Store.Call) : Keyed (Store.call s c).1 := by
  have hsame : (Store.call s c).1.workers = s.workers → Keyed (Store.call s c).1 := by
    intro heq k x hx
    rw [heq] at hx
    exact h k x hx
  cases c with
  | heartbeat hb expiresAt =>
    obtain ⟨x, hset, hid, -⟩ := heartbeat_workers s hb expiresAt
    intro k y hy
    rw [Store.call, hset, Dict.get?_set] at hy
    split at hy
    · rename_i hk
      obtain rfl := Option.some.inj hy
      rw [hid, hk]
    · exact h k y hy
  | listWorkers now =>
    intro k y hy
    simp only [Store.call, Store.listWorkers, Dict.get?_filter, Option.filter_eq_some_iff] at hy
    exact h k y hy.1
  | setDraining id draining now =>
    obtain heq | ⟨x, hx, hset⟩ := setDraining_workers s id draining now
    · exact hsame heq
    · intro k y hy
      rw [Store.call, hset, Dict.get?_set] at hy
      split at hy
      · rename_i hk
        obtain rfl := Option.some.inj hy
        rw [← hk] at hx
        exact h k x hx
      · exact h k y hy
  | acquireRoute args => exact hsame (acquireRoute_workers s args)
  | releaseRoute lease => exact hsame (releaseRoute_workers s lease)
  | renewRoute w renewal now expiresAt => exact hsame (renewRoute_workers s w renewal now expiresAt)
  | releaseRouteClaim w release => exact hsame (releaseRouteClaim_workers s w release)
  | consumeGrantResult claims now => exact hsame (consumeGrantResult_workers s claims now)

/-- A record that says that its worker drains says so after a call that does not end the draining. -/
theorem drained_call (c : Store.Call) (hx : s.workers.get? workerId = some x) (hdraining : x.draining = true)
    (hend : ∀ draining now, c = .setDraining workerId draining now → draining = true)
    (hlive : ∀ now, c = .listWorkers now → now < x.heartbeatExpiresAt) :
    ∃ y, (Store.call s c).1.workers.get? workerId = some y ∧ y.draining = true := by
  have hsame : (Store.call s c).1.workers = s.workers →
      ∃ y, (Store.call s c).1.workers.get? workerId = some y ∧ y.draining = true :=
    fun heq => ⟨x, by rw [heq, hx], hdraining⟩
  cases c with
  | heartbeat hb expiresAt =>
    obtain ⟨y, hset, -, hsticky⟩ := heartbeat_workers s hb expiresAt
    rw [Store.call, hset, Dict.get?_set]
    split
    · rename_i hk
      subst hk
      exact ⟨y, rfl, hsticky x hx hdraining⟩
    · exact ⟨x, hx, hdraining⟩
  | listWorkers now =>
    refine ⟨x, ?_, hdraining⟩
    simp [Store.call, Store.listWorkers, Dict.get?_filter, hx, hlive now rfl]
  | setDraining id draining now =>
    obtain heq | ⟨y, hy, hset⟩ := setDraining_workers s id draining now
    · exact hsame heq
    · rw [Store.call, hset, Dict.get?_set]
      split
      · rename_i hk
        subst hk
        exact ⟨_, rfl, hend draining now rfl⟩
      · exact ⟨x, hx, hdraining⟩
  | acquireRoute args => exact hsame (acquireRoute_workers s args)
  | releaseRoute lease => exact hsame (releaseRoute_workers s lease)
  | renewRoute w renewal now expiresAt => exact hsame (renewRoute_workers s w renewal now expiresAt)
  | releaseRouteClaim w release => exact hsame (releaseRouteClaim_workers s w release)
  | consumeGrantResult claims now => exact hsame (consumeGrantResult_workers s claims now)

end

/-- The store keeps its records in order, and no call of `bootstrap` reads a clock that is ahead. -/
structure Sound (s : System) : Prop where
  keyed : Keyed s.store
  clock : ∀ b ∈ s.boots, b.now ≤ s.clock

/-- What an event can do. -/
inductive Moves (leaseSeconds : Time) (s : System) : Event → System → Prop
  | idle (event : Event) : (∀ c, event ≠ .call c) → Moves leaseSeconds s event s
  | tick (now : Time) : Moves leaseSeconds s (.tick now) { s with clock := max s.clock now }
  | call (c : Store.Call) : Moves leaseSeconds s (.call c) { s with store := (Store.call s.store c).1 }
  | begin (request : BootstrapRequest) :
    Moves leaseSeconds s (.begin request) { s with boots := s.boots ++ [{ request := request, now := s.clock }] }
  | listed (index : Nat) (b : Boot) (hb : s.boots[index]? = some b) :
    Moves leaseSeconds s (.list index)
      { s with
        store := (Store.call s.store (.listWorkers b.now)).1
        boots := s.boots.set index (b.listed (Store.call s.store (.listWorkers b.now)).1.workers.values) }
  | acquired (index : Nat) (sessionEpoch : String) (b : Boot) (c : Candidate) (rest : List Candidate)
    (hb : s.boots[index]? = some b) (hstage : b.stage = .trying (c :: rest)) (reply : Store.Reply) :
    Moves leaseSeconds s (.acquire index sessionEpoch)
      { s with
        store := (Store.call s.store (.acquireRoute (b.acquireArgs c leaseSeconds sessionEpoch))).1
        boots := s.boots.set index (b.answered c rest reply) }
  | exhausted (index : Nat) (sessionEpoch : String) (b : Boot) (hb : s.boots[index]? = some b) :
    Moves leaseSeconds s (.acquire index sessionEpoch)
      { s with boots := s.boots.set index { b with stage := .failed } }

section
variable {leaseSeconds : Time} {s t : System} {workerId : String} {e : Event × Option Store.Reply} {first : Nat}

theorem moves_of_call (he : Answers (System.call leaseSeconds) s e t) : Moves leaseSeconds s e.1 t := by
  obtain ⟨event, reply⟩ := e
  cases event with
  | tick now =>
    obtain ⟨rfl, -⟩ := Prod.mk.inj he
    exact .tick now
  | call c =>
    obtain ⟨rfl, -⟩ := Prod.mk.inj he
    exact .call c
  | begin request =>
    obtain ⟨rfl, -⟩ := Prod.mk.inj he
    exact .begin request
  | list index =>
    simp only [Answers, System.call] at he
    split at he
    · obtain ⟨rfl, -⟩ := Prod.mk.inj he
      exact .idle _ (by simp)
    · rename_i b hb
      split at he
      · rename_i store workers hstage hlist
        obtain ⟨rfl, -⟩ := Prod.mk.inj he
        obtain ⟨rfl, hworkers⟩ := Prod.mk.inj hlist
        obtain rfl := Store.Reply.workers.inj hworkers
        exact .listed index b hb
      · obtain ⟨rfl, -⟩ := Prod.mk.inj he
        exact .idle _ (by simp)
  | acquire index sessionEpoch =>
    simp only [Answers, System.call] at he
    split at he
    · obtain ⟨rfl, -⟩ := Prod.mk.inj he
      exact .idle _ (by simp)
    · rename_i b hb
      split at he
      · rename_i c rest hstage
        obtain ⟨rfl, -⟩ := Prod.mk.inj he
        exact .acquired index sessionEpoch b c rest hb hstage _
      · obtain ⟨rfl, -⟩ := Prod.mk.inj he
        exact .exhausted index sessionEpoch b hb
      · obtain ⟨rfl, -⟩ := Prod.mk.inj he
        exact .idle _ (by simp)

theorem listed_now (b : Boot) (workers : List WorkerSnapshot) : (b.listed workers).now = b.now := by
  rw [Boot.listed]
  split <;> rfl

theorem answered_now (b : Boot) (c : Candidate) (rest : List Candidate) (reply : Store.Reply) :
    (b.answered c rest reply).now = b.now := by
  rw [Boot.answered.eq_def]
  split <;> rfl

theorem Sound.boots_set (h : Sound s) {index : Nat} {b b' : Boot} (hb : s.boots[index]? = some b)
    (hnow : b'.now = b.now) : ∀ x ∈ s.boots.set index b', x.now ≤ s.clock := by
  intro x hx
  obtain hx | rfl := List.mem_or_eq_of_mem_set hx
  · exact h.clock x hx
  · rw [hnow]
    exact h.clock b (List.mem_of_getElem? hb)

theorem Sound.moves {event : Event} (h : Sound s) (he : Moves leaseSeconds s event t) : Sound t := by
  cases he with
  | idle _ _ => exact h
  | tick now => exact ⟨h.keyed, fun b hb => (h.clock b hb).trans (le_max_left _ _)⟩
  | call c => exact ⟨keyed_call h.keyed c, h.clock⟩
  | begin request =>
    refine ⟨h.keyed, ?_⟩
    intro b hb
    obtain hb | hb := List.mem_append.mp hb
    · exact h.clock b hb
    · rw [List.mem_singleton.mp hb]
  | listed index b hb => exact ⟨keyed_call h.keyed _, h.boots_set hb (listed_now _ _)⟩
  | acquired index sessionEpoch b c rest hb hstage reply =>
    exact ⟨keyed_call h.keyed _, h.boots_set hb (answered_now _ _ _ _)⟩
  | exhausted index sessionEpoch b hb => exact ⟨h.keyed, h.boots_set hb rfl⟩

theorem Drained.moves (h : Drained workerId s) (hsound : Sound s) (hlive : Live workerId s)
    (hkeeps : Keeps workerId s e.1) (he : Moves leaseSeconds s e.1 t) : Drained workerId t := by
  obtain ⟨x, hx, hdraining⟩ := h
  have hexpiry : s.clock < x.heartbeatExpiresAt := by
    rw [Live, hx] at hlive
    simpa using hlive
  generalize e.1 = event at he hkeeps
  cases he with
  | idle _ _ => exact ⟨x, hx, hdraining⟩
  | tick now => exact ⟨x, hx, hdraining⟩
  | call c =>
    apply drained_call c hx hdraining
    · rintro draining now rfl
      exact hkeeps rfl
    · rintro now rfl
      exact lt_of_le_of_lt hkeeps hexpiry
  | begin request => exact ⟨x, hx, hdraining⟩
  | listed index b hb =>
    apply drained_call (.listWorkers b.now) hx hdraining
    · exact fun _ _ heq => nomatch heq
    · rintro now heq
      obtain rfl := Store.Call.listWorkers.inj heq
      exact lt_of_le_of_lt (hsound.clock b (List.mem_of_getElem? hb)) hexpiry
  | acquired index sessionEpoch b c rest hb hstage reply =>
    apply drained_call _ hx hdraining
    · exact fun _ _ heq => nomatch heq
    · exact fun _ heq => nomatch heq
  | exhausted index sessionEpoch b hb => exact ⟨x, hx, hdraining⟩

/-- A listing of the store shows a draining worker as one. -/
theorem listed_draining (h : Drained workerId s) (hkeyed : Keyed s.store) (now : Time) :
    ∀ y ∈ (Store.call s.store (.listWorkers now)).1.workers.values, y.workerId.val = workerId → y.draining = true := by
  intro y hy hid
  obtain ⟨x, hx, hdraining⟩ := h
  obtain ⟨k, hk⟩ := (Dict.mem_values_iff _ _).mp hy
  simp only [Store.call, Store.listWorkers, Dict.get?_filter, Option.filter_eq_some_iff] at hk
  have hkey := hkeyed k y hk.1
  obtain rfl : y = x := by
    have hget := hk.1
    rw [← hkey, hid, hx] at hget
    exact (Option.some.inj hget).symm
  exact hdraining

theorem spared_moves {event : Event} (h : SparedFrom first workerId s.boots) (hdrained : Drained workerId s)
    (hkeyed : Keyed s.store) (he : Moves leaseSeconds s event t) : SparedFrom first workerId t.boots := by
  cases he with
  | idle _ _ => exact h
  | tick now => exact h
  | call c => exact h
  | begin request => exact h.begin request s.clock
  | listed index b hb =>
    apply h.set
    exact fun _ => Boot.listed_spares (listed_draining hdrained hkeyed b.now)
  | acquired index sessionEpoch b c rest hb hstage reply =>
    apply h.set
    exact fun hi => (h index b hi hb).answered_spares hstage reply
  | exhausted index sessionEpoch b hb =>
    apply h.set
    exact fun _ => trivial

theorem sound_run {es : List (Event × Option Store.Reply)} (h : Run (Answers (System.call leaseSeconds)) {} es s) :
    Sound s := by
  apply h.state_invariant
  · exact ⟨fun k x hx => by simp [Dict.get?_empty] at hx, by simp⟩
  · exact fun _ _ _ ht he => ht.moves (moves_of_call he)

theorem spared_run {es : List (Event × Option Store.Reply)} (h : Run (KeepStep leaseSeconds workerId) s es t)
    (hsound : Sound s) (hdrained : Drained workerId s) : SparedFrom s.boots.length workerId t.boots := by
  have hall : Sound t ∧ Drained workerId t ∧ SparedFrom s.boots.length workerId t.boots := by
    apply h.state_invariant (P := fun t => Sound t ∧ Drained workerId t ∧ SparedFrom s.boots.length workerId t.boots)
    · exact ⟨hsound, hdrained, sparedFrom_length s.boots⟩
    · rintro t e u ⟨ht, hd, hs⟩ ⟨⟨hlive, hkeeps⟩, he⟩
      have hmoves := moves_of_call he
      exact ⟨ht.moves hmoves, hd.moves ht hlive hkeeps hmoves, spared_moves hs hd ht.keyed hmoves⟩
  exact hall.2.2

theorem drained_of_set {now : Time} {worker : WorkerSnapshot}
    (he : Answers (System.call leaseSeconds) s (.call (.setDraining workerId true now), some (.snapshot worker)) t) :
    Drained workerId t := by
  obtain ⟨rfl, hreply⟩ := Prod.mk.inj he
  simp only [Store.call, Store.setDraining] at hreply ⊢
  split at hreply
  · cases hreply
  · rename_i x hx
    split at hreply
    · cases hreply
    · rename_i hexpiry
      simp [Drained, hexpiry, Dict.get?_set_self]

end

end Memory

namespace Redis

/-- The `worker` and `worker-drain` keys with their deadlines, the other keys of the store, and the calls
of `bootstrap` that use it. Redis counts in whole milliseconds. -/
structure System where
  clockMs : Int := 0
  workers : Dict String (WorkerSnapshot × Int) := {}
  drains : Dict String (Bool × Int) := {}
  routes : RedisStore.State := { clock := 0 }
  boots : List Boot := []

inductive Event
  | tick (nowMs : Int)
  | heartbeat (heartbeat : WorkerHeartbeat) (expiresAt sentAt : Time)
  | setDraining (workerId : String) (draining : Bool) (now : Time)
  | route (c : RedisStore.Call)
  | begin (request : BootstrapRequest) (now : Time)
  | readWorker (index : Nat) (key : String)
  | readDrain (index : Nat)
  | list (index : Nat)
  | acquire (index : Nat) (sessionEpoch : String)

namespace System

def getWorker (s : System) (workerId : String) : Option (WorkerSnapshot × Int) :=
  (s.workers.get? workerId).filter (fun entry => decide (s.clockMs < entry.2))

/-- The drain key is there and has the value 1. -/
def getDrain (s : System) (workerId : String) : Bool :=
  ((s.drains.get? workerId).filter (fun entry => decide (s.clockMs < entry.2))).any (fun entry => entry.1)

def heartbeat (s : System) (hb : WorkerHeartbeat) (expiresAt sentAt : Time) : System × Option Store.Reply :=
  let snapshot : WorkerSnapshot := { toWorkerHeartbeat := hb, heartbeatExpiresAt := expiresAt }
  let draining := s.getDrain hb.workerId.val || hb.draining
  let deadline := s.clockMs + RedisStore.ttlMs expiresAt sentAt
  ({ s with
      workers := s.workers.set hb.workerId.val (snapshot, deadline)
      drains := s.drains.set hb.workerId.val (draining, deadline) },
    some (.snapshot { toWorkerHeartbeat := { hb with draining := draining }, heartbeatExpiresAt := expiresAt }))

def setDraining (s : System) (workerId : String) (draining : Bool) (now : Time) : System × Option Store.Reply :=
  match s.getWorker workerId with
  | none => (s, some (.error (.workerNotFound workerId)))
  | some entry =>
    let ttl := entry.2 - s.clockMs
    if entry.1.heartbeatExpiresAt ≤ now then (s, some (.error (.workerNotFound workerId)))
    else
      ({ s with drains := s.drains.set workerId (draining, s.clockMs + ttl) },
        some (.snapshot { entry.1 with draining := draining }))

def setStage (s : System) (index : Nat) (b : Boot) (stage : Stage) : System :=
  { s with boots := s.boots.set index { b with stage := stage } }

abbrev reported (hb : WorkerHeartbeat) (draining : Bool) : WorkerHeartbeat := { hb with draining := draining }

/-- `cjson` is what a number is after `cjson.encode` and `cjson.decode`. -/
def call (cjson : Time → Time) (leaseSeconds : Time) (s : System) : Event → System × Option Store.Reply
  | .tick nowMs => ({ s with clockMs := max s.clockMs nowMs }, none)
  | .heartbeat hb expiresAt sentAt => s.heartbeat hb expiresAt sentAt
  | .setDraining workerId draining now => s.setDraining workerId draining now
  | .route c => ({ s with routes := (RedisStore.call cjson s.routes c).1 }, some (RedisStore.call cjson s.routes c).2)
  | .begin request now => ({ s with boots := s.boots ++ [{ request := request, now := now }] }, none)
  | .readWorker index key =>
    match s.boots[index]? with
    | none => (s, none)
    | some b =>
      match b.stage, s.getWorker key with
      | .listing none workers, some (worker, _) =>
        if b.now < worker.heartbeatExpiresAt then (s.setStage index b (.listing (some worker) workers), none)
        else (s, none)
      | _, _ => (s, none)
  | .readDrain index =>
    match s.boots[index]? with
    | none => (s, none)
    | some b =>
      match b.stage with
      | .listing (some worker) workers =>
        let worker := { worker with toWorkerHeartbeat := reported worker.toWorkerHeartbeat (s.getDrain worker.workerId.val) }
        (s.setStage index b (.listing none (workers ++ [worker])), none)
      | _ => (s, none)
  | .list index =>
    match s.boots[index]? with
    | none => (s, none)
    | some b =>
      match b.stage with
      | .listing none workers => ({ s with boots := s.boots.set index (b.listed workers) }, none)
      | _ => (s, none)
  | .acquire index sessionEpoch =>
    match s.boots[index]? with
    | none => (s, none)
    | some b =>
      match b.stage with
      | .trying (c :: rest) =>
        let (routes, reply) := RedisStore.acquireRoute cjson s.routes (b.acquireArgs c leaseSeconds sessionEpoch)
        ({ s with routes := routes, boots := s.boots.set index (b.answered c rest reply) }, none)
      | .trying [] => (s.setStage index b .failed, none)
      | _ => (s, none)

end System

/-- The heartbeat record of the worker has not expired. -/
def Live (workerId : String) (s : System) : Prop :=
  (s.workers.get? workerId).any (fun entry => s.clockMs < entry.2)

/-- The event does not end the draining. -/
def Keeps (workerId : String) : Event → Prop
  | .setDraining id draining _ => id = workerId → draining = true
  | _ => True

def KeepStep (cjson : Time → Time) (leaseSeconds : Time) (workerId : String) (s : System)
    (e : Event × Option Store.Reply) (t : System) : Prop :=
  (Live workerId s ∧ Keeps workerId e.1) ∧ Answers (System.call cjson leaseSeconds) s e t

/-- The drain key of the worker is set and lasts as long as its heartbeat record. -/
def Drained (workerId : String) (s : System) : Prop :=
  ∃ worker deadline, s.workers.get? workerId = some (worker, deadline) ∧
    s.drains.get? workerId = some (true, deadline)

section
variable {cjson : Time → Time} {leaseSeconds : Time} {s t : System} {workerId : String} {first : Nat}

theorem getDrain_drained (h : Drained workerId s) (hlive : Live workerId s) : s.getDrain workerId = true := by
  obtain ⟨worker, deadline, hworker, hdrain⟩ := h
  have hexpiry : s.clockMs < deadline := by
    rw [Live, hworker] at hlive
    simpa using hlive
  simp [System.getDrain, hdrain, hexpiry]

theorem heartbeat_drained (h : Drained workerId s) (hlive : Live workerId s) (hb : WorkerHeartbeat)
    (expiresAt sentAt : Time) : Drained workerId (s.heartbeat hb expiresAt sentAt).1 := by
  have hdrain := getDrain_drained h hlive
  by_cases hk : workerId = hb.workerId.val
  · subst hk
    refine ⟨_, _, Dict.get?_set_self _ _ _, ?_⟩
    simp [System.heartbeat, Dict.get?_set_self, hdrain]
  · obtain ⟨worker, deadline, hworker, hkept⟩ := h
    refine ⟨worker, deadline, ?_, ?_⟩
    · simp [System.heartbeat, Dict.get?_set, hk, hworker]
    · simp [System.heartbeat, Dict.get?_set, hk, hkept]

/-- What `set_draining` writes lasts as long as the record that it found. -/
theorem setDraining_drained (s : System) (id : String) (draining : Bool) (now : Time) :
    (s.setDraining id draining now).1 = s ∨ ∃ worker deadline, s.workers.get? id = some (worker, deadline) ∧
      (s.setDraining id draining now).1 = { s with drains := s.drains.set id (draining, deadline) } := by
  rw [System.setDraining]
  cases hworker : s.getWorker id with
  | none => exact .inl rfl
  | some entry =>
    obtain ⟨worker, deadline⟩ := entry
    dsimp only
    split
    · exact .inl rfl
    · right
      rw [System.getWorker, Option.filter_eq_some_iff] at hworker
      refine ⟨worker, deadline, hworker.1, ?_⟩
      rw [add_sub_cancel]

/-- What an event can do. -/
inductive Moves (s : System) : Event → System → Prop
  | idle (event : Event) : Moves s event s
  | tick (nowMs : Int) : Moves s (.tick nowMs) { s with clockMs := max s.clockMs nowMs }
  | heartbeat (hb : WorkerHeartbeat) (expiresAt sentAt : Time) :
    Moves s (.heartbeat hb expiresAt sentAt) (s.heartbeat hb expiresAt sentAt).1
  | setDraining (id : String) (draining : Bool) (now : Time) :
    Moves s (.setDraining id draining now) (s.setDraining id draining now).1
  | route (c : RedisStore.Call) (routes : RedisStore.State) : Moves s (.route c) { s with routes := routes }
  | begin (request : BootstrapRequest) (now : Time) :
    Moves s (.begin request now) { s with boots := s.boots ++ [{ request := request, now := now }] }
  | readWorker (index : Nat) (key : String) (b : Boot) (worker : WorkerSnapshot) (workers : List WorkerSnapshot)
    (hb : s.boots[index]? = some b) (hstage : b.stage = .listing none workers) :
    Moves s (.readWorker index key) (s.setStage index b (.listing (some worker) workers))
  | readDrain (index : Nat) (b : Boot) (worker : WorkerSnapshot) (workers : List WorkerSnapshot)
    (hb : s.boots[index]? = some b) (hstage : b.stage = .listing (some worker) workers) :
    Moves s (.readDrain index)
      (s.setStage index b (.listing none (workers ++ [{ worker with draining := s.getDrain worker.workerId.val }])))
  | listed (index : Nat) (b : Boot) (workers : List WorkerSnapshot) (hb : s.boots[index]? = some b)
    (hstage : b.stage = .listing none workers) :
    Moves s (.list index) { s with boots := s.boots.set index (b.listed workers) }
  | acquired (index : Nat) (sessionEpoch : String) (b : Boot) (c : Candidate) (rest : List Candidate)
    (hb : s.boots[index]? = some b) (hstage : b.stage = .trying (c :: rest)) (routes : RedisStore.State)
    (reply : Store.Reply) :
    Moves s (.acquire index sessionEpoch)
      { s with routes := routes, boots := s.boots.set index (b.answered c rest reply) }
  | exhausted (index : Nat) (sessionEpoch : String) (b : Boot) (hb : s.boots[index]? = some b) :
    Moves s (.acquire index sessionEpoch) (s.setStage index b .failed)

theorem moves_of_call {e : Event × Option Store.Reply} (he : Answers (System.call cjson leaseSeconds) s e t) :
    Moves s e.1 t := by
  obtain ⟨event, reply⟩ := e
  have ht : (System.call cjson leaseSeconds s event).1 = t := congrArg Prod.fst he
  subst ht
  cases event with
  | tick nowMs => exact .tick nowMs
  | heartbeat hb expiresAt sentAt => exact .heartbeat hb expiresAt sentAt
  | setDraining id draining now => exact .setDraining id draining now
  | route c => exact .route c _
  | begin request now => exact .begin request now
  | readWorker index key =>
    simp only [System.call]
    split
    · exact .idle _
    · rename_i b hb
      split
      · rename_i workers worker deadline hstage hworker
        split
        · exact .readWorker index key b worker workers hb hstage
        · exact .idle _
      · exact .idle _
  | readDrain index =>
    simp only [System.call]
    split
    · exact .idle _
    · rename_i b hb
      split
      · rename_i worker workers hstage
        exact .readDrain index b worker workers hb hstage
      · exact .idle _
  | list index =>
    simp only [System.call]
    split
    · exact .idle _
    · rename_i b hb
      split
      · rename_i workers hstage
        exact .listed index b workers hb hstage
      · exact .idle _
  | acquire index sessionEpoch =>
    simp only [System.call]
    split
    · exact .idle _
    · rename_i b hb
      split
      · rename_i c rest hstage
        exact .acquired index sessionEpoch b c rest hb hstage _ _
      · exact .exhausted index sessionEpoch b hb
      · exact .idle _

theorem Drained.moves {event : Event} (h : Drained workerId s) (hlive : Live workerId s)
    (hkeeps : Keeps workerId event) (he : Moves s event t) : Drained workerId t := by
  cases he with
  | heartbeat hb expiresAt sentAt => exact heartbeat_drained h hlive hb expiresAt sentAt
  | setDraining id draining now =>
    obtain hsame | ⟨worker, deadline, hworker, hset⟩ := setDraining_drained s id draining now
    · rwa [hsame]
    · rw [hset]
      by_cases hid : id = workerId
      · subst hid
        rw [hkeeps rfl]
        exact ⟨worker, deadline, hworker, Dict.get?_set_self _ _ _⟩
      · obtain ⟨worker', deadline', hworker', hdrain'⟩ := h
        refine ⟨worker', deadline', hworker', ?_⟩
        rw [Dict.get?_set_ne _ _ (Ne.symm hid), hdrain']
  | idle _ => exact h
  | tick nowMs => exact h
  | route c routes => exact h
  | begin request now => exact h
  | readWorker index key b worker workers hb hstage => exact h
  | readDrain index b worker workers hb hstage => exact h
  | listed index b workers hb hstage => exact h
  | acquired index sessionEpoch b c rest hb hstage routes reply => exact h
  | exhausted index sessionEpoch b hb => exact h

theorem spared_moves {event : Event} (h : SparedFrom first workerId s.boots) (hdrained : Drained workerId s)
    (hlive : Live workerId s) (he : Moves s event t) : SparedFrom first workerId t.boots := by
  cases he with
  | idle _ => exact h
  | tick nowMs => exact h
  | heartbeat hb expiresAt sentAt => exact h
  | setDraining id draining now =>
    obtain hsame | ⟨worker, deadline, -, hset⟩ := setDraining_drained s id draining now
    · rwa [hsame]
    · rwa [hset]
  | route c routes => exact h
  | begin request now => exact h.begin request now
  | readWorker index key b worker workers hb hstage =>
    apply h.set
    intro hi
    have hspares := h index b hi hb
    rwa [Boot.Spares, hstage] at hspares
  | readDrain index b worker workers hb hstage =>
    apply h.set
    intro hi x hx hid
    have hspares := h index b hi hb
    rw [Boot.Spares, hstage] at hspares
    obtain hx | hx := List.mem_append.mp hx
    · exact hspares x hx hid
    · -- the drain key is read after the call began, so after the draining was set
      rw [List.mem_singleton] at hx
      subst hx
      have hname : worker.workerId.val = workerId := hid
      rw [hname]
      exact getDrain_drained hdrained hlive
  | listed index b workers hb hstage =>
    apply h.set
    intro hi
    have hspares := h index b hi hb
    rw [Boot.Spares, hstage] at hspares
    exact Boot.listed_spares hspares
  | acquired index sessionEpoch b c rest hb hstage routes reply =>
    apply h.set
    intro hi
    exact (h index b hi hb).answered_spares hstage reply
  | exhausted index sessionEpoch b hb =>
    apply h.set
    exact fun _ => trivial

theorem spared_run {es : List (Event × Option Store.Reply)} (h : Run (KeepStep cjson leaseSeconds workerId) s es t)
    (hdrained : Drained workerId s) : SparedFrom s.boots.length workerId t.boots := by
  have hall : Drained workerId t ∧ SparedFrom s.boots.length workerId t.boots := by
    apply h.state_invariant (P := fun t => Drained workerId t ∧ SparedFrom s.boots.length workerId t.boots)
    · exact ⟨hdrained, sparedFrom_length s.boots⟩
    · rintro t e u ⟨hd, hs⟩ ⟨⟨hlive, hkeeps⟩, he⟩
      have hmoves := moves_of_call he
      exact ⟨hd.moves hlive hkeeps hmoves, spared_moves hs hd hlive hmoves⟩
  exact hall.2

theorem drained_of_set {now : Time} {worker : WorkerSnapshot}
    (he : Answers (System.call cjson leaseSeconds) s (.setDraining workerId true now, some (.snapshot worker)) t) :
    Drained workerId t := by
  obtain ⟨rfl, hreply⟩ := Prod.mk.inj he
  change (s.setDraining workerId true now).2 = some (.snapshot worker) at hreply
  change Drained workerId (s.setDraining workerId true now).1
  rw [System.setDraining] at hreply ⊢
  cases hworker : s.getWorker workerId with
  | none =>
    rw [hworker] at hreply
    simp at hreply
  | some entry =>
    obtain ⟨x, deadline⟩ := entry
    rw [hworker] at hreply
    dsimp only at hreply ⊢
    split at hreply
    · simp at hreply
    · rename_i hexpiry
      rw [if_neg hexpiry]
      rw [System.getWorker, Option.filter_eq_some_iff] at hworker
      refine ⟨x, deadline, hworker.1, ?_⟩
      rw [Dict.get?_set_self, add_sub_cancel]

end

end Redis

/-- In both stores: after `set_draining(w, true)` has returned, no call of `bootstrap` that
begins later selects `w`, whatever heartbeats say, while its record does not expire and
its draining is not ended. -/
theorem draining_sticky (workerId : String) (leaseSeconds : Time) (cjson : Time → Time) :
    (∀ (es₀ es : List (Memory.Event × Option Store.Reply)) (s₀ s₁ s : Memory.System) (now : Time)
      (worker : WorkerSnapshot), Run (Answers (Memory.System.call leaseSeconds)) {} es₀ s₀ →
      Answers (Memory.System.call leaseSeconds) s₀
        (.call (.setDraining workerId true now), some (.snapshot worker)) s₁ →
      Run (Memory.KeepStep leaseSeconds workerId) s₁ es s → ∀ i b c, s₁.boots.length ≤ i → s.boots[i]? = some b →
        b.stage = .selected c → c.worker.workerId.val ≠ workerId) ∧
    ∀ (es : List (Redis.Event × Option Store.Reply)) (s₀ s₁ s : Redis.System) (now : Time) (worker : WorkerSnapshot),
      Answers (Redis.System.call cjson leaseSeconds) s₀
        (.setDraining workerId true now, some (.snapshot worker)) s₁ →
      Run (Redis.KeepStep cjson leaseSeconds workerId) s₁ es s → ∀ i b c, s₁.boots.length ≤ i → s.boots[i]? = some b →
        b.stage = .selected c → c.worker.workerId.val ≠ workerId := by
  constructor
  · intro es₀ es s₀ s₁ s now worker h₀ hset h i b c hi hb hc
    have hsound := (Memory.sound_run h₀).moves (Memory.moves_of_call hset)
    have hspares := Memory.spared_run h hsound (Memory.drained_of_set hset) i b hi hb
    rwa [Boot.Spares, hc] at hspares
  · intro es s₀ s₁ s now worker hset h i b c hi hb hc
    have hspares := Redis.spared_run h (Redis.drained_of_set hset) i b hi hb
    rwa [Boot.Spares, hc] at hspares

def demoHeartbeat (workerId : Identifier) (activeSessions : Nat) : WorkerHeartbeat :=
  { idleHeartbeat workerId "wss://worker/rva" with activeSessions := activeSessions }

def demoRequest : BootstrapRequest := { tenantId := sampleTenant, deviceId := sampleDevice }

def demoWorkers : List WorkerHeartbeat := [demoHeartbeat sampleWorker 0, demoHeartbeat laterWorker 3]

/-- The record of the first worker while it is drained. -/
def demoDraining : WorkerSnapshot :=
  { toWorkerHeartbeat := { demoHeartbeat sampleWorker 0 with draining := true }, heartbeatExpiresAt := 30 }

def demoCandidate : Candidate :=
  { worker := { toWorkerHeartbeat := demoHeartbeat laterWorker 3, heartbeatExpiresAt := 30 }
    publicWssUrl := "wss://worker/rva", profiles := [.wssOpus] }

/-- Two workers report, and the idle one of them is drained. -/
def demoMemory : List Memory.Event := demoWorkers.map fun hb => .call (.heartbeat hb 30)

/-- A session is asked for, and the drained worker reports again before the listing. -/
def demoMemoryAfter : List Memory.Event :=
  [.begin demoRequest, .call (.heartbeat (demoHeartbeat sampleWorker 0) 30), .list 0, .acquire 0 "epoch-1"]

def demoRedis : List Redis.Event := demoWorkers.map (fun hb => Redis.Event.heartbeat hb 30 0)

/-- The drained worker reports again between the readings of its two keys. -/
def demoRedisAfter : List Redis.Event :=
  [.begin demoRequest 0, .readWorker 0 "w1", .heartbeat (demoHeartbeat sampleWorker 0) 30 0, .readDrain 0,
    .readWorker 0 "w2", .readDrain 0, .list 0, .acquire 0 "epoch-1"]

instance (workerId : String) (s : Memory.System) : (e : Memory.Event) → Decidable (Memory.Keeps workerId s e)
  | .call (.setDraining _ _ _) => inferInstanceAs (Decidable (_ → _))
  | .call (.listWorkers _) => inferInstanceAs (Decidable (_ ≤ _))
  | .call (.heartbeat _ _) | .call (.acquireRoute _) | .call (.releaseRoute _) | .call (.renewRoute _ _ _ _)
  | .call (.releaseRouteClaim _ _) | .call (.consumeGrantResult _ _) => .isTrue trivial
  | .tick _ | .begin _ | .list _ | .acquire _ _ => .isTrue trivial

instance (workerId : String) : (e : Redis.Event) → Decidable (Redis.Keeps workerId e)
  | .setDraining _ _ _ => inferInstanceAs (Decidable (_ → _))
  | .tick _ | .heartbeat _ _ _ | .route _ | .begin _ _ | .readWorker _ _ | .readDrain _ | .list _ | .acquire _ _ =>
    .isTrue trivial

instance (workerId : String) (s : Memory.System) : Decidable (Memory.Live workerId s) :=
  inferInstanceAs (Decidable (_ = true))

instance (workerId : String) (s : Redis.System) : Decidable (Redis.Live workerId s) :=
  inferInstanceAs (Decidable (_ = true))

/-- The session goes to the second worker, though the first one has fewer. -/
theorem draining_sticky_demo :
    (∃ es s b, Run (Memory.KeepStep 30 "w1")
      (after (Memory.System.call 30) {} (demoMemory ++ [.call (.setDraining "w1" true 0)])) es s ∧
      s.boots[0]? = some b ∧ b.stage = .selected demoCandidate ∧ demoCandidate.worker.workerId.val ≠ "w1") ∧
    ∃ es s b, Run (Redis.KeepStep id 30 "w1")
      (after (Redis.System.call id 30) {} (demoRedis ++ [.setDraining "w1" true 0])) es s ∧
      s.boots[0]? = some b ∧ b.stage = .selected demoCandidate ∧ demoCandidate.worker.workerId.val ≠ "w1" := by
  let selected : Boot := { request := demoRequest, now := 0, stage := .selected demoCandidate }
  constructor
  · have hbefore := run_history (Memory.System.call 30) {} demoMemory
    have hset : Answers (Memory.System.call 30) (after (Memory.System.call 30) {} demoMemory)
        (.call (.setDraining "w1" true 0), some (.snapshot demoDraining))
        (after (Memory.System.call 30) {} (demoMemory ++ [.call (.setDraining "w1" true 0)])) :=
      Prod.ext rfl (by decide +kernel)
    have hafter : Run (Memory.KeepStep 30 "w1") _ (history (Memory.System.call 30) _ demoMemoryAfter) _ :=
      run_history_along (P := fun s e => Memory.Live "w1" s ∧ Memory.Keeps "w1" s e)
        (s := after (Memory.System.call 30) {} (demoMemory ++ [.call (.setDraining "w1" true 0)])) (by decide +kernel)
    have hboot : (after (Memory.System.call 30) {}
        (demoMemory ++ [.call (.setDraining "w1" true 0)] ++ demoMemoryAfter)).boots[0]? = some selected := by
      decide +kernel
    exact ⟨_, _, selected, hafter, hboot, rfl,
      (draining_sticky "w1" 30 id).1 _ _ _ _ _ 0 _ hbefore hset hafter 0 _ _ (by decide +kernel) hboot rfl⟩
  · have hset : Answers (Redis.System.call id 30) (after (Redis.System.call id 30) {} demoRedis)
        (.setDraining "w1" true 0, some (.snapshot demoDraining))
        (after (Redis.System.call id 30) {} (demoRedis ++ [.setDraining "w1" true 0])) :=
      Prod.ext rfl (by decide +kernel)
    have hafter : Run (Redis.KeepStep id 30 "w1") _ (history (Redis.System.call id 30) _ demoRedisAfter) _ :=
      run_history_along (P := fun s e => Redis.Live "w1" s ∧ Redis.Keeps "w1" e)
        (s := after (Redis.System.call id 30) {} (demoRedis ++ [.setDraining "w1" true 0])) (by decide +kernel)
    have hboot : (after (Redis.System.call id 30) {}
        (demoRedis ++ [.setDraining "w1" true 0] ++ demoRedisAfter)).boots[0]? = some selected := by
      decide +kernel
    exact ⟨_, _, selected, hafter, hboot, rfl,
      (draining_sticky "w1" 30 id).2 _ _ _ _ 0 _ hset hafter 0 _ _ (by decide +kernel) hboot rfl⟩

end RealtimeVoice.Director.Draining
