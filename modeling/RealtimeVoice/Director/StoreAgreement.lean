import RealtimeVoice.Director.RedisStore

namespace RealtimeVoice.Director.RedisStore

open RealtimeVoice.Base RealtimeVoice.Base.Runs RealtimeVoice.Contracts
open RealtimeVoice.Director.Store

/-- A time of whole milliseconds. -/
def WholeMs (t : Time) : Prop := ∃ k : Int, t = k / 1000

theorem WholeMs.sub {t u : Time} (ht : WholeMs t) (hu : WholeMs u) : ∃ k : Int, (t - u) * 1000 = k := by
  obtain ⟨m, rfl⟩ := ht
  obtain ⟨n, rfl⟩ := hu
  refine ⟨m - n, ?_⟩
  push_cast
  ring

theorem round_int (k : Int) : round (k : ℚ) = k := by
  rw [round, Int.floor_intCast]
  simp

/-- Between whole milliseconds the time to live is exact. -/
theorem ttlMs_whole {expiresAt now : Time} (he : WholeMs expiresAt) (hn : WholeMs now) (h : now < expiresAt) :
    now + ttlMs expiresAt now / 1000 = expiresAt := by
  obtain ⟨k, hk⟩ := he.sub hn
  have hpos : (0 : ℚ) < k := by
    rw [← hk]
    linarith
  have hone : 1 ≤ k := by
    have := Int.cast_pos.mp hpos
    omega
  rw [ttlMs, hk, round_int, max_eq_right hone, ← hk]
  ring

theorem roundsUp_whole {expiresAt now : Time} (he : WholeMs expiresAt) (hn : WholeMs now) :
    RoundsUp ((expiresAt - now) * 1000) := by
  obtain ⟨k, hk⟩ := he.sub hn
  rw [hk]
  exact .inr (.inl (by rw [Int.floor_intCast]))

/-- The call as the in-memory store gets it. -/
def Call.memory : Call → Store.Call
  | .acquireRoute args => .acquireRoute args
  | .renewRoute workerId renewal now expiresAt => .renewRoute workerId renewal now expiresAt
  | .releaseRouteClaim workerId release _ => .releaseRouteClaim workerId release
  | .consumeGrantResult claims now => .consumeGrantResult claims now

def Call.Whole : Call → Prop
  | .acquireRoute args => WholeMs args.now ∧ WholeMs args.expiresAt
  | .renewRoute _ _ now expiresAt => WholeMs now ∧ WholeMs expiresAt
  | .releaseRouteClaim _ _ now => WholeMs now
  | .consumeGrantResult claims now => WholeMs now ∧ WholeMs claims.exp

/-- A route is acquired with the identifiers of a validated request, and only an
unexpired lease is released. -/
def Call.Proper (memory : Store.State) (redis : State) : Call → Prop
  | .acquireRoute args =>
    identifierPattern args.tenantId = true ∧ identifierPattern args.deviceId = true ∧
      identifierPattern args.workerId = true ∧ identifierPattern args.sessionEpoch = true
  | .releaseRouteClaim workerId release now =>
    (∀ l, memory.leases.get? (encodeRouteKey release.tenantId.val release.deviceId.val) = some l →
      Store.claimMatches l workerId release = true → now < l.expiresAt) ∧
    ∀ v, get redis (encodeRouteKey release.tenantId.val release.deviceId.val) now = some v →
      claimMatches v workerId release = true → now < v.expiresAt
  | _ => True

/-- The same lease, flag, consumption or kind of error. The two conflict errors name
the route in different ways. -/
def Agrees : Reply → Reply → Prop
  | .lease l, .lease l' => l = l'
  | .flag b, .flag b' => b = b'
  | .grant g, .grant g' => g.consumed = g'.consumed
  | .error (.leaseConflict _), .error (.leaseConflict _) => True
  | .error (.workerCapacity w), .error (.workerCapacity w') => w = w'
  | _, _ => False

def stored (l : RouteLease) : StoredLease :=
  { tenantId := l.tenantId.val, deviceId := l.deviceId.val, workerId := l.workerId.val
    sessionEpoch := l.sessionEpoch.val, fencingToken := l.fencingToken, expiresAt := l.expiresAt }

/-- What the two stores have in common. Everything with an expiry is compared only
as far as it lies ahead of the clock. -/
structure Mirrors (memory : Store.State) (redis : State) : Prop where
  fences : ∀ k, redis.fences.get? k = memory.fencing.get? k
  deadline : ∀ k e, redis.routes.get? k = some e → e.lease.expiresAt ≤ e.deadline
  live : ∀ k v, redis.clock < v.expiresAt →
    ((∃ e, redis.routes.get? k = some e ∧ e.lease = v) ↔ ∃ l, memory.leases.get? k = some l ∧ stored l = v)
  members : ∀ w k score, redis.clock < score →
    ((workerSet redis w).get? k = some score ↔
      ∃ l, memory.leases.get? k = some l ∧ l.workerId.val = w ∧ l.expiresAt = score)
  jtis : ∀ j d, redis.clock < d → (redis.grantJtis.get? j = some d ↔ memory.consumedJti.get? j = some d)

theorem mirrors_init (clock : Time) : Mirrors {} { clock := clock } where
  fences _ := rfl
  deadline _ _ h := by cases h
  live _ _ _ := by simp
  members _ _ _ _ := by simp [workerSet]
  jtis _ _ _ := by simp

section

variable {memory : Store.State} {redis : State} {now : Time}

/-- Time passes for both stores alike. -/
theorem Mirrors.advance (h : Mirrors memory redis) (hnow : redis.clock ≤ now) :
    Mirrors memory { redis with clock := now } where
  fences := h.fences
  deadline := h.deadline
  live k v hv := h.live k v (hnow.trans_lt hv)
  members w k score hs := h.members w k score (hnow.trans_lt hs)
  jtis j d hd := h.jtis j d (hnow.trans_lt hd)

theorem get_eq_some {k : String} {v : StoredLease} :
    get redis k now = some v ↔ ∃ e, redis.routes.get? k = some e ∧ now < e.deadline ∧ e.lease = v := by
  rw [get, Option.map_eq_some_iff]
  simp only [Option.filter_eq_some_iff, decide_eq_true_eq, and_assoc]

/-- A live lease is the same lease in both stores. -/
theorem Mirrors.get_live (h : Mirrors memory redis) (hle : redis.clock ≤ now) {k : String} {v : StoredLease}
    (hv : now < v.expiresAt) :
    get redis k now = some v ↔ ∃ l, memory.leases.get? k = some l ∧ stored l = v := by
  rw [get_eq_some, ← h.live k v (hle.trans_lt hv)]
  refine ⟨?_, ?_⟩
  · rintro ⟨e, he, -, hlease⟩
    exact ⟨e, he, hlease⟩
  · rintro ⟨e, he, rfl⟩
    exact ⟨e, he, hv.trans_le (h.deadline k e he), rfl⟩

theorem purge_live {leases : Dict String RouteLease} {k : String} {l : RouteLease} :
    (purge leases now).get? k = some l ↔ leases.get? k = some l ∧ now < l.expiresAt := by
  rw [purge, Dict.get?_filter, Option.filter_eq_some_iff]
  simp

/-- A route is leased in both stores, or in neither. -/
theorem Mirrors.route_cases (h : Mirrors memory redis) (hle : redis.clock ≤ now) (k : String) :
    (∃ l, memory.leases.get? k = some l ∧ now < l.expiresAt ∧ get redis k now = some (stored l)) ∨
      ((∀ l, memory.leases.get? k = some l → l.expiresAt ≤ now) ∧
        ∀ v, get redis k now = some v → v.expiresAt ≤ now) := by
  by_cases hlive : ∃ l, memory.leases.get? k = some l ∧ now < l.expiresAt
  · obtain ⟨l, hl, hlt⟩ := hlive
    exact .inl ⟨l, hl, hlt, (h.get_live (v := stored l) hle hlt).mpr ⟨l, hl, rfl⟩⟩
  · refine .inr ⟨fun l hl => not_lt.mp fun hlt => hlive ⟨l, hl, hlt⟩, fun v hv => not_lt.mp fun hlt => ?_⟩
    obtain ⟨l, hl, rfl⟩ := (h.get_live hle hlt).mp hv
    exact hlive ⟨l, hl, hlt⟩

theorem Mirrors.reserved_eq (h : Mirrors memory redis) (hnow : redis.clock = now) (w : String) :
    reserved (purge memory.leases now) w =
      ((workerSet redis w).filter (fun _ score => !decide (score ≤ now))).size := by
  subst hnow
  rw [reserved, Dict.size_filter]
  refine Dict.countP_values_eq _ _ _ _ (fun k => ?_)
  simp only [purge_live, beq_iff_eq, Bool.not_eq_true', decide_eq_false_iff_not, not_le]
  refine ⟨?_, ?_⟩
  · rintro ⟨l, ⟨hl, hlt⟩, hw⟩
    exact ⟨l.expiresAt, (h.members w k l.expiresAt hlt).mpr ⟨l, hl, hw, rfl⟩, hlt⟩
  · rintro ⟨score, hscore, hlt⟩
    obtain ⟨l, hl, hw, rfl⟩ := (h.members w k score hlt).mp hscore
    exact ⟨l, ⟨hl, hlt⟩, hw⟩

/-- The in-memory store may forget what has expired. -/
theorem Mirrors.purged (h : Mirrors memory redis) (hnow : redis.clock = now) :
    Mirrors { memory with leases := purge memory.leases now } redis := by
  subst hnow
  refine { h with live := ?_, members := ?_ }
  · intro k v hv
    rw [h.live k v hv]
    refine exists_congr fun l => ?_
    rw [purge_live]
    refine ⟨?_, ?_⟩
    · rintro ⟨hl, rfl⟩
      exact ⟨⟨hl, hv⟩, rfl⟩
    · rintro ⟨⟨hl, -⟩, rfl⟩
      exact ⟨hl, rfl⟩
  · intro w k score hs
    rw [h.members w k score hs]
    refine exists_congr fun l => ?_
    rw [purge_live]
    refine ⟨?_, ?_⟩
    · rintro ⟨hl, hw, rfl⟩
      exact ⟨⟨hl, hs⟩, hw, rfl⟩
    · rintro ⟨⟨hl, -⟩, hw, rfl⟩
      exact ⟨hl, hw, rfl⟩

theorem workerSet_set (w : String) (members : Dict String Time) (w' : String) :
    workerSet { redis with workerRoutes := redis.workerRoutes.set w members } w' =
      if w' = w then members else workerSet redis w' := by
  rw [workerSet, Dict.get?_set]
  split <;> rfl

/-- A route without a lease may be dropped, and what has expired may leave the set. -/
theorem Mirrors.trimmed (h : Mirrors memory redis) (hnow : redis.clock = now) {k : String}
    (hfree : ∀ l, memory.leases.get? k = some l → l.expiresAt ≤ now) (w : String) :
    Mirrors memory { redis with
      routes := redis.routes.erase k
      workerRoutes := redis.workerRoutes.set w ((workerSet redis w).filter (fun _ score => !decide (score ≤ now))) } := by
  subst hnow
  refine { h with deadline := ?_, live := ?_, members := ?_ }
  · intro k' e he
    by_cases hk : k' = k
    · rw [hk, Dict.get?_erase_self] at he
      cases he
    · rw [Dict.get?_erase_ne _ hk] at he
      exact h.deadline k' e he
  · intro k' v hv
    by_cases hk : k' = k
    · subst hk
      rw [Dict.get?_erase_self]
      refine ⟨by simp, ?_⟩
      rintro ⟨l, hl, rfl⟩
      exact absurd hv (not_lt.mpr (hfree l hl))
    · rw [Dict.get?_erase_ne _ hk]
      exact h.live k' v hv
  · intro w' k' score hs
    rw [← h.members w' k' score hs]
    change (workerSet { redis with workerRoutes := _ } w').get? k' = some score ↔ _
    rw [workerSet_set]
    split
    · rename_i hw
      subst hw
      rw [Dict.get?_filter, Option.filter_eq_some_iff]
      simp [hs]
    · exact Iff.rfl

/-- A lease of worker `w` is put on a route whose lease, if it has one, was of `w` too. -/
theorem Mirrors.put (h : Mirrors memory redis) (hnow : redis.clock = now) {k w : String} {lease : RouteLease}
    {expiresAt : Time} (hworker : lease.workerId.val = w) (hexpires : lease.expiresAt = expiresAt)
    (hdeadline : expiresAt ≤ now + ttlMs expiresAt now / 1000)
    (hown : ∀ l, memory.leases.get? k = some l → now < l.expiresAt → l.workerId.val = w) :
    Mirrors { memory with leases := memory.leases.set k lease }
      (RedisStore.put redis k w (stored lease) now expiresAt) := by
  subst hnow hexpires
  refine { h with deadline := ?_, live := ?_, members := ?_ }
  · intro k' e he
    change (redis.routes.set k _).get? k' = some e at he
    rw [Dict.get?_set] at he
    split at he
    · obtain rfl := Option.some.inj he
      exact hdeadline
    · exact h.deadline k' e he
  · intro k' v hv
    change (∃ e, (redis.routes.set k _).get? k' = some e ∧ _) ↔ ∃ l, (memory.leases.set k lease).get? k' = some l ∧ _
    rw [Dict.get?_set, Dict.get?_set]
    split
    · simp
    · exact h.live k' v hv
  · intro w' k' score hs
    change (workerSet { redis with workerRoutes := redis.workerRoutes.set w _ } w').get? k' = some score ↔
      ∃ l, (memory.leases.set k lease).get? k' = some l ∧ _
    have hold := h.members w' k' score hs
    rw [workerSet_set, Dict.get?_set]
    by_cases hw : w' = w
    · subst hw
      rw [if_pos rfl, Dict.get?_set]
      by_cases hk : k' = k
      · rw [if_pos hk, if_pos hk]
        simp [hworker]
      · rw [if_neg hk, if_neg hk]
        exact hold
    · rw [if_neg hw]
      by_cases hk : k' = k
      · -- the other workers' sets hold nothing live for this route
        subst hk
        rw [if_pos rfl, hold]
        refine ⟨?_, ?_⟩
        · rintro ⟨l, hl, hl', rfl⟩
          exact absurd (hl'.symm.trans (hown l hl hs)) hw
        · rintro ⟨l, hl, hl', -⟩
          obtain rfl := Option.some.inj hl
          exact absurd (hl'.symm.trans hworker) hw
      · rw [if_neg hk]
        exact hold

theorem makeLease_proper {a : AcquireArgs} {fence : Nat} (hpos : 1 ≤ fence)
    (h : (Call.acquireRoute a).Proper memory redis) :
    ∃ lease, makeLease a fence hpos = some lease ∧
      stored lease =
        { tenantId := a.tenantId, deviceId := a.deviceId, workerId := a.workerId
          sessionEpoch := a.sessionEpoch, fencingToken := fence, expiresAt := a.expiresAt } := by
  obtain ⟨htenant, hdevice, hworker, hepoch⟩ := h
  have hid : ∀ {s : String} (hs : identifierPattern s = true), identifier? s = some ⟨s, hs⟩ := by
    intro s hs
    rw [identifier?, dif_pos hs]
  rw [makeLease, hid htenant, hid hdevice, hid hworker, hid hepoch]
  exact ⟨_, rfl, rfl⟩

variable {cjson : Time → Time} (hcjson : ∀ t, WholeMs t → cjson t = t)

include hcjson

theorem acquire_agrees {a : AcquireArgs} (h : Mirrors memory redis) (hle : redis.clock ≤ a.now)
    (hwhole : (Call.acquireRoute a).Whole) (hproper : (Call.acquireRoute a).Proper memory redis) :
    Mirrors (Store.acquireRoute memory a).1 (acquireRoute cjson redis a).1 ∧
      Agrees (Store.acquireRoute memory a).2 (acquireRoute cjson redis a).2 := by
  have hnow := (h.advance hle).purged rfl
  generalize hkey : encodeRouteKey a.tenantId a.deviceId = key
  simp only [Store.acquireRoute, acquireRoute, hkey]
  obtain ⟨l, hl, hlt, hget⟩ | ⟨hnone, hfree⟩ := hnow.route_cases (le_refl a.now) key
  · have hmemory : ((purge memory.leases a.now).get? key).any (fun l => decide (a.now < l.expiresAt)) = true := by
      rw [show (purge memory.leases a.now).get? key = some l from hl]
      exact decide_eq_true hlt
    have hredis : (get { redis with clock := a.now } key a.now).any (fun v => decide (a.now < v.expiresAt)) = true := by
      rw [show get { redis with clock := a.now } key a.now = some (stored l) from hget]
      exact decide_eq_true hlt
    rw [if_pos hmemory, if_pos hredis]
    exact ⟨hnow, trivial⟩
  · have hmemory : ¬((purge memory.leases a.now).get? key).any (fun l => decide (a.now < l.expiresAt)) = true := by
      rw [Option.any_eq_true]
      rintro ⟨l, hl, hlt⟩
      exact absurd (of_decide_eq_true hlt) (not_lt.mpr (hnone l hl))
    have hredis : ¬(get { redis with clock := a.now } key a.now).any (fun v => decide (a.now < v.expiresAt)) = true := by
      rw [Option.any_eq_true]
      rintro ⟨v, hv, hlt⟩
      exact absurd (of_decide_eq_true hlt) (not_lt.mpr (hfree v hv))
    have htrimmed := hnow.trimmed rfl hnone a.workerId
    have hreserved := (h.advance hle).reserved_eq rfl a.workerId
    have hsame : workerSet { redis with routes := redis.routes.erase key, clock := a.now } a.workerId =
        workerSet { redis with clock := a.now } a.workerId := rfl
    rw [if_neg hmemory, if_neg hredis, hsame, ← hreserved]
    by_cases hfull : max a.workerActiveSessions (reserved (purge memory.leases a.now) a.workerId) ≥ a.workerMaxSessions
    · rw [if_pos hfull, if_pos hfull]
      exact ⟨htrimmed, rfl⟩
    · obtain ⟨lease, hlease, hstored⟩ := makeLease_proper (Nat.le_add_left 1 ((memory.fencing.get? key).getD 0)) hproper
      rw [if_neg hfull, if_neg hfull]
      simp only [h.fences key, hlease, hcjson a.expiresAt hwhole.2, ← hstored]
      have hfenced : Mirrors { memory with
            leases := purge memory.leases a.now
            fencing := memory.fencing.set key ((memory.fencing.get? key).getD 0 + 1) }
          { redis with
            routes := redis.routes.erase key
            fences := redis.fences.set key ((memory.fencing.get? key).getD 0 + 1)
            workerRoutes := redis.workerRoutes.set a.workerId
              ((workerSet { redis with clock := a.now } a.workerId).filter (fun _ score => !decide (score ≤ a.now)))
            clock := a.now } := by
        refine { htrimmed with fences := ?_ }
        intro k
        rw [Dict.get?_set, Dict.get?_set, h.fences k]
      refine ⟨hfenced.put rfl (congrArg StoredLease.workerId hstored) (congrArg StoredLease.expiresAt hstored)
        (le_deadline (roundsUp_whole hwhole.2 hwhole.1)) ?_, rfl⟩
      intro l hl hlt
      exact absurd hlt (not_lt.mpr (hnone l hl))

omit hcjson in
theorem claimMatches_stored (l : RouteLease) (workerId : String) (claim : LeaseRenewal) :
    claimMatches (stored l) workerId claim = Store.claimMatches l workerId claim := by
  rw [claimMatches, Store.claimMatches]
  congr 2

omit hcjson in
theorem claimMatches_worker {l : RouteLease} {workerId : String} {claim : LeaseRenewal}
    (h : Store.claimMatches l workerId claim = true) : l.workerId.val = workerId := by
  rw [Store.claimMatches, Bool.and_eq_true, Bool.and_eq_true, beq_iff_eq] at h
  exact h.1.1

omit hcjson in
/-- An expired lease is renewed in neither store. -/
theorem renewRoute_expired {workerId : String} {renewal : LeaseRenewal} {expiresAt : Time}
    (h : ∀ l, memory.leases.get? (encodeRouteKey renewal.tenantId.val renewal.deviceId.val) = some l → l.expiresAt ≤ now) :
    Store.renewRoute memory workerId renewal now expiresAt = (memory, .flag false) := by
  simp only [Store.renewRoute]
  cases hm : memory.leases.get? (encodeRouteKey renewal.tenantId.val renewal.deviceId.val) with
  | none => rfl
  | some l =>
    dsimp only
    rw [if_pos (.inl (h l hm))]

omit hcjson in
theorem redis_renewRoute_expired {workerId : String} {renewal : LeaseRenewal} {expiresAt : Time}
    (h : ∀ v, get redis (encodeRouteKey renewal.tenantId.val renewal.deviceId.val) now = some v → v.expiresAt ≤ now) :
    renewRoute cjson redis workerId renewal now expiresAt = ({ redis with clock := now }, .flag false) := by
  simp only [renewRoute]
  cases hm : get redis (encodeRouteKey renewal.tenantId.val renewal.deviceId.val) now with
  | none =>
    rw [show get { redis with clock := now } _ now = none from hm]
  | some v =>
    rw [show get { redis with clock := now } _ now = some v from hm]
    dsimp only
    rw [if_pos (.inl (h v hm))]

theorem renew_agrees {workerId : String} {renewal : LeaseRenewal} {expiresAt : Time} (h : Mirrors memory redis)
    (hle : redis.clock ≤ now) (hwhole : (Call.renewRoute workerId renewal now expiresAt).Whole) :
    Mirrors (Store.renewRoute memory workerId renewal now expiresAt).1
        (renewRoute cjson redis workerId renewal now expiresAt).1 ∧
      Agrees (Store.renewRoute memory workerId renewal now expiresAt).2
        (renewRoute cjson redis workerId renewal now expiresAt).2 := by
  have hnow := h.advance hle
  obtain ⟨l, hl, hlt, hget⟩ | ⟨hnone, hfree⟩ :=
    h.route_cases hle (encodeRouteKey renewal.tenantId.val renewal.deviceId.val)
  · simp only [Store.renewRoute, renewRoute]
    rw [show memory.leases.get? _ = some l from hl, show get { redis with clock := now } _ now = some (stored l) from hget]
    dsimp only
    rw [claimMatches_stored]
    by_cases hmatch : l.expiresAt ≤ now ∨ Store.claimMatches l workerId renewal = false
    · rw [if_pos hmatch, if_pos (show (stored l).expiresAt ≤ now ∨ _ from hmatch)]
      exact ⟨hnow, rfl⟩
    · rw [if_neg hmatch, if_neg (show ¬((stored l).expiresAt ≤ now ∨ _) from hmatch), hcjson expiresAt hwhole.2]
      rw [not_or, Bool.not_eq_false] at hmatch
      have hworker := claimMatches_worker hmatch.2
      have hrenewed : ({ l with expiresAt := expiresAt } : RouteLease).workerId.val = workerId := hworker
      refine ⟨hnow.put rfl hrenewed rfl (le_deadline (roundsUp_whole hwhole.2 hwhole.1)) ?_, rfl⟩
      intro l' hl' _
      obtain rfl := Option.some.inj (hl.symm.trans hl')
      exact hworker
  · rw [renewRoute_expired hnone, redis_renewRoute_expired hfree]
    exact ⟨hnow, rfl⟩

omit hcjson in
/-- Both stores forget a live lease together. -/
theorem Mirrors.erased (h : Mirrors memory redis) {k w : String}
    (hown : ∀ l, memory.leases.get? k = some l → redis.clock < l.expiresAt → l.workerId.val = w) :
    Mirrors { memory with leases := memory.leases.erase k }
      { redis with
        routes := redis.routes.erase k
        workerRoutes := redis.workerRoutes.set w ((workerSet redis w).erase k) } := by
  refine { h with deadline := ?_, live := ?_, members := ?_ }
  · intro k' e he
    by_cases hk : k' = k
    · rw [hk, Dict.get?_erase_self] at he
      cases he
    · rw [Dict.get?_erase_ne _ hk] at he
      exact h.deadline k' e he
  · intro k' v hv
    by_cases hk : k' = k
    · subst hk
      rw [Dict.get?_erase_self, Dict.get?_erase_self]
      simp
    · rw [Dict.get?_erase_ne _ hk, Dict.get?_erase_ne _ hk]
      exact h.live k' v hv
  · intro w' k' score hs
    have hold := h.members w' k' score hs
    change (workerSet { redis with workerRoutes := _ } w').get? k' = some score ↔ _
    rw [workerSet_set]
    by_cases hk : k' = k
    · subst hk
      rw [Dict.get?_erase_self]
      by_cases hw : w' = w
      · rw [if_pos hw, Dict.get?_erase_self]
        simp
      · rw [if_neg hw, hold]
        refine ⟨?_, by simp⟩
        rintro ⟨l, hl, hl', rfl⟩
        exact absurd (hl'.symm.trans (hown l hl hs)) hw
    · rw [Dict.get?_erase_ne _ hk]
      split
      · rename_i hw
        rw [Dict.get?_erase_ne _ hk, ← hw]
        exact hold
      · exact hold

omit hcjson in
theorem releaseRouteClaim_other {workerId : String} {release : LeaseRenewal}
    (h : ∀ l, memory.leases.get? (encodeRouteKey release.tenantId.val release.deviceId.val) = some l →
      Store.claimMatches l workerId release = false) :
    Store.releaseRouteClaim memory workerId release = (memory, .flag false) := by
  simp only [Store.releaseRouteClaim]
  cases hm : memory.leases.get? (encodeRouteKey release.tenantId.val release.deviceId.val) with
  | none => rfl
  | some l =>
    dsimp only
    rw [if_pos (h l hm)]

omit hcjson in
theorem redis_releaseRouteClaim_other {workerId : String} {release : LeaseRenewal}
    (h : ∀ v, get redis (encodeRouteKey release.tenantId.val release.deviceId.val) now = some v →
      claimMatches v workerId release = false) :
    releaseRouteClaim redis workerId release now = ({ redis with clock := now }, .flag false) := by
  simp only [releaseRouteClaim]
  cases hm : get redis (encodeRouteKey release.tenantId.val release.deviceId.val) now with
  | none => rw [show get { redis with clock := now } _ now = none from hm]
  | some v =>
    rw [show get { redis with clock := now } _ now = some v from hm]
    dsimp only
    rw [if_pos (h v hm)]

omit hcjson in
theorem release_agrees {workerId : String} {release : LeaseRenewal} (h : Mirrors memory redis)
    (hle : redis.clock ≤ now) (hproper : (Call.releaseRouteClaim workerId release now).Proper memory redis) :
    Mirrors (Store.releaseRouteClaim memory workerId release).1 (releaseRouteClaim redis workerId release now).1 ∧
      Agrees (Store.releaseRouteClaim memory workerId release).2 (releaseRouteClaim redis workerId release now).2 := by
  have hnow := h.advance hle
  obtain ⟨hmemory, hredis⟩ := hproper
  obtain ⟨l, hl, hlt, hget⟩ | ⟨hnone, hfree⟩ :=
    h.route_cases hle (encodeRouteKey release.tenantId.val release.deviceId.val)
  · simp only [Store.releaseRouteClaim, releaseRouteClaim]
    rw [show memory.leases.get? _ = some l from hl, show get { redis with clock := now } _ now = some (stored l) from hget]
    dsimp only
    rw [claimMatches_stored]
    by_cases hmatch : Store.claimMatches l workerId release = false
    · rw [if_pos hmatch, if_pos hmatch]
      exact ⟨hnow, rfl⟩
    · rw [if_neg hmatch, if_neg hmatch]
      rw [Bool.not_eq_false] at hmatch
      refine ⟨hnow.erased ?_, rfl⟩
      intro l' hl' _
      obtain rfl := Option.some.inj (hl.symm.trans hl')
      exact claimMatches_worker hmatch
  · -- a lease that has run out is not the one released
    rw [releaseRouteClaim_other fun l hl => ?_, redis_releaseRouteClaim_other fun v hv => ?_]
    · exact ⟨hnow, rfl⟩
    · rw [← Bool.not_eq_true]
      exact fun hmatch => absurd (hredis v hv hmatch) (not_lt.mpr (hfree v hv))
    · rw [← Bool.not_eq_true]
      exact fun hmatch => absurd (hmemory l hl hmatch) (not_lt.mpr (hnone l hl))

/-- The grant fits the lease: neither has run out, and they name the same session. -/
def Fits (l : RouteLease) (claims : ConnectGrantClaims) (now : Time) : Prop :=
  now < l.expiresAt ∧ now < claims.exp ∧ l.tenantId = claims.tenantId ∧ l.deviceId = claims.deviceId ∧
    l.workerId = claims.workerId ∧ l.sessionEpoch = claims.sessionEpoch ∧ l.fencingToken = claims.fencingToken

omit hcjson in
theorem refusal_stored (l : RouteLease) (claims : ConnectGrantClaims) (now : Time) :
    refusal (some (stored l)) claims now = none ↔ Fits l claims now := by
  rw [refusal.eq_def]
  dsimp only [stored]
  refine ⟨?_, ?_⟩
  · intro h
    split_ifs at h with h₁ h₂ h₃ h₄ h₅ h₆
    rw [not_or, not_ne_iff, not_ne_iff] at h₃
    exact ⟨not_le.mp h₁, not_le.mp h₂, Subtype.ext h₃.1, Subtype.ext h₃.2, Subtype.ext (not_ne_iff.mp h₄),
      Subtype.ext (not_ne_iff.mp h₅), not_ne_iff.mp h₆⟩
  · rintro ⟨hlease, hgrant, htenant, hdevice, hworker, hepoch, htoken⟩
    rw [if_neg (not_le.mpr hlease), if_neg (not_le.mpr hgrant), if_neg (by simp [htenant, hdevice]),
      if_neg (by simp [hworker]), if_neg (by simp [hepoch]), if_neg (by simp [htoken])]

omit hcjson in
theorem refusal_expired {current : Option StoredLease} {claims : ConnectGrantClaims}
    (h : ∀ v, current = some v → v.expiresAt ≤ now) : refusal current claims now ≠ none := by
  cases current with
  | none => simp [refusal]
  | some v => simp [refusal, h v rfl]

omit hcjson in
theorem consumeGrantResult_fits {claims : ConnectGrantClaims} {l : RouteLease}
    (hl : memory.leases.get? (encodeRouteKey claims.tenantId.val claims.deviceId.val) = some l)
    (h : Fits l claims now) :
    Store.consumeGrantResult memory claims now =
      let remembered := memory.consumedJti.filter (fun _ expiry => decide (now < expiry))
      if (remembered.get? claims.jti.val).isSome then
        ({ memory with consumedJti := remembered }, .grant { consumed := false, reason := "grant_replay" })
      else
        ({ memory with consumedJti := remembered.set claims.jti.val claims.exp },
          .grant { consumed := true, reason := "consumed" }) := by
  obtain ⟨hlease, hgrant, htenant, hdevice, hworker, hepoch, htoken⟩ := h
  simp only [Store.consumeGrantResult, hl]
  rw [if_neg (not_le.mpr hlease), if_neg (not_le.mpr hgrant), if_neg (by simp [htenant, hdevice]),
    if_neg (by simp [hworker]), if_neg (by simp [hepoch]), if_neg (by simp [htoken])]

omit hcjson in
theorem consumeGrantResult_refused {claims : ConnectGrantClaims}
    (h : ∀ l, memory.leases.get? (encodeRouteKey claims.tenantId.val claims.deviceId.val) = some l →
      ¬Fits l claims now) :
    ∃ reason, Store.consumeGrantResult memory claims now =
      ({ memory with consumedJti := memory.consumedJti.filter (fun _ expiry => decide (now < expiry)) },
        .grant { consumed := false, reason := reason }) := by
  simp only [Store.consumeGrantResult]
  cases hl : memory.leases.get? (encodeRouteKey claims.tenantId.val claims.deviceId.val) with
  | none => exact ⟨_, rfl⟩
  | some l =>
    have hnot := h l hl
    dsimp only
    split_ifs with h₁ h₂ h₃ h₄ h₅ h₆ h₇
    any_goals exact ⟨_, rfl⟩
    rw [not_or, not_ne_iff, not_ne_iff] at h₃
    exact absurd ⟨not_le.mp h₁, not_le.mp h₂, h₃.1, h₃.2, not_ne_iff.mp h₄, not_ne_iff.mp h₅, not_ne_iff.mp h₆⟩ hnot

omit hcjson in
/-- The in-memory store may forget the grants that have run out. -/
theorem Mirrors.forgets (h : Mirrors memory redis) (hnow : redis.clock = now) :
    Mirrors { memory with consumedJti := memory.consumedJti.filter (fun _ expiry => decide (now < expiry)) } redis := by
  subst hnow
  refine { h with jtis := ?_ }
  intro j d hd
  rw [Dict.get?_filter, Option.filter_eq_some_iff, h.jtis j d hd]
  simp [hd]

omit hcjson in
theorem consume_agrees {claims : ConnectGrantClaims} (h : Mirrors memory redis) (hle : redis.clock ≤ now)
    (hwhole : (Call.consumeGrantResult claims now).Whole) :
    Mirrors (Store.consumeGrantResult memory claims now).1 (consumeGrantResult redis claims now).1 ∧
      Agrees (Store.consumeGrantResult memory claims now).2 (consumeGrantResult redis claims now).2 := by
  have hnow := (h.advance hle).forgets rfl
  have hrefused : (∀ l, memory.leases.get? (encodeRouteKey claims.tenantId.val claims.deviceId.val) = some l →
      ¬Fits l claims now) →
      refusal (get redis (encodeRouteKey claims.tenantId.val claims.deviceId.val) now) claims now ≠ none →
      Mirrors (Store.consumeGrantResult memory claims now).1 (consumeGrantResult redis claims now).1 ∧
        Agrees (Store.consumeGrantResult memory claims now).2 (consumeGrantResult redis claims now).2 := by
    intro hmemory hredis
    obtain ⟨reason, hreason⟩ := consumeGrantResult_refused hmemory
    obtain ⟨reason', hreason'⟩ := Option.ne_none_iff_exists'.mp hredis
    rw [hreason, consumeGrantResult]
    dsimp only
    rw [show refusal (get { redis with clock := now } _ now) claims now = some reason' from hreason']
    exact ⟨hnow, rfl⟩
  obtain ⟨l, hl, hlt, hget⟩ | ⟨hnone, hfree⟩ :=
    h.route_cases hle (encodeRouteKey claims.tenantId.val claims.deviceId.val)
  · by_cases hfits : Fits l claims now
    · rw [consumeGrantResult_fits hl hfits, consumeGrantResult]
      dsimp only
      rw [show refusal (get { redis with clock := now } _ now) claims now = none by
        rw [show get { redis with clock := now } _ now = some (stored l) from hget]
        exact (refusal_stored l claims now).mpr hfits]
      dsimp only
      have hreplay : ((memory.consumedJti.filter (fun _ expiry => decide (now < expiry))).get? claims.jti.val).isSome =
          (redis.grantJtis.get? claims.jti.val).any (fun d => decide (now < d)) := by
        rw [Bool.eq_iff_iff, Option.isSome_iff_exists, Option.any_eq_true]
        refine exists_congr fun d => ?_
        rw [Dict.get?_filter, Option.filter_eq_some_iff, decide_eq_true_iff]
        exact and_congr_left fun hd => (h.jtis _ d (hle.trans_lt hd)).symm
      rw [hreplay]
      by_cases hspent : (redis.grantJtis.get? claims.jti.val).any (fun d => decide (now < d)) = true
      · rw [if_pos hspent, if_pos hspent]
        exact ⟨hnow, rfl⟩
      · rw [if_neg hspent, if_neg hspent, ttlMs_whole hwhole.2 hwhole.1 hfits.2.1]
        refine ⟨{ hnow with jtis := ?_ }, rfl⟩
        intro j d hd
        rw [Dict.get?_set, Dict.get?_set]
        split
        · exact Iff.rfl
        · exact hnow.jtis j d hd
    · refine hrefused ?_ ?_
      · intro l' hl'
        obtain rfl := Option.some.inj (hl.symm.trans hl')
        exact hfits
      · rw [hget]
        exact mt (refusal_stored l claims now).mp hfits
  · exact hrefused (fun l hl hfits => absurd hfits.1 (not_lt.mpr (hnone l hl))) (refusal_expired hfree)

end

/-- One call put to both stores. -/
def jointCall (cjson : Time → Time) (s : Store.State × State) (c : Call) : (Store.State × State) × Reply × Reply :=
  (((Store.call s.1 c.memory).1, (call cjson s.2 c).1), (Store.call s.1 c.memory).2, (call cjson s.2 c).2)

/-- The times of both stores are whole milliseconds that never go back. -/
def Allowed (s : Store.State × State) (c : Call) : Prop := s.2.clock ≤ c.now ∧ c.Whole ∧ c.Proper s.1 s.2

def JointStep (cjson : Time → Time) (s : Store.State × State) (e : Call × Reply × Reply) (t : Store.State × State) :
    Prop :=
  Allowed s e.1 ∧ Answers (jointCall cjson) s e t

theorem call_agrees {cjson : Time → Time} (hcjson : ∀ t, WholeMs t → cjson t = t) {memory : Store.State}
    {redis : State} (h : Mirrors memory redis) (c : Call) (hle : redis.clock ≤ c.now) (hwhole : c.Whole)
    (hproper : c.Proper memory redis) :
    Mirrors (Store.call memory c.memory).1 (call cjson redis c).1 ∧
      Agrees (Store.call memory c.memory).2 (call cjson redis c).2 := by
  cases c with
  | acquireRoute args => exact acquire_agrees hcjson h hle hwhole hproper
  | renewRoute workerId renewal now expiresAt => exact renew_agrees hcjson h hle hwhole
  | releaseRouteClaim workerId release now => exact release_agrees h hle hproper
  | consumeGrantResult claims now => exact consume_agrees h hle hwhole

/-- The two stores give the same answers for ever, and a worker's set holds the routes
of its unexpired leases. -/
theorem stores_agree {cjson : Time → Time} (hcjson : ∀ t, WholeMs t → cjson t = t) {clock : Time}
    {es : List (Call × Reply × Reply)} {s : Store.State × State}
    (h : Run (JointStep cjson) ({}, { clock := clock }) es s) :
    (∀ e ∈ es, Agrees e.2.1 e.2.2) ∧
    ∀ (workerId routeKey : String) (now : Time), s.2.clock ≤ now →
      ((∃ score, (workerSet s.2 workerId).get? routeKey = some score ∧ now < score) ↔
        ∃ l, s.1.leases.get? routeKey = some l ∧ l.workerId.val = workerId ∧ now < l.expiresAt) := by
  have hinv : Mirrors s.1 s.2 ∧ ∀ e ∈ es, Agrees e.2.1 e.2.2 := by
    refine h.invariant (R := fun es s => Mirrors s.1 s.2 ∧ ∀ e ∈ es, Agrees e.2.1 e.2.2)
      ⟨mirrors_init clock, by simp⟩ ?_
    intro es s e t hr hs hstep
    obtain ⟨c, replies⟩ := e
    obtain ⟨⟨hle, hwhole, hproper⟩, hcall⟩ := hstep
    obtain ⟨rfl, rfl⟩ := Prod.ext_iff.mp (show jointCall cjson s c = (t, replies) from hcall)
    have hnext := call_agrees hcjson hs.1 c hle hwhole hproper
    refine ⟨hnext.1, ?_⟩
    intro e' he'
    obtain he' | he' := List.mem_append.mp he'
    · exact hs.2 e' he'
    · obtain rfl := List.mem_singleton.mp he'
      exact hnext.2
  refine ⟨hinv.2, ?_⟩
  intro workerId routeKey now hnow
  refine ⟨?_, ?_⟩
  · rintro ⟨score, hscore, hlt⟩
    obtain ⟨l, hl, hworker, rfl⟩ := (hinv.1.members workerId routeKey score (hnow.trans_lt hlt)).mp hscore
    exact ⟨l, hl, hworker, hlt⟩
  · rintro ⟨l, hl, hworker, hlt⟩
    exact ⟨l.expiresAt, (hinv.1.members workerId routeKey l.expiresAt (hnow.trans_lt hlt)).mpr ⟨l, hl, hworker, rfl⟩, hlt⟩

theorem wholeMs_int (n : Int) : WholeMs n := ⟨n * 1000, by push_cast; ring⟩

/-- A second route for the same device is refused by both, the grant is consumed in both. -/
theorem stores_agree_conflict : ∃ es s, Run (JointStep id) ({}, { clock := 0 }) es s ∧
    es.map (fun e => consumed e.2.2) = [false, false, true] ∧ (∀ e ∈ es, Agrees e.2.1 e.2.2) ∧
    (workerSet s.2 "w1").get? "default:lamp" = some 30 := by
  have hproper : (Call.acquireRoute sampleArgs).Proper {} { clock := 0 } := by
    refine ⟨?_, ?_, ?_, ?_⟩ <;> decide
  have hallowed : Along Allowed (jointCall id) ({}, { clock := 0 })
      [.acquireRoute sampleArgs, .acquireRoute sampleArgs, .consumeGrantResult sampleGrant 1] := by
    refine ⟨⟨by decide +kernel, ⟨wholeMs_int 0, wholeMs_int 30⟩, hproper⟩,
      ⟨by decide +kernel, ⟨wholeMs_int 0, wholeMs_int 30⟩, hproper⟩,
      ⟨by decide +kernel, ⟨wholeMs_int 1, wholeMs_int 30⟩, trivial⟩, trivial⟩
  have hrun : Run (JointStep id) ({}, { clock := 0 }) _ _ := run_history_along hallowed
  exact ⟨_, _, hrun, by decide +kernel, (stores_agree (fun _ _ => rfl) hrun).1, by decide +kernel⟩

end RealtimeVoice.Director.RedisStore
