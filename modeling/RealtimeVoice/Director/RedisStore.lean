import Mathlib
import RealtimeVoice.Director.Store

namespace RealtimeVoice.Director.RedisStore

open RealtimeVoice.Base RealtimeVoice.Base.Runs RealtimeVoice.Contracts
open RealtimeVoice.Director.Store

/-- Python's `round`: to the nearest integer, ties to the even one. -/
def round (x : ℚ) : Int :=
  if x - ⌊x⌋ < 1 / 2 then ⌊x⌋
  else if 1 / 2 < x - ⌊x⌋ then ⌊x⌋ + 1
  else if ⌊x⌋ % 2 = 0 then ⌊x⌋
  else ⌊x⌋ + 1

def ttlMs (expiresAt now : Time) : Int := max 1 (round ((expiresAt - now) * 1000))

/-- The lease as the scripts keep it under the route key. -/
structure StoredLease where
  tenantId : String
  deviceId : String
  workerId : String
  sessionEpoch : String
  fencingToken : Nat
  expiresAt : Time
deriving DecidableEq

/-- A key with its `PX` deadline. -/
structure Entry where
  lease : StoredLease
  deadline : Time
deriving DecidableEq

/-- The keys of the store, apart by the word after the prefix: `route` keys with the
lease, `fence` counters, `worker-routes` sorted sets and `grant-jti` keys, of which
only the deadline matters. `clock` is the time of the last script. -/
structure State where
  routes : Dict String Entry := {}
  fences : Dict String Nat := {}
  workerRoutes : Dict String (Dict String Time) := {}
  grantJtis : Dict String Time := {}
  clock : Time
deriving DecidableEq

inductive Call
  | acquireRoute (args : AcquireArgs)
  | renewRoute (workerId : String) (renewal : LeaseRenewal) (now expiresAt : Time)
  | releaseRouteClaim (workerId : String) (release : LeaseRenewal) (now : Time)
  | consumeGrantResult (claims : ConnectGrantClaims) (now : Time)
deriving DecidableEq

/-- The time at which Redis runs the script of a call. -/
def Call.now : Call → Time
  | .acquireRoute args => args.now
  | .renewRoute _ _ now _ => now
  | .releaseRouteClaim _ _ now => now
  | .consumeGrantResult _ now => now

/-- `GET` of a route key, which is gone at its deadline. -/
def get (s : State) (routeKey : String) (now : Time) : Option StoredLease :=
  ((s.routes.get? routeKey).filter (fun e => decide (now < e.deadline))).map (·.lease)

def workerSet (s : State) (workerId : String) : Dict String Time := (s.workerRoutes.get? workerId).getD {}

/-- `SET key lease PX ttl`, and `ZADD` of the key to the worker's set. -/
def put (s : State) (routeKey workerId : String) (lease : StoredLease) (now expiresAt : Time) : State :=
  { s with
    routes := s.routes.set routeKey { lease, deadline := now + ttlMs expiresAt now / 1000 }
    workerRoutes := s.workerRoutes.set workerId ((workerSet s workerId).set routeKey expiresAt) }

section

-- what a number is after `cjson.encode` and `cjson.decode`
variable (cjson : Time → Time)

def acquireRoute (s : State) (a : AcquireArgs) : State × Reply :=
  let routeKey := encodeRouteKey a.tenantId a.deviceId
  let s := { s with clock := a.now }
  if (get s routeKey a.now).any (a.now < ·.expiresAt) then
    (s, .error (.leaseConflict (a.tenantId ++ ":" ++ a.deviceId)))
  else
    let s := { s with routes := s.routes.erase routeKey }
    let members := (workerSet s a.workerId).filter (fun _ score => !decide (score ≤ a.now))
    let s := { s with workerRoutes := s.workerRoutes.set a.workerId members }
    if max a.workerActiveSessions members.size ≥ a.workerMaxSessions then
      (s, .error (.workerCapacity a.workerId))
    else
      let fence := (s.fences.get? routeKey).getD 0 + 1
      let s := { s with fences := s.fences.set routeKey fence }
      let lease : StoredLease :=
        { tenantId := a.tenantId, deviceId := a.deviceId, workerId := a.workerId
          sessionEpoch := a.sessionEpoch, fencingToken := fence, expiresAt := cjson a.expiresAt }
      let s := put s routeKey a.workerId lease a.now a.expiresAt
      -- the lease is already stored when it does not validate
      match makeLease a fence (Nat.le_add_left 1 _) with
      | none => (s, .error .validation)
      | some lease => (s, .lease lease)

def claimMatches (current : StoredLease) (workerId : String) (claim : LeaseRenewal) : Bool :=
  current.workerId == workerId && current.sessionEpoch == claim.sessionEpoch.val &&
    current.fencingToken == claim.fencingToken

def renewRoute (s : State) (workerId : String) (renewal : LeaseRenewal) (now expiresAt : Time) : State × Reply :=
  let routeKey := encodeRouteKey renewal.tenantId.val renewal.deviceId.val
  let s := { s with clock := now }
  match get s routeKey now with
  | none => (s, .flag false)
  | some current =>
    if current.expiresAt ≤ now ∨ claimMatches current workerId renewal = false then (s, .flag false)
    else (put s routeKey workerId { current with expiresAt := cjson expiresAt } now expiresAt, .flag true)

def releaseRouteClaim (s : State) (workerId : String) (release : LeaseRenewal) (now : Time) : State × Reply :=
  let routeKey := encodeRouteKey release.tenantId.val release.deviceId.val
  let s := { s with clock := now }
  match get s routeKey now with
  | none => (s, .flag false)
  | some current =>
    if claimMatches current workerId release = false then (s, .flag false)
    else
      ({ s with
          routes := s.routes.erase routeKey
          workerRoutes := s.workerRoutes.set workerId ((workerSet s workerId).erase routeKey) }, .flag true)

/-- The checks of the script before its `SET ... NX`. -/
def refusal (current : Option StoredLease) (claims : ConnectGrantClaims) (now : Time) : Option String :=
  match current with
  | none => some "no_route"
  | some route =>
    if route.expiresAt ≤ now then some "route_expired"
    else if claims.exp ≤ now then some "grant_expired"
    else if route.tenantId ≠ claims.tenantId.val ∨ route.deviceId ≠ claims.deviceId.val then
      some "route_principal_mismatch"
    else if route.workerId ≠ claims.workerId.val then some "worker_mismatch"
    else if route.sessionEpoch ≠ claims.sessionEpoch.val then some "session_epoch_mismatch"
    else if route.fencingToken ≠ claims.fencingToken then some "fencing_token_mismatch"
    else none

def consumeGrantResult (s : State) (claims : ConnectGrantClaims) (now : Time) : State × Reply :=
  let routeKey := encodeRouteKey claims.tenantId.val claims.deviceId.val
  let s := { s with clock := now }
  match refusal (get s routeKey now) claims now with
  | some reason => (s, .grant { consumed := false, reason := reason })
  | none =>
    if (s.grantJtis.get? claims.jti.val).any (now < ·) then
      (s, .grant { consumed := false, reason := "grant_replay" })
    else
      ({ s with grantJtis := s.grantJtis.set claims.jti.val (now + ttlMs claims.exp now / 1000) },
        .grant { consumed := true, reason := "consumed" })

def call (s : State) : Call → State × Reply
  | .acquireRoute args => acquireRoute cjson s args
  | .renewRoute workerId renewal now expiresAt => renewRoute cjson s workerId renewal now expiresAt
  | .releaseRouteClaim workerId release now => releaseRouteClaim s workerId release now
  | .consumeGrantResult claims now => consumeGrantResult s claims now

/-- One call at a time that is not before the last one. -/
def Step (s : State) (e : Call × Reply) (t : State) : Prop :=
  s.clock ≤ e.1.now ∧ call cjson s e.1 = (t, e.2)

end

/-- The fraction of a millisecond that `round` drops is none. -/
def RoundsUp (x : ℚ) : Prop :=
  x ≤ 1 ∨ x = ⌊x⌋ ∨ 1 / 2 < x - ⌊x⌋ ∨ (x - ⌊x⌋ = 1 / 2 ∧ ⌊x⌋ % 2 = 1)

instance (x : ℚ) : Decidable (RoundsUp x) := inferInstanceAs (Decidable (_ ∨ _))

theorem roundsUp_iff (x : ℚ) : RoundsUp x ↔ x ≤ max 1 (round x : ℚ) := by
  have hfloor := Int.floor_le x
  have hlt := Int.lt_floor_add_one x
  rw [RoundsUp, le_max_iff, round]
  split_ifs with hlow hhigh heven
  · constructor
    · rintro (h | h | h | ⟨h, -⟩)
      · exact .inl h
      · exact .inr h.le
      · exact absurd hlow (not_lt.mpr h.le)
      · exact absurd hlow (not_lt.mpr h.ge)
    · rintro (h | h)
      · exact .inl h
      · exact .inr (.inl (le_antisymm h hfloor))
  · refine ⟨fun _ => .inr ?_, fun _ => .inr (.inr (.inl hhigh))⟩
    push_cast
    linarith
  · have hhalf : x - ⌊x⌋ = 1 / 2 := le_antisymm (not_lt.mp hhigh) (not_lt.mp hlow)
    constructor
    · rintro (h | h | h | ⟨-, h⟩)
      · exact .inl h
      · exact .inr h.le
      · exact absurd h hhigh
      · omega
    · rintro (h | h)
      · exact .inl h
      · exact .inr (.inl (le_antisymm h hfloor))
  · have hhalf : x - ⌊x⌋ = 1 / 2 := le_antisymm (not_lt.mp hhigh) (not_lt.mp hlow)
    refine ⟨fun _ => .inr ?_, fun _ => .inr (.inr (.inr ⟨hhalf, by omega⟩))⟩
    push_cast
    linarith

/-- A key whose time to live was not rounded down lasts as long as its grant. -/
theorem le_deadline {expiresAt now : Time} (h : RoundsUp ((expiresAt - now) * 1000)) :
    expiresAt ≤ now + ttlMs expiresAt now / 1000 := by
  have hle := (roundsUp_iff _).mp h
  rw [ttlMs]
  push_cast
  linarith

/-- The call presents the grant `jti`. -/
def presents (jti : String) : Call → Bool
  | .consumeGrantResult claims _ => claims.jti.val == jti
  | _ => false

def consumed : Reply → Bool
  | .grant result => result.consumed
  | _ => false

/-- The call is answered with the consumption of the grant. -/
def Consumes (jti : String) (e : Call × Reply) : Bool := presents jti e.1 && consumed e.2

theorem acquireRoute_jtis (cjson : Time → Time) (s : State) (a : AcquireArgs) :
    (acquireRoute cjson s a).1.grantJtis = s.grantJtis ∧ consumed (acquireRoute cjson s a).2 = false := by
  simp only [acquireRoute]
  split
  · exact ⟨rfl, rfl⟩
  · split
    · exact ⟨rfl, rfl⟩
    · split <;> exact ⟨rfl, rfl⟩

theorem renewRoute_jtis (cjson : Time → Time) (s : State) (workerId : String) (renewal : LeaseRenewal)
    (now expiresAt : Time) : (renewRoute cjson s workerId renewal now expiresAt).1.grantJtis = s.grantJtis := by
  simp only [renewRoute]
  split
  · rfl
  · split <;> rfl

theorem releaseRouteClaim_jtis (s : State) (workerId : String) (release : LeaseRenewal) (now : Time) :
    (releaseRouteClaim s workerId release now).1.grantJtis = s.grantJtis := by
  simp only [releaseRouteClaim]
  split
  · rfl
  · split <;> rfl

theorem refusal_none {current : Option StoredLease} {claims : ConnectGrantClaims} {now : Time}
    (h : refusal current claims now = none) : now < claims.exp := by
  rw [refusal.eq_def] at h
  cases current with
  | none => cases h
  | some route =>
    dsimp only at h
    split_ifs at h with h₁ h₂
    exact not_le.mp h₂

/-- What a presented grant can do: nothing, or be consumed and leave its key. -/
theorem consumeGrantResult_cases (s : State) (claims : ConnectGrantClaims) (now : Time) :
    ((consumeGrantResult s claims now).1.grantJtis = s.grantJtis ∧
      consumed (consumeGrantResult s claims now).2 = false) ∨
    (now < claims.exp ∧ (∀ d, s.grantJtis.get? claims.jti.val = some d → d ≤ now) ∧
      (consumeGrantResult s claims now).1.grantJtis =
        s.grantJtis.set claims.jti.val (now + ttlMs claims.exp now / 1000)) := by
  simp only [consumeGrantResult]
  split
  · exact .inl ⟨rfl, rfl⟩
  · rename_i hnone
    split
    · exact .inl ⟨rfl, rfl⟩
    · rename_i hfree
      refine .inr ⟨refusal_none hnone, ?_, rfl⟩
      intro d hd
      simpa [hd] using hfree

section SingleUse

variable {cjson : Time → Time} {jti : String} {exp : Time}

/-- The key of a consumed grant outlives it. -/
def Spent (jti : String) (exp : Time) (s : State) : Prop := ∃ d, s.grantJtis.get? jti = some d ∧ exp ≤ d

/-- What is asked of a presentation of the grant: the expiry is the grant's own and
the time to live is not rounded down. -/
def Lasting (jti : String) (exp : Time) : Call → Prop
  | .consumeGrantResult claims now =>
    claims.jti.val = jti → claims.exp = exp ∧ RoundsUp ((exp - now) * 1000)
  | _ => True

instance : ∀ c : Call, Decidable (Lasting jti exp c)
  | .acquireRoute _ => .isTrue trivial
  | .renewRoute _ _ _ _ => .isTrue trivial
  | .releaseRouteClaim _ _ _ => .isTrue trivial
  | .consumeGrantResult _ _ => inferInstanceAs (Decidable (_ → _))

theorem presented_spent {s t : State} {claims : ConnectGrantClaims} {now : Time} {r : Reply}
    (hlasting : Lasting jti exp (.consumeGrantResult claims now))
    (h : consumeGrantResult s claims now = (t, r)) :
    (Spent jti exp s → Spent jti exp t ∧ Consumes jti (.consumeGrantResult claims now, r) = false) ∧
      (Consumes jti (.consumeGrantResult claims now, r) = true → Spent jti exp t) := by
  have hcases := consumeGrantResult_cases s claims now
  rw [h] at hcases
  obtain ⟨hsame, hnot⟩ | ⟨hbefore, hfree, hset⟩ := hcases
  · have hno : Consumes jti (.consumeGrantResult claims now, r) = false := by
      rw [Consumes, hnot, Bool.and_false]
    refine ⟨fun hspent => ⟨by rwa [Spent, hsame], hno⟩, fun hyes => ?_⟩
    rw [hno] at hyes
    cases hyes
  · by_cases hjti : claims.jti.val = jti
    · obtain ⟨rfl, hround⟩ := hlasting hjti
      have hspent : Spent jti claims.exp t := by
        refine ⟨_, ?_, le_deadline hround⟩
        rw [hset, hjti, Dict.get?_set_self]
      refine ⟨?_, fun _ => hspent⟩
      rintro ⟨d, hd, hle⟩
      have hlate := hfree d (hjti ▸ hd)
      exact absurd hbefore (not_lt.mpr (hle.trans hlate))
    · have hno : Consumes jti (.consumeGrantResult claims now, r) = false := by
        rw [Consumes, presents, beq_eq_false_iff_ne.mpr hjti, Bool.false_and]
      refine ⟨?_, fun hyes => ?_⟩
      · rintro ⟨d, hd, hle⟩
        refine ⟨⟨d, ?_, hle⟩, hno⟩
        rw [hset, Dict.get?_set_ne _ _ (Ne.symm hjti), hd]
      · rw [hno] at hyes
        cases hyes

theorem step_spent {s t : State} {e : Call × Reply} (h : Step cjson s e t) (hlasting : Lasting jti exp e.1) :
    (Spent jti exp s → Spent jti exp t ∧ Consumes jti e = false) ∧ (Consumes jti e = true → Spent jti exp t) := by
  obtain ⟨c, r⟩ := e
  obtain ⟨-, hcall⟩ := h
  have hkept : t.grantJtis = s.grantJtis → presents jti c = false →
      (Spent jti exp s → Spent jti exp t ∧ Consumes jti (c, r) = false) ∧
        (Consumes jti (c, r) = true → Spent jti exp t) := by
    intro hsame hpresents
    have hno : Consumes jti (c, r) = false := by rw [Consumes, hpresents, Bool.false_and]
    refine ⟨fun hspent => ⟨by rwa [Spent, hsame], hno⟩, fun hyes => ?_⟩
    rw [hno] at hyes
    cases hyes
  cases c with
  | acquireRoute args =>
    have hsame := (acquireRoute_jtis cjson s args).1
    rw [show acquireRoute cjson s args = (t, r) from hcall] at hsame
    exact hkept hsame rfl
  | renewRoute workerId renewal now expiresAt =>
    have hsame := renewRoute_jtis cjson s workerId renewal now expiresAt
    rw [show renewRoute cjson s workerId renewal now expiresAt = (t, r) from hcall] at hsame
    exact hkept hsame rfl
  | releaseRouteClaim workerId release now =>
    have hsame := releaseRouteClaim_jtis s workerId release now
    rw [show releaseRouteClaim s workerId release now = (t, r) from hcall] at hsame
    exact hkept hsame rfl
  | consumeGrantResult claims now => exact presented_spent hlasting hcall

/-- A grant whose key never has its time to live rounded down is consumed at most
once, whatever else is called in between. -/
theorem grant_single_use {clock : Time} {es : List (Call × Reply)} {t : State}
    (h : Run (Step cjson) { clock := clock } es t) (hlasting : ∀ e ∈ es, Lasting jti exp e.1) :
    es.countP (Consumes jti) ≤ 1 := by
  have hinv : (∀ e ∈ es, Lasting jti exp e.1) →
      es.countP (Consumes jti) ≤ 1 ∧ (0 < es.countP (Consumes jti) → Spent jti exp t) := by
    refine h.invariant (R := fun es t => (∀ e ∈ es, Lasting jti exp e.1) →
      es.countP (Consumes jti) ≤ 1 ∧ (0 < es.countP (Consumes jti) → Spent jti exp t))
      (fun _ => ⟨by simp, by simp⟩) ?_
    intro es t e u hr ih hs hall
    obtain ⟨hone, hspent⟩ := ih (fun e he => hall e (List.mem_append_left _ he))
    have hstep := step_spent hs (hall e (List.mem_append_right _ List.mem_cons_self))
    rw [List.countP_append, List.countP_singleton]
    by_cases hzero : es.countP (Consumes jti) = 0
    · rw [hzero]
      refine ⟨by split <;> omega, fun hpos => hstep.2 ?_⟩
      by_contra hno
      rw [if_neg hno] at hpos
      omega
    · obtain ⟨hnext, hno⟩ := hstep.1 (hspent (Nat.pos_of_ne_zero hzero))
      rw [hno]
      exact ⟨hone, fun _ => hnext⟩
  exact (hinv hlasting).1

end SingleUse

def sampleArgs : AcquireArgs :=
  { tenantId := "default", deviceId := "lamp", workerId := "w1", workerActiveSessions := 0, workerMaxSessions := 5
    sessionEpoch := "epoch-1", now := 0, expiresAt := 30 }

/-- The grant that goes with the route of `sampleArgs`. -/
def sampleGrant : ConnectGrantClaims :=
  { tenantId := sampleTenant, deviceId := sampleDevice, workerId := sampleWorker
    sessionEpoch := sampleEpoch, fencingToken := 1, profiles := [.wssOpus], iat := 0, exp := 30
    jti := sampleGrantId, fencingToken_pos := firstToken_pos, profiles_unique := wssOpus_unique }

/-- The grant is presented at two times. -/
def presentedTwice (first second : Time) : List Call :=
  [.acquireRoute sampleArgs, .consumeGrantResult sampleGrant first, .consumeGrantResult sampleGrant second]

theorem presentedTwice_run (first second : Time)
    (h : Along (fun s c => s.clock ≤ c.now) (call id) { clock := 0 } (presentedTwice first second)) :
    Run (Step id) { clock := 0 } (history (call id) { clock := 0 } (presentedTwice first second))
      (after (call id) { clock := 0 } (presentedTwice first second)) :=
  run_history_along h

theorem grant_single_use_replayed :
    (history (call id) { clock := 0 } (presentedTwice 10 20)).countP (Consumes "jti-1") ≤ 1 ∧
    (history (call id) { clock := 0 } (presentedTwice 10 20)).map (fun e => consumed e.2) = [false, true, false] := by
  have hlasting : ∀ e ∈ history (call id) { clock := 0 } (presentedTwice 10 20), Lasting "jti-1" 30 e.1 := by
    decide +kernel
  exact ⟨grant_single_use (presentedTwice_run 10 20 (by decide +kernel)) hlasting, by decide +kernel⟩

/-- With 1.4 ms left the key lives for one, and the grant is taken again after it. -/
theorem grant_consumed_twice :
    (history (call id) { clock := 0 } (presentedTwice 29.9986 29.9998)).countP (Consumes "jti-1") = 2 ∧
    ¬∀ (clock : Time) (es : List (Call × Reply)) (t : State), Run (Step id) { clock := clock } es t →
      es.countP (Consumes "jti-1") ≤ 1 := by
  have htwice : (history (call id) { clock := 0 } (presentedTwice 29.9986 29.9998)).countP (Consumes "jti-1") = 2 := by
    decide +kernel
  refine ⟨htwice, fun hall => ?_⟩
  have hone := hall 0 _ _ (presentedTwice_run 29.9986 29.9998 (by decide +kernel))
  rw [htwice] at hone
  omega

end RealtimeVoice.Director.RedisStore
