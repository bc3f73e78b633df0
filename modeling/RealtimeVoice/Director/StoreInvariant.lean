import RealtimeVoice.Director.Store
import RealtimeVoice.Contracts.RouteKey

namespace RealtimeVoice.Director.Store

open RealtimeVoice.Base RealtimeVoice.Base.Runs RealtimeVoice.Contracts

/-- The lease a reply hands out. -/
def Reply.lease? : Reply → Option RouteLease
  | .lease l => some l
  | _ => none

/-- The leases handed out by the successful acquisitions of a run, oldest first. -/
def issued (es : List Event) : List RouteLease := es.filterMap (fun e => e.2.lease?)

theorem issued_snoc (es : List Event) (c : Call) (r : Reply) :
    issued (es ++ [(c, r)]) = issued es ++ r.lease?.toList := by
  rw [issued, List.filterMap_append]
  cases h : r.lease? <;> simp [issued, h]

theorem makeLease_eq {a : AcquireArgs} {n : Nat} {h : 1 ≤ n} {l : RouteLease}
    (hl : makeLease a n h = some l) :
    l.tenantId.val = a.tenantId ∧ l.deviceId.val = a.deviceId ∧ l.workerId.val = a.workerId ∧
      l.fencingToken = n ∧ l.expiresAt = a.expiresAt := by
  have hid : ∀ {s : String} {i : Identifier}, identifier? s = some i → i.val = s := by
    intro s i hi
    rw [identifier?] at hi
    split at hi
    · cases hi
      rfl
    · cases hi
  simp only [makeLease, Option.bind_eq_bind, Option.bind_eq_some_iff, Option.pure_def,
    Option.some.injEq] at hl
  obtain ⟨t, ht, d, hd, w, hw, e, -, rfl⟩ := hl
  exact ⟨hid ht, hid hd, hid hw, rfl, rfl⟩

/-- What a call does to the leases and to the fencing counters. -/
inductive Effect (s : State) : Call → State → Reply → Prop
  | kept {c : Call} {s' : State} {r : Reply} :
      s'.leases = s.leases → s'.fencing = s.fencing → r.lease? = none → Effect s c s' r
  | refused {a : AcquireArgs} {s' : State} {e : StoreError} :
      s'.leases = purge s.leases a.now → s'.fencing = s.fencing →
      Effect s (.acquireRoute a) s' (.error e)
  | unvalidated {a : AcquireArgs} {s' : State} {n : Nat} :
      (purge s.leases a.now).get? (encodeRouteKey a.tenantId a.deviceId) = none →
      n = (s.fencing.get? (encodeRouteKey a.tenantId a.deviceId)).getD 0 + 1 →
      s'.leases = purge s.leases a.now →
      s'.fencing = s.fencing.set (encodeRouteKey a.tenantId a.deviceId) n →
      Effect s (.acquireRoute a) s' (.error .validation)
  | acquired {a : AcquireArgs} {s' : State} {l : RouteLease} :
      (purge s.leases a.now).get? l.routeKey = none →
      ((reserved (purge s.leases a.now) a.workerId : Nat) : Int) < a.workerMaxSessions →
      l.workerId.val = a.workerId →
      l.fencingToken = (s.fencing.get? l.routeKey).getD 0 + 1 →
      s'.leases = (purge s.leases a.now).set l.routeKey l →
      s'.fencing = s.fencing.set l.routeKey l.fencingToken →
      Effect s (.acquireRoute a) s' (.lease l)
  | released {c : Call} {s' : State} {k : String} :
      s'.leases = s.leases.erase k → s'.fencing = s.fencing → Effect s c s' (.flag true)
  | renewed {w : String} {renewal : LeaseRenewal} {now expiresAt : Time} {s' : State} {current : RouteLease}
      {k : String} :
      s.leases.get? k = some current →
      s'.leases = s.leases.set k { current with expiresAt := expiresAt } → s'.fencing = s.fencing →
      Effect s (.renewRoute w renewal now expiresAt) s' (.flag true)

theorem get?_purge (leases : Dict String RouteLease) (now : Time) (k : String) (l : RouteLease) :
    (purge leases now).get? k = some l ↔ leases.get? k = some l ∧ now < l.expiresAt := by
  rw [purge, Dict.get?_filter, Option.filter_eq_some_iff]
  simp

theorem acquireRoute_effect (s : State) (a : AcquireArgs) :
    Effect s (.acquireRoute a) (acquireRoute s a).1 (acquireRoute s a).2 := by
  simp only [acquireRoute]
  split
  · exact .refused rfl rfl
  rename_i hconflict
  -- a lease that survived the purge is unexpired, so the guard leaves none at this key
  have hnone : (purge s.leases a.now).get? (encodeRouteKey a.tenantId a.deviceId) = none := by
    rw [Option.eq_none_iff_forall_ne_some]
    intro l hl
    rw [hl] at hconflict
    exact hconflict (by simpa using ((get?_purge _ _ _ _).mp hl).2)
  split
  · exact .refused rfl rfl
  rename_i hcapacity
  split
  · exact .unvalidated hnone rfl rfl rfl
  · rename_i l hl
    obtain ⟨ht, hd, hw, hn, -⟩ := makeLease_eq hl
    have hkey : l.routeKey = encodeRouteKey a.tenantId a.deviceId := by
      rw [RouteLease.routeKey, ht, hd]
    rw [← hkey] at hnone ⊢
    refine .acquired hnone ?_ hw ?_ rfl ?_
    · rw [ge_iff_le, not_le, max_lt_iff] at hcapacity
      exact hcapacity.2
    · rw [hn, hkey]
    · rw [hn, hkey]

theorem renewRoute_effect (s : State) (w : String) (renewal : LeaseRenewal) (now expiresAt : Time) :
    Effect s (.renewRoute w renewal now expiresAt) (renewRoute s w renewal now expiresAt).1
      (renewRoute s w renewal now expiresAt).2 := by
  simp only [renewRoute]
  split
  · exact .kept rfl rfl rfl
  · rename_i current hcurrent
    split
    · exact .kept rfl rfl rfl
    · exact .renewed hcurrent rfl rfl

theorem releaseRouteClaim_effect (s : State) (w : String) (release : LeaseRenewal) :
    Effect s (.releaseRouteClaim w release) (releaseRouteClaim s w release).1
      (releaseRouteClaim s w release).2 := by
  simp only [releaseRouteClaim]
  split
  · exact .kept rfl rfl rfl
  · split
    · exact .kept rfl rfl rfl
    · exact .released rfl rfl

theorem consumeGrantResult_kept (s : State) (claims : ConnectGrantClaims) (now : Time) :
    (consumeGrantResult s claims now).1.leases = s.leases ∧
      (consumeGrantResult s claims now).1.fencing = s.fencing ∧
      ∃ result, (consumeGrantResult s claims now).2 = .grant result := by
  simp only [consumeGrantResult]
  split
  · exact ⟨rfl, rfl, _, rfl⟩
  · repeat' split
    all_goals exact ⟨rfl, rfl, _, rfl⟩

theorem call_effect (s : State) (c : Call) : Effect s c (call s c).1 (call s c).2 := by
  cases c with
  | heartbeat hb expiresAt => exact .kept rfl rfl rfl
  | listWorkers now => exact .kept rfl rfl rfl
  | setDraining w draining now =>
    simp only [call, setDraining]
    split
    · exact .kept rfl rfl rfl
    · split <;> exact .kept rfl rfl rfl
  | acquireRoute a => exact acquireRoute_effect s a
  | releaseRoute l =>
    simp only [call, releaseRoute]
    split
    · exact .kept rfl rfl rfl
    · exact .released rfl rfl
  | renewRoute w renewal now expiresAt => exact renewRoute_effect s w renewal now expiresAt
  | releaseRouteClaim w release => exact releaseRouteClaim_effect s w release
  | consumeGrantResult claims now =>
    obtain ⟨hl, hf, result, hr⟩ := consumeGrantResult_kept s claims now
    exact .kept hl hf (by rw [call, hr]; rfl)

/-- The fencing discipline between the leases handed out and the store: a stored
lease is the last one issued for its route, up to the renewals of its expiry. -/
structure Fenced (leases : List RouteLease) (s : State) : Prop where
  keyed : ∀ k l, s.leases.get? k = some l → l.routeKey = k
  current : ∀ k l, s.leases.get? k = some l → s.fencing.get? k = some l.fencingToken
  recorded : ∀ k l, s.leases.get? k = some l → ∃ l' ∈ leases, l = { l' with expiresAt := l.expiresAt }
  bounded : ∀ l ∈ leases, l.fencingToken ≤ (s.fencing.get? l.routeKey).getD 0
  increasing : leases.Pairwise (fun a b => a.routeKey = b.routeKey → a.fencingToken < b.fencingToken)

theorem fenced_init : Fenced [] {} :=
  ⟨by simp, by simp, by simp, by simp, List.Pairwise.nil⟩

namespace Fenced

variable {leases : List RouteLease} {s s' : State}

/-- Dropping leases keeps the discipline. -/
theorem shrink (h : Fenced leases s) (hf : s'.fencing = s.fencing)
    (hl : ∀ k l, s'.leases.get? k = some l → s.leases.get? k = some l) : Fenced leases s' where
  keyed k l hk := h.keyed k l (hl k l hk)
  current k l hk := by rw [hf, h.current k l (hl k l hk)]
  recorded k l hk := h.recorded k l (hl k l hk)
  bounded l hm := by rw [hf]; exact h.bounded l hm
  increasing := h.increasing

/-- Spending a token of a route without a lease keeps the discipline. -/
theorem spend (h : Fenced leases s) {k : String} (hnone : s.leases.get? k = none) :
    Fenced leases { s with fencing := s.fencing.set k ((s.fencing.get? k).getD 0 + 1) } where
  keyed := h.keyed
  current k' l hk' := by
    have hne : k' ≠ k := by
      rintro rfl
      rw [hnone] at hk'
      cases hk'
    rw [Dict.get?_set_ne _ _ hne, h.current k' l hk']
  recorded := h.recorded
  bounded l hm := by
    have hle := h.bounded l hm
    rw [Dict.get?_set]
    split
    · rename_i hk
      rw [hk] at hle
      exact Nat.le_succ_of_le hle
    · exact hle
  increasing := h.increasing

/-- A fresh lease carries the token just spent. -/
theorem issue (h : Fenced leases s) {l : RouteLease}
    (hfresh : ∀ a ∈ leases, a.routeKey = l.routeKey → a.fencingToken < l.fencingToken)
    (htoken : s.fencing.get? l.routeKey = some l.fencingToken) :
    Fenced (leases ++ [l]) { s with leases := s.leases.set l.routeKey l } where
  keyed k l' hk := by
    rw [Dict.get?_set] at hk
    split at hk
    · rename_i hkey
      rw [hkey, ← Option.some.inj hk]
    · exact h.keyed k l' hk
  current k l' hk := by
    rw [Dict.get?_set] at hk
    split at hk
    · rename_i hkey
      rw [hkey, ← Option.some.inj hk, htoken]
    · exact h.current k l' hk
  recorded k l' hk := by
    rw [Dict.get?_set] at hk
    split at hk
    · cases hk
      exact ⟨l, by simp, rfl⟩
    · obtain ⟨o, ho, heq⟩ := h.recorded k l' hk
      exact ⟨o, List.mem_append_left _ ho, heq⟩
  bounded l' hm := by
    rw [List.mem_append, List.mem_singleton] at hm
    rcases hm with hm | rfl
    · exact h.bounded l' hm
    · rw [htoken]
      rfl
  increasing := by
    rw [List.pairwise_append]
    refine ⟨h.increasing, List.pairwise_singleton _ _, ?_⟩
    intro a ha b hb hr
    obtain rfl := List.mem_singleton.mp hb
    exact hfresh a ha hr

/-- A renewal changes the expiry only. -/
theorem renew (h : Fenced leases s) {k : String} {l : RouteLease} (expiresAt : Time)
    (hk : s.leases.get? k = some l) :
    Fenced leases { s with leases := s.leases.set k { l with expiresAt := expiresAt } } where
  keyed k' l' hk' := by
    rw [Dict.get?_set] at hk'
    split at hk'
    · rename_i hkey
      cases hk'
      rw [hkey]
      exact h.keyed k l hk
    · exact h.keyed k' l' hk'
  current k' l' hk' := by
    rw [Dict.get?_set] at hk'
    split at hk'
    · rename_i hkey
      cases hk'
      rw [hkey]
      exact h.current k l hk
    · exact h.current k' l' hk'
  recorded k' l' hk' := by
    rw [Dict.get?_set] at hk'
    split at hk'
    · cases hk'
      obtain ⟨o, ho, heq⟩ := h.recorded k l hk
      exact ⟨o, ho, by rw [heq]⟩
    · exact h.recorded k' l' hk'
  bounded := h.bounded
  increasing := h.increasing

/-- A stored lease is the newest one issued for its route. -/
theorem newest (h : Fenced leases s) {k : String} {l : RouteLease} (hk : s.leases.get? k = some l) :
    ∀ l' ∈ leases, l'.routeKey = k → l'.fencingToken ≤ l.fencingToken := by
  intro l' hl' hkey
  have hle := h.bounded l' hl'
  rwa [hkey, h.current k l hk, Option.getD_some] at hle

theorem step (h : Fenced leases s) {c : Call} {r : Reply} (he : Effect s c s' r) :
    Fenced (leases ++ r.lease?.toList) s' := by
  have hpurge : ∀ now k l, (purge s.leases now).get? k = some l → s.leases.get? k = some l :=
    fun now k l hl => ((get?_purge _ _ _ _).mp hl).1
  cases he with
  | kept hl hf hr =>
    rw [hr]
    simpa using h.shrink hf (fun k l hk => by rwa [hl] at hk)
  | @refused a _ e hl hf =>
    simpa [Reply.lease?] using h.shrink hf (fun k l hk => hpurge a.now k l (by rwa [hl] at hk))
  | @unvalidated a _ n hnone hn hl hf =>
    have hshrunk : Fenced leases { s with leases := purge s.leases a.now } := h.shrink rfl (hpurge a.now)
    subst hn
    simpa [Reply.lease?] using (hshrunk.spend hnone).shrink hf (fun k l hk => by rwa [hl] at hk)
  | @acquired a _ l hnone _ _ htoken hl hf =>
    have hshrunk : Fenced leases { s with leases := purge s.leases a.now } := h.shrink rfl (hpurge a.now)
    have hspent := hshrunk.spend hnone
    rw [← htoken] at hspent
    have hissued := hspent.issue (l := l)
      (fun o ho hkey => by
        have hle := h.bounded o ho
        rw [hkey] at hle
        omega)
      (Dict.get?_set_self _ _ _)
    exact hissued.shrink hf (fun k l hk => by rwa [hl] at hk)
  | @released _ _ k hl hf =>
    have hkept : ∀ k' l, s'.leases.get? k' = some l → s.leases.get? k' = some l := by
      intro k' l hk'
      rw [hl] at hk'
      by_cases hkk : k' = k
      · subst hkk
        simp at hk'
      · rwa [Dict.get?_erase_ne _ hkk] at hk'
    simpa [Reply.lease?] using h.shrink hf hkept
  | renewed hk hl hf =>
    simpa [Reply.lease?] using (h.renew _ hk).shrink hf (fun k l hk => by rwa [hl] at hk)

end Fenced

theorem run_fenced {es : List Event} {s : State} (h : Run Step {} es s) : Fenced (issued es) s := by
  refine h.invariant (R := fun es s => Fenced (issued es) s) fenced_init ?_
  rintro es t ⟨c, r⟩ u - hf hs
  have he := call_effect t c
  rw [show call t c = (u, r) from hs] at he
  rw [issued_snoc]
  exact hf.step he

def SameRoute (a b : RouteLease) : Prop := a.tenantId = b.tenantId ∧ a.deviceId = b.deviceId

theorem sameRoute_iff (a b : RouteLease) : SameRoute a b ↔ a.routeKey = b.routeKey := by
  constructor
  · rintro ⟨ht, hd⟩
    rw [RouteLease.routeKey, RouteLease.routeKey, ht, hd]
  · intro h
    obtain ⟨ht, hd⟩ := encodeRouteKey_inj h
    exact ⟨Subtype.ext ht, Subtype.ext hd⟩

/-- A claim on a route that belongs to an earlier lease of it: its token is below
one already issued, or its epoch is not that of the newest lease. -/
def Superseded (leases : List RouteLease) (tenantId deviceId sessionEpoch : Identifier)
    (fencingToken : Nat) : Prop :=
  ∃ l ∈ leases, l.tenantId = tenantId ∧ l.deviceId = deviceId ∧
    (fencingToken < l.fencingToken ∨
      (∀ l' ∈ leases, SameRoute l' l → l'.fencingToken ≤ l.fencingToken) ∧ sessionEpoch ≠ l.sessionEpoch)

/-- Among the leases of one route the token determines the lease. -/
theorem Fenced.eq_of_token {leases : List RouteLease} {s : State} (h : Fenced leases s) {a b : RouteLease}
    (ha : a ∈ leases) (hb : b ∈ leases) (hkey : a.routeKey = b.routeKey)
    (htoken : a.fencingToken = b.fencingToken) : a = b := by
  by_contra hne
  have hapart : leases.Pairwise (fun a b => a.routeKey = b.routeKey → a.fencingToken ≠ b.fencingToken) :=
    h.increasing.imp (fun hlt hk => Nat.ne_of_lt (hlt hk))
  have : Std.Symm (fun a b : RouteLease => a.routeKey = b.routeKey → a.fencingToken ≠ b.fencingToken) :=
    ⟨fun a b hab hk ht => hab hk.symm ht.symm⟩
  exact hapart.forall ha hb hne hkey htoken

/-- No stored lease matches a superseded claim. -/
theorem Fenced.superseded_mismatch {leases : List RouteLease} {s : State} (h : Fenced leases s)
    {tenantId deviceId sessionEpoch : Identifier} {fencingToken : Nat} {current : RouteLease}
    (hstale : Superseded leases tenantId deviceId sessionEpoch fencingToken)
    (hcurrent : s.leases.get? (encodeRouteKey tenantId.val deviceId.val) = some current) :
    current.sessionEpoch = sessionEpoch → current.fencingToken ≠ fencingToken := by
  obtain ⟨l, hl, rfl, rfl, htoken | ⟨hlatest, hepoch⟩⟩ := hstale
  · have hle := h.newest hcurrent l hl rfl
    omega
  · intro he
    obtain ⟨o, ho, heq⟩ := h.recorded _ _ hcurrent
    have hkey : o.routeKey = l.routeKey := by
      have hk := h.keyed _ _ hcurrent
      rwa [heq] at hk
    have htoken : current.fencingToken = o.fencingToken := by rw [heq]
    have hle := h.newest hcurrent l hl rfl
    have hge := hlatest o ho ((sameRoute_iff o l).mpr hkey)
    have hol := h.eq_of_token ho hl hkey (by omega)
    rw [heq, hol] at he
    exact absurd he.symm hepoch

/-- A superseded claim is refused by every operation and changes no lease. -/
structure Refuses (s : State) (tenantId deviceId sessionEpoch : Identifier) (fencingToken : Nat) : Prop where
  renew : ∀ (w : String) (claim : LeaseRenewal) (now expiresAt : Time),
    claim.tenantId = tenantId → claim.deviceId = deviceId → claim.sessionEpoch = sessionEpoch →
    claim.fencingToken = fencingToken → renewRoute s w claim now expiresAt = (s, .flag false)
  releaseClaim : ∀ (w : String) (claim : LeaseRenewal),
    claim.tenantId = tenantId → claim.deviceId = deviceId → claim.sessionEpoch = sessionEpoch →
    claim.fencingToken = fencingToken → releaseRouteClaim s w claim = (s, .flag false)
  release : ∀ lease : RouteLease,
    lease.tenantId = tenantId → lease.deviceId = deviceId → lease.sessionEpoch = sessionEpoch →
    lease.fencingToken = fencingToken → releaseRoute s lease = (s, .flag false)
  consume : ∀ (claims : ConnectGrantClaims) (now : Time),
    claims.tenantId = tenantId → claims.deviceId = deviceId → claims.sessionEpoch = sessionEpoch →
    claims.fencingToken = fencingToken →
    (consumeGrantResult s claims now).1.leases = s.leases ∧
      ∃ reason, (consumeGrantResult s claims now).2 = .grant { consumed := false, reason := reason }

theorem claimMatches_iff (current : RouteLease) (w : String) (claim : LeaseRenewal) :
    claimMatches current w claim = true ↔
      current.workerId.val = w ∧ current.sessionEpoch = claim.sessionEpoch ∧
        current.fencingToken = claim.fencingToken := by
  simp [claimMatches, and_assoc, Subtype.ext_iff]

theorem Fenced.refuses {leases : List RouteLease} {s : State} (h : Fenced leases s)
    {tenantId deviceId sessionEpoch : Identifier} {fencingToken : Nat}
    (hstale : Superseded leases tenantId deviceId sessionEpoch fencingToken) :
    Refuses s tenantId deviceId sessionEpoch fencingToken where
  renew := by
    rintro w claim now expiresAt rfl rfl rfl rfl
    simp only [renewRoute]
    split
    · rfl
    · rename_i current hcurrent
      rw [if_pos]
      right
      rw [← Bool.not_eq_true, claimMatches_iff]
      rintro ⟨-, he, ht⟩
      exact h.superseded_mismatch hstale hcurrent he ht
  releaseClaim := by
    rintro w claim rfl rfl rfl rfl
    simp only [releaseRouteClaim]
    split
    · rfl
    · rename_i current hcurrent
      rw [if_pos]
      rw [← Bool.not_eq_true, claimMatches_iff]
      rintro ⟨-, he, ht⟩
      exact h.superseded_mismatch hstale hcurrent he ht
  release := by
    rintro lease rfl rfl rfl rfl
    rw [releaseRoute, if_pos]
    exact fun hcurrent => h.superseded_mismatch hstale hcurrent rfl rfl
  consume := by
    rintro claims now rfl rfl rfl rfl
    refine ⟨(consumeGrantResult_kept s claims now).1, ?_⟩
    simp only [consumeGrantResult]
    split
    · exact ⟨_, rfl⟩
    · rename_i current hcurrent
      have hmismatch := h.superseded_mismatch hstale hcurrent
      by_cases he : current.sessionEpoch = claims.sessionEpoch
      · have ht := hmismatch he
        simp only [he, ht, ne_eq, not_true_eq_false, not_false_eq_true, if_true, if_false]
        repeat' split
        all_goals exact ⟨_, rfl⟩
      · simp only [he, ne_eq, not_false_eq_true, if_true]
        repeat' split
        all_goals exact ⟨_, rfl⟩

/-- The guarantees of the coordination store after the calls `es`. -/
structure Safe (es : List Event) (s : State) : Prop where
  exclusive : ∀ (tenantId deviceId : Identifier) (now : Time),
    s.leases.values.countP (fun l => l.tenantId = tenantId ∧ l.deviceId = deviceId ∧ now < l.expiresAt) ≤ 1
  increasing : (issued es).Pairwise (fun a b => SameRoute a b → a.fencingToken < b.fencingToken)
  capacity : ∀ (a : AcquireArgs) (s' : State) (l : RouteLease), acquireRoute s a = (s', .lease l) →
    ((s'.leases.values.countP (fun l => l.workerId.val = a.workerId ∧ a.now < l.expiresAt) : Nat) : Int) ≤
      a.workerMaxSessions
  fenced : ∀ (tenantId deviceId sessionEpoch : Identifier) (fencingToken : Nat),
    Superseded (issued es) tenantId deviceId sessionEpoch fencingToken →
    Refuses s tenantId deviceId sessionEpoch fencingToken

theorem Fenced.exclusive {leases : List RouteLease} {s : State} (h : Fenced leases s)
    (tenantId deviceId : Identifier) (now : Time) :
    s.leases.values.countP (fun l => l.tenantId = tenantId ∧ l.deviceId = deviceId ∧ now < l.expiresAt) ≤ 1 := by
  refine s.leases.countP_values_le_one (encodeRouteKey tenantId.val deviceId.val) _ ?_
  intro k l hk hp
  obtain ⟨rfl, rfl, -⟩ := of_decide_eq_true hp
  exact (h.keyed k l hk).symm

theorem acquireRoute_capacity {s s' : State} {a : AcquireArgs} {l : RouteLease}
    (h : acquireRoute s a = (s', .lease l)) :
    ((s'.leases.values.countP (fun l => l.workerId.val = a.workerId ∧ a.now < l.expiresAt) : Nat) : Int) ≤
      a.workerMaxSessions := by
  have he := acquireRoute_effect s a
  rw [h] at he
  cases he with
  | kept _ _ hr => cases hr
  | acquired hnone hreserved hw _ hl _ =>
    rw [hl, Dict.values_set_of_none _ _ hnone, List.countP_append]
    have hmono : (purge s.leases a.now).values.countP
        (fun l => l.workerId.val = a.workerId ∧ a.now < l.expiresAt) ≤
        reserved (purge s.leases a.now) a.workerId :=
      List.countP_mono_left (fun l _ hl => by simpa using (of_decide_eq_true hl).1)
    have hone := List.countP_le_length
      (p := fun l : RouteLease => decide (l.workerId.val = a.workerId ∧ a.now < l.expiresAt)) (l := [l])
    simp only [List.length_singleton] at hone
    omega

/-- Whatever calls are made, at whatever times: one unexpired lease for a route,
increasing tokens, the worker's capacity, and no use of a superseded claim. -/
theorem store_invariant {es : List Event} {s : State} (h : Run Step {} es s) : Safe es s where
  exclusive := (run_fenced h).exclusive
  increasing := (run_fenced h).increasing.imp (fun hlt hsame => hlt ((sameRoute_iff _ _).mp hsame))
  capacity _ _ _ := acquireRoute_capacity
  fenced _ _ _ _ := (run_fenced h).refuses

/-- A route acquired, released, acquired again for another worker and then claimed
by the first one. -/
def handover : List Call :=
  let acquire (worker epoch : String) (now : Time) : Call := .acquireRoute
    { tenantId := "acme", deviceId := "lamp", workerId := worker, workerActiveSessions := 0
      workerMaxSessions := 1, sessionEpoch := epoch, now := now, expiresAt := now + 30 }
  let claim (epoch : Identifier) (token : Nat) (h : 1 ≤ token) : LeaseRenewal :=
    { tenantId := ⟨"acme", by decide⟩, deviceId := sampleDevice, sessionEpoch := epoch
      fencingToken := token, fencingToken_pos := h }
  [acquire "w1" "e1" 0, .releaseRouteClaim "w1" (claim ⟨"e1", by decide⟩ 1 firstToken_pos),
    acquire "w2" "e2" 5, .renewRoute "w1" (claim ⟨"e1", by decide⟩ 1 firstToken_pos) 6 36]

theorem store_invariant_handover :
    (issued (history call {} handover)).map (fun l => (l.workerId.val, l.fencingToken)) =
        [("w1", 1), ("w2", 2)] ∧
      Safe (history call {} handover) (after call {} handover) :=
  ⟨by decide +kernel, store_invariant (run_history call {} handover)⟩

end RealtimeVoice.Director.Store
