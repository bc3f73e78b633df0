import RealtimeVoice.Contracts.RouteKey
import RealtimeVoice.Director.RedisStore

namespace RealtimeVoice.Director

open RealtimeVoice.Base RealtimeVoice.Base.Runs RealtimeVoice.Contracts

section Keys

variable (keyPrefix : String)

def workerKey (workerId : String) : String := keyPrefix ++ ":worker:" ++ workerId

def workerDrainKey (workerId : String) : String := keyPrefix ++ ":worker-drain:" ++ workerId

def routeKey (tenantId deviceId : String) : String := keyPrefix ++ ":route:" ++ encodeRouteKey tenantId deviceId

def fenceKey (tenantId deviceId : String) : String := keyPrefix ++ ":fence:" ++ encodeRouteKey tenantId deviceId

def workerRoutesKey (workerId : String) : String := keyPrefix ++ ":worker-routes:" ++ workerId

def grantJtiKey (jti : String) : String := keyPrefix ++ ":grant-jti:" ++ jti

end Keys

/-- What `RedisCoordinationStore` keeps a key for. -/
inductive RedisKey
  | worker (workerId : String)
  | workerDrain (workerId : String)
  | route (tenantId deviceId : String)
  | fence (tenantId deviceId : String)
  | workerRoutes (workerId : String)
  | grantJti (jti : String)
deriving DecidableEq

/-- The key in Redis, under the prefix of the store. -/
def RedisKey.text (keyPrefix : String) : RedisKey → String
  | .worker workerId => workerKey keyPrefix workerId
  | .workerDrain workerId => workerDrainKey keyPrefix workerId
  | .route tenantId deviceId => routeKey keyPrefix tenantId deviceId
  | .fence tenantId deviceId => fenceKey keyPrefix tenantId deviceId
  | .workerRoutes workerId => workerRoutesKey keyPrefix workerId
  | .grantJti jti => grantJtiKey keyPrefix jti

namespace RedisKey

/-- The word of a family of keys, and what follows it. -/
def word : RedisKey → String
  | .worker _ => ":worker:"
  | .workerDrain _ => ":worker-drain:"
  | .route _ _ => ":route:"
  | .fence _ _ => ":fence:"
  | .workerRoutes _ => ":worker-routes:"
  | .grantJti _ => ":grant-jti:"

def rest : RedisKey → String
  | .worker workerId => workerId
  | .workerDrain workerId => workerId
  | .route tenantId deviceId => encodeRouteKey tenantId deviceId
  | .fence tenantId deviceId => encodeRouteKey tenantId deviceId
  | .workerRoutes workerId => workerId
  | .grantJti jti => jti

theorem text_eq (keyPrefix : String) (k : RedisKey) : k.text keyPrefix = keyPrefix ++ k.word ++ k.rest := by
  cases k <;> rfl

/-- No word of a family is the beginning of another one. -/
theorem word_inj {k l : RedisKey} {rest rest' : List Char} (h : k.word.toList ++ rest = l.word.toList ++ rest') :
    k.word = l.word ∧ rest = rest' := by
  cases k <;> cases l <;> simp [word] at h ⊢
  all_goals exact h

/-- Different keys have different texts. -/
theorem text_injective (keyPrefix : String) : Function.Injective (text keyPrefix) := by
  intro k l h
  rw [text_eq, text_eq] at h
  have hlist := congrArg String.toList h
  simp only [String.toList_append, List.append_assoc] at hlist
  obtain ⟨hword, hrest⟩ := word_inj (List.append_cancel_left hlist)
  have hrest := String.toList_injective hrest
  cases k <;> cases l
  case worker.worker => exact congrArg worker hrest
  case workerDrain.workerDrain => exact congrArg workerDrain hrest
  case route.route =>
    obtain ⟨rfl, rfl⟩ := encodeRouteKey_inj hrest
    rfl
  case fence.fence =>
    obtain ⟨rfl, rfl⟩ := encodeRouteKey_inj hrest
    rfl
  case workerRoutes.workerRoutes => exact congrArg workerRoutes hrest
  case grantJti.grantJti => exact congrArg grantJti hrest
  all_goals simp [word] at hword

end RedisKey

variable {tenantId deviceId : String}

namespace Store

variable {s s' : State} {es : List Event}

/-- The device that a call is about. -/
def Call.device? : Call → Option (String × String)
  | .acquireRoute args => some (args.tenantId, args.deviceId)
  | .releaseRoute lease => some (lease.tenantId.val, lease.deviceId.val)
  | .renewRoute _ renewal _ _ => some (renewal.tenantId.val, renewal.deviceId.val)
  | .releaseRouteClaim _ release => some (release.tenantId.val, release.deviceId.val)
  | .consumeGrantResult claims _ => some (claims.tenantId.val, claims.deviceId.val)
  | _ => none

/-- The counter of the device is as it was, and so is its lease, unless it had expired when some
route was acquired. -/
structure Untouched (tenantId deviceId : String) (es : List Event) (s s' : State) : Prop where
  fencing : s'.fencing.get? (encodeRouteKey tenantId deviceId) = s.fencing.get? (encodeRouteKey tenantId deviceId)
  lease : s'.leases.get? (encodeRouteKey tenantId deviceId) = s.leases.get? (encodeRouteKey tenantId deviceId) ∨
    s'.leases.get? (encodeRouteKey tenantId deviceId) = none ∧
      ∃ lease args reply, s.leases.get? (encodeRouteKey tenantId deviceId) = some lease ∧
        (.acquireRoute args, reply) ∈ es ∧ lease.expiresAt ≤ args.now

theorem Untouched.of_eq (hfencing : s'.fencing = s.fencing)
    (hlease : s'.leases.get? (encodeRouteKey tenantId deviceId) = s.leases.get? (encodeRouteKey tenantId deviceId)) :
    Untouched tenantId deviceId es s s' :=
  ⟨by rw [hfencing], .inl hlease⟩

theorem encodeRouteKey_ne {tenantId' deviceId' : String} (h : (tenantId', deviceId') ≠ (tenantId, deviceId)) :
    encodeRouteKey tenantId deviceId ≠ encodeRouteKey tenantId' deviceId' := by
  intro heq
  obtain ⟨rfl, rfl⟩ := encodeRouteKey_inj heq
  exact h rfl

theorem purge_get? (leases : Dict String RouteLease) (now : Time) (key : String) :
    (purge leases now).get? key = leases.get? key ∨
      (purge leases now).get? key = none ∧ ∃ lease, leases.get? key = some lease ∧ lease.expiresAt ≤ now := by
  rw [purge, Dict.get?_filter]
  cases hlease : leases.get? key with
  | none => exact .inl rfl
  | some lease =>
    by_cases hexpired : lease.expiresAt ≤ now
    · exact .inr ⟨by simp [hexpired], lease, rfl, hexpired⟩
    · exact .inl (by simp [hexpired])

theorem acquireRoute_untouched {a : AcquireArgs} (reply : Reply)
    (h : (a.tenantId, a.deviceId) ≠ (tenantId, deviceId)) :
    Untouched tenantId deviceId [(.acquireRoute a, reply)] s (acquireRoute s a).1 := by
  have hkey := encodeRouteKey_ne h
  have hpurged : (purge s.leases a.now).get? (encodeRouteKey tenantId deviceId) =
        s.leases.get? (encodeRouteKey tenantId deviceId) ∨
      (purge s.leases a.now).get? (encodeRouteKey tenantId deviceId) = none ∧
        ∃ lease args reply', s.leases.get? (encodeRouteKey tenantId deviceId) = some lease ∧
          (Call.acquireRoute args, reply') ∈ [(Call.acquireRoute a, reply)] ∧ lease.expiresAt ≤ args.now := by
    refine (purge_get? s.leases a.now _).imp_right ?_
    rintro ⟨hnone, lease, hlease, hexpired⟩
    exact ⟨hnone, lease, a, reply, hlease, List.mem_cons_self, hexpired⟩
  rw [acquireRoute]
  dsimp only
  split_ifs
  · exact ⟨rfl, hpurged⟩
  · exact ⟨rfl, hpurged⟩
  · split
    · exact ⟨Dict.get?_set_ne _ _ hkey, hpurged⟩
    · refine ⟨Dict.get?_set_ne _ _ hkey, ?_⟩
      rw [Dict.get?_set_ne _ _ hkey]
      exact hpurged

theorem releaseRoute_untouched {lease : RouteLease}
    (h : (lease.tenantId.val, lease.deviceId.val) ≠ (tenantId, deviceId)) :
    Untouched tenantId deviceId es s (releaseRoute s lease).1 := by
  rw [releaseRoute]
  split
  · exact .of_eq rfl rfl
  · exact .of_eq rfl (Dict.get?_erase_ne _ (encodeRouteKey_ne h))

theorem renewRoute_untouched {workerId : String} {renewal : LeaseRenewal} {now expiresAt : Time}
    (h : (renewal.tenantId.val, renewal.deviceId.val) ≠ (tenantId, deviceId)) :
    Untouched tenantId deviceId es s (renewRoute s workerId renewal now expiresAt).1 := by
  rw [renewRoute]
  split
  · exact .of_eq rfl rfl
  · split_ifs
    · exact .of_eq rfl rfl
    · exact .of_eq rfl (Dict.get?_set_ne _ _ (encodeRouteKey_ne h))

theorem releaseRouteClaim_untouched {workerId : String} {release : LeaseRenewal}
    (h : (release.tenantId.val, release.deviceId.val) ≠ (tenantId, deviceId)) :
    Untouched tenantId deviceId es s (releaseRouteClaim s workerId release).1 := by
  rw [releaseRouteClaim]
  split
  · exact .of_eq rfl rfl
  · split_ifs
    · exact .of_eq rfl rfl
    · exact .of_eq rfl (Dict.get?_erase_ne _ (encodeRouteKey_ne h))

theorem consumeGrantResult_same (claims : ConnectGrantClaims) (now : Time) :
    (consumeGrantResult s claims now).1.fencing = s.fencing ∧
      (consumeGrantResult s claims now).1.leases = s.leases := by
  rw [consumeGrantResult]
  dsimp only
  split
  · exact ⟨rfl, rfl⟩
  · split_ifs <;> exact ⟨rfl, rfl⟩

theorem setDraining_same (workerId : String) (draining : Bool) (now : Time) :
    (setDraining s workerId draining now).1.fencing = s.fencing ∧
      (setDraining s workerId draining now).1.leases = s.leases := by
  rw [setDraining]
  split
  · exact ⟨rfl, rfl⟩
  · split_ifs <;> exact ⟨rfl, rfl⟩

theorem step_untouched {e : Event} (h : Step s e s') (hother : e.1.device? ≠ some (tenantId, deviceId)) :
    Untouched tenantId deviceId [e] s s' := by
  obtain ⟨c, reply⟩ := e
  have hcall : call s c = (s', reply) := h
  have hstate : (call s c).1 = s' := congrArg Prod.fst hcall
  rw [← hstate]
  cases c with
  | heartbeat hb expiresAt => exact .of_eq rfl rfl
  | listWorkers now => exact .of_eq rfl rfl
  | setDraining workerId draining now =>
    obtain ⟨hfencing, hleases⟩ := setDraining_same (s := s) workerId draining now
    exact .of_eq hfencing (congrArg (Dict.get? · _) hleases)
  | acquireRoute a => exact acquireRoute_untouched reply (hother ∘ congrArg some)
  | releaseRoute lease => exact releaseRoute_untouched (hother ∘ congrArg some)
  | renewRoute workerId renewal now expiresAt => exact renewRoute_untouched (hother ∘ congrArg some)
  | releaseRouteClaim workerId release => exact releaseRouteClaim_untouched (hother ∘ congrArg some)
  | consumeGrantResult claims now =>
    obtain ⟨hfencing, hleases⟩ := consumeGrantResult_same (s := s) claims now
    exact .of_eq hfencing (congrArg (Dict.get? · _) hleases)

theorem run_untouched (h : Run Step s es s') (hother : ∀ e ∈ es, e.1.device? ≠ some (tenantId, deviceId)) :
    Untouched tenantId deviceId es s s' := by
  induction h with
  | nil => exact .of_eq rfl rfl
  | @snoc es t u e hr hs ih =>
    obtain ⟨hfencing, hlease⟩ := ih fun e he => hother e (List.mem_append_left _ he)
    obtain ⟨hfencing', hlease'⟩ := step_untouched hs (hother e (List.mem_append_right _ List.mem_cons_self))
    refine ⟨hfencing'.trans hfencing, ?_⟩
    rcases hlease with hsame | ⟨hnone, lease, args, reply, hheld, hmem, hexpired⟩
    · rw [hsame] at hlease'
      refine hlease'.imp_right ?_
      rintro ⟨hnone, lease, args, reply, hheld, hmem, hexpired⟩
      exact ⟨hnone, lease, args, reply, hheld, List.mem_append_right _ hmem, hexpired⟩
    · refine .inr ⟨?_, lease, args, reply, hheld, List.mem_append_left _ hmem, hexpired⟩
      rcases hlease' with hsame | ⟨hnone', -⟩
      · exact hsame.trans hnone
      · exact hnone'

end Store

namespace RedisStore

variable {s s' : State} {es : List (Call × Store.Reply)} {cjson : Time → Time}

/-- The device that a call is about. -/
def Call.device : Call → String × String
  | .acquireRoute args => (args.tenantId, args.deviceId)
  | .renewRoute _ renewal _ _ => (renewal.tenantId.val, renewal.deviceId.val)
  | .releaseRouteClaim _ release _ => (release.tenantId.val, release.deviceId.val)
  | .consumeGrantResult claims _ => (claims.tenantId.val, claims.deviceId.val)

/-- The route key and the fence key of the device are as they were. -/
def Untouched (tenantId deviceId : String) (s s' : State) : Prop :=
  s'.routes.get? (encodeRouteKey tenantId deviceId) = s.routes.get? (encodeRouteKey tenantId deviceId) ∧
    s'.fences.get? (encodeRouteKey tenantId deviceId) = s.fences.get? (encodeRouteKey tenantId deviceId)

theorem Untouched.trans {t : State} (h : Untouched tenantId deviceId s t) (h' : Untouched tenantId deviceId t s') :
    Untouched tenantId deviceId s s' :=
  ⟨h'.1.trans h.1, h'.2.trans h.2⟩

theorem acquireRoute_untouched {a : Store.AcquireArgs} (h : (a.tenantId, a.deviceId) ≠ (tenantId, deviceId)) :
    Untouched tenantId deviceId s (acquireRoute cjson s a).1 := by
  have hkey := Store.encodeRouteKey_ne h
  have herased : (s.routes.erase (encodeRouteKey a.tenantId a.deviceId)).get? (encodeRouteKey tenantId deviceId) =
      s.routes.get? (encodeRouteKey tenantId deviceId) := Dict.get?_erase_ne _ hkey
  simp only [acquireRoute]
  split
  · exact ⟨rfl, rfl⟩
  · split
    · exact ⟨herased, rfl⟩
    · split <;> exact ⟨(Dict.get?_set_ne _ _ hkey).trans herased, Dict.get?_set_ne _ _ hkey⟩

theorem renewRoute_untouched {workerId : String} {renewal : LeaseRenewal} {now expiresAt : Time}
    (h : (renewal.tenantId.val, renewal.deviceId.val) ≠ (tenantId, deviceId)) :
    Untouched tenantId deviceId s (renewRoute cjson s workerId renewal now expiresAt).1 := by
  simp only [renewRoute]
  split
  · exact ⟨rfl, rfl⟩
  · split
    · exact ⟨rfl, rfl⟩
    · exact ⟨Dict.get?_set_ne _ _ (Store.encodeRouteKey_ne h), rfl⟩

theorem releaseRouteClaim_untouched {workerId : String} {release : LeaseRenewal} {now : Time}
    (h : (release.tenantId.val, release.deviceId.val) ≠ (tenantId, deviceId)) :
    Untouched tenantId deviceId s (releaseRouteClaim s workerId release now).1 := by
  simp only [releaseRouteClaim]
  split
  · exact ⟨rfl, rfl⟩
  · split
    · exact ⟨rfl, rfl⟩
    · exact ⟨Dict.get?_erase_ne _ (Store.encodeRouteKey_ne h), rfl⟩

theorem consumeGrantResult_untouched (claims : ConnectGrantClaims) (now : Time) :
    Untouched tenantId deviceId s (consumeGrantResult s claims now).1 := by
  simp only [consumeGrantResult]
  split
  · exact ⟨rfl, rfl⟩
  · split <;> exact ⟨rfl, rfl⟩

theorem step_untouched {e : Call × Store.Reply} (h : Step cjson s e s')
    (hother : e.1.device ≠ (tenantId, deviceId)) : Untouched tenantId deviceId s s' := by
  obtain ⟨c, reply⟩ := e
  obtain ⟨-, hcall⟩ := h
  have hstate : (call cjson s c).1 = s' := congrArg Prod.fst hcall
  rw [← hstate]
  cases c with
  | acquireRoute args => exact acquireRoute_untouched hother
  | renewRoute workerId renewal now expiresAt => exact renewRoute_untouched hother
  | releaseRouteClaim workerId release now => exact releaseRouteClaim_untouched hother
  | consumeGrantResult claims now => exact consumeGrantResult_untouched claims now

theorem run_untouched (h : Run (Step cjson) s es s') (hother : ∀ e ∈ es, e.1.device ≠ (tenantId, deviceId)) :
    Untouched tenantId deviceId s s' := by
  induction h with
  | nil => exact ⟨rfl, rfl⟩
  | @snoc es t u e hr hs ih =>
    have hbefore := ih fun e he => hother e (List.mem_append_left _ he)
    exact hbefore.trans (step_untouched hs (hother e (List.mem_append_right _ List.mem_cons_self)))

end RedisStore

/-- Equal route keys are of one device, so that devices are apart in everything the two
stores keep for them: calls about other devices leave a device's lease and its counter. -/
theorem devices_apart (tenantId deviceId : String) :
    (∀ tenantId' deviceId', encodeRouteKey tenantId' deviceId' = encodeRouteKey tenantId deviceId →
      tenantId' = tenantId ∧ deviceId' = deviceId) ∧
    (∀ keyPrefix, Function.Injective (RedisKey.text keyPrefix)) ∧
    (∀ (s s' : Store.State) (es : List Store.Event), Run Store.Step s es s' →
      (∀ e ∈ es, e.1.device? ≠ some (tenantId, deviceId)) → Store.Untouched tenantId deviceId es s s') ∧
    ∀ (cjson : Time → Time) (s s' : RedisStore.State) (es : List (RedisStore.Call × Store.Reply)),
      Run (RedisStore.Step cjson) s es s' → (∀ e ∈ es, e.1.device ≠ (tenantId, deviceId)) →
      RedisStore.Untouched tenantId deviceId s s' := by
  refine ⟨?_, ?_, ?_, ?_⟩
  · intro tenantId' deviceId' heq
    exact encodeRouteKey_inj heq
  · intro keyPrefix
    exact RedisKey.text_injective keyPrefix
  · intro s s' es hrun hother
    exact Store.run_untouched hrun hother
  · intro cjson s s' es hrun hother
    exact RedisStore.run_untouched hrun hother

/-- Without the escapes the first two pairs would have one key. The lamp's route is nothing
to the desk. -/
theorem devices_apart_colon :
    encodeRouteKey "a:b" "c" ≠ encodeRouteKey "a" "b:c" ∧
    Store.Untouched "default" "desk" (history Store.call {} [.acquireRoute RedisStore.sampleArgs]) {}
      (after Store.call {} [.acquireRoute RedisStore.sampleArgs]) ∧
    RedisStore.Untouched "default" "desk" { clock := 0 }
      (after (RedisStore.call id) { clock := 0 } [.acquireRoute RedisStore.sampleArgs]) := by
  refine ⟨?_, ?_, ?_⟩
  · intro heq
    exact absurd ((devices_apart "a" "b:c").1 "a:b" "c" heq).1 (by decide)
  · have hother : ∀ e ∈ history Store.call {} [.acquireRoute RedisStore.sampleArgs],
        e.1.device? ≠ some ("default", "desk") := by decide +kernel
    exact (devices_apart "default" "desk").2.2.1 _ _ _ (run_history _ _ _) hother
  · have hother : ∀ e ∈ history (RedisStore.call id) { clock := 0 } [.acquireRoute RedisStore.sampleArgs],
        e.1.device ≠ ("default", "desk") := by decide +kernel
    have hclock : Along (fun s c => s.clock ≤ c.now) (RedisStore.call id) { clock := 0 }
        [.acquireRoute RedisStore.sampleArgs] := by decide +kernel
    exact (devices_apart "default" "desk").2.2.2 id _ _ _ (run_history_along hclock) hother

end RealtimeVoice.Director
