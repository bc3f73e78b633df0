import RealtimeVoice.Director.Service
import RealtimeVoice.Director.StoreInvariant

namespace RealtimeVoice.Director

open RealtimeVoice.Base RealtimeVoice.Base.Runs RealtimeVoice.Contracts RealtimeVoice.Worker

namespace Store

def claimKey (c : LeaseRenewal) : String := encodeRouteKey c.tenantId.val c.deviceId.val

/-- The store holds a lease for exactly this worker and claim, at least until `d`. -/
def Holds (st : State) (w : String) (c : LeaseRenewal) (d : Time) : Prop :=
  ∃ lease, st.leases.get? (claimKey c) = some lease ∧ claimMatches lease w c = true ∧ d ≤ lease.expiresAt

variable {st : State} {w w' : String} {c c' : LeaseRenewal} {d : Time}

/-- A lease belongs to one worker and one claim of its route. -/
theorem claimMatches_unique {lease : RouteLease} (h : claimMatches lease w c = true)
    (h' : claimMatches lease w' c' = true) (hkey : claimKey c = claimKey c') : w = w' ∧ c = c' := by
  obtain ⟨hw, hepoch, htoken⟩ := (claimMatches_iff _ _ _).mp h
  obtain ⟨hw', hepoch', htoken'⟩ := (claimMatches_iff _ _ _).mp h'
  obtain ⟨htenant, hdevice⟩ := encodeRouteKey_inj hkey
  refine ⟨hw.symm.trans hw', ?_⟩
  obtain ⟨tenant, device, epoch, token, hpos⟩ := c
  obtain ⟨tenant', device', epoch', token', hpos'⟩ := c'
  simp only [LeaseRenewal.mk.injEq]
  exact ⟨Subtype.ext htenant, Subtype.ext hdevice, hepoch.symm.trans hepoch', htoken.symm.trans htoken'⟩

theorem Holds.of_leases {st' : State} (h : Holds st w c d) (heq : st'.leases = st.leases) : Holds st' w c d := by
  rw [Holds, heq]
  exact h

/-- An acquisition only drops what its own, earlier clock reading saw expired. -/
theorem Holds.acquire (h : Holds st w c d) {a : AcquireArgs} (hnow : a.now < d) :
    Holds (acquireRoute st a).1 w c d := by
  obtain ⟨lease, hget, hmatches, hle⟩ := h
  have hunexpired : a.now < lease.expiresAt := hnow.trans_le hle
  have hkept : (purge st.leases a.now).get? (claimKey c) = some lease :=
    (get?_purge _ _ _ _).mpr ⟨hget, hunexpired⟩
  refine ⟨lease, ?_, hmatches, hle⟩
  simp only [acquireRoute]
  split
  · exact hkept
  · rename_i hconflict
    split
    · exact hkept
    · split
      · exact hkept
      · -- the guard saw no lease at the new key, so it is another one
        have hne : claimKey c ≠ encodeRouteKey a.tenantId a.deviceId := by
          intro heq
          rw [heq] at hkept
          rw [hkept] at hconflict
          exact hconflict (by simpa using hunexpired)
        exact (Dict.get?_set_ne _ _ hne).trans hkept

/-- A renewal that does not shorten the lease it finds. -/
theorem Holds.renew (h : Holds st w c d) {now expiresAt : Time}
    (hlonger : ∀ lease, st.leases.get? (claimKey c') = some lease → claimMatches lease w' c' = true →
      lease.expiresAt ≤ expiresAt) : Holds (renewRoute st w' c' now expiresAt).1 w c d := by
  rw [renewRoute]
  split
  · exact h
  · rename_i current hcurrent
    split
    · exact h
    · rename_i haccepted
      rw [not_or, Bool.not_eq_false] at haccepted
      obtain ⟨lease, hget, hmatches, hle⟩ := h
      by_cases hkey : claimKey c = claimKey c'
      · obtain rfl : lease = current := by
          rw [hkey] at hget
          exact Option.some.inj (hget.symm.trans hcurrent)
        refine ⟨{ lease with expiresAt := expiresAt }, ?_, hmatches, ?_⟩
        · rw [hkey]
          exact Dict.get?_set_self _ _ _
        · exact hle.trans (hlonger lease hcurrent haccepted.2)
      · exact ⟨lease, (Dict.get?_set_ne _ _ hkey).trans hget, hmatches, hle⟩

/-- A renewal that is accepted leaves a lease until its own expiry. -/
theorem renewRoute_holds {now expiresAt : Time} (h : (renewRoute st w c now expiresAt).2 = .flag true) :
    Holds (renewRoute st w c now expiresAt).1 w c expiresAt := by
  rw [renewRoute] at h ⊢
  split at h
  · cases h
  · split at h
    · cases h
    · rename_i current hcurrent haccepted
      rw [if_neg haccepted]
      rw [not_or, Bool.not_eq_false] at haccepted
      exact ⟨{ current with expiresAt := expiresAt }, Dict.get?_set_self _ _ _, haccepted.2, le_rfl⟩

/-- A release takes away the lease of its own claim only. -/
theorem Holds.release (h : Holds st w c d) (hother : (releaseRouteClaim st w' c').2 = .flag true → (w', c') ≠ (w, c)) :
    Holds (releaseRouteClaim st w' c').1 w c d := by
  rw [releaseRouteClaim] at hother ⊢
  split
  · exact h
  · rename_i current hcurrent
    split
    · exact h
    · rename_i haccepted
      rw [Bool.not_eq_false] at haccepted
      obtain ⟨lease, hget, hmatches, hle⟩ := h
      have hkey : claimKey c ≠ claimKey c' := by
        intro hkey
        rw [hkey] at hget
        obtain rfl := Option.some.inj (hget.symm.trans hcurrent)
        obtain ⟨hw, hc⟩ := claimMatches_unique hmatches haccepted hkey
        apply hother
        · rw [hcurrent]
          simp [haccepted]
        · rw [hw, hc]
      exact ⟨lease, (Dict.get?_erase_ne _ hkey).trans hget, hmatches, hle⟩

theorem acquireRoute_lease {a : AcquireArgs} {lease : RouteLease} (h : (acquireRoute st a).2 = .lease lease) :
    (acquireRoute st a).1.leases.get? lease.routeKey = some lease ∧ lease.tenantId.val = a.tenantId ∧
      lease.deviceId.val = a.deviceId ∧ lease.workerId.val = a.workerId ∧ lease.expiresAt = a.expiresAt := by
  simp only [acquireRoute] at h ⊢
  split at h
  · cases h
  · split at h
    · cases h
    · rename_i hconflict hcapacity
      rw [if_neg hconflict, if_neg hcapacity]
      split at h
      · cases h
      · rename_i l hl
        obtain ⟨ht, hd, hw, -, he⟩ := makeLease_eq hl
        obtain rfl : l = lease := by simpa using h
        refine ⟨?_, ht, hd, hw, he⟩
        rw [RouteLease.routeKey, ht, hd]
        exact Dict.get?_set_self _ _ _

end Store

namespace Cluster

/-- The lease behind a deadline: unless the deadline has passed or the claim was
released, the store holds the lease at least as long. -/
def Backed (s : Cluster) (w : String) (c : LeaseRenewal) (d : Time) : Prop :=
  s.clock < d → (w, c) ∉ s.released → Store.Holds s.store w c d

/-- The leases of the second state are those of the first, up to releases and the clock. -/
structure Later (s t : Cluster) : Prop where
  clock : s.clock ≤ t.clock
  released : ∀ x ∈ s.released, x ∈ t.released
  held : ∀ w c d, s.clock < d → (w, c) ∉ t.released → Store.Holds s.store w c d → Store.Holds t.store w c d

/-- The next operation of this heartbeat would leave a lease with less than it has. -/
def Handler.shortens (ttl : Ttl) (store : Store.State) (h : Handler) : Bool :=
  match h.stage with
  | .renewing _ (claim :: _) _ => (store.leases.get? (Store.claimKey claim)).any (fun lease =>
      Store.claimMatches lease h.request.workerId claim && h.now + ttl.leaseSeconds < lease.expiresAt)
  | _ => false

def shortens (ttl : Ttl) (s : Cluster) : Event → Bool
  | .advance index => s.handlers[index]?.any (Handler.shortens ttl s.store)
  | _ => false

/-- What the parties know of leases is backed. -/
structure Sound (ttl : Ttl) (B : String → LeaseRenewal → Time → Prop) (s : Cluster) : Prop where
  deadlines : ∀ w c d, (s.workers w).registry.leaseDeadlines.get? c = some d → B w c d
  prepared : ∀ w heartbeat, (s.workers w).exchange = .prepared heartbeat → heartbeat.workerId.val = w
  awaiting : ∀ w request, (s.workers w).exchange = .awaiting request → request.workerId = w
  grants : ∀ g ∈ s.grants, B g.workerId.val (leaseClaim g) g.exp
  authorized : ∀ g ∈ s.authorized, B g.workerId.val (leaseClaim g) g.exp
  handlers : ∀ h ∈ s.handlers, ∀ draining rest rejected, h.stage = .renewing draining rest rejected →
    ∃ done, h.request.heartbeat.activeLeases = done ++ rest ∧
      ∀ c ∈ done, c.sessionEpoch ∉ rejected → B h.request.workerId c (h.now + ttl.leaseSeconds)
  responses : ∀ r ∈ s.responses, ∀ c ∈ acceptedClaims r, B r.request.workerId c r.leaseExpiresAt
  bootstraps : ∀ b ∈ s.bootstraps, b.now ≤ s.clock

variable {ttl : Ttl} {s t : Cluster} {B B' : String → LeaseRenewal → Time → Prop}

theorem Backed.later (h : Later s t) {w : String} {c : LeaseRenewal} {d : Time} (hb : Backed s w c d) :
    Backed t w c d := by
  intro hclock hreleased
  have hclock' : s.clock < d := h.clock.trans_lt hclock
  exact h.held w c d hclock' hreleased (hb hclock' (fun hmem => hreleased (h.released _ hmem)))

theorem Later.of_leases (hclock : s.clock ≤ t.clock) (hreleased : t.released = s.released)
    (hleases : t.store.leases = s.store.leases) : Later s t where
  clock := hclock
  released := by
    intro x hx
    rw [hreleased]
    exact hx
  held := fun _ _ _ _ _ hh => hh.of_leases hleases

theorem not_shortens {index : Nat} (h : s.shortens ttl (.advance index) = false) {x : Handler} {draining : Bool}
    {claim : LeaseRenewal} {rest : List LeaseRenewal} {rejected : List Identifier} (hx : s.handlers[index]? = some x)
    (hstage : x.stage = .renewing draining (claim :: rest) rejected) (lease : RouteLease)
    (hlease : s.store.leases.get? (Store.claimKey claim) = some lease)
    (hmatches : Store.claimMatches lease x.request.workerId claim = true) :
    lease.expiresAt ≤ x.now + ttl.leaseSeconds := by
  rw [shortens, hx, Option.any_some, Handler.shortens, hstage] at h
  dsimp only at h
  rw [hlease, Option.any_some, hmatches, Bool.true_and, decide_eq_false_iff_not] at h
  exact not_lt.mp h

theorem Sound.mono (h : Sound ttl B s) (hB : ∀ w c d, B w c d → B' w c d) : Sound ttl B' s where
  deadlines w c d hd := hB _ _ _ (h.deadlines w c d hd)
  prepared := h.prepared
  awaiting := h.awaiting
  grants g hg := hB _ _ _ (h.grants g hg)
  authorized g hg := hB _ _ _ (h.authorized g hg)
  handlers := by
    intro x hx draining rest rejected hstage
    obtain ⟨done, hsplit, hdone⟩ := h.handlers x hx draining rest rejected hstage
    exact ⟨done, hsplit, fun c hc hr => hB _ _ _ (hdone c hc hr)⟩
  responses r hr c hc := hB _ _ _ (h.responses r hr c hc)
  bootstraps := h.bootstraps

theorem Sound.later (h : Sound ttl (Backed s) s) (hl : Later s t) : Sound ttl (Backed t) s :=
  h.mono (fun _ _ _ hb => hb.later hl)

/-- One worker process changes, the rest stays. -/
theorem Sound.setWorker (h : Sound ttl B s) {w : String} {process : WorkerProcess}
    (hdeadlines : ∀ c d, process.registry.leaseDeadlines.get? c = some d → B w c d)
    (hprepared : ∀ heartbeat, process.exchange = .prepared heartbeat → heartbeat.workerId.val = w)
    (hawaiting : ∀ request, process.exchange = .awaiting request → request.workerId = w) :
    Sound ttl B (s.setWorker w process) := by
  have hworker : ∀ w', (s.setWorker w process).workers w' = if w' = w then process else s.workers w' := by
    intro w'
    exact Function.update_apply s.workers w process w'
  refine { h with deadlines := ?_, prepared := ?_, awaiting := ?_ }
  · intro w' c d hd
    rw [hworker] at hd
    split at hd
    · rename_i heq
      subst heq
      exact hdeadlines c d hd
    · exact h.deadlines w' c d hd
  · intro w' heartbeat hx
    rw [hworker] at hx
    split at hx
    · rename_i heq
      subst heq
      exact hprepared heartbeat hx
    · exact h.prepared w' heartbeat hx
  · intro w' request hx
    rw [hworker] at hx
    split at hx
    · rename_i heq
      subst heq
      exact hawaiting request hx
    · exact h.awaiting w' request hx

theorem Sound.withRegistry (h : Sound ttl B s) {w : String} {f : Registry → Registry}
    (hf : ∀ c d, (f (s.workers w).registry).leaseDeadlines.get? c = some d →
      (s.workers w).registry.leaseDeadlines.get? c = some d) : Sound ttl B (s.withRegistry w f) :=
  h.setWorker (fun c d hd => h.deadlines w c d (hf c d hd)) (h.prepared w) (h.awaiting w)

/-- A heartbeat in progress moves on, the others stay. -/
theorem Sound.setHandler (h : Sound ttl B s) {index : Nat} {handler : Handler}
    (hhandler : ∀ draining rest rejected, handler.stage = .renewing draining rest rejected →
      ∃ done, handler.request.heartbeat.activeLeases = done ++ rest ∧
        ∀ c ∈ done, c.sessionEpoch ∉ rejected → B handler.request.workerId c (handler.now + ttl.leaseSeconds)) :
    Sound ttl B { s with handlers := s.handlers.set index handler } := by
  refine { h with handlers := ?_ }
  intro x hx
  obtain hx | rfl := List.mem_or_eq_of_mem_set hx
  · exact h.handlers x hx
  · exact hhandler

/-- The store and the records of the clock and of releases are not part of what the parties know. -/
theorem Sound.withStore (h : Sound ttl B s) (store : Store.State) (released : List (String × LeaseRenewal)) :
    Sound ttl B { s with store := store, released := released } := { h with }

theorem releaseClaim_later (s : Cluster) (w : String) (c : LeaseRenewal) : Later s (s.releaseClaim w c) where
  clock := le_rfl
  released := by
    intro x hx
    rw [releaseClaim]
    dsimp only
    split
    · exact List.mem_append_left _ hx
    · exact hx
  held := by
    intro w' c' d _ hnot hh
    apply hh.release
    intro hflag heq
    apply hnot
    rw [releaseClaim]
    dsimp only
    rw [if_pos hflag, heq]
    simp

/-- A heartbeat in progress moves on with a store operation. -/
theorem Sound.withHandler (h : Sound ttl (Backed s) s) {store : Store.State}
    {released : List (String × LeaseRenewal)} {index : Nat} {handler : Handler}
    (hl : Later s { s with store := store, released := released })
    (hhandler : ∀ draining rest rejected, handler.stage = .renewing draining rest rejected →
      ∃ done, handler.request.heartbeat.activeLeases = done ++ rest ∧ ∀ c ∈ done, c.sessionEpoch ∉ rejected →
        Backed { s with store := store, released := released } handler.request.workerId c
          (handler.now + ttl.leaseSeconds)) :
    Sound ttl (Backed { s with store := store, released := released, handlers := s.handlers.set index handler })
      { s with store := store, released := released, handlers := s.handlers.set index handler } :=
  ((h.later hl).withStore store released).setHandler hhandler

theorem advance_sound (h : Sound ttl (Backed s) s) {index : Nat} {x : Handler} (hx : s.handlers[index]? = some x)
    (hlonger : s.shortens ttl (.advance index) = false) :
    Sound ttl (Backed (s.advance ttl index x)) (s.advance ttl index x) := by
  have hmem : x ∈ s.handlers := List.mem_of_getElem? hx
  rw [advance]
  split
  · exact h.withHandler (Later.of_leases le_rfl rfl rfl) (by simp)
  · exact h.withHandler (releaseClaim_later s _ _) (by simp)
  · refine h.withHandler (Later.of_leases le_rfl rfl rfl) ?_
    intro draining' rest rejected hstage
    obtain ⟨rfl, rfl, rfl⟩ := Stage.renewing.inj hstage
    exact ⟨[], rfl, by simp⟩
  · rename_i draining claim rest rejected hstage
    have hl : Later s { s with
        store := (Store.renewRoute s.store x.request.workerId claim x.now (x.now + ttl.leaseSeconds)).1 } :=
      ⟨le_rfl, fun _ hr => hr, fun _ _ _ _ _ hh =>
        hh.renew (not_shortens hlonger hx hstage)⟩
    refine h.withHandler hl ?_
    intro draining' rest' rejected' hstage'
    obtain ⟨rfl, rfl, rfl⟩ := Stage.renewing.inj hstage'
    obtain ⟨done, hsplit, hdone⟩ := h.handlers x hmem draining (claim :: rest) rejected hstage
    refine ⟨done ++ [claim], by simp [hsplit], ?_⟩
    intro c hc hnot
    rw [List.mem_append, List.mem_singleton] at hc
    obtain hc | rfl := hc
    · apply (hdone c hc ?_).later hl
      intro hrejected
      apply hnot
      split
      · exact hrejected
      · exact List.mem_append_left _ hrejected
    · split at hnot
      · rename_i hflag
        exact fun _ _ => Store.renewRoute_holds hflag
      · simp at hnot
  · rename_i draining rejected hstage
    obtain ⟨done, hsplit, hdone⟩ := h.handlers x hmem draining [] rejected hstage
    rw [List.append_nil] at hsplit
    refine { h with handlers := ?_, responses := ?_ }
    · exact fun y hy => h.handlers y (List.mem_of_mem_eraseIdx hy)
    · intro r hr c hc
      rw [List.mem_append, List.mem_singleton] at hr
      obtain hr | rfl := hr
      · exact h.responses r hr c hc
      · rw [acceptedClaims, List.mem_filter, decide_eq_true_eq] at hc
        dsimp only at hc
        rw [hsplit] at hc
        exact hdone c hc.1 hc.2

/-- A fresh lease backs the grant that is issued for it. -/
theorem issueGrant_backed {b : Bootstrap} {c : Candidate} {lease : RouteLease} {jti : Identifier}
    {g : ConnectGrantClaims} {expiresAt : Time} (hg : issueGrant b c lease expiresAt jti = some g)
    (hlease : s.store.leases.get? lease.routeKey = some lease) (htenant : lease.tenantId.val = b.request.tenantId.val)
    (hdevice : lease.deviceId.val = b.request.deviceId.val)
    (hworker : lease.workerId.val = c.worker.workerId.val) (hexpires : lease.expiresAt = expiresAt) :
    Backed s g.workerId.val (leaseClaim g) g.exp := by
  rw [issueGrant] at hg
  split at hg
  · obtain rfl := Option.some.inj hg
    intro _ _
    refine ⟨lease, ?_, (Store.claimMatches_iff _ _ _).mpr ⟨hworker, rfl, rfl⟩, hexpires.ge⟩
    rw [Store.claimKey, leaseClaim, ← htenant, ← hdevice]
    exact hlease
  · cases hg

theorem acquire_sound (h : Sound ttl (Backed s) s) {index : Nat} {b : Bootstrap} (hb : s.bootstraps[index]? = some b)
    (sessionEpoch jti : Identifier) :
    Sound ttl (Backed (s.acquire ttl index b sessionEpoch jti)) (s.acquire ttl index b sessionEpoch jti) := by
  have hnow : b.now ≤ s.clock := h.bootstraps b (List.mem_of_getElem? hb)
  have herase : ∀ b' ∈ s.bootstraps.eraseIdx index, b'.now ≤ s.clock := fun b' hb' =>
    h.bootstraps b' (List.mem_of_mem_eraseIdx hb')
  rw [acquire]
  split
  · exact { h with bootstraps := herase }
  · rename_i c rest hcandidates
    dsimp only
    generalize hargs : Store.AcquireArgs.mk b.request.tenantId.val b.request.deviceId.val c.worker.workerId.val
      c.worker.activeSessions c.worker.maxSessions sessionEpoch.val b.now (b.now + ttl.leaseSeconds) = args
    have hl : Later s { s with store := (Store.acquireRoute s.store args).1 } :=
      ⟨le_rfl, fun _ hr => hr, fun _ _ d hd _ hh => hh.acquire (by rw [← hargs]; exact hnow.trans_lt hd)⟩
    have hs := h.later hl
    split
    · refine { hs with bootstraps := ?_ }
      intro b' hb'
      obtain hb' | rfl := List.mem_or_eq_of_mem_set hb'
      · exact h.bootstraps b' hb'
      · exact hnow
    · rename_i lease hlease
      obtain ⟨hget, htenant, hdevice, hworker, hexpires⟩ := Store.acquireRoute_lease hlease
      rw [← hargs] at htenant hdevice hworker hexpires
      refine { hs with bootstraps := herase, grants := ?_ }
      intro g hg
      rw [List.mem_append, Option.mem_toList] at hg
      obtain hg | hg := hg
      · exact hs.grants g hg
      · exact issueGrant_backed (s := { s with store := (Store.acquireRoute s.store args).1 }) hg hget htenant
          hdevice hworker hexpires
    · exact { hs with bootstraps := herase }

theorem consume_sound (h : Sound ttl (Backed s) s) {g : ConnectGrantClaims} (hg : g ∈ s.grants) :
    Sound ttl (Backed (s.consume g)) (s.consume g) := by
  have hleases := (Store.consumeGrantResult_kept s.store g s.clock).1
  have hs : Sound ttl (Backed (s.consume g)) s := h.later (Later.of_leases le_rfl rfl hleases)
  refine { hs with authorized := ?_ }
  intro g' hg'
  rw [consume] at hg'
  dsimp only at hg'
  split at hg'
  · rw [List.mem_append, List.mem_singleton] at hg'
    obtain hg' | rfl := hg'
    · exact hs.authorized g' hg'
    · exact hs.grants g' hg
  · exact hs.authorized g' hg'

theorem start_sound (h : Sound ttl (Backed s) s) {index : Nat} : Sound ttl (Backed (s.step ttl (.start index)))
    (s.step ttl (.start index)) := by
  rw [step]
  split
  · exact h
  · rename_i auth hauth
    have hbacked := h.authorized auth (List.mem_of_getElem? hauth)
    have hs : Sound ttl (Backed s) (s.setWorker auth.workerId.val
        { s.workers auth.workerId.val with
          registry := (s.workers auth.workerId.val).registry.run { connection := s.numbers, auth := auth }
          running := (s.workers auth.workerId.val).running ++ [{ connection := s.numbers, auth := auth }] }) := by
      refine h.setWorker ?_ (h.prepared _) (h.awaiting _)
      intro c d hd
      obtain hold | ⟨rfl, rfl⟩ := Registry.run_deadline hd
      · exact h.deadlines _ c d hold
      · exact hbacked
    exact { hs with authorized := fun g hg => h.authorized g (List.mem_of_mem_eraseIdx hg) }

/-- The steps of a worker's own heartbeat loop. -/
theorem exchange_sound (h : Sound ttl (Backed s) s) {e : Event} {worker : String}
    (he : (∃ heartbeat, e = .prepare worker heartbeat) ∨ e = .post worker ∨ (∃ index, e = .receive worker index) ∨
      e = .settle worker ∨ e = .conclude worker ∨ e = .fail worker) :
    Sound ttl (Backed (s.step ttl e)) (s.step ttl e) := by
  have hexpired : ∀ c d, ((s.workers worker).registry.revokeExpiredLeases s.clock).leaseDeadlines.get? c = some d →
      Backed s worker c d := fun c d hd => h.deadlines _ c d (Registry.revokeExpiredLeases_deadline hd).2
  obtain ⟨heartbeat, rfl⟩ | rfl | ⟨index, rfl⟩ | rfl | rfl | rfl := he
  · rw [step]
    split
    · rename_i hguard
      refine h.setWorker (h.deadlines _) ?_ (by simp)
      intro heartbeat' hx
      obtain rfl := Exchange.prepared.inj hx
      exact hguard.2.1
    · exact h
  · rw [step]
    dsimp only
    split
    · rename_i heartbeat hprepared
      split
      · exact h.setWorker hexpired (by simp) (by simp)
      · have hs : Sound ttl (Backed s) (s.setWorker worker
            { s.workers worker with exchange := .awaiting { number := s.numbers, heartbeat := heartbeat } }) := by
          refine h.setWorker (h.deadlines _) (by simp) ?_
          intro request hx
          obtain rfl := Exchange.awaiting.inj hx
          exact h.prepared worker heartbeat hprepared
        exact { hs with }
    · exact h
  · rw [step]
    dsimp only
    split
    · exact h
    · rename_i response hresponse
      split
      · rename_i hawaiting
        have hworker := h.awaiting worker response.request hawaiting
        have hs : Sound ttl (Backed s) (s.setWorker worker
            { s.workers worker with
              registry := (s.workers worker).registry.extendLeaseDeadlines response.leaseExpiresAt
                (acceptedClaims response) s.clock
              exchange := .extended response }) := by
          refine h.setWorker ?_ (by simp) (by simp)
          intro c d hd
          obtain hold | ⟨hc, rfl⟩ := Registry.extendLeaseDeadlines_deadline hd
          · exact h.deadlines _ c d hold
          · rw [← hworker]
            exact h.responses response (List.mem_of_getElem? hresponse) c hc
        exact { hs with responses := fun r hr => h.responses r (List.mem_of_mem_eraseIdx hr) }
      · exact h
  · rw [step]
    split
    · exact h.setWorker hexpired (by simp) (by simp)
    · exact h
  · rw [step]
    split
    · refine h.setWorker ?_ (by simp) (by simp)
      exact fun c d hd => h.deadlines _ c d (Registry.revokeLeaseClaims_deadline hd)
    · exact h
  · rw [step]
    split
    · exact h.setWorker hexpired (by simp) (by simp)
    · exact h

theorem step_sound (h : Sound ttl (Backed s) s) {e : Event} (hlonger : s.shortens ttl e = false) :
    Sound ttl (Backed (s.step ttl e)) (s.step ttl e) := by
  cases e with
  | tick now =>
    have hs : Sound ttl (Backed (s.step ttl (.tick now))) s := h.later (Later.of_leases (le_max_left _ _) rfl rfl)
    exact { hs with bootstraps := fun b hb => (h.bootstraps b hb).trans (le_max_left _ _) }
  | bootstrap request =>
    have hs : Sound ttl (Backed (s.step ttl (.bootstrap request))) s := h.later (Later.of_leases le_rfl rfl rfl)
    refine { hs with bootstraps := ?_ }
    intro b hb
    rw [step] at hb
    dsimp only at hb
    rw [List.mem_append, List.mem_singleton] at hb
    obtain hb | rfl := hb
    · exact h.bootstraps b hb
    · exact le_rfl
  | acquire index sessionEpoch jti =>
    rw [step]
    split
    · exact h
    · rename_i b hb
      exact acquire_sound h hb sessionEpoch jti
  | consume index =>
    rw [step]
    split
    · exact h
    · rename_i g hg
      split
      · exact h
      · exact consume_sound h (List.mem_of_getElem? hg)
  | start index => exact start_sound h
  | abort index =>
    rw [step]
    split
    · exact h
    · rename_i auth hauth
      have hs : Sound ttl (Backed s) (s.withRegistry auth.workerId.val (·.abortStartup auth)) := by
        apply h.withRegistry
        intro c d hd
        rwa [Registry.abortStartup, Registry.queueLeaseRelease_leaseDeadlines] at hd
      exact { hs with authorized := fun g hg => h.authorized g (List.mem_of_mem_eraseIdx hg) }
  | finish worker index =>
    rw [step]
    split
    · exact h
    · refine h.setWorker ?_ (h.prepared _) (h.awaiting _)
      exact fun c d hd => h.deadlines _ c d (Registry.finish_deadline hd)
  | close worker =>
    rw [step]
    apply h.withRegistry
    intro c d hd
    rw [Registry.close_deadline] at hd
    cases hd
  | snapshot worker =>
    rw [step]
    apply h.withRegistry
    intro c d hd
    rwa [Registry.snapshotActiveLeaseReleases, Registry.queueAll_leaseDeadlines] at hd
  | revokeEpochs worker sessionEpochs =>
    rw [step]
    apply h.withRegistry
    exact fun _ _ hd => Registry.revokeLeaseClaims_deadline hd
  | enforceExpiry worker =>
    rw [step]
    apply h.withRegistry
    exact fun _ _ hd => (Registry.revokeExpiredLeases_deadline hd).2
  | prepare worker heartbeat => exact exchange_sound h (.inl ⟨heartbeat, rfl⟩)
  | post worker => exact exchange_sound h (.inr (.inl rfl))
  | receive worker index => exact exchange_sound h (.inr (.inr (.inl ⟨index, rfl⟩)))
  | settle worker => exact exchange_sound h (.inr (.inr (.inr (.inl rfl))))
  | conclude worker => exact exchange_sound h (.inr (.inr (.inr (.inr (.inl rfl)))))
  | fail worker => exact exchange_sound h (.inr (.inr (.inr (.inr (.inr rfl)))))
  | arrive index =>
    rw [step]
    split
    · exact h
    · refine { h with handlers := ?_ }
      intro x hx
      rw [List.mem_append, List.mem_singleton] at hx
      obtain hx | rfl := hx
      · exact h.handlers x hx
      · simp
  | advance index =>
    rw [step]
    split
    · exact h
    · rename_i x hx
      exact advance_sound h hx hlonger
  | crash index => exact { h with handlers := fun x hx => h.handlers x (List.mem_of_mem_eraseIdx hx) }
  | release workerId claim => exact (h.later (releaseClaim_later s _ _)).withStore _ _
  | setDraining workerId draining =>
    have hleases : (Store.setDraining s.store workerId draining s.clock).1.leases = s.store.leases := by
      rw [Store.setDraining]
      split
      · rfl
      · split <;> rfl
    have hs : Sound ttl (Backed (s.step ttl (.setDraining workerId draining))) s :=
      h.later (Later.of_leases le_rfl rfl hleases)
    exact hs.withStore _ s.released

theorem init_sound : Sound ttl (Backed {}) {} where
  deadlines := by simp
  prepared := by simp
  awaiting := by simp
  grants := by simp
  authorized := by simp
  handlers := by simp
  responses := by simp
  bootstraps := by simp

/-- Every deadline of a worker that has not passed is backed by the unexpired lease
of exactly this worker, session epoch and fencing token, unless the claim was
released; and no two workers have such deadlines for one route, unless one of the two claims
was released. -/
structure Exclusive (s : Cluster) : Prop where
  backed : ∀ w c d, (s.workers w).registry.leaseDeadlines.get? c = some d → s.clock < d → (w, c) ∉ s.released →
    ∃ lease, s.store.leases.get? (encodeRouteKey c.tenantId.val c.deviceId.val) = some lease ∧
      lease.workerId.val = w ∧ lease.sessionEpoch = c.sessionEpoch ∧ lease.fencingToken = c.fencingToken ∧
      d ≤ lease.expiresAt ∧ s.clock < lease.expiresAt
  single : ∀ w w' c c' d d', (s.workers w).registry.leaseDeadlines.get? c = some d → s.clock < d →
    (w, c) ∉ s.released → (s.workers w').registry.leaseDeadlines.get? c' = some d' → s.clock < d' →
    (w', c') ∉ s.released → c.tenantId = c'.tenantId → c.deviceId = c'.deviceId → w = w'

theorem Sound.exclusive (h : Sound ttl (Backed s) s) : Exclusive s where
  backed := by
    intro w c d hd hclock hnot
    obtain ⟨lease, hget, hmatches, hle⟩ := h.deadlines w c d hd hclock hnot
    obtain ⟨hw, hepoch, htoken⟩ := (Store.claimMatches_iff _ _ _).mp hmatches
    exact ⟨lease, hget, hw, hepoch, htoken, hle, hclock.trans_le hle⟩
  single := by
    intro w w' c c' d d' hd hclock hnot hd' hclock' hnot' htenant hdevice
    obtain ⟨lease, hget, hmatches, -⟩ := h.deadlines w c d hd hclock hnot
    obtain ⟨lease', hget', hmatches', -⟩ := h.deadlines w' c' d' hd' hclock' hnot'
    have hkey : Store.claimKey c = Store.claimKey c' := by
      rw [Store.claimKey, htenant, hdevice]
      rfl
    rw [← hkey] at hget'
    obtain rfl := Option.some.inj (hget.symm.trans hget')
    exact (Store.claimMatches_unique hmatches hmatches' hkey).1

def SteadyStep (ttl : Ttl) (s : Cluster) (e : Event × Unit) (t : Cluster) : Prop :=
  s.shortens ttl e.1 = false ∧ Step ttl s e t

/-- While no renewal shortens a lease, leases exclude each other across workers. -/
theorem lease_exclusion {es : List (Event × Unit)} (h : Run (SteadyStep ttl) {} es s) : Exclusive s := by
  have hsound : Sound ttl (Backed s) s := by
    refine h.state_invariant (P := fun s => Sound ttl (Backed s) s) init_sound ?_
    intro s e t hs hstep
    obtain ⟨hlonger, hanswer⟩ := hstep
    obtain rfl := congrArg Prod.fst hanswer
    exact step_sound hs hlonger
  exact hsound.exclusive

def sampleTtl : Ttl := { heartbeatSeconds := 15, leaseSeconds := 30 }

def sampleClaim : LeaseRenewal where
  tenantId := sampleTenant
  deviceId := sampleDevice
  sessionEpoch := sampleEpoch
  fencingToken := 1
  fencingToken_pos := firstToken_pos

def sampleHeartbeat (workerId : Identifier) (activeLeases : List LeaseRenewal) (h : activeLeases.length ≤ 1) :
    WorkerHeartbeat :=
  { idleHeartbeat workerId "wss://worker" with
    activeSessions := activeLeases.length
    activeLeases := activeLeases
    activeLeases_bounded := h.trans (idleHeartbeat workerId _).maxSessions_range.1
    activeLeases_unique := by
      match activeLeases, h with
      | [], _ => simp
      | [_], _ => simp }

def sampleRequest : BootstrapRequest := { tenantId := sampleTenant, deviceId := sampleDevice }

/-- A worker announces itself, its request times out on its side. -/
def announcing (workerId : Identifier) : List Event :=
  [.prepare workerId.val (sampleHeartbeat workerId [] (by decide)), .post workerId.val, .arrive 0, .advance 0,
    .crash 0, .fail workerId.val]

/-- The device is routed to a worker and its session starts there. -/
def routing (sessionEpoch jti : Identifier) (grant : Nat) : List Event :=
  [.bootstrap sampleRequest, .acquire 0 sessionEpoch jti, .consume grant, .start 0]

/-- The first worker's heartbeat of time 1 is overtaken by the one of time 10, whose
answer moves the deadline to 40; then the older one renews the lease until 31 only. -/
def overtaken : List Event :=
  let worker : Identifier := sampleWorker
  let heartbeat := sampleHeartbeat worker [sampleClaim] (by decide)
  announcing worker ++ routing sampleEpoch sampleGrantId 0 ++
    [.tick 1, .prepare "w1" heartbeat, .post "w1", .arrive 0, .advance 0, .fail "w1",
      .tick 10, .prepare "w1" heartbeat, .post "w1", .arrive 0, .advance 1, .advance 1, .advance 1, .advance 1,
      .receive "w1" 0, .settle "w1", .conclude "w1",
      .advance 0, .advance 0]

/-- The route is free for the Director at time 32 and goes to a second worker. -/
def reassigned : List Event :=
  overtaken ++ [.crash 0, .tick 32] ++ announcing laterWorker ++
    routing laterEpoch laterGrantId 1

/-- The session of the device is renewed once while its worker holds the lease. -/
def renewed : List Event :=
  let worker : Identifier := sampleWorker
  announcing worker ++ routing sampleEpoch sampleGrantId 0 ++
    [.tick 10, .prepare "w1" (sampleHeartbeat worker [sampleClaim] (by decide)), .post "w1", .arrive 0, .advance 0,
      .advance 0, .advance 0, .advance 0, .receive "w1" 0, .settle "w1", .conclude "w1"]

abbrev sampleCall (s : Cluster) (e : Event) : Cluster × Unit := (s.step sampleTtl e, ())

theorem lease_exclusion_renewed : ∃ es s, Run (SteadyStep sampleTtl) {} es s ∧
    (s.workers "w1").registry.leaseDeadlines.get? sampleClaim = some 40 ∧ s.clock = 10 ∧ Exclusive s := by
  have hsteady : Along (fun s e => s.shortens sampleTtl e = false) sampleCall {} renewed := by decide +kernel
  have hrun := run_history_along hsteady
  exact ⟨_, _, hrun, by decide +kernel, by decide +kernel, lease_exclusion hrun⟩

/-- An overtaken heartbeat lowers the lease below the worker's deadline, and then two
workers hold deadlines for one device. -/
theorem overtaken_not_exclusive : (¬∀ es s, Run (Step sampleTtl) {} es s → Exclusive s) ∧
    ((after sampleCall {} overtaken).workers "w1").registry.leaseDeadlines.get? sampleClaim = some 40 ∧
    ((after sampleCall {} overtaken).store.leases.get? "default:lamp").map RouteLease.expiresAt = some 31 ∧
    (after sampleCall {} overtaken).clock = 10 := by
  refine ⟨?_, by decide +kernel, by decide +kernel, by decide +kernel⟩
  intro h
  have hrun := run_history sampleCall {} reassigned
  have hsingle := (h _ _ hrun).single "w1" "w2" sampleClaim
    { sampleClaim with sessionEpoch := ⟨"epoch-2", by decide⟩, fencingToken := 2, fencingToken_pos := by decide } 40 62
    (by decide +kernel) (by decide +kernel) (by decide +kernel) (by decide +kernel) (by decide +kernel)
    (by decide +kernel) rfl rfl
  revert hsingle
  decide

/-- The route of a released claim is free, also while its worker still has the deadline. -/
def releasedEarly : List Event :=
  let worker : Identifier := sampleWorker
  let heartbeat : WorkerHeartbeat :=
    { sampleHeartbeat worker [sampleClaim] (by decide) with
      releasedLeases := [sampleClaim], releasedLeases_bounded := by decide, releasedLeases_unique := by decide }
  announcing worker ++ routing sampleEpoch sampleGrantId 0 ++
    [.snapshot "w1", .prepare "w1" heartbeat, .post "w1", .arrive 0, .advance 0, .advance 0, .crash 0] ++
    announcing laterWorker ++ routing laterEpoch laterGrantId 1

theorem released_not_single : ∃ es s, Run (SteadyStep sampleTtl) {} es s ∧ ("w1", sampleClaim) ∈ s.released ∧
    (s.workers "w1").registry.leaseDeadlines.entries.map Prod.snd = [30] ∧
    (s.workers "w2").registry.leaseDeadlines.entries.map (fun e => (e.1.deviceId, e.2)) = [(sampleDevice, 30)] ∧
    s.clock = 0 := by
  have hsteady : Along (fun s e => s.shortens sampleTtl e = false) sampleCall {} releasedEarly := by decide +kernel
  exact ⟨_, _, run_history_along hsteady, by decide +kernel, by decide +kernel, by decide +kernel, by decide +kernel⟩

end Cluster

end RealtimeVoice.Director
