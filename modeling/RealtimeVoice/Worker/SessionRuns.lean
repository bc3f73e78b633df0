import RealtimeVoice.Worker.SessionProcess

namespace RealtimeVoice.Worker

open RealtimeVoice.Base RealtimeVoice.Base.Runs RealtimeVoice.Contracts

/-- The releases that an operation strikes off the pending ones. -/
def Call.acked : Call → List LeaseRenewal
  | .acknowledgeLeaseReleases releases => releases
  | _ => []

namespace Process

variable {s t : Process} {e : Call × Option Stage} {es : List (Call × Option Stage)} {maxSessions : Nat}

/-- An operation of another task: no call of `rva_voice` moves, and the registry sheds. -/
structure Shared (s : Process) (e : Call × Option Stage) (t : Process) : Prop where
  quiet : e.2 = none
  registry : s.registry.Sheds e.1.acked none t.registry
  handlers : t.handlers = s.handlers ∨ ∃ auth, t.handlers = s.handlers ++ [{ auth := auth }]
  admission : ∃ draining, t.admission = s.admission.setDraining draining

theorem call_cases (s : Process) (c : Call) :
    (∃ i h outcome, c = .resume i outcome ∧ s.handlers[i]? = some h ∧
      s.call c = (s.resume i h outcome, some h.stage)) ∨ Shared s (c, (s.call c).2) (s.call c).1 := by
  cases c with
  | arrive auth => exact .inr ⟨rfl, .refl _, .inr ⟨auth, rfl⟩, s.admission.draining, rfl⟩
  | resume i outcome =>
    cases hi : s.handlers[i]? with
    | none =>
      refine .inr ?_
      simp only [call, hi]
      exact ⟨rfl, .refl _, .inl rfl, s.admission.draining, rfl⟩
    | some h => exact .inl ⟨i, h, outcome, rfl, hi, by simp only [call, hi]⟩
  | revokeSessionEpochs sessionEpochs =>
    exact .inr ⟨rfl, s.registry.revokeLeaseClaims_sheds _, .inl rfl, s.admission.draining, rfl⟩
  | revokeLeaseClaims claims =>
    exact .inr ⟨rfl, s.registry.revokeLeaseClaims_sheds claims, .inl rfl, s.admission.draining, rfl⟩
  | revokeExpiredLeases now =>
    exact .inr ⟨rfl, s.registry.removeClaims_sheds _, .inl rfl, s.admission.draining, rfl⟩
  | extendLeaseDeadlines expiresAt acceptedClaims now =>
    exact .inr ⟨rfl, s.registry.extendLeaseDeadlines_sheds expiresAt acceptedClaims now, .inl rfl,
      s.admission.draining, rfl⟩
  | snapshotActiveLeaseReleases =>
    exact .inr ⟨rfl, s.registry.snapshotActiveLeaseReleases_sheds, .inl rfl, s.admission.draining, rfl⟩
  | acknowledgeLeaseReleases releases =>
    exact .inr ⟨rfl, s.registry.acknowledgeLeaseReleases_sheds releases, .inl rfl, s.admission.draining, rfl⟩
  | close => exact .inr ⟨rfl, s.registry.close_sheds, .inl rfl, s.admission.draining, rfl⟩
  | closeOwner => exact .inr ⟨rfl, s.registry.closeOwner_sheds, .inl rfl, s.admission.draining, rfl⟩
  | expiryStopped drains => exact .inr ⟨rfl, .of_deadlines rfl rfl (fun _ d h => ⟨d, h⟩), .inl rfl, _, rfl⟩
  | setDraining value => exact .inr ⟨rfl, .refl _, .inl rfl, value, rfl⟩

theorem step_cases (h : Step s e t) :
    (∃ i x outcome st', e = (.resume i outcome, some x.stage) ∧ s.handlers[i]? = some x ∧
      Moved s.admission s.registry ⟨i, x.auth⟩ x.stage (t.admission, t.registry, st') ∧
      t.handlers = s.handlers.set i { x with stage := st' } ∧
      proceed s.admission s.registry ⟨i, x.auth⟩ x.stage outcome = (t.admission, t.registry, st')) ∨
      Shared s e t := by
  obtain ⟨c, reply⟩ := e
  have h' : s.call c = (t, reply) := h
  obtain ⟨i, x, outcome, rfl, hi, hcall⟩ | hshared := call_cases s c
  · rw [hcall, Prod.mk.injEq] at h'
    obtain ⟨rfl, rfl⟩ := h'
    exact .inl ⟨i, x, outcome, _, rfl, hi, proceed_moved s.admission s.registry ⟨i, x.auth⟩ x.stage outcome, rfl, rfl⟩
  · rw [h'] at hshared
    exact .inr hshared

/-- The admission, the registry and the calls fit together. -/
structure Sound (s : Process) : Prop where
  tokens : Tokens s.admission s.handlers
  registered : Registered s.admission s.registry s.handlers

theorem start_sound (maxSessions : Nat) : Sound (start maxSessions) where
  tokens :=
    { consistent := SharedSessionAdmission.consistent_init maxSessions
      drawn := fun i h token hi => by simp [start] at hi
      distinct := fun i j h h' token hi => by simp [start] at hi
      reserved := fun i h token point hi => by simp [start] at hi
      owned := fun token p h => by simp [start] at h }
  registered :=
    { connected := fun p c h => by simp [start] at h
      linked := fun claim deadline h => by simp [start] at h
      nodup := List.nodup_nil
      sourced := fun claim h => absurd h List.not_mem_nil }

theorem Shared.sound (h : Shared s e t) (hs : Sound s) : Sound t := by
  obtain ⟨-, hregistry, hhandlers, draining, hadmission⟩ := h
  have htokens : Tokens t.admission s.handlers := by
    rw [hadmission]
    exact hs.tokens.setDraining draining
  have hreservations : t.admission.reservations = s.admission.reservations := by rw [hadmission]; rfl
  obtain hhandlers | ⟨auth, hhandlers⟩ := hhandlers
  · refine ⟨hhandlers ▸ htokens, hs.registered.keep hregistry ?_ ?_ (by simp)⟩
    · intro p c h token _ hh hconnects htoken hreserved
      exact ⟨h, hhandlers ▸ hh, rfl, hconnects, htoken, hreservations ▸ hreserved⟩
    · exact fun h hh => ⟨h, hhandlers ▸ hh, rfl⟩
  · refine ⟨hhandlers ▸ htokens.arrive auth, hs.registered.keep hregistry ?_ ?_ (by simp)⟩
    · intro p c h token _ hh hconnects htoken hreserved
      have hlt : c.handler < s.handlers.length := (List.getElem?_eq_some_iff.mp hh).1
      refine ⟨h, ?_, rfl, hconnects, htoken, hreservations ▸ hreserved⟩
      rw [hhandlers, List.getElem?_append_left hlt, hh]
    · exact fun h hh => ⟨h, hhandlers ▸ List.mem_append_left _ hh, rfl⟩

theorem step_sound (hs : Sound s) (h : Step s e t) : Sound t := by
  obtain ⟨i, x, outcome, st', -, hi, hmoved, hhandlers, -⟩ | hshared := step_cases h
  · constructor
    · rw [hhandlers]
      exact hs.tokens.moved hi hmoved
    · rw [hhandlers]
      exact hs.registered.moved hs.tokens hi hmoved
  · exact hshared.sound hs

theorem run_sound (h : Run Step (start maxSessions) es s) : Sound s :=
  h.state_invariant (start_sound maxSessions) (fun _ _ _ hs he => step_sound hs he)

theorem Moved.admission_maxSessions {a a' : SharedSessionAdmission} {r r' : RvaSessionRegistry} {c : Connection}
    {st st' : Stage} (h : Moved a r c st (a', r', st')) : a'.maxSessions = a.maxSessions := by
  cases h with
  | reserve hsome => rw [(SharedSessionAdmission.reserve_some hsome).2.2.2]
  | release => exact SharedSessionAdmission.release_maxSessions _ _
  | _ => rfl

theorem step_maxSessions (h : Step s e t) : t.admission.maxSessions = s.admission.maxSessions := by
  obtain ⟨i, x, outcome, st', -, -, hmoved, -⟩ | hshared := step_cases h
  · exact hmoved.admission_maxSessions
  · obtain ⟨draining, hadmission⟩ := hshared.admission
    rw [hadmission]
    rfl

theorem run_maxSessions (h : Run Step (start maxSessions) es s) : s.admission.maxSessions = maxSessions :=
  h.state_invariant (P := fun s => s.admission.maxSessions = maxSessions) rfl
    (fun _ _ _ hs he => (step_maxSessions he).trans hs)

/-- What a step does to the pending releases: one is struck off when it is
acknowledged only, and a connection that goes leaves its claim there. -/
structure Pends (e : Call × Option Stage) (s t : Process) : Prop where
  kept : ∀ claim ∈ s.registry.pendingReleases, claim ∉ e.1.acked → claim ∈ t.registry.pendingReleases
  queued : ∀ p c claim, s.registry.connections.get? p = some c → t.registry.connections.get? p ≠ some c →
    c.leaseClaim = some claim → claim ∈ t.registry.pendingReleases

theorem step_pends (hs : Sound s) (h : Step s e t) : Pends e s t := by
  obtain ⟨i, x, outcome, st', -, hi, hmoved, -⟩ | hshared := step_cases h
  · have hsheds : ∀ own, s.registry.Sheds [] own t.registry → Pends e s t :=
      fun _ hsheds => ⟨fun claim hclaim _ => hsheds.kept claim hclaim (by simp), hsheds.queued⟩
    generalize htr : t.registry = r, hta : t.admission = a, hst : x.stage = st at hmoved
    cases hmoved with
    | wait => exact hsheds none (htr ▸ .refl _)
    | reserve => exact hsheds none (htr ▸ .refl _)
    | release => exact hsheds none (htr ▸ .refl _)
    | queue => exact hsheds x.auth.leaseClaim (htr ▸ s.registry.queueLeaseRelease_sheds x.auth)
    | register =>
      have hfree := hs.registered.free hs.tokens hi hst rfl
      constructor
      · intro claim hclaim _
        rw [htr, RvaSessionRegistry.register_pendingReleases]
        exact hclaim
      · intro p c claim hc hgone _
        rw [htr, RvaSessionRegistry.register_get?] at hgone
        split at hgone
        · rename_i hp
          rw [hp] at hc
          exact absurd (hc.symm.trans hfree) (by simp)
        · exact absurd hc hgone
    | unregister =>
      refine hsheds x.auth.leaseClaim ?_
      rw [htr]
      exact RvaSessionRegistry.unregister_sheds (c := ⟨i, x.auth⟩) (hs.registered.own hi)
  · exact ⟨hshared.registry.kept, hshared.registry.queued⟩

/-- Once a connection with a lease is gone, its claim stays pending until it is acknowledged. -/
theorem pending_until_acknowledged {u : Process} {fs : List (Call × Option Stage)} (hs : Sound s) (h : Step s e t)
    (hr : Run Step t fs u) {p : Principal} {c : Connection} {claim : LeaseRenewal}
    (hc : s.registry.connections.get? p = some c) (hgone : t.registry.connections.get? p ≠ some c)
    (hclaim : c.leaseClaim = some claim) (hnot : ∀ f ∈ fs, claim ∉ f.1.acked) :
    claim ∈ u.registry.pendingReleases := by
  have hrun : Sound u ∧ ((∀ f ∈ fs, claim ∉ f.1.acked) → claim ∈ u.registry.pendingReleases) := by
    refine hr.invariant (R := fun fs u => Sound u ∧
      ((∀ f ∈ fs, claim ∉ f.1.acked) → claim ∈ u.registry.pendingReleases)) ?_ ?_
    · exact ⟨step_sound hs h, fun _ => (step_pends hs h).queued p c claim hc hgone hclaim⟩
    · intro fs u f v _ ih hf
      refine ⟨step_sound ih.1 hf, fun hfs => ?_⟩
      have hold := ih.2 (fun f' hf' => hfs f' (List.mem_append_left _ hf'))
      exact (step_pends ih.1 hf).kept claim hold (hfs f (List.mem_append_right _ List.mem_cons_self))
  exact hrun.2 hnot

/-- Every registered principal holds a reservation, so the connections are bounded
as the reservations are. -/
theorem Sound.connections_le (hs : Sound s) : s.registry.connections.size ≤ s.admission.maxSessions := by
  have hsub : s.registry.connections.entries.map Prod.fst ⊆ s.admission.reservations.values := by
    intro p hp
    rw [Dict.key_mem_iff, Option.isSome_iff_exists] at hp
    obtain ⟨c, hc⟩ := hp
    obtain ⟨-, h, token, -, -, -, -, hreserved⟩ := hs.registered.connected p c hc
    exact (Dict.mem_values_iff _ _).mpr ⟨token, hreserved⟩
  have hle := (s.registry.connections.nodup.subperm hsub).length_le
  rw [List.length_map, Dict.values, List.length_map] at hle
  exact Nat.le_trans hle hs.tokens.consistent.bounded

theorem Sound.principals_nodup (hs : Sound s) :
    (s.registry.connections.values.map (fun c => c.auth.principal)).Nodup := by
  have hkeys : s.registry.connections.values.map (fun c => c.auth.principal) =
      s.registry.connections.entries.map Prod.fst := by
    rw [Dict.values, List.map_map]
    refine List.map_congr_left (fun e he => ?_)
    exact (hs.registered.connected e.1 e.2 ((Dict.mem_entries_iff _ _ _).mp he)).1
  rw [hkeys]
  exact s.registry.connections.nodup

def sampleAuth : AuthContext :=
  { tenantId := sampleTenant
    deviceId := sampleDevice
    sessionEpoch := some sampleEpoch
    fencingToken := some ⟨1, firstToken_pos⟩
    expiresAt := some 30 }

/-- A call that gets as far as `connection.run`. -/
def connecting (i : Nat) (auth : AuthContext) : List Call :=
  .arrive auth :: List.replicate 6 (.resume i (.returned true))

end Process

end RealtimeVoice.Worker
