import RealtimeVoice.Worker.SessionRegistry

namespace RealtimeVoice.Worker

open RealtimeVoice.Base RealtimeVoice.Base.Runs RealtimeVoice.Contracts

namespace RvaSessionRegistry

variable {r r' : RvaSessionRegistry} {claim : LeaseRenewal} {c : Connection}

theorem mem_queue {pending : List LeaseRenewal} {claim claim' : LeaseRenewal} :
    claim' ∈ queue pending claim ↔ claim' ∈ pending ∨ claim' = claim := by
  rw [queue]
  split
  · refine ⟨.inl, fun h => ?_⟩
    obtain hold | rfl := h
    · exact hold
    · assumption
  · rw [List.mem_append, List.mem_singleton]

theorem nodup_queue {pending : List LeaseRenewal} (h : pending.Nodup) (claim : LeaseRenewal) :
    (queue pending claim).Nodup := by
  rw [queue]
  split
  · exact h
  · rename_i hnew
    exact List.nodup_append.mpr ⟨h, List.nodup_singleton _, fun a ha b hb hab =>
      hnew (List.mem_singleton.mp hb ▸ hab ▸ ha)⟩

theorem mem_foldl_queue {claims pending : List LeaseRenewal} :
    claim ∈ claims.foldl queue pending ↔ claim ∈ pending ∨ claim ∈ claims := by
  induction claims generalizing pending with
  | nil => simp
  | cons d claims ih => rw [List.foldl_cons, ih, mem_queue, List.mem_cons, or_assoc]

theorem nodup_foldl_queue {claims pending : List LeaseRenewal} (h : pending.Nodup) :
    (claims.foldl queue pending).Nodup := by
  induction claims generalizing pending with
  | nil => exact h
  | cons d claims ih => exact ih (nodup_queue h d)

theorem mem_queueLeaseRelease {auth : AuthContext} :
    claim ∈ (r.queueLeaseRelease auth).pendingReleases ↔ claim ∈ r.pendingReleases ∨ auth.leaseClaim = some claim := by
  rw [queueLeaseRelease]
  cases auth.leaseClaim with
  | none => simp
  | some claim' => simp [mem_queue, eq_comm]

theorem mem_queueAll {connections : List Connection} :
    claim ∈ (r.queueAll connections).pendingReleases ↔
      claim ∈ r.pendingReleases ∨ ∃ c ∈ connections, c.leaseClaim = some claim := by
  rw [queueAll, mem_foldl_queue, List.mem_filterMap]

/-- A deadline is that of a registered connection. -/
def Linked (r : RvaSessionRegistry) : Prop :=
  ∀ claim deadline, r.leaseDeadlines.get? claim = some deadline →
    ∃ p c, r.connections.get? p = some c ∧ c.leaseClaim = some claim

/-- What every operation but the start of a `run` does to the registry. It removes
connections at most, each of which leaves its claim in the pending releases. It drops
no pending release but the acknowledged ones, and queues claims of connections, or
the one it was called for. -/
structure Sheds (acked : List LeaseRenewal) (own : Option LeaseRenewal) (r r' : RvaSessionRegistry) : Prop where
  shrinks : ∀ p c, r'.connections.get? p = some c → r.connections.get? p = some c
  linked : r.Linked → r'.Linked
  kept : ∀ claim ∈ r.pendingReleases, claim ∉ acked → claim ∈ r'.pendingReleases
  queued : ∀ p c claim, r.connections.get? p = some c → r'.connections.get? p ≠ some c → c.leaseClaim = some claim →
    claim ∈ r'.pendingReleases
  nodup : r.pendingReleases.Nodup → r'.pendingReleases.Nodup
  sourced : ∀ claim ∈ r'.pendingReleases, claim ∈ r.pendingReleases ∨ own = some claim ∨
    ∃ p c, r.connections.get? p = some c ∧ c.leaseClaim = some claim

/-- An operation on the deadlines that keeps to their keys. -/
theorem Sheds.of_deadlines (hconnections : r'.connections = r.connections)
    (hpending : r'.pendingReleases = r.pendingReleases)
    (hdeadlines : ∀ claim deadline, r'.leaseDeadlines.get? claim = some deadline →
      ∃ deadline', r.leaseDeadlines.get? claim = some deadline') : Sheds [] none r r' where
  shrinks p c h := by rwa [hconnections] at h
  linked h claim deadline hdeadline := by
    obtain ⟨deadline', hdeadline'⟩ := hdeadlines claim deadline hdeadline
    rw [hconnections]
    exact h claim deadline' hdeadline'
  kept claim h _ := by rwa [hpending]
  queued p c claim h hgone _ := absurd (hconnections ▸ h) hgone
  nodup h := by rwa [hpending]
  sourced claim h := .inl (by rwa [hpending] at h)

theorem Sheds.refl (r : RvaSessionRegistry) : Sheds [] none r r := .of_deadlines rfl rfl (fun _ d h => ⟨d, h⟩)

theorem queueLeaseRelease_sheds (r : RvaSessionRegistry) (auth : AuthContext) :
    Sheds [] auth.leaseClaim r (r.queueLeaseRelease auth) where
  shrinks p c h := h
  linked h := h
  kept claim h _ := mem_queueLeaseRelease.mpr (.inl h)
  queued p c claim h hgone _ := absurd h hgone
  nodup h := by
    rw [queueLeaseRelease]
    cases auth.leaseClaim with
    | none => exact h
    | some claim => exact nodup_queue h claim
  sourced claim h := (mem_queueLeaseRelease.mp h).imp_right .inl

theorem snapshotActiveLeaseReleases_sheds (r : RvaSessionRegistry) : Sheds [] none r r.snapshotActiveLeaseReleases where
  shrinks p c h := h
  linked h := h
  kept claim h _ := mem_queueAll.mpr (.inl h)
  queued p c claim h hgone _ := absurd h hgone
  nodup := nodup_foldl_queue
  sourced claim h := by
    obtain hold | ⟨c, hc, hclaim⟩ := mem_queueAll.mp h
    · exact .inl hold
    · obtain ⟨p, hp⟩ := (Dict.mem_values_iff _ _).mp hc
      exact .inr (.inr ⟨p, c, hp, hclaim⟩)

theorem acknowledgeLeaseReleases_sheds (r : RvaSessionRegistry) (releases : List LeaseRenewal) :
    Sheds releases none r (r.acknowledgeLeaseReleases releases) where
  shrinks p c h := h
  linked h := h
  kept claim h hnot := List.mem_filter.mpr ⟨h, by simpa using hnot⟩
  queued p c claim h hgone _ := absurd h hgone
  nodup h := h.filter _
  sourced claim h := .inl (List.mem_of_mem_filter h)

theorem extendLeaseDeadline_fields (expiresAt now : Time) (r : RvaSessionRegistry) (claim : LeaseRenewal) :
    (extendLeaseDeadline expiresAt now r claim).connections = r.connections ∧
      (extendLeaseDeadline expiresAt now r claim).pendingReleases = r.pendingReleases ∧
      ∀ claim', ((extendLeaseDeadline expiresAt now r claim).leaseDeadlines.get? claim').isSome =
        (r.leaseDeadlines.get? claim').isSome := by
  rw [extendLeaseDeadline]
  cases hdeadline : r.leaseDeadlines.get? claim with
  | none => exact ⟨rfl, rfl, fun _ => rfl⟩
  | some deadline =>
    simp only
    split
    · refine ⟨rfl, rfl, fun claim' => ?_⟩
      rw [Dict.get?_set]
      split
      · rename_i hsame
        rw [hsame, hdeadline]
        rfl
      · rfl
    · exact ⟨rfl, rfl, fun _ => rfl⟩

/-- Extending keeps the keys of the deadlines. -/
theorem extendLeaseDeadlines_fields (r : RvaSessionRegistry) (expiresAt : Time) (claims : List LeaseRenewal)
    (now : Time) : (r.extendLeaseDeadlines expiresAt claims now).connections = r.connections ∧
      (r.extendLeaseDeadlines expiresAt claims now).pendingReleases = r.pendingReleases ∧
      ∀ claim, ((r.extendLeaseDeadlines expiresAt claims now).leaseDeadlines.get? claim).isSome =
        (r.leaseDeadlines.get? claim).isSome := by
  induction claims generalizing r with
  | nil => exact ⟨rfl, rfl, fun _ => rfl⟩
  | cons claim claims ih =>
    obtain ⟨hconnections, hpending, hdeadlines⟩ := extendLeaseDeadline_fields expiresAt now r claim
    obtain ⟨hconnections', hpending', hdeadlines'⟩ := ih (extendLeaseDeadline expiresAt now r claim)
    exact ⟨hconnections'.trans hconnections, hpending'.trans hpending,
      fun claim' => (hdeadlines' claim').trans (hdeadlines claim')⟩

theorem extendLeaseDeadlines_sheds (r : RvaSessionRegistry) (expiresAt : Time) (claims : List LeaseRenewal)
    (now : Time) : Sheds [] none r (r.extendLeaseDeadlines expiresAt claims now) := by
  obtain ⟨hconnections, hpending, hdeadlines⟩ := extendLeaseDeadlines_fields r expiresAt claims now
  refine .of_deadlines hconnections hpending (fun claim deadline h => ?_)
  have hsome := hdeadlines claim
  rw [h] at hsome
  exact Option.isSome_iff_exists.mp hsome.symm

theorem removeClaims_get? (r : RvaSessionRegistry) (claims : List LeaseRenewal) (p : Principal) :
    (r.removeClaims claims).connections.get? p =
      (r.connections.get? p).filter (fun c => !c.leaseClaim.any (· ∈ claims)) :=
  Dict.get?_filter _ _ p

theorem removeClaims_sheds (r : RvaSessionRegistry) (claims : List LeaseRenewal) :
    Sheds [] none r (r.removeClaims claims) where
  shrinks p c h := by
    rw [removeClaims_get?, Option.filter_eq_some_iff] at h
    exact h.1
  linked h claim deadline hdeadline := by
    have hkept : (r.leaseDeadlines.filter (fun claim _ => claim ∉ claims)).get? claim = some deadline := hdeadline
    rw [Dict.get?_filter, Option.filter_eq_some_iff] at hkept
    obtain ⟨p, c, hc, hclaim⟩ := h claim deadline hkept.1
    refine ⟨p, c, ?_, hclaim⟩
    rw [removeClaims_get?, Option.filter_eq_some_iff, hclaim]
    exact ⟨hc, by simpa using hkept.2⟩
  kept claim h _ := mem_queueAll.mpr (.inl h)
  queued p c claim h hgone hclaim := by
    rw [removeClaims_get?] at hgone
    refine mem_queueAll.mpr (.inr ⟨c, ?_, hclaim⟩)
    rw [List.mem_filter]
    refine ⟨(Dict.mem_values_iff _ _).mpr ⟨p, h⟩, ?_⟩
    by_contra hnot
    rw [Bool.not_eq_true] at hnot
    apply hgone
    rw [Option.filter_eq_some_iff]
    exact ⟨h, by rw [hnot]; rfl⟩
  nodup := nodup_foldl_queue
  sourced claim h := by
    obtain hold | ⟨c, hc, hclaim⟩ := mem_queueAll.mp h
    · exact .inl hold
    · obtain ⟨p, hp⟩ := (Dict.mem_values_iff _ _).mp (List.mem_of_mem_filter hc)
      exact .inr (.inr ⟨p, c, hp, hclaim⟩)

theorem revokeLeaseClaims_sheds (r : RvaSessionRegistry) (claims : List LeaseRenewal) :
    Sheds [] none r (r.revokeLeaseClaims claims) := by
  rw [revokeLeaseClaims]
  split
  · exact .refl r
  · exact removeClaims_sheds r claims

theorem close_sheds (r : RvaSessionRegistry) : Sheds [] none r r.close := by
  rw [close]
  split
  · exact .of_deadlines rfl rfl (fun _ d h => ⟨d, h⟩)
  · exact .refl r

theorem closeOwner_sheds (r : RvaSessionRegistry) : Sheds [] none r r.closeOwner := by
  have hall := snapshotActiveLeaseReleases_sheds r
  rw [closeOwner]
  split
  · exact {
      shrinks := fun p c h => absurd h (by simp)
      linked := fun _ claim deadline h => absurd h (by simp)
      kept := hall.kept
      queued := fun p c claim h _ hclaim =>
        mem_queueAll.mpr (.inr ⟨c, (Dict.mem_values_iff _ _).mpr ⟨p, h⟩, hclaim⟩)
      nodup := hall.nodup
      sourced := hall.sourced }
  · exact .of_deadlines rfl rfl (fun _ d h => ⟨d, h⟩)
  · exact .refl r

theorem detachExpiryTaskIfIdle_fields (r : RvaSessionRegistry) :
    r.detachExpiryTaskIfIdle.1.connections = r.connections ∧
      r.detachExpiryTaskIfIdle.1.leaseDeadlines = r.leaseDeadlines ∧
      r.detachExpiryTaskIfIdle.1.pendingReleases = r.pendingReleases := by
  rw [detachExpiryTaskIfIdle]
  split <;> exact ⟨rfl, rfl, rfl⟩

theorem unregister_pendingReleases : (r.unregister c).1.pendingReleases = (r.queueLeaseRelease c.auth).pendingReleases :=
  (detachExpiryTaskIfIdle_fields _).2.2

theorem unregister_get? (p : Principal) : (r.unregister c).1.connections.get? p =
    if p = c.auth.principal ∧ (r.connections.get? p).any (fun current => current.handler = c.handler) then none
    else r.connections.get? p := by
  rw [unregister, (detachExpiryTaskIfIdle_fields _).1]
  change (if _ then _ else _ : Dict Principal Connection).get? p = _
  by_cases hp : p = c.auth.principal
  · subst hp
    simp only [true_and]
    split
    · exact Dict.get?_erase_self _ _
    · rfl
  · have hother : ¬(p = c.auth.principal ∧
        (r.connections.get? p).any (fun current => current.handler = c.handler)) := fun h => hp h.1
    rw [if_neg hother]
    split
    · exact Dict.get?_erase_ne _ hp
    · rfl

theorem unregister_deadline {deadline : Time} (h : (r.unregister c).1.leaseDeadlines.get? claim = some deadline) :
    c.leaseClaim ≠ some claim ∧ r.leaseDeadlines.get? claim = some deadline := by
  rw [unregister, (detachExpiryTaskIfIdle_fields _).2.1] at h
  change (c.leaseClaim.elim r.leaseDeadlines r.leaseDeadlines.erase).get? claim = some deadline at h
  cases hclaim : c.leaseClaim with
  | none =>
    rw [hclaim] at h
    exact ⟨by simp, h⟩
  | some claim' =>
    rw [hclaim] at h
    by_cases hsame : claim = claim'
    · subst hsame
      exact absurd h (by simp)
    · rw [Option.elim_some, Dict.get?_erase_ne _ hsame] at h
      exact ⟨fun h' => hsame (Option.some.inj h').symm, h⟩

/-- The teardown of a connection that is known under its own number only. -/
theorem unregister_sheds (hown : ∀ p current, r.connections.get? p = some current → current.handler = c.handler →
    current = c) : Sheds [] c.leaseClaim r (r.unregister c).1 where
  shrinks p current h := by
    rw [unregister_get?] at h
    split at h
    · exact absurd h (by simp)
    · exact h
  linked h claim deadline hdeadline := by
    obtain ⟨hother, hdeadline⟩ := unregister_deadline hdeadline
    obtain ⟨p, current, hcurrent, hclaim⟩ := h claim deadline hdeadline
    refine ⟨p, current, ?_, hclaim⟩
    rw [unregister_get?, if_neg, hcurrent]
    rintro ⟨-, hany⟩
    rw [hcurrent] at hany
    rw [hown p current hcurrent (by simpa using hany)] at hclaim
    exact hother hclaim
  kept claim h _ := by
    rw [unregister_pendingReleases]
    exact mem_queueLeaseRelease.mpr (.inl h)
  queued p current claim h hgone hclaim := by
    rw [unregister_get?] at hgone
    split at hgone
    · rename_i hremoved
      rw [h] at hremoved
      rw [hown p current h (by simpa using hremoved.2)] at hclaim
      rw [unregister_pendingReleases]
      exact mem_queueLeaseRelease.mpr (.inr hclaim)
    · exact absurd h hgone
  nodup h := by
    rw [unregister_pendingReleases]
    exact (queueLeaseRelease_sheds r c.auth).nodup h
  sourced claim h := by
    rw [unregister_pendingReleases] at h
    exact (mem_queueLeaseRelease.mp h).imp_right .inl

theorem register_get? (p : Principal) : (r.register c).connections.get? p =
    if p = c.auth.principal then some c else r.connections.get? p := by
  rw [← Dict.get?_set, register]
  split
  · rw [startExpiryEnforcement]
    split <;> rfl
  · rfl

theorem register_pendingReleases : (r.register c).pendingReleases = r.pendingReleases := by
  rw [register]
  split
  · rw [startExpiryEnforcement]
    split <;> rfl
  · rfl

theorem register_deadline {deadline : Time} (h : (r.register c).leaseDeadlines.get? claim = some deadline) :
    c.leaseClaim = some claim ∨ r.leaseDeadlines.get? claim = some deadline := by
  have hset : ∀ {claim' expiresAt}, c.leaseClaim = some claim' →
      (r.leaseDeadlines.set claim' expiresAt).get? claim = some deadline →
      c.leaseClaim = some claim ∨ r.leaseDeadlines.get? claim = some deadline := by
    intro claim' expiresAt hclaim h
    rw [Dict.get?_set] at h
    split at h
    · rename_i hsame
      exact .inl (hsame ▸ hclaim)
    · exact .inr h
  rw [register] at h
  split at h
  · rename_i hclaim _
    rw [startExpiryEnforcement] at h
    split at h <;> exact hset hclaim h
  · exact .inr h

/-- A connection whose principal is not registered yet brings its own deadline. -/
theorem register_linked (h : r.Linked) (hfree : r.connections.get? c.auth.principal = none) :
    (r.register c).Linked := by
  intro claim deadline hdeadline
  obtain hclaim | hold := register_deadline hdeadline
  · exact ⟨c.auth.principal, c, by rw [register_get?, if_pos rfl], hclaim⟩
  · obtain ⟨p, current, hcurrent, hclaim⟩ := h claim deadline hold
    refine ⟨p, current, ?_, hclaim⟩
    rw [register_get?, if_neg, hcurrent]
    rintro rfl
    rw [hfree] at hcurrent
    exact absurd hcurrent (by simp)

end RvaSessionRegistry

end RealtimeVoice.Worker
