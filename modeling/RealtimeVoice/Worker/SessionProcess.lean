import RealtimeVoice.Worker.SessionInvariant

namespace RealtimeVoice.Worker

open RealtimeVoice.Base RealtimeVoice.Base.Runs RealtimeVoice.Contracts

namespace Stage

def token : Stage → Option Nat
  | .entering | .admitting => none
  | .holding token _ => some token
  | .leaving token | .finished token => token

def holds : Stage → Bool
  | .holding _ _ => true
  | _ => false

/-- The stages of a call whose connection the registry may have. -/
def connects : Stage → Bool
  | .holding _ .running | .holding _ .closing | .holding _ .removing | .finished _ => true
  | _ => false

theorem token_of_holds {st : Stage} (h : st.holds = true) : ∃ token point, st = .holding token point := by
  cases st with
  | holding token point => exact ⟨token, point, rfl⟩
  | _ => simp [holds] at h

end Stage

namespace Process

variable {a a' : SharedSessionAdmission} {r r' : RvaSessionRegistry} {c : Connection} {st st' : Stage}

/-- What a call of `rva_voice` can do between two awaits. -/
inductive Moved (a : SharedSessionAdmission) (r : RvaSessionRegistry) (c : Connection) :
    Stage → SharedSessionAdmission × RvaSessionRegistry × Stage → Prop
  | wait {st st' : Stage} : st'.token = st.token → (st'.holds → st.holds) → (st.connects → st'.connects) →
      Moved a r c st (a, r, st')
  | queue {token : Nat} {point point' : Point} : (Stage.holding token point).connects = false →
      Moved a r c (.holding token point) (a, r.queueLeaseRelease c.auth, .holding token point')
  | reserve {token : Nat} : (a.reserve c.auth.principal).2 = some token →
      Moved a r c .admitting ((a.reserve c.auth.principal).1, r, .holding token .transferring)
  | release {token : Nat} {point : Point} {st' : Stage} : (Stage.holding token point).connects = false →
      st'.token = some token → st'.holds = false → Moved a r c (.holding token point) (a.release token, r, st')
  | register {token : Nat} : Moved a r c (.holding token .starting) (a, r.register c, .holding token .running)
  | unregister {token : Nat} {point : Point} :
      Moved a r c (.holding token .removing) (a, (r.unregister c).1, .holding token point)

theorem proceed_moved (a : SharedSessionAdmission) (r : RvaSessionRegistry) (c : Connection) (st : Stage)
    (outcome : Outcome) : Moved a r c st (proceed a r c st outcome) := by
  cases st with
  | entering =>
    cases outcome with
    | returned value => exact .wait (by split <;> rfl) (by split <;> simp [Stage.holds]) (by simp [Stage.connects])
    | raised => exact .wait rfl (by simp [Stage.holds]) (by simp [Stage.connects])
    | cancelled => exact .wait rfl (by simp [Stage.holds]) (by simp [Stage.connects])
  | admitting =>
    cases outcome with
    | returned value =>
      rw [proceed]
      cases hreserve : (a.reserve c.auth.principal).2 with
      | none =>
        rw [SharedSessionAdmission.reserve_none hreserve]
        exact .wait rfl (by simp [Stage.holds]) (by simp [Stage.connects])
      | some token => exact .reserve hreserve
    | raised => exact .wait rfl (by simp [Stage.holds]) (by simp [Stage.connects])
    | cancelled => exact .wait rfl (by simp [Stage.holds]) (by simp [Stage.connects])
  | holding token point =>
    have hstay : ∀ {point' : Point}, (Stage.holding token point).connects = false →
        Moved a r c (.holding token point) (a, r, .holding token point') :=
      fun hfree => .wait rfl id (by simp [hfree])
    have hconnected : ∀ {point' : Point}, (Stage.holding token point').connects = true →
        Moved a r c (.holding token point) (a, r, .holding token point') :=
      fun hkept => .wait rfl id (fun _ => hkept)
    have hleak : Moved a r c (.holding token point) (a, r, .finished token) :=
      .wait rfl (by simp [Stage.holds]) (fun _ => rfl)
    have hrelease : ∀ b : Bool, (Stage.holding token point).connects = false →
        Moved a r c (.holding token point) (a.release token, r, if b then .finished token else .leaving token) :=
      fun b hfree => .release hfree (by cases b <;> rfl) (by cases b <;> rfl)
    have hreleased : ∀ b : Bool, (Stage.holding token point).connects = false →
        Moved a r c (.holding token point) (a.release token, r, if b then .leaving token else .finished token) :=
      fun b hfree => .release hfree (by cases b <;> rfl) (by cases b <;> rfl)
    cases point with
    | transferring => cases outcome <;> exact hstay rfl
    | returning raises =>
      cases outcome with
      | returned value => exact hrelease raises rfl
      | raised => exact hstay rfl
      | cancelled => exact hstay rfl
    | consuming => cases outcome <;> exact hstay rfl
    | accepting => cases outcome <;> exact hstay rfl
    | aborting =>
      cases outcome with
      | returned value => exact .queue rfl
      | raised => exact hleak
      | cancelled => exact hleak
    | starting =>
      cases outcome with
      | returned value =>
        rw [proceed]
        split
        · exact .queue rfl
        · exact .register
      | raised => exact hstay rfl
      | cancelled => exact hstay rfl
    | running => cases outcome <;> exact hconnected rfl
    | closing => cases outcome <;> exact hconnected rfl
    | removing =>
      cases outcome with
      | returned value => exact .unregister
      | raised => exact hleak
      | cancelled => exact hleak
    | expiring =>
      cases outcome with
      | returned value => exact hstay rfl
      | raised => exact hleak
      | cancelled => exact hleak
    | releasing rejects =>
      cases outcome with
      | returned value => exact hreleased rejects rfl
      | raised => exact hleak
      | cancelled => exact hleak
  | leaving token => cases outcome <;> exact .wait rfl (by simp [Stage.holds]) (by simp [Stage.connects])
  | finished token => cases outcome <;> exact .wait rfl id id

/-- The tokens of the calls: each was drawn for one call, a call that holds its token
has its principal reserved, and nobody else has. -/
structure Tokens (a : SharedSessionAdmission) (handlers : List Handler) : Prop where
  consistent : a.Consistent
  drawn : ∀ (i : Nat) (h : Handler) token, handlers[i]? = some h → h.stage.token = some token → token < a.drawn
  distinct : ∀ (i j : Nat) (h h' : Handler) token, handlers[i]? = some h → handlers[j]? = some h' → h.stage.token = some token →
    h'.stage.token = some token → i = j
  reserved : ∀ (i : Nat) (h : Handler) token point, handlers[i]? = some h → h.stage = .holding token point →
    a.reservations.get? token = some h.auth.principal
  owned : ∀ token p, a.reservations.get? token = some p →
    ∃ i : Nat, ∃ h : Handler, handlers[i]? = some h ∧ h.stage.token = some token ∧ h.auth.principal = p

/-- The registry as the calls know it. -/
structure Registered (a : SharedSessionAdmission) (r : RvaSessionRegistry) (handlers : List Handler) : Prop where
  connected : ∀ p c, r.connections.get? p = some c → c.auth.principal = p ∧
    ∃ h : Handler, ∃ token, handlers[c.handler]? = some h ∧ h.auth = c.auth ∧ h.stage.connects = true ∧
      h.stage.token = some token ∧ a.reservations.get? token = some p
  linked : r.Linked
  nodup : r.pendingReleases.Nodup
  sourced : ∀ claim ∈ r.pendingReleases, ∃ h ∈ handlers, h.auth.leaseClaim = some claim

variable {handlers : List Handler} {i : Nat} {h : Handler}

theorem set_get? (hi : handlers[i]? = some h) (h' : Handler) (j : Nat) :
    (handlers.set i h')[j]? = if j = i then some h' else handlers[j]? := by
  rw [List.getElem?_set]
  by_cases hji : j = i
  · subst hji
    have hlt : j < handlers.length := (List.getElem?_eq_some_iff.mp hi).1
    simp [hlt]
  · rw [if_neg (Ne.symm hji), if_neg hji]

/-- A call that keeps its token, and holds it only if it did. -/
theorem Tokens.wait (ht : Tokens a handlers) (hi : handlers[i]? = some h) (htoken : st'.token = h.stage.token)
    (hholds : st'.holds → h.stage.holds) : Tokens a (handlers.set i { h with stage := st' }) := by
  have hold : ∀ {j : Nat} {k : Handler}, (handlers.set i { h with stage := st' })[j]? = some k →
      ∃ k' : Handler, handlers[j]? = some k' ∧ k'.auth = k.auth ∧ k'.stage.token = k.stage.token ∧
        (k.stage.holds → k'.stage.holds) := by
    intro j k hk
    rw [set_get? hi] at hk
    split at hk
    · rename_i hji
      obtain rfl := Option.some.inj hk
      exact ⟨h, hji ▸ hi, rfl, htoken.symm, hholds⟩
    · exact ⟨k, hk, rfl, rfl, id⟩
  constructor
  · exact ht.consistent
  · intro j k token hk hkt
    obtain ⟨k', hk', -, htk, -⟩ := hold hk
    exact ht.drawn j k' token hk' (htk.trans hkt)
  · intro j j' k k' token hk hk' hkt hkt'
    obtain ⟨l, hl, -, hlt, -⟩ := hold hk
    obtain ⟨l', hl', -, hlt', -⟩ := hold hk'
    exact ht.distinct j j' l l' token hl hl' (hlt.trans hkt) (hlt'.trans hkt')
  · intro j k token point hk hkst
    obtain ⟨k', hk', hauth, htk, hkholds⟩ := hold hk
    obtain ⟨token', point', hst⟩ := Stage.token_of_holds (hkholds (by rw [hkst]; rfl))
    have hsame : some token' = some token := by simpa [hst, hkst, Stage.token] using htk
    obtain rfl := Option.some.inj hsame
    rw [← hauth]
    exact ht.reserved j k' token' point' hk' hst
  · intro token p hp
    obtain ⟨j, k, hk, hkt, hkp⟩ := ht.owned token p hp
    by_cases hji : j = i
    · subst hji
      obtain rfl := Option.some.inj (hk.symm.trans hi)
      exact ⟨j, { k with stage := st' }, by rw [set_get? hi, if_pos rfl], htoken.trans hkt, hkp⟩
    · exact ⟨j, k, by rw [set_get? hi, if_neg hji, hk], hkt, hkp⟩

theorem Tokens.reserve (ht : Tokens a handlers) (hi : handlers[i]? = some h) (hst : h.stage = .admitting) {token : Nat}
    (hsome : (a.reserve h.auth.principal).2 = some token) :
    Tokens (a.reserve h.auth.principal).1 (handlers.set i { h with stage := .holding token .transferring }) := by
  have hget := SharedSessionAdmission.reserve_get? hsome
  have hconsistent := ht.consistent.reserve hsome
  obtain ⟨rfl, -, -, hstate⟩ := SharedSessionAdmission.reserve_some hsome
  have hdrawn : (a.reserve h.auth.principal).1.drawn = a.drawn + 1 := by rw [hstate]
  have hother : ∀ {j : Nat} {k : Handler} {token}, handlers[j]? = some k → k.stage.token = some token → token ≠ a.drawn :=
    fun hk hkt => Nat.ne_of_lt (ht.drawn _ _ _ hk hkt)
  constructor
  · exact hconsistent
  · intro j k token hk hkt
    rw [hdrawn]
    rw [set_get? hi] at hk
    split at hk
    · obtain rfl := Option.some.inj hk
      have hsame : a.drawn = token := Option.some.inj hkt
      omega
    · exact Nat.lt_succ_of_lt (ht.drawn j k token hk hkt)
  · intro j j' k k' token hk hk' hkt hkt'
    rw [set_get? hi] at hk hk'
    split at hk <;> split at hk'
    · omega
    · obtain rfl := Option.some.inj hk
      exact absurd (Option.some.inj hkt).symm (hother hk' hkt')
    · obtain rfl := Option.some.inj hk'
      exact absurd (Option.some.inj hkt').symm (hother hk hkt)
    · exact ht.distinct j j' k k' token hk hk' hkt hkt'
  · intro j k token point hk hkst
    rw [hget]
    rw [set_get? hi] at hk
    split at hk
    · obtain rfl := Option.some.inj hk
      injection hkst with htoken
      rw [if_pos htoken.symm]
    · rw [if_neg (hother hk (by rw [hkst]; rfl))]
      exact ht.reserved j k token point hk hkst
  · intro token p hp
    rw [hget] at hp
    split at hp
    · rename_i htoken
      refine ⟨i, { h with stage := .holding a.drawn .transferring }, ?_, ?_, Option.some.inj hp⟩
      · rw [set_get? hi, if_pos rfl]
      · rw [htoken]
        rfl
    · obtain ⟨j, k, hk, hkt, hkp⟩ := ht.owned token p hp
      have hji : j ≠ i := by
        rintro rfl
        obtain rfl := Option.some.inj (hk.symm.trans hi)
        rw [hst] at hkt
        exact absurd hkt (by simp [Stage.token])
      exact ⟨j, k, by rw [set_get? hi, if_neg hji, hk], hkt, hkp⟩

/-- A release touches the reservation of the call that makes it and no other. -/
theorem Tokens.release_other (ht : Tokens a handlers) (hi : handlers[i]? = some h) {token token' : Nat} {j : Nat}
    {k : Handler} (htoken : h.stage.token = some token) (hk : handlers[j]? = some k) (hji : j ≠ i)
    (hkt : k.stage.token = some token') :
    (a.release token).reservations.get? token' = a.reservations.get? token' := by
  rw [SharedSessionAdmission.release_get?, if_neg]
  rintro rfl
  exact hji (ht.distinct j i k h token' hk hi hkt htoken)

theorem Tokens.release (ht : Tokens a handlers) (hi : handlers[i]? = some h) {token : Nat} {point : Point}
    (hst : h.stage = .holding token point) (htoken : st'.token = some token) (hholds : st'.holds = false) :
    Tokens (a.release token) (handlers.set i { h with stage := st' }) := by
  have htoken' : h.stage.token = some token := by rw [hst]; rfl
  have hwait := ht.wait hi (htoken.trans htoken'.symm) (by simp [hholds])
  constructor
  · exact ht.consistent.release token
  · intro j k token' hk hkt
    rw [SharedSessionAdmission.release_drawn]
    exact hwait.drawn j k token' hk hkt
  · exact hwait.distinct
  · intro j k token' point' hk hkst
    have hreserved := hwait.reserved j k token' point' hk hkst
    rw [set_get? hi] at hk
    split at hk
    · obtain rfl := Option.some.inj hk
      rw [show st' = .holding token' point' from hkst] at hholds
      exact absurd hholds (by simp [Stage.holds])
    · rename_i hji
      rwa [ht.release_other hi htoken' hk hji (by rw [hkst]; rfl)]
  · intro token' p hp
    rw [SharedSessionAdmission.release_get?] at hp
    split at hp
    · exact absurd hp (by simp)
    · exact hwait.owned token' p hp

/-- One operation of a call keeps the tokens in order. -/
theorem Tokens.moved (ht : Tokens a handlers) (hi : handlers[i]? = some h)
    (hm : Moved a r ⟨i, h.auth⟩ h.stage (a', r', st')) : Tokens a' (handlers.set i { h with stage := st' }) := by
  generalize hst : h.stage = st at hm
  cases hm with
  | wait htoken hholds hconnects => exact ht.wait hi (htoken.trans (by rw [hst])) (by rwa [hst])
  | queue hfree => exact ht.wait hi (by rw [hst]; rfl) (by simp [hst, Stage.holds])
  | reserve hsome => exact ht.reserve hi hst hsome
  | release hfree htoken hholds => exact ht.release hi hst htoken hholds
  | register => exact ht.wait hi (by rw [hst]; rfl) (by simp [hst, Stage.holds])
  | unregister => exact ht.wait hi (by rw [hst]; rfl) (by simp [hst, Stage.holds])

theorem Tokens.arrive (ht : Tokens a handlers) (auth : AuthContext) : Tokens a (handlers ++ [{ auth := auth }]) := by
  have hold : ∀ {j : Nat} {k : Handler} {token : Nat}, (handlers ++ [{ auth := auth }])[j]? = some k →
      k.stage.token = some token → handlers[j]? = some k := by
    intro j k token hk hkt
    rw [List.getElem?_append] at hk
    split at hk
    · exact hk
    · rw [List.getElem?_singleton] at hk
      split at hk
      · obtain rfl := Option.some.inj hk
        exact absurd hkt (by simp [Stage.token])
      · exact absurd hk (by simp)
  constructor
  · exact ht.consistent
  · exact fun j k token hk hkt => ht.drawn j k token (hold hk hkt) hkt
  · exact fun j j' k k' token hk hk' hkt hkt' => ht.distinct j j' k k' token (hold hk hkt) (hold hk' hkt') hkt hkt'
  · intro j k token point hk hkst
    have hkt : k.stage.token = some token := by
      rw [hkst]
      rfl
    exact ht.reserved j k token point (hold hk hkt) hkst
  · intro token p hp
    obtain ⟨j, k, hk, hkt, hkp⟩ := ht.owned token p hp
    have hlt : j < handlers.length := (List.getElem?_eq_some_iff.mp hk).1
    exact ⟨j, k, by rw [List.getElem?_append_left hlt, hk], hkt, hkp⟩

theorem Tokens.setDraining (ht : Tokens a handlers) (value : Bool) : Tokens (a.setDraining value) handlers :=
  ⟨ht.consistent.setDraining value, ht.drawn, ht.distinct, ht.reserved, ht.owned⟩

/-- An operation that keeps the call of every connection that it leaves. -/
theorem Registered.keep {handlers' : List Handler} {acked : List LeaseRenewal} {own : Option LeaseRenewal}
    (hr : Registered a r handlers) (hsheds : r.Sheds acked own r')
    (hsame : ∀ p c h token, r'.connections.get? p = some c → handlers[c.handler]? = some h →
      h.stage.connects = true → h.stage.token = some token → a.reservations.get? token = some p →
      ∃ h' : Handler, handlers'[c.handler]? = some h' ∧ h'.auth = h.auth ∧ h'.stage.connects = true ∧
        h'.stage.token = some token ∧ a'.reservations.get? token = some p)
    (hauths : ∀ h ∈ handlers, ∃ h' ∈ handlers', h'.auth = h.auth)
    (hown : ∀ claim, own = some claim → ∃ h ∈ handlers', h.auth.leaseClaim = some claim) :
    Registered a' r' handlers' := by
  constructor
  · intro p c hc
    obtain ⟨hp, h, token, hh, hauth, hconnects, htoken, hreserved⟩ := hr.connected p c (hsheds.shrinks p c hc)
    obtain ⟨h', hh', hauth', hconnects', htoken', hreserved'⟩ := hsame p c h token hc hh hconnects htoken hreserved
    exact ⟨hp, h', token, hh', hauth'.trans hauth, hconnects', htoken', hreserved'⟩
  · exact hsheds.linked hr.linked
  · exact hsheds.nodup hr.nodup
  · intro claim hclaim
    obtain hold | hnew | ⟨p, c, hc, hcclaim⟩ := hsheds.sourced claim hclaim
    · obtain ⟨h, hh, hhclaim⟩ := hr.sourced claim hold
      obtain ⟨h', hh', hauth⟩ := hauths h hh
      exact ⟨h', hh', hauth ▸ hhclaim⟩
    · exact hown claim hnew
    · obtain ⟨-, h, token, hh, hauth, -⟩ := hr.connected p c hc
      obtain ⟨h', hh', hauth'⟩ := hauths h (List.mem_of_getElem? hh)
      refine ⟨h', hh', ?_⟩
      rw [hauth', hauth]
      exact hcclaim

theorem auths_set (hi : handlers[i]? = some h) (st' : Stage) {k : Handler} (hk : k ∈ handlers) :
    ∃ k' ∈ handlers.set i { h with stage := st' }, k'.auth = k.auth := by
  obtain ⟨j, hj⟩ := List.mem_iff_getElem?.mp hk
  by_cases hji : j = i
  · subst hji
    obtain rfl := Option.some.inj (hj.symm.trans hi)
    refine ⟨{ k with stage := st' }, List.mem_of_getElem? (i := j) ?_, rfl⟩
    rw [set_get? hi, if_pos rfl]
  · refine ⟨k, List.mem_of_getElem? (i := j) ?_, rfl⟩
    rw [set_get? hi, if_neg hji, hj]

/-- No connection of the principal is left when a call of it holds its token outside
of `connection.run` and its teardown. -/
theorem Registered.free (hr : Registered a r handlers) (ht : Tokens a handlers) (hi : handlers[i]? = some h)
    {token : Nat} {point : Point} (hst : h.stage = .holding token point)
    (hfree : (Stage.holding token point).connects = false) : r.connections.get? h.auth.principal = none := by
  by_contra hsome
  obtain ⟨c, hc⟩ := Option.ne_none_iff_exists'.mp hsome
  obtain ⟨-, k, token', hk, -, hconnects, hktoken, hreserved⟩ := hr.connected _ c hc
  have hmine := ht.reserved i h token point hi hst
  obtain rfl := ht.consistent.unique _ _ _ hreserved hmine
  have hsame := ht.distinct _ _ _ _ _ hk hi hktoken (by rw [hst]; rfl)
  rw [hsame] at hk
  obtain rfl := Option.some.inj (hk.symm.trans hi)
  rw [hst, hfree] at hconnects
  exact absurd hconnects (by simp)

/-- A connection under the number of a call is the connection of that call. -/
theorem Registered.own (hr : Registered a r handlers) (hi : handlers[i]? = some h) (p : Principal)
    (current : Connection) (hcurrent : r.connections.get? p = some current) (hji : current.handler = i) :
    current = ⟨i, h.auth⟩ := by
  obtain ⟨-, k, -, hk, hauth, -⟩ := hr.connected p current hcurrent
  obtain ⟨handler, auth⟩ := current
  obtain rfl : handler = i := hji
  obtain rfl := Option.some.inj (hk.symm.trans hi)
  rw [hauth]

theorem Registered.moved (hr : Registered a r handlers) (ht : Tokens a handlers) (hi : handlers[i]? = some h)
    (hm : Moved a r ⟨i, h.auth⟩ h.stage (a', r', st')) :
    Registered a' r' (handlers.set i { h with stage := st' }) := by
  have hmine : { h with stage := st' } ∈ handlers.set i { h with stage := st' } := by
    refine List.mem_of_getElem? (i := i) ?_
    rw [set_get? hi, if_pos rfl]
  have hauths := fun k hk => auths_set hi st' (k := k) hk
  have hthis : ∀ {j : Nat} {k : Handler}, j = i → handlers[j]? = some k → k = h :=
    fun hji hk => Option.some.inj ((hji ▸ hk).symm.trans hi)
  generalize hst : h.stage = st at hm
  cases hm with
  | wait htoken hholds hconnects =>
    refine hr.keep (.refl r) (fun p c k token hc hk hkc hkt hreserved => ?_) hauths (by simp)
    by_cases hji : c.handler = i
    · obtain rfl := hthis hji hk
      refine ⟨{ k with stage := st' }, by rw [set_get? hi, if_pos hji], rfl, ?_, ?_, hreserved⟩
      · exact hconnects (hst ▸ hkc)
      · exact htoken.trans (hst ▸ hkt)
    · exact ⟨k, by rw [set_get? hi, if_neg hji, hk], rfl, hkc, hkt, hreserved⟩
  | queue hfree =>
    refine hr.keep (r.queueLeaseRelease_sheds h.auth) (fun p c k token hc hk hkc hkt hreserved => ?_) hauths
      (fun claim hclaim => ⟨_, hmine, hclaim⟩)
    by_cases hji : c.handler = i
    · rw [hthis hji hk, hst, hfree] at hkc
      exact absurd hkc (by simp)
    · exact ⟨k, by rw [set_get? hi, if_neg hji, hk], rfl, hkc, hkt, hreserved⟩
  | reserve hsome =>
    refine hr.keep (.refl r) (fun p c k token hc hk hkc hkt hreserved => ?_) hauths (by simp)
    by_cases hji : c.handler = i
    · rw [hthis hji hk, hst] at hkc
      exact absurd hkc (by simp [Stage.connects])
    · refine ⟨k, by rw [set_get? hi, if_neg hji, hk], rfl, hkc, hkt, ?_⟩
      obtain ⟨rfl, -⟩ := SharedSessionAdmission.reserve_some hsome
      rw [SharedSessionAdmission.reserve_get? hsome, if_neg (Nat.ne_of_lt (ht.drawn _ _ _ hk hkt))]
      exact hreserved
  | release hfree htoken hholds =>
    refine hr.keep (.refl r) (fun p c k token hc hk hkc hkt hreserved => ?_) hauths (by simp)
    by_cases hji : c.handler = i
    · rw [hthis hji hk, hst, hfree] at hkc
      exact absurd hkc (by simp)
    · refine ⟨k, by rw [set_get? hi, if_neg hji, hk], rfl, hkc, hkt, ?_⟩
      rwa [ht.release_other hi (by rw [hst]; rfl) hk hji hkt]
  | @register token =>
    have hfree := hr.free ht hi hst rfl
    constructor
    · intro p c hc
      rw [RvaSessionRegistry.register_get?] at hc
      split at hc
      · rename_i hp
        obtain rfl := Option.some.inj hc
        refine ⟨hp.symm, { h with stage := .holding token .running }, token, ?_, rfl, rfl, rfl, ?_⟩
        · rw [set_get? hi, if_pos rfl]
        · rw [hp]
          exact ht.reserved i h token .starting hi hst
      · obtain ⟨hp, k, token', hk, hauth, hkc, hkt, hreserved⟩ := hr.connected p c hc
        refine ⟨hp, k, token', ?_, hauth, hkc, hkt, hreserved⟩
        rw [set_get? hi, if_neg, hk]
        intro hji
        rw [hthis hji hk, hst] at hkc
        exact absurd hkc (by simp [Stage.connects])
    · exact RvaSessionRegistry.register_linked hr.linked hfree
    · rw [RvaSessionRegistry.register_pendingReleases]
      exact hr.nodup
    · intro claim hclaim
      rw [RvaSessionRegistry.register_pendingReleases] at hclaim
      obtain ⟨k, hk, hkclaim⟩ := hr.sourced claim hclaim
      obtain ⟨k', hk', hauth⟩ := hauths k hk
      exact ⟨k', hk', hauth ▸ hkclaim⟩
  | unregister =>
    refine hr.keep (RvaSessionRegistry.unregister_sheds (hr.own hi)) (fun p c k token hc hk hkc hkt hreserved => ?_) hauths
      (fun claim hclaim => ⟨_, hmine, hclaim⟩)
    by_cases hji : c.handler = i
    · rw [RvaSessionRegistry.unregister_get?] at hc
      split at hc
      · exact absurd hc (by simp)
      · rename_i hstays
        have hc' := hr.own hi p c hc hji
        have hp := (hr.connected p c hc).1
        subst hc'
        exact absurd ⟨hp.symm, by simp [hc]⟩ hstays
    · exact ⟨k, by rw [set_get? hi, if_neg hji, hk], rfl, hkc, hkt, hreserved⟩

end Process

end RealtimeVoice.Worker
