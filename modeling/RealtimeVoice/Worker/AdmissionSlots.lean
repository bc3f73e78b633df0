import RealtimeVoice.Worker.SessionRuns

namespace RealtimeVoice.Worker

open RealtimeVoice.Base RealtimeVoice.Base.Runs RealtimeVoice.Contracts

/-- The awaits between a call and the release of its token that nothing shields. -/
def Point.cleanup : Point → Bool
  | .aborting | .removing | .expiring | .releasing _ => true
  | _ => false

namespace Process

/-- A call is thrown out of its cleanup. -/
def disturbs (i : Nat) : Call × Option Stage → Bool
  | (.resume j outcome, some (.holding _ point)) => j = i && point.cleanup && outcome.escapes
  | _ => false

def Undisturbed (i : Nat) (es : List (Call × Option Stage)) : Prop := ∀ e ∈ es, disturbs i e = false

instance (i : Nat) (es : List (Call × Option Stage)) : Decidable (Undisturbed i es) :=
  inferInstanceAs (Decidable (∀ e ∈ es, disturbs i e = false))

variable {s t : Process} {e : Call × Option Stage} {es : List (Call × Option Stage)} {i : Nat} {h : Handler}
  {maxSessions : Nat} {a : SharedSessionAdmission} {r : RvaSessionRegistry} {c : Connection} {st : Stage}
  {outcome : Outcome} {token : Nat}

theorem undisturbed_snoc : Undisturbed i (es ++ [e]) ↔ Undisturbed i es ∧ disturbs i e = false := by
  rw [Undisturbed, List.forall_mem_append, List.forall_mem_singleton]
  rfl

theorem proceed_disturbed {point : Point} (hpoint : point.cleanup = true) (hescapes : outcome.escapes = true) :
    proceed a r c (.holding token point) outcome = (a, r, .finished token) := by
  cases point <;> simp [Point.cleanup] at hpoint <;> cases outcome <;> simp [Outcome.escapes] at hescapes <;> rfl

/-- The ways a call comes to be past its token. -/
theorem proceed_ended (htoken : (proceed a r c st outcome).2.2.token = some token)
    (hholds : (proceed a r c st outcome).2.2.holds = false) :
    (∃ point, st = .holding token point ∧ (proceed a r c st outcome).1 = a.release token ∧
      (point.cleanup && outcome.escapes) = false) ∨
    (∃ point, st = .holding token point ∧ (proceed a r c st outcome).1 = a ∧
      (point.cleanup && outcome.escapes) = true ∧ (proceed a r c st outcome).2.2 = .finished token) ∨
    (st.holds = false ∧ st.token = some token ∧ (proceed a r c st outcome).1 = a) := by
  cases st with
  | entering =>
    cases outcome with
    | returned value =>
      simp only [proceed] at htoken
      split at htoken <;> exact absurd htoken (by simp [Stage.token])
    | raised => exact absurd htoken (by simp [proceed, Stage.token])
    | cancelled => exact absurd htoken (by simp [proceed, Stage.token])
  | admitting =>
    cases outcome with
    | returned value =>
      simp only [proceed] at htoken hholds
      cases hreserve : (a.reserve c.auth.principal).2 with
      | none =>
        rw [hreserve] at htoken
        exact absurd htoken (by simp [Stage.token])
      | some token' =>
        rw [hreserve] at hholds
        exact absurd hholds (by simp [Stage.holds])
    | raised => exact absurd htoken (by simp [proceed, Stage.token])
    | cancelled => exact absurd htoken (by simp [proceed, Stage.token])
  | holding token' point =>
    obtain rfl : token' = token := by
      have hmoved := proceed_moved a r c (.holding token' point) outcome
      generalize proceed a r c (.holding token' point) outcome = result at hmoved htoken
      cases hmoved with
      | wait hsame => exact Option.some.inj (hsame.symm.trans htoken)
      | release _ hsame => exact Option.some.inj (hsame.symm.trans htoken)
      | _ => exact Option.some.inj htoken
    by_cases hdisturbed : (point.cleanup && outcome.escapes) = true
    · have hboth := hdisturbed
      rw [Bool.and_eq_true] at hboth
      refine .inr (.inl ⟨point, rfl, ?_, hdisturbed, ?_⟩) <;> rw [proceed_disturbed hboth.1 hboth.2]
    · refine .inl ⟨point, rfl, ?_, by simpa using hdisturbed⟩
      cases point with
      | returning raises =>
        cases outcome with
        | returned value => rfl
        | raised => exact absurd hholds (by simp [proceed, Stage.holds])
        | cancelled => exact absurd hholds (by simp [proceed, Stage.holds])
      | releasing rejects =>
        cases outcome with
        | returned value => rfl
        | raised => exact absurd rfl hdisturbed
        | cancelled => exact absurd rfl hdisturbed
      | starting =>
        cases outcome with
        | returned value =>
          simp only [proceed] at hholds
          split at hholds <;> exact absurd hholds (by simp [Stage.holds])
        | raised => exact absurd hholds (by simp [proceed, Stage.holds])
        | cancelled => exact absurd hholds (by simp [proceed, Stage.holds])
      | _ =>
        cases outcome with
        | returned value => exact absurd hholds (by simp [proceed, Stage.holds])
        | _ => first
          | exact absurd rfl hdisturbed
          | exact absurd hholds (by simp [proceed, Stage.holds])
  | leaving token' =>
    refine .inr (.inr ⟨rfl, ?_, ?_⟩) <;> cases outcome <;> first | exact htoken | rfl
  | finished token' =>
    refine .inr (.inr ⟨rfl, ?_, ?_⟩) <;> cases outcome <;> first | exact htoken | rfl

/-- A call touches no reservation but its own. -/
theorem Tokens.others {a' : SharedSessionAdmission} {r' : RvaSessionRegistry} {st' : Stage} {handlers : List Handler}
    (ht : Tokens a handlers) (hi : handlers[i]? = some h) (hm : Moved a r ⟨i, h.auth⟩ h.stage (a', r', st')) {j : Nat}
    {k : Handler} (hji : j ≠ i) (hk : handlers[j]? = some k) (hkt : k.stage.token = some token) :
    a'.reservations.get? token = a.reservations.get? token := by
  generalize hst : h.stage = st at hm
  cases hm with
  | reserve hsome =>
    obtain ⟨rfl, -⟩ := SharedSessionAdmission.reserve_some hsome
    rw [SharedSessionAdmission.reserve_get? hsome, if_neg (Nat.ne_of_lt (ht.drawn _ _ _ hk hkt))]
  | release => exact ht.release_other hi (by rw [hst]; rfl) hk hji hkt
  | _ => rfl

theorem step_spares (hs : Sound s) (he : Step s e t) (hi : e.1 = .resume i outcome) {j : Nat} {k : Handler}
    (hji : j ≠ i) (hk : s.handlers[j]? = some k) (hkt : k.stage.token = some token) :
    t.admission.reservations.get? token = s.admission.reservations.get? token := by
  obtain ⟨i', x, outcome', st', rfl, hx, hmoved, -⟩ | hshared := step_cases he
  · injection hi with hsame
    exact hs.tokens.others hx hmoved (hsame ▸ hji) hk hkt
  · obtain ⟨draining, hadmission⟩ := hshared.admission
    rw [hadmission]
    rfl

/-- The slots after a run: a call keeps to its token while it holds it, and past that
its slot is free unless its cleanup was disturbed. -/
structure Slots (es : List (Call × Option Stage)) (s : Process) : Prop where
  absent : ∀ i, s.handlers.length ≤ i → Undisturbed i es
  before : ∀ (i : Nat) (h : Handler), s.handlers[i]? = some h → (h.stage.holds = true ∨ h.stage.token = none) →
    Undisturbed i es
  after : ∀ (i : Nat) (h : Handler) token, s.handlers[i]? = some h → h.stage.holds = false →
    h.stage.token = some token → (s.admission.reservations.get? token = none ↔ Undisturbed i es)

theorem Slots.shared (hslots : Slots es s) (hshared : Shared s e t) : Slots (es ++ [e]) t := by
  have hquiet : ∀ i, Undisturbed i (es ++ [e]) ↔ Undisturbed i es := by
    intro i
    obtain ⟨c, reply⟩ := e
    obtain rfl : reply = none := hshared.quiet
    rw [undisturbed_snoc]
    exact and_iff_left (by cases c <;> rfl)
  obtain ⟨draining, hadmission⟩ := hshared.admission
  have hreservations : t.admission.reservations = s.admission.reservations := by rw [hadmission]; rfl
  -- A call that arrives has neither a token nor a past.
  have hold : ∀ {i : Nat} {h : Handler}, t.handlers[i]? = some h → s.handlers[i]? = some h ∨
      s.handlers.length ≤ i ∧ h.stage.token = none := by
    intro i h hi
    obtain hsame | ⟨auth, happend⟩ := hshared.handlers
    · exact .inl (hsame ▸ hi)
    · rw [happend, List.getElem?_append] at hi
      split at hi
      · exact .inl hi
      · rename_i hlt
        rw [List.getElem?_singleton] at hi
        split at hi
        · obtain rfl := Option.some.inj hi
          exact .inr ⟨Nat.le_of_not_lt hlt, rfl⟩
        · exact absurd hi (by simp)
  have hlength : s.handlers.length ≤ t.handlers.length := by
    obtain hsame | ⟨auth, happend⟩ := hshared.handlers
    · rw [hsame]
    · rw [happend, List.length_append]
      omega
  constructor
  · intro i hi
    rw [hquiet]
    exact hslots.absent i (Nat.le_trans hlength hi)
  · intro i h hi hstage
    rw [hquiet]
    obtain hi | ⟨hlate, -⟩ := hold hi
    · exact hslots.before i h hi hstage
    · exact hslots.absent i hlate
  · intro i h token hi hholds htoken
    rw [hquiet, hreservations]
    obtain hi | ⟨-, hnone⟩ := hold hi
    · exact hslots.after i h token hi hholds htoken
    · exact absurd (htoken.symm.trans hnone) (by simp)

theorem Slots.resumed (hslots : Slots es s) (hs : Sound s) {st' : Stage} (hi : s.handlers[i]? = some h)
    (hmoved : Moved s.admission s.registry ⟨i, h.auth⟩ h.stage (t.admission, t.registry, st'))
    (hhandlers : t.handlers = s.handlers.set i { h with stage := st' })
    (hproceed : proceed s.admission s.registry ⟨i, h.auth⟩ h.stage outcome = (t.admission, t.registry, st')) :
    Slots (es ++ [(.resume i outcome, some h.stage)]) t := by
  have hother : ∀ {j : Nat}, j ≠ i → (Undisturbed j (es ++ [(.resume i outcome, some h.stage)]) ↔ Undisturbed j es) := by
    intro j hji
    rw [undisturbed_snoc]
    refine and_iff_left ?_
    cases h.stage with
    | holding token point => simp [disturbs, Ne.symm hji]
    | _ => rfl
  have hlength : t.handlers.length = s.handlers.length := by rw [hhandlers, List.length_set]
  have hlt : i < s.handlers.length := (List.getElem?_eq_some_iff.mp hi).1
  have hstage : (proceed s.admission s.registry ⟨i, h.auth⟩ h.stage outcome).2.2 = st' := by rw [hproceed]
  have hadmission : (proceed s.admission s.registry ⟨i, h.auth⟩ h.stage outcome).1 = t.admission := by rw [hproceed]
  -- Thrown out of its cleanup, a call is finished with its token still in its hands.
  have hfinished : disturbs i (.resume i outcome, some h.stage) = true →
      ∃ token, st' = .finished (some token) := by
    intro hdisturbs
    rw [← hstage]
    cases hst : h.stage with
    | holding token point =>
      simp only [hst, disturbs, decide_true, Bool.true_and, Bool.and_eq_true] at hdisturbs
      rw [proceed_disturbed hdisturbs.1 hdisturbs.2]
      exact ⟨token, rfl⟩
    | _ => simp [hst, disturbs] at hdisturbs
  constructor
  · intro j hj
    rw [hother (by omega)]
    exact hslots.absent j (hlength ▸ hj)
  · intro j k hk hkst
    rw [hhandlers, set_get? hi] at hk
    split at hk
    · rename_i hji
      subst hji
      obtain rfl := Option.some.inj hk
      have hbefore : h.stage.holds = true ∨ h.stage.token = none := by
        generalize t.admission = a', t.registry = r', h.stage = st at hmoved
        cases hmoved with
        | wait htoken hholds => exact hkst.imp hholds (fun hnone => htoken.symm.trans hnone)
        | reserve => exact .inr rfl
        | _ => exact .inl rfl
      rw [undisturbed_snoc]
      refine ⟨hslots.before j h hi hbefore, ?_⟩
      by_contra hdisturbs
      obtain ⟨token, hst'⟩ := hfinished (by simpa using hdisturbs)
      subst hst'
      simp [Stage.holds, Stage.token] at hkst
    · rename_i hji
      rw [hother hji]
      exact hslots.before j k hk hkst
  · intro j k token hk hholds htoken
    rw [hhandlers, set_get? hi] at hk
    split at hk
    · rename_i hji
      subst hji
      obtain rfl := Option.some.inj hk
      obtain ⟨point, hst, hreleased, hcalm⟩ | ⟨point, hst, hkept, hthrown, -⟩ | ⟨hheld, hheldtoken, hkept⟩ :=
        proceed_ended (hstage.symm ▸ htoken) (hstage.symm ▸ hholds)
      · rw [← hadmission, hreleased, SharedSessionAdmission.release_get?, if_pos rfl, undisturbed_snoc]
        refine ⟨fun _ => ⟨hslots.before j h hi (.inl (by rw [hst]; rfl)), ?_⟩, fun _ => rfl⟩
        rw [hst]
        simpa [disturbs] using hcalm
      · rw [← hadmission, hkept, hs.tokens.reserved j h token point hi hst, undisturbed_snoc]
        refine ⟨fun hnone => absurd hnone (by simp), fun hcalm => absurd hcalm.2 ?_⟩
        rw [hst]
        simpa [disturbs] using hthrown
      · rw [← hadmission, hkept, undisturbed_snoc, hslots.after j h token hi hheld hheldtoken]
        refine (and_iff_left ?_).symm
        cases hst : h.stage with
        | holding token' point => simp [hst, Stage.holds] at hheld
        | _ => rfl
    · rename_i hji
      rw [hother hji, hs.tokens.others hi hmoved hji hk htoken]
      exact hslots.after j k token hk hholds htoken

theorem run_slots (hr : Run Step (start maxSessions) es s) : Slots es s := by
  refine hr.invariant ?_ ?_
  · constructor
    · exact fun _ _ _ hmem => absurd hmem List.not_mem_nil
    · exact fun _ _ _ _ _ hmem => absurd hmem List.not_mem_nil
    · exact fun i h token hi => by simp [start] at hi
  · intro es s e t hr hslots he
    obtain ⟨i, x, outcome, st', rfl, hi, hmoved, hhandlers, hproceed⟩ | hshared := step_cases he
    · exact hslots.resumed (run_sound hr) hi hmoved hhandlers hproceed
    · exact hslots.shared hshared

/-- The token of a call is gone, and its principal is held by other calls at most. -/
def SlotFree (s : Process) (i : Nat) (h : Handler) : Prop :=
  (∀ token, h.stage.token = some token → s.admission.reservations.get? token = none) ∧
    (h.auth.principal ∈ s.admission.principals → ∃ (j : Nat) (k : Handler) (token : Nat), j ≠ i ∧
      s.handlers[j]? = some k ∧ k.stage.token = some token ∧
      s.admission.reservations.get? token = some h.auth.principal)

/-- No step of the call touched the reservation of another one. -/
def SparesOthers (maxSessions : Nat) (es : List (Call × Option Stage)) (i : Nat) : Prop :=
  ∀ es₁ e es₂ s₁ s₂ outcome, es = es₁ ++ e :: es₂ → Run Step (start maxSessions) es₁ s₁ → Step s₁ e s₂ →
    e.1 = .resume i outcome → ∀ (j : Nat) (k : Handler) (token : Nat), j ≠ i → s₁.handlers[j]? = some k →
      k.stage.token = some token → s₂.admission.reservations.get? token = s₁.admission.reservations.get? token

/-- A call that has finished has left its slot exactly when nothing threw it out of its
cleanup; it never gave away the slot of another call. -/
theorem slot_freed_iff (hr : Run Step (start maxSessions) es s) (hi : s.handlers[i]? = some h) {last : Option Nat}
    (hfinished : h.stage = .finished last) :
    (SlotFree s i h ∧ SparesOthers maxSessions es i) ↔ Undisturbed i es := by
  have hs := run_sound hr
  have hslots := run_slots hr
  have hspares : SparesOthers maxSessions es i := by
    intro es₁ e es₂ s₁ s₂ outcome _ hr₁ he hresume j k token hji hk hkt
    exact step_spares (run_sound hr₁) he hresume hji hk hkt
  constructor
  · intro ⟨hfree, _⟩
    cases last with
    | none => exact hslots.before i h hi (.inr (by rw [hfinished]; rfl))
    | some token =>
      have htoken : h.stage.token = some token := by rw [hfinished]; rfl
      exact (hslots.after i h token hi (by rw [hfinished]; rfl) htoken).mp (hfree.1 token htoken)
  · intro hcalm
    have hgone : ∀ token, h.stage.token = some token → s.admission.reservations.get? token = none :=
      fun token htoken => (hslots.after i h token hi (by rw [hfinished]; rfl) htoken).mpr hcalm
    refine ⟨⟨hgone, fun hmem => ?_⟩, hspares⟩
    obtain ⟨token, hreserved⟩ := (hs.tokens.consistent.principals _).mp hmem
    obtain ⟨j, k, hk, hkt, -⟩ := hs.tokens.owned token _ hreserved
    refine ⟨j, k, token, ?_, hk, hkt, hreserved⟩
    rintro rfl
    obtain rfl := Option.some.inj (hk.symm.trans hi)
    exact absurd (hreserved.symm.trans (hgone token hkt)) (by simp)

/-- A call whose `connection.run` ends as given, and each await of its teardown as given. -/
def tornDown (run closed removed expired : Outcome) : List Call :=
  connecting 0 sampleAuth ++ [.resume 0 run, .resume 0 closed, .resume 0 removed, .resume 0 expired]

/-- A session that is cancelled while it runs gives its slot back. -/
theorem slot_freed_cancelled : ∃ es s h, Run Step (start 5) es s ∧ s.handlers[0]? = some h ∧
    h.stage = .finished (some 0) ∧ SlotFree s 0 h ∧ SparesOthers 5 es 0 := by
  have hr := run_history call (start 5)
    (tornDown .cancelled (.returned true) (.returned true) (.returned true) ++ [.resume 0 (.returned true)])
  refine ⟨_, _, ⟨sampleAuth, .finished (some 0)⟩, hr, by decide +kernel, rfl, ?_⟩
  exact (slot_freed_iff hr (by decide +kernel) rfl).mpr (by decide +kernel)

/-- Cancelled once, while its teardown waits for the expiry task, a call leaves its
token behind, and its device is refused from then on. -/
theorem slot_leaked : ∃ s h,
    Run Step (start 5)
      (history call (start 5) (tornDown (.returned true) (.returned true) (.returned true) .cancelled)) s ∧
    s.handlers[0]? = some h ∧ h.stage = .finished (some 0) ∧ ¬SlotFree s 0 h ∧
    (s.admission.reserve h.auth.principal).2 = none := by
  have hr := run_history call (start 5) (tornDown (.returned true) (.returned true) (.returned true) .cancelled)
  refine ⟨_, ⟨sampleAuth, .finished (some 0)⟩, hr, by decide +kernel, rfl, ?_, by decide +kernel⟩
  intro hfree
  have hgone := hfree.1 0 rfl
  revert hgone
  decide +kernel

end Process

end RealtimeVoice.Worker
