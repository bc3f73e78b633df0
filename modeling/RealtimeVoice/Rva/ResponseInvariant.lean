import RealtimeVoice.Rva.ResponseMoves

namespace RealtimeVoice.Rva.Coordinator

open RealtimeVoice.Base

variable {c c' : Coordinator} {r : Ref} {rec : ResponseRecord}

theorem evict_order (heap : List ResponseRecord) (order : List Key) (records : Dict Key Ref) :
    (evict heap order records).1 = order.drop (order.length - 32) := by
  induction order generalizing records with
  | nil => rfl
  | cons old order ih =>
    rw [evict]
    split
    · rename_i hlong
      rw [ih, List.length_cons] at *
      rw [show order.length + 1 - 32 = order.length - 32 + 1 by omega, List.drop_succ_cons]
    · rename_i hshort
      rw [show (old :: order).length - 32 = 0 by omega, List.drop_zero]

theorem evict_subset {heap : List ResponseRecord} {order : List Key} {records : Dict Key Ref} {k : Key} {r : Ref}
    (h : (evict heap order records).2.get? k = some r) : records.get? k = some r := by
  induction order generalizing records with
  | nil => exact h
  | cons old order ih =>
    rw [evict] at h
    split at h
    · have hrest := ih h
      split at hrest
      · by_cases hk : k = old
        · subst hk
          simp at hrest
        · rwa [Dict.get?_erase_ne _ hk] at hrest
      · exact hrest
    · exact h

/-- Only records of ended playbacks are evicted. -/
theorem evict_unended {heap : List ResponseRecord} {order : List Key} {records : Dict Key Ref} {k : Key}
    {r : Ref} {rec : ResponseRecord} (h : records.get? k = some r) (hrec : heap[r]? = some rec)
    (hended : rec.playbackEnded = false) : (evict heap order records).2.get? k = some r := by
  induction order generalizing records with
  | nil => exact h
  | cons old order ih =>
    rw [evict]
    split
    · refine ih ?_
      split
      · rename_i hold
        have hne : k ≠ old := by
          rintro rfl
          simp [h, hrec, hended] at hold
        rwa [Dict.get?_erase_ne _ hne]
      · exact h
    · exact h

/-- A record of an ended playback that survives is still waiting in the order. -/
theorem evict_kept {heap : List ResponseRecord} {order : List Key} {records : Dict Key Ref} {k : Key}
    {r : Ref} {rec : ResponseRecord} (hk : k ∈ order) (h : (evict heap order records).2.get? k = some r)
    (hrec : heap[r]? = some rec) (hended : rec.playbackEnded = true) : k ∈ (evict heap order records).1 := by
  induction order generalizing records with
  | nil => cases hk
  | cons old order ih =>
    rw [evict] at h ⊢
    split at h
    · rename_i hlong
      rw [if_pos hlong]
      by_cases hmem : k ∈ order
      · exact ih hmem h
      · obtain rfl : k = old := by simpa [hmem] using hk
        have hrest := evict_subset h
        split at hrest
        · simp at hrest
        · rename_i hold
          simp [hrest, hrec, hended] at hold
    · rename_i hshort
      rw [if_neg hshort]
      exact hk

theorem last_mem_drop (order : List Key) (k : Key) :
    k ∈ (order ++ [k]).drop ((order ++ [k]).length - 32) := by
  rw [List.drop_append_of_le_length (by simp)]
  exact List.mem_append_right _ (List.mem_singleton_self k)

/-- What holds of the record that is the current playback. -/
structure Current (c : Coordinator) (r : Ref) (rec : ResponseRecord) : Prop where
  unended : rec.playbackEnded = false
  live : c.active = some r ↔ rec.outcome = none
  known : c.records.get? rec.key = some r
  holds : c.session.closed = false → rec.stopSent = false → c.session.activePlayback = some rec.target
  released : rec.stopSent = true → c.session.activePlayback = none
  unfenced : rec.stopSent = false → rec.outcome = none ∨ rec.outcome = some .completed

/-- The agreement between the copies of "who is active": the session, the active
and playback references, the records and the ring of terminal keys. -/
structure Consistent (c : Coordinator) : Prop where
  active : ∀ r, c.active = some r → c.playback = some r
  current : ∀ r, c.playback = some r → ∃ rec, c.heap[r]? = some rec ∧ Current c r rec
  others : ∀ (r : Ref) (rec : ResponseRecord), c.heap[r]? = some rec → c.playback ≠ some r →
    rec.playbackEnded = true ∧ rec.outcome ≠ none
  free : c.playback = none → c.session.activePlayback = none
  stopped : ∀ (r : Ref) (rec : ResponseRecord), c.heap[r]? = some rec → rec.stopSent = true → rec.outcome ≠ none
  generation_le : ∀ (r : Ref) (rec : ResponseRecord), c.heap[r]? = some rec →
    rec.target.generation ≤ c.session.generation
  distinct : ∀ (r r' : Ref) (rec rec' : ResponseRecord), c.heap[r]? = some rec → c.heap[r']? = some rec' →
    rec.target.generation = rec'.target.generation → r = r'
  recorded : ∀ k r, c.records.get? k = some r → ∃ rec, c.heap[r]? = some rec ∧ rec.key = k
  remembered : ∀ (k : Key) (r : Ref) (rec : ResponseRecord), c.records.get? k = some r →
    c.heap[r]? = some rec → rec.outcome ≠ none → k ∈ c.terminalOrder
  bounded : c.terminalOrder.length ≤ 32

theorem consistent_init (v : VoiceSession) (h : v.activePlayback = none) : Consistent { session := v } where
  active := by simp
  current := by simp
  others := by simp
  free _ := h
  stopped := by simp
  generation_le := by simp
  distinct := by simp
  recorded := by simp
  remembered := by simp
  bounded := by simp

@[simp]
theorem update_heap (c : Coordinator) (r r' : Ref) (f : ResponseRecord → ResponseRecord) :
    (c.update r f).heap[r']? = if r = r' then (c.heap[r']?).map f else c.heap[r']? := by
  rw [update, List.getElem?_modify]
  split <;> simp

theorem update_back {r' : Ref} {rec' : ResponseRecord} {f : ResponseRecord → ResponseRecord}
    (h : (c.update r f).heap[r']? = some rec') :
    ∃ rec, c.heap[r']? = some rec ∧ rec' = if r = r' then f rec else rec := by
  rw [update_heap] at h
  split at h
  · rename_i hr
    obtain ⟨rec, hrec, rfl⟩ := Option.map_eq_some_iff.mp h
    exact ⟨rec, hrec, (if_pos hr).symm⟩
  · rename_i hr
    exact ⟨rec', h, (if_neg hr).symm⟩

theorem update_forth {r' : Ref} (f : ResponseRecord → ResponseRecord) (h : c.heap[r']? = some rec) :
    (c.update r f).heap[r']? = some (if r = r' then f rec else rec) := by
  rw [update_heap, h]
  split <;> rfl

/-- A change of one record that leaves its identity, outcome and flags alone. -/
theorem Consistent.retouch (h : Consistent c) (r : Ref) {f : ResponseRecord → ResponseRecord}
    (hf : ∀ rec, (f rec).responseId = rec.responseId ∧ (f rec).target = rec.target ∧
      (f rec).outcome = rec.outcome ∧ (f rec).stopSent = rec.stopSent ∧
      (f rec).playbackEnded = rec.playbackEnded) : Consistent (c.update r f) := by
  have hsame : ∀ (r' : Ref) (rec : ResponseRecord),
      (if r = r' then f rec else rec).key = rec.key ∧ (if r = r' then f rec else rec).target = rec.target ∧
      (if r = r' then f rec else rec).outcome = rec.outcome ∧
      (if r = r' then f rec else rec).stopSent = rec.stopSent ∧
      (if r = r' then f rec else rec).playbackEnded = rec.playbackEnded := by
    intro r' rec
    obtain ⟨hid, htarget, hout, hstop, hend⟩ := hf rec
    split
    · exact ⟨by rw [ResponseRecord.key, hid, htarget]; rfl, htarget, hout, hstop, hend⟩
    · exact ⟨rfl, rfl, rfl, rfl, rfl⟩
  refine ⟨h.active, ?_, ?_, h.free, ?_, ?_, ?_, ?_, ?_, h.bounded⟩
  · intro r' hr'
    obtain ⟨rec, hrec, hcur⟩ := h.current r' hr'
    obtain ⟨hkey, htarget, hout, hstop, hend⟩ := hsame r' rec
    refine ⟨_, update_forth f hrec, ⟨hend.trans hcur.unended, ?_, ?_, ?_, ?_, ?_⟩⟩
    · rw [hout]
      exact hcur.live
    · rw [hkey]
      exact hcur.known
    · rw [hstop, htarget]
      exact hcur.holds
    · rw [hstop]
      exact hcur.released
    · rw [hstop, hout]
      exact hcur.unfenced
  · intro r' rec' hr' hne
    obtain ⟨rec, hrec, rfl⟩ := update_back hr'
    obtain ⟨-, -, hout, -, hend⟩ := hsame r' rec
    rw [hout, hend]
    exact h.others r' rec hrec hne
  · intro r' rec' hr'
    obtain ⟨rec, hrec, rfl⟩ := update_back hr'
    obtain ⟨-, -, hout, hstop, -⟩ := hsame r' rec
    rw [hout, hstop]
    exact h.stopped r' rec hrec
  · intro r' rec' hr'
    obtain ⟨rec, hrec, rfl⟩ := update_back hr'
    rw [(hsame r' rec).2.1]
    exact h.generation_le r' rec hrec
  · intro r₁ r₂ rec₁ rec₂ h₁ h₂ hgen
    obtain ⟨rec, hrec, rfl⟩ := update_back h₁
    obtain ⟨rec', hrec', rfl⟩ := update_back h₂
    rw [(hsame r₁ rec).2.1, (hsame r₂ rec').2.1] at hgen
    exact h.distinct r₁ r₂ rec rec' hrec hrec' hgen
  · intro k r' hk
    obtain ⟨rec, hrec, rfl⟩ := h.recorded k r' hk
    exact ⟨_, update_forth f hrec, (hsame r' rec).1⟩
  · intro k r' rec' hk hr' hout
    obtain ⟨rec, hrec, rfl⟩ := update_back hr'
    rw [(hsame r' rec).2.2.1] at hout
    exact h.remembered k r' rec hk hrec hout

theorem Consistent.begun (h : Consistent c) {fresh : ResponseRecord} (hplayback : c.playback = none)
    (hgen : fresh.target.generation = c.session.generation + 1) (hout : fresh.outcome = none)
    (hstop : fresh.stopSent = false) (hend : fresh.playbackEnded = false) :
    Consistent { c with
      session := { c.session with generation := c.session.generation + 1, activePlayback := some fresh.target }
      heap := c.heap ++ [fresh]
      active := some c.heap.length
      playback := some c.heap.length
      records := c.records.set fresh.key c.heap.length } := by
  have hheap : ∀ (r : Ref) (rec : ResponseRecord), (c.heap ++ [fresh])[r]? = some rec →
      r = c.heap.length ∧ rec = fresh ∨ r ≠ c.heap.length ∧ c.heap[r]? = some rec := by
    intro r rec hr
    rcases Nat.lt_trichotomy r c.heap.length with hlt | rfl | hgt
    · exact .inr ⟨hlt.ne, by rwa [List.getElem?_append_left hlt] at hr⟩
    · exact .inl ⟨rfl, by simpa [eq_comm] using hr⟩
    · rw [List.getElem?_eq_none (by simpa using hgt)] at hr
      cases hr
  refine ⟨by simp, ?_, ?_, by simp, ?_, ?_, ?_, ?_, ?_, h.bounded⟩
  · rintro r hr
    obtain rfl := Option.some.inj hr
    refine ⟨fresh, by simp, ⟨hend, by simp [hout], ?_, fun _ _ => rfl, by simp [hstop], fun _ => .inl hout⟩⟩
    exact Dict.get?_set_self _ _ _
  · intro r rec hr hne
    obtain ⟨rfl, -⟩ | ⟨-, hold⟩ := hheap r rec hr
    · exact absurd rfl hne
    · exact h.others r rec hold (by simp [hplayback])
  · intro r rec hr hrec
    obtain ⟨-, rfl⟩ | ⟨-, hold⟩ := hheap r rec hr
    · rw [hstop] at hrec
      cases hrec
    · exact h.stopped r rec hold hrec
  · intro r rec hr
    obtain ⟨-, rfl⟩ | ⟨-, hold⟩ := hheap r rec hr
    · exact hgen.le
    · exact Nat.le_succ_of_le (h.generation_le r rec hold)
  · intro r r' rec rec' hr hr' heq
    obtain ⟨rfl, rfl⟩ | ⟨-, hold⟩ := hheap r rec hr <;> obtain ⟨rfl, rfl⟩ | ⟨-, hold'⟩ := hheap r' rec' hr'
    · rfl
    · have hle := h.generation_le r' rec' hold'
      omega
    · have hle := h.generation_le r rec hold
      omega
    · exact h.distinct r r' rec rec' hold hold' heq
  · intro k r hk
    rw [Dict.get?_set] at hk
    split at hk
    · rename_i hkey
      cases hk
      exact ⟨fresh, by simp, hkey.symm⟩
    · obtain ⟨rec, hrec, hkey⟩ := h.recorded k r hk
      have hlt : r < c.heap.length := (List.getElem?_eq_some_iff.mp hrec).1
      exact ⟨rec, by rwa [List.getElem?_append_left hlt], hkey⟩
  · intro k r rec hk hr hrec
    obtain ⟨-, rfl⟩ | ⟨hne, hold⟩ := hheap r rec hr
    · exact absurd hout hrec
    · rw [Dict.get?_set] at hk
      split at hk
      · cases hk
        exact absurd rfl hne
      · exact h.remembered k r rec hk hold hrec

theorem rememberTerminal_eq (c : Coordinator) (k : Key) :
    c.rememberTerminal k = { c with
      terminalOrder := (evict c.heap (c.terminalOrder ++ [k]) c.records).1
      records := (evict c.heap (c.terminalOrder ++ [k]) c.records).2 } := rfl

/-- The current response gets its outcome and its key joins the terminal ring. -/
theorem Consistent.terminated (h : Consistent c) (hrec : c.heap[r]? = some rec) (hplayback : c.playback = some r)
    {session : VoiceSession} {f : ResponseRecord → ResponseRecord}
    (hid : (f rec).responseId = rec.responseId ∧ (f rec).target = rec.target)
    (hend : (f rec).playbackEnded = rec.playbackEnded) (hout : (f rec).outcome ≠ none)
    (hgen : c.session.generation ≤ session.generation)
    (hholds : session.closed = false → (f rec).stopSent = false → session.activePlayback = some rec.target)
    (hreleased : (f rec).stopSent = true → session.activePlayback = none)
    (hunfenced : (f rec).stopSent = false → (f rec).outcome = some .completed) :
    Consistent (({ c with session := session, active := none }.update r f).rememberTerminal rec.key) := by
  obtain ⟨rec₀, hrec₀, hcur⟩ := h.current r hplayback
  obtain rfl : rec₀ = rec := Option.some.inj (hrec₀.symm.trans hrec)
  set c₁ := { c with session := session, active := none }.update r f with hc₁
  have hkey : (f rec₀).key = rec₀.key := by rw [ResponseRecord.key, hid.1, hid.2]; rfl
  have hheap : ∀ r' : Ref, c₁.heap[r']? = if r = r' then (c.heap[r']?).map f else c.heap[r']? :=
    fun r' => update_heap _ r r' f
  have hself : c₁.heap[r]? = some (f rec₀) := by rw [hheap, if_pos rfl, hrec]; rfl
  have hother : ∀ {r' : Ref} {rec' : ResponseRecord}, r' ≠ r → c₁.heap[r']? = some rec' →
      c.heap[r']? = some rec' := by
    intro r' rec' hne hr'
    rwa [hheap, if_neg hne.symm] at hr'
  rw [rememberTerminal_eq]
  refine ⟨by simp [hc₁, update], ?_, ?_, ?_, ?_, ?_, ?_, ?_, ?_, ?_⟩
  · intro r' hr'
    obtain rfl : r = r' := Option.some.inj (hplayback.symm.trans hr')
    refine ⟨f rec₀, hself, ⟨hend.trans hcur.unended, by simp [hc₁, update, hout], ?_, ?_, hreleased,
      fun hs => .inr (hunfenced hs)⟩⟩
    · rw [hkey]
      exact evict_unended hcur.known hself (hend.trans hcur.unended)
    · rw [hid.2]
      exact hholds
  · intro r' rec' hr' hne
    have hne' : r' ≠ r := by
      rintro rfl
      exact hne hplayback
    exact h.others r' rec' (hother hne' hr') hne
  · intro hnone
    rw [show c.playback = none from hnone] at hplayback
    cases hplayback
  · intro r' rec' hr' hstop
    by_cases hne : r' = r
    · subst hne
      rw [← Option.some.inj (hself.symm.trans hr')]
      exact hout
    · exact h.stopped r' rec' (hother hne hr') hstop
  · intro r' rec' hr'
    refine Nat.le_trans ?_ hgen
    by_cases hne : r' = r
    · subst hne
      rw [← Option.some.inj (hself.symm.trans hr'), hid.2]
      exact h.generation_le r' rec₀ hrec
    · exact h.generation_le r' rec' (hother hne hr')
  · intro r₁ r₂ rec₁ rec₂ h₁ h₂ hgens
    obtain ⟨rec₁', hrec₁, rfl⟩ := update_back h₁
    obtain ⟨rec₂', hrec₂, rfl⟩ := update_back h₂
    refine h.distinct r₁ r₂ rec₁' rec₂' hrec₁ hrec₂ ?_
    have htarget : ∀ (r' : Ref) (rec' : ResponseRecord), c.heap[r']? = some rec' →
        (if r = r' then f rec' else rec').target = rec'.target := by
      intro r' rec' hr'
      split
      · rename_i heq
        subst heq
        rw [Option.some.inj (hr'.symm.trans hrec), hid.2]
      · rfl
    rwa [htarget r₁ rec₁' hrec₁, htarget r₂ rec₂' hrec₂] at hgens
  · intro k r' hk
    obtain ⟨rec', hrec', rfl⟩ := h.recorded k r' (evict_subset hk)
    refine ⟨_, update_forth f hrec', ?_⟩
    split
    · rename_i heq
      subst heq
      rw [Option.some.inj (hrec'.symm.trans hrec), hkey]
    · rfl
  · intro k r' rec' hk hr' hout'
    by_cases hne : r' = r
    · subst hne
      obtain ⟨rec', hrec', rfl⟩ := h.recorded k r' (evict_subset hk)
      rw [Option.some.inj (hrec'.symm.trans hrec), evict_order]
      exact last_mem_drop _ _
    · have hr₀ := hother hne hr'
      have hmem := h.remembered k r' rec' (evict_subset hk) hr₀ hout'
      have hended := (h.others r' rec' hr₀ (by simpa [hplayback, eq_comm] using hne)).1
      exact evict_kept (List.mem_append_left _ hmem) hk hr' hended
  · rw [evict_order]
    simp only [List.length_drop]
    omega

theorem Consistent.active_none (h : Consistent c) (hplayback : c.playback = some r) (hactive : c.active ≠ some r) :
    c.active = none := by
  rw [Option.eq_none_iff_forall_ne_some]
  intro r' hr'
  rw [h.active r' hr'] at hplayback
  rw [Option.some.inj hplayback] at hr'
  exact hactive hr'

theorem Consistent.ended (h : Consistent c) (hrec : c.heap[r]? = some rec) (hplayback : c.playback = some r)
    (hout : rec.outcome ≠ none) :
    Consistent { c.update r (fun rec => { rec with playbackEnded := true }) with
      session := if needsFinish rec then { c.session with activePlayback := none } else c.session
      playback := none } := by
  obtain ⟨rec₀, hrec₀, hcur⟩ := h.current r hplayback
  obtain rfl : rec₀ = rec := Option.some.inj (hrec₀.symm.trans hrec)
  have hactive := h.active_none hplayback (fun ha => hout (hcur.live.mp ha))
  have hgen : (if needsFinish rec₀ then { c.session with activePlayback := none } else c.session).generation =
      c.session.generation := by split <;> rfl
  refine ⟨?_, by simp, ?_, ?_, ?_, ?_, ?_, ?_, ?_, h.bounded⟩
  · intro r' hr'
    rw [show c.active = some r' from hr'] at hactive
    cases hactive
  · intro r' rec' hr' _
    obtain ⟨rec'', hrec'', rfl⟩ := update_back hr'
    split
    · rename_i heq
      subst heq
      obtain rfl : rec'' = rec₀ := Option.some.inj (hrec''.symm.trans hrec)
      exact ⟨rfl, hout⟩
    · rename_i hne
      exact h.others r' rec'' hrec'' (by simpa [hplayback] using hne)
  · intro _
    dsimp only
    split
    · rfl
    · rename_i hfinish
      -- not completed or already fenced: the fence has released the session
      refine hcur.released ?_
      by_contra hstop
      rw [Bool.not_eq_true] at hstop
      rcases hcur.unfenced hstop with hnone | hcompleted
      · exact hout hnone
      · exact hfinish (by simp [needsFinish, hcompleted, hstop])
  · intro r' rec' hr' hstop
    obtain ⟨rec'', hrec'', rfl⟩ := update_back hr'
    split at hstop
    · rename_i heq
      rw [if_pos heq]
      exact h.stopped r' rec'' hrec'' hstop
    · rename_i hne
      rw [if_neg hne]
      exact h.stopped r' rec'' hrec'' hstop
  · intro r' rec' hr'
    obtain ⟨rec'', hrec'', rfl⟩ := update_back hr'
    rw [hgen]
    split <;> exact h.generation_le r' rec'' hrec''
  · intro r₁ r₂ rec₁ rec₂ h₁ h₂ hgens
    obtain ⟨rec₁', hrec₁, rfl⟩ := update_back h₁
    obtain ⟨rec₂', hrec₂, rfl⟩ := update_back h₂
    refine h.distinct r₁ r₂ rec₁' rec₂' hrec₁ hrec₂ ?_
    split at hgens <;> split at hgens <;> exact hgens
  · intro k r' hk
    obtain ⟨rec', hrec', rfl⟩ := h.recorded k r' hk
    refine ⟨_, update_forth _ hrec', ?_⟩
    split <;> rfl
  · intro k r' rec' hk hr' hout'
    obtain ⟨rec'', hrec'', rfl⟩ := update_back hr'
    refine h.remembered k r' rec'' hk hrec'' ?_
    split at hout' <;> exact hout'

theorem Consistent.closed (h : Consistent c) : Consistent c.close := by
  have hnone : c.session.close.closed = true ∧
      (c.session.activePlayback = none → c.session.close.activePlayback = none) ∧
      c.session.generation ≤ c.session.close.generation := by
    rw [VoiceSession.close]
    split
    · rename_i hclosed
      exact ⟨hclosed, id, le_rfl⟩
    · split
      · exact ⟨rfl, fun _ => rfl, Nat.le_succ _⟩
      · exact ⟨rfl, id, le_rfl⟩
  refine ⟨h.active, ?_, h.others, fun hp => hnone.2.1 (h.free hp), h.stopped, ?_, h.distinct, h.recorded,
    h.remembered, h.bounded⟩
  · intro r hr
    obtain ⟨rec, hrec, hcur⟩ := h.current r hr
    refine ⟨rec, hrec, ⟨hcur.unended, hcur.live, hcur.known, ?_, fun hs => hnone.2.1 (hcur.released hs),
      hcur.unfenced⟩⟩
    intro hclosed
    rw [show c.close.session.closed = true from hnone.1] at hclosed
    cases hclosed
  · intro r rec hrec
    exact Nat.le_trans (h.generation_le r rec hrec) hnone.2.2

/-- While the session is open, a completed playback still holds it, so
`finish_playback` succeeds. -/
theorem Consistent.finishes (h : Consistent c) (hrec : c.heap[r]? = some rec) (hplayback : c.playback = some r)
    (hopen : c.session.closed = false) (hfinish : needsFinish rec = true) :
    c.session.activePlayback = some rec.target := by
  obtain ⟨rec₀, hrec₀, hcur⟩ := h.current r hplayback
  obtain rfl : rec₀ = rec := Option.some.inj (hrec₀.symm.trans hrec)
  refine hcur.holds hopen ?_
  simp only [needsFinish, Bool.and_eq_true, Bool.not_eq_true'] at hfinish
  exact hfinish.2

theorem Consistent.step (h : Consistent c) {a : Action} (hm : Moves c a c')
    (hopen : ∀ r, a = .unfinished r → c.session.closed = false) : Consistent c' := by
  cases hm with
  | idle => exact h
  | @begun responseId producerEpoch target _ hplayback _ htarget =>
    have hgen := congrArg PlaybackRef.generation htarget
    exact @Consistent.begun c h { responseId, target, producerEpoch } hplayback hgen rfl rfl rfl
  | media _ _ _ => exact h.retouch _ (fun rec => ⟨rfl, rfl, rfl, rfl, rfl⟩)
  | completed hrec _ hactive hplayback =>
    obtain ⟨rec₀, hrec₀, hcur⟩ := h.current _ hplayback
    obtain rfl := Option.some.inj (hrec₀.symm.trans hrec)
    exact h.terminated hrec hplayback ⟨rfl, rfl⟩ rfl (by simp) le_rfl hcur.holds hcur.released (fun _ => rfl)
  | @fenced r rec outcome errorCode hrec hplayback hstop hclosed hsession houtcome =>
    obtain ⟨rec₀, hrec₀, hcur⟩ := h.current _ hplayback
    obtain rfl := Option.some.inj (hrec₀.symm.trans hrec)
    have hactive : (if c.active == some r then none else c.active) = none := by
      split
      · rfl
      · rename_i hne
        exact h.active_none hplayback (by simpa using hne)
    rw [hactive]
    refine h.terminated hrec hplayback ⟨rfl, rfl⟩ rfl ?_ (Nat.le_succ _) (by simp [Coordinator.stopped]) (by simp)
      (by simp [Coordinator.stopped])
    simp only [Coordinator.stopped]
    split
    · simp
    · rename_i hne
      exact fun hnone => hne (by simpa using hcur.live.mpr hnone)
  | started _ _ => exact h.retouch _ (fun rec => ⟨rfl, rfl, rfl, rfl, rfl⟩)
  | ended hrec hplayback _ hout => exact h.ended hrec hplayback hout
  | unfinished hrec hplayback hfinish hsession =>
    exact absurd (h.finishes hrec hplayback (hopen _ rfl) hfinish) hsession
  | closed => exact h.closed

/-- A later state of the same record: what has happened to it stays. -/
structure Later (rec rec' : ResponseRecord) : Prop where
  key : rec'.key = rec.key
  epoch : rec'.producerEpoch = rec.producerEpoch
  stopSent : rec.stopSent = true → rec'.stopSent = true
  outcome : rec.outcome ≠ none → rec'.outcome ≠ none
  started : rec.playbackStarted = true → rec'.playbackStarted = true
  ended : rec.playbackEnded = true → rec'.playbackEnded = true

theorem Later.refl (rec : ResponseRecord) : Later rec rec := ⟨rfl, rfl, id, id, id, id⟩

theorem moves_later {a : Action} (hm : Moves c a c') (hrec : c.heap[r]? = some rec) :
    ∃ rec', c'.heap[r]? = some rec' ∧ Later rec rec' := by
  have hupdate : ∀ (c₁ : Coordinator) (r₁ : Ref) (f : ResponseRecord → ResponseRecord), c₁.heap = c.heap →
      (∀ rec, Later rec (f rec)) → ∃ rec', (c₁.update r₁ f).heap[r]? = some rec' ∧ Later rec rec' := by
    intro c₁ r₁ f hheap hf
    refine ⟨_, update_forth f (by rwa [hheap]), ?_⟩
    split
    · exact hf rec
    · exact .refl rec
  cases hm with
  | idle => exact ⟨rec, hrec, .refl rec⟩
  | begun _ _ _ _ =>
    have hlt : r < c.heap.length := (List.getElem?_eq_some_iff.mp hrec).1
    exact ⟨rec, by rwa [List.getElem?_append_left hlt], .refl rec⟩
  | media _ _ _ => exact hupdate c _ _ rfl (fun rec => ⟨rfl, rfl, id, id, id, id⟩)
  | completed _ _ _ _ => exact hupdate { c with active := none } _ _ rfl (fun rec => ⟨rfl, rfl, id, by simp, id, id⟩)
  | fenced _ _ _ _ _ _ =>
    refine hupdate { c with session := _, active := _ } _ _ rfl (fun rec => ⟨rfl, rfl, fun _ => rfl, ?_, id, id⟩)
    simp only [Coordinator.stopped]
    split <;> simp
  | started _ _ => exact hupdate c _ _ rfl (fun rec => ⟨rfl, rfl, id, id, fun _ => rfl, id⟩)
  | ended _ _ _ _ => exact hupdate c _ _ rfl (fun rec => ⟨rfl, rfl, id, id, id, fun _ => rfl⟩)
  | unfinished _ _ _ _ => exact hupdate c _ _ rfl (fun rec => ⟨rfl, rfl, id, id, id, fun _ => rfl⟩)
  | closed => exact ⟨rec, hrec, .refl rec⟩

theorem update_self (c₁ : Coordinator) (f : ResponseRecord → ResponseRecord) (hheap : c₁.heap = c.heap)
    (hrec : c.heap[r]? = some rec) : (c₁.update r f).heap[r]? = some (f rec) := by
  rw [update_heap, if_pos rfl, hheap, hrec]
  rfl

theorem moves_fenced {g : Nat} (hm : Moves c (.fenced r g) c') :
    ∃ rec outcome code, c.heap[r]? = some rec ∧ c.playback = some r ∧ rec.stopSent = false ∧
      g = c.session.generation + 1 ∧ c'.session.generation = g ∧ outcome ≠ .completed ∧
      c'.heap[r]? = some (Coordinator.stopped (c.active == some r) outcome code rec) := by
  cases hm with
  | @fenced _ rec outcome code hrec hplayback hstop _ _ hout =>
    exact ⟨rec, outcome, code, hrec, hplayback, hstop, rfl, rfl, hout,
      update_self { c with session := _, active := _ } _ rfl hrec⟩

theorem moves_completed (hm : Moves c (.completed r) c') :
    ∃ rec, c.heap[r]? = some rec ∧ c.active = some r ∧ c.playback = some r ∧
      c'.heap[r]? = some { rec with outcome := some .completed } := by
  cases hm with
  | completed hrec _ hactive hplayback =>
    exact ⟨_, hrec, hactive, hplayback, update_self { c with active := none } _ rfl hrec⟩

theorem moves_started (hm : Moves c (.started r) c') :
    ∃ rec, c.heap[r]? = some rec ∧ rec.playbackStarted = false ∧
      c'.heap[r]? = some { rec with playbackStarted := true } := by
  cases hm with
  | started hrec hstarted => exact ⟨_, hrec, hstarted, update_self c _ rfl hrec⟩

theorem moves_ended (hm : Moves c (.ended r) c') :
    ∃ rec, c.heap[r]? = some rec ∧ rec.playbackEnded = false ∧
      c'.heap[r]? = some { rec with playbackEnded := true } := by
  cases hm with
  | ended hrec _ hended _ => exact ⟨_, hrec, hended, update_self c _ rfl hrec⟩

theorem moves_begun (hm : Moves c (.begun r) c') :
    ∃ rec, c'.heap[r]? = some rec ∧ rec.target.generation = c.session.generation + 1 ∧
      c'.session.generation = c.session.generation + 1 := by
  cases hm with
  | begun _ _ _ htarget => exact ⟨_, List.getElem?_concat_length, congrArg PlaybackRef.generation htarget, rfl⟩

theorem moves_media {n : Nat} (hm : Moves c (.media r n) c') : c.active = some r := by
  cases hm with
  | media hactive _ _ => exact hactive

/-- Media is noted only for a response without an outcome. -/
theorem Consistent.outcome_of_active (h : Consistent c) (hactive : c.active = some r)
    (hrec : c.heap[r]? = some rec) : rec.outcome = none := by
  obtain ⟨rec₀, hrec₀, hcur⟩ := h.current r (h.active r hactive)
  rw [Option.some.inj (hrec.symm.trans hrec₀)]
  exact hcur.live.mp hactive

theorem moves_generation {a : Action} (hm : Moves c a c') : c.session.generation ≤ c'.session.generation := by
  cases hm with
  | begun _ _ _ _ => exact Nat.le_succ _
  | fenced _ _ _ _ _ _ => exact Nat.le_succ _
  | ended _ _ _ _ =>
    dsimp only
    split <;> exact le_rfl
  | closed =>
    rw [close, VoiceSession.close]
    dsimp only
    split
    · exact le_rfl
    · split
      · exact Nat.le_succ _
      · exact le_rfl
  | _ => exact le_rfl

/-- A record is the current playback or waits in the terminal ring. -/
theorem Consistent.records_size (h : Consistent c) : c.records.size ≤ 33 := by
  have hsub : c.records.entries.map Prod.fst ⊆
      ((c.playback.bind (c.heap[·]?)).map ResponseRecord.key).toList ++ c.terminalOrder := by
    intro k hk
    rw [Dict.key_mem_iff, Option.isSome_iff_exists] at hk
    obtain ⟨r, hr⟩ := hk
    obtain ⟨rec, hrec, rfl⟩ := h.recorded k r hr
    rw [List.mem_append]
    by_cases hplayback : c.playback = some r
    · left
      simp [hplayback, hrec]
    · exact .inr (h.remembered _ r rec hr hrec (h.others r rec hrec hplayback).2)
  have hlen := (List.subperm_of_subset c.records.nodup hsub).length_le
  have hone := Option.length_toList_le (o := (c.playback.bind (c.heap[·]?)).map ResponseRecord.key)
  have hring := h.bounded
  rw [List.length_map, List.length_append] at hlen
  rw [Dict.size]
  omega

end RealtimeVoice.Rva.Coordinator
