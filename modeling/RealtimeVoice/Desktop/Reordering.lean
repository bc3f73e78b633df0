import RealtimeVoice.Desktop.UdpDownlink

namespace RealtimeVoice.Desktop

open RealtimeVoice.Base RealtimeVoice.Contracts RealtimeVoice.Udp

namespace ReplayWindow

/-- The window remembers the numbers of a kind as used. -/
def Marks (w : ReplayWindow) (P : Nat → Prop) : Prop :=
  ∃ (v : Udp.ReplayWindow) (committed : List Nat), Udp.ReplayWindow.SameDesktop v w ∧
    Udp.ReplayWindow.Tracks v committed ∧ ∀ n, P n → n ∈ committed

variable {w : ReplayWindow} {P Q : Nat → Prop} {n : Nat}

theorem Marks.mono (h : Marks w P) (hq : ∀ n, Q n → P n) : Marks w Q := by
  obtain ⟨v, committed, hsame, htracks, hmem⟩ := h
  exact ⟨v, committed, hsame, htracks, fun n hn => hmem n (hq n hn)⟩

theorem Marks.commit (h : Marks w P) (n : Nat) : Marks (w.commit n) (fun k => P k ∨ k = n) := by
  obtain ⟨v, committed, hsame, htracks, hmem⟩ := h
  refine ⟨v.commit n, committed ++ [n], Udp.ReplayWindow.sameDesktop_commit hsame n, htracks.commit, ?_⟩
  rintro k (hk | rfl)
  · exact List.mem_append_left _ (hmem k hk)
  · exact List.mem_append_right _ List.mem_cons_self

theorem Marks.not_of_acceptable (h : Marks w P) (hn : w.acceptable n = true) : ¬P n := by
  obtain ⟨v, committed, hsame, htracks, hmem⟩ := h
  have hbound : n ≤ 0xFFFFFFFF := by
    by_contra hbig
    rw [acceptable, if_pos hbig] at hn
    cases hn
  have hround : n.toUInt32.toNat = n := by
    simp only [UInt32.toNat_ofNat']
    omega
  have haccept := Udp.ReplayWindow.sameDesktop_canAccept hsame n.toUInt32
  rw [hround, hn] at haccept
  exact fun hp => htracks.not_mem haccept (hmem n hp)

theorem marks_start : Marks {} (fun _ => False) :=
  ⟨{}, [], ⟨rfl, rfl, fun _ => rfl⟩, Udp.ReplayWindow.tracks_init, fun _ h => h.elim⟩

end ReplayWindow

namespace UdpDownlink

/-- A frame that waits to be returned. -/
def Holds (s : UdpDownlink) (f : MediaFrame) : Prop := f ∈ s.ready ∨ s.reorder.get? f.sequence = some f

def Buffered (s : UdpDownlink) (n : Nat) : Prop := (s.reorder.get? n).isSome ∨ n ∈ s.nonAudioSequences

/-- How far a frame is from being returned: the numbers up to its own that have not been
released, and the frames ready before it. -/
def rank (s : UdpDownlink) (f : MediaFrame) : Nat :=
  (f.sequence + 1 - s.expectedDownlink) + s.ready.countP (fun g => g.sequence < f.sequence)

/-- The order of the frames returned so far, those ready, and the numbers buffered. -/
structure Ordered (returned : List MediaFrame) (s : UdpDownlink) : Prop where
  keyed : ∀ n f, s.reorder.get? n = some f → f.sequence = n
  apart : ∀ n ∈ s.nonAudioSequences, s.reorder.get? n = none
  single : s.nonAudioSequences.Nodup
  above : ∀ n, s.Buffered n → s.expectedDownlink ≤ n
  sorted : (returned ++ s.ready).Pairwise (fun f g => f.sequence < g.sequence)
  below : ∀ f ∈ returned ++ s.ready, f.sequence < s.expectedDownlink

/-- What releasing numbers does to a state. -/
structure Released (returned : List MediaFrame) (s t : UdpDownlink) : Prop where
  ordered : Ordered returned t
  holds : ∀ f, s.Holds f → t.Holds f
  rank : ∀ f, s.Holds f → t.rank f ≤ s.rank f
  buffered : ∀ n, t.Buffered n → s.Buffered n
  fewer : t.buffered ≤ s.buffered
  deadline : t.buffered ≠ 0 → t.reorderDeadlineAt = s.reorderDeadlineAt
  replay : t.replay = s.replay
  waiting : t.waiting = s.waiting

section
variable {returned : List MediaFrame} {s t u : UdpDownlink} {f : MediaFrame} {n fuel : Nat}

theorem buffered_eq_zero (h : s.buffered = 0) : s.reorder.size = 0 ∧ s.nonAudioSequences = [] := by
  rw [buffered, Nat.add_eq_zero_iff, List.length_eq_zero_iff] at h
  exact h

theorem not_buffered_of_zero (h : s.buffered = 0) (n : Nat) : ¬s.Buffered n := by
  obtain ⟨hsize, hnil⟩ := buffered_eq_zero h
  simp [Buffered, Dict.get?_of_size_zero hsize, hnil]

theorem mem_pending : n ∈ s.pending ↔ s.Buffered n := by
  rw [pending, List.mem_append, Dict.key_mem_iff, Buffered]

theorem Released.refl (h : Ordered returned s) : Released returned s s where
  ordered := h
  holds _ hf := hf
  rank _ _ := le_rfl
  buffered _ hn := hn
  fewer := le_rfl
  deadline _ := rfl
  replay := rfl
  waiting := rfl

theorem Released.trans (h : Released returned s t) (h' : Released returned t u) : Released returned s u where
  ordered := h'.ordered
  holds f hf := h'.holds f (h.holds f hf)
  rank f hf := (h'.rank f (h.holds f hf)).trans (h.rank f hf)
  buffered n hn := h.buffered n (h'.buffered n hn)
  fewer := h'.fewer.trans h.fewer
  deadline hu := by
    have ht : t.buffered ≠ 0 := by
      have := h'.fewer
      omega
    rw [h'.deadline hu, h.deadline ht]
  replay := h'.replay.trans h.replay
  waiting := h'.waiting.trans h.waiting

theorem released_settle (h : Ordered returned s) : Released returned s s.settleDeadline := by
  rw [settleDeadline]
  split_ifs with hempty
  · have hzero : s.buffered = 0 := by simp [buffered, hempty]
    exact ⟨⟨h.keyed, h.apart, h.single, h.above, h.sorted, h.below⟩, fun _ hf => hf, fun _ _ => le_rfl,
      fun _ hn => hn, le_rfl, fun hne => absurd hzero hne, rfl, rfl⟩
  · exact Released.refl h

/-- The number expected next leaves the buffer as one that carries no audio. -/
def skipNumber (s : UdpDownlink) : UdpDownlink :=
  { s with
    nonAudioSequences := s.nonAudioSequences.erase s.expectedDownlink
    expectedDownlink := s.expectedDownlink + 1 }

/-- The frame expected next becomes ready. -/
def readyFrame (s : UdpDownlink) (f : MediaFrame) : UdpDownlink :=
  { s with
    ready := s.ready ++ [f]
    reorder := s.reorder.erase s.expectedDownlink
    expectedDownlink := s.expectedDownlink + 1 }

theorem buffered_skipNumber (hn : s.expectedDownlink ∈ s.nonAudioSequences) :
    s.skipNumber.buffered < s.buffered := by
  have hlength := List.length_erase_of_mem hn
  have hpos := List.length_pos_of_mem hn
  simp only [buffered, skipNumber]
  omega

theorem released_skip (h : Ordered returned s) (hn : s.expectedDownlink ∈ s.nonAudioSequences) :
    Released returned s s.skipNumber := by
  have hsub : ∀ n, s.skipNumber.Buffered n → s.Buffered n ∧ n ≠ s.expectedDownlink := by
    rintro n (hr | hm)
    · refine ⟨.inl hr, ?_⟩
      rintro rfl
      rw [skipNumber, h.apart _ hn] at hr
      cases hr
    · obtain ⟨hne, hmem⟩ := h.single.mem_erase_iff.mp hm
      exact ⟨.inr hmem, hne⟩
  constructor
  case ordered =>
    constructor
    · exact h.keyed
    · exact fun n hn => h.apart n (List.mem_of_mem_erase hn)
    · exact h.single.erase _
    · intro n hn
      obtain ⟨hb, hne⟩ := hsub n hn
      have := h.above n hb
      simp only [skipNumber]
      omega
    · exact h.sorted
    · exact fun f hf => Nat.lt_succ_of_lt (h.below f hf)
  case holds => exact fun f hf => hf
  case rank =>
    intro f _
    simp only [UdpDownlink.rank, skipNumber]
    omega
  case buffered => exact fun n hn => (hsub n hn).1
  case fewer => exact (buffered_skipNumber hn).le
  case deadline => exact fun _ => rfl
  case replay => rfl
  case waiting => rfl

theorem buffered_readyFrame (hf : s.reorder.get? s.expectedDownlink = some f) :
    (s.readyFrame f).buffered < s.buffered := by
  have := s.reorder.size_erase_lt hf
  simp only [buffered, readyFrame]
  omega

theorem released_ready (h : Ordered returned s) (hf : s.reorder.get? s.expectedDownlink = some f) :
    Released returned s (s.readyFrame f) := by
  have hseq : f.sequence = s.expectedDownlink := h.keyed _ f hf
  have hget : ∀ n g, (s.readyFrame f).reorder.get? n = some g →
      s.reorder.get? n = some g ∧ n ≠ s.expectedDownlink := by
    intro n g hg
    by_cases hne : n = s.expectedDownlink
    · simp [readyFrame, hne] at hg
    · rw [readyFrame, Dict.get?_erase_ne _ hne] at hg
      exact ⟨hg, hne⟩
  have hsub : ∀ n, (s.readyFrame f).Buffered n → s.Buffered n ∧ n ≠ s.expectedDownlink := by
    rintro n (hr | hm)
    · obtain ⟨g, hg⟩ := Option.isSome_iff_exists.mp hr
      obtain ⟨hg', hne⟩ := hget n g hg
      exact ⟨.inl (by rw [hg']; rfl), hne⟩
    · refine ⟨.inr hm, ?_⟩
      rintro rfl
      rw [h.apart _ hm] at hf
      cases hf
  constructor
  case ordered =>
    constructor
    · exact fun n g hg => h.keyed n g (hget n g hg).1
    · intro n hn
      by_cases hne : n = s.expectedDownlink
      · simp [readyFrame, hne]
      · rw [readyFrame, Dict.get?_erase_ne _ hne]
        exact h.apart n hn
    · exact h.single
    · intro n hn
      obtain ⟨hb, hne⟩ := hsub n hn
      have := h.above n hb
      simp only [readyFrame]
      omega
    · rw [readyFrame, ← List.append_assoc, List.pairwise_append]
      refine ⟨h.sorted, List.pairwise_singleton _ _, ?_⟩
      intro g hg f' hf'
      rw [List.mem_singleton.mp hf', hseq]
      exact h.below g hg
    · intro g hg
      rw [readyFrame, ← List.append_assoc, List.mem_append, List.mem_singleton] at hg
      simp only [readyFrame]
      obtain hg | rfl := hg
      · exact Nat.lt_succ_of_lt (h.below g hg)
      · omega
  case holds =>
    rintro g (hg | hg)
    · exact .inl (List.mem_append_left _ hg)
    · by_cases hne : g.sequence = s.expectedDownlink
      · rw [hne, hf, Option.some.injEq] at hg
        subst hg
        exact .inl (List.mem_append_right _ List.mem_cons_self)
      · refine .inr ?_
        rw [readyFrame, Dict.get?_erase_ne _ hne]
        exact hg
  case rank =>
    intro g _
    simp only [UdpDownlink.rank, readyFrame, List.countP_append, List.countP_singleton, hseq]
    split_ifs with hlt
    · have := of_decide_eq_true hlt
      omega
    · omega
  case buffered => exact fun n hn => (hsub n hn).1
  case fewer => exact (buffered_readyFrame hf).le
  case deadline => exact fun _ => rfl
  case replay => rfl
  case waiting => rfl

/-- Releasing never adds to the buffer, and takes out the number expected next. -/
theorem buffered_loop (fuel : Nat) (s : UdpDownlink) :
    (releaseLoop fuel s).buffered ≤ s.buffered ∧
      (fuel ≠ 0 → s.Buffered s.expectedDownlink → (releaseLoop fuel s).buffered < s.buffered) := by
  have hsettle : ∀ s : UdpDownlink, s.settleDeadline.buffered = s.buffered := by
    intro s
    rw [settleDeadline]
    split_ifs <;> rfl
  induction fuel generalizing s with
  | zero => exact ⟨(hsettle s).le, fun h => absurd rfl h⟩
  | succ fuel ih =>
    rw [releaseLoop]
    split_ifs with hskip
    · have hless := (ih s.skipNumber).1.trans_lt (buffered_skipNumber hskip)
      exact ⟨hless.le, fun _ _ => hless⟩
    · cases hget : s.reorder.get? s.expectedDownlink with
      | some f =>
        have hless := (ih (s.readyFrame f)).1.trans_lt (buffered_readyFrame hget)
        exact ⟨hless.le, fun _ _ => hless⟩
      | none =>
        refine ⟨(hsettle s).le, ?_⟩
        rintro - (hr | hm)
        · rw [hget] at hr
          cases hr
        · exact absurd hm hskip

/-- The loop releases what is contiguous: the number expected next is not buffered then. -/
theorem released_loop (h : Ordered returned s) (hfuel : s.buffered ≤ fuel) :
    Released returned s (releaseLoop fuel s) ∧
      ¬(releaseLoop fuel s).Buffered (releaseLoop fuel s).expectedDownlink := by
  induction fuel generalizing s with
  | zero =>
    have hrel := released_settle h
    exact ⟨hrel, fun hb => not_buffered_of_zero (Nat.le_zero.mp hfuel) _ (hrel.buffered _ hb)⟩
  | succ fuel ih =>
    rw [releaseLoop]
    split_ifs with hskip
    · have hless := buffered_skipNumber hskip
      have hrel := released_skip h hskip
      obtain ⟨hrest, hstrict⟩ := ih hrel.ordered (by omega)
      exact ⟨hrel.trans hrest, hstrict⟩
    · cases hget : s.reorder.get? s.expectedDownlink with
      | some f =>
        have hless := buffered_readyFrame hget
        have hrel := released_ready h hget
        obtain ⟨hrest, hstrict⟩ := ih hrel.ordered (by omega)
        exact ⟨hrel.trans hrest, hstrict⟩
      | none =>
        have hrel := released_settle h
        have hexpected : s.settleDeadline.expectedDownlink = s.expectedDownlink := by
          rw [settleDeadline]
          split_ifs <;> rfl
        refine ⟨hrel, ?_⟩
        rw [hexpected]
        intro hb
        obtain hr | hm := hrel.buffered _ hb
        · rw [hget] at hr
          cases hr
        · exact hskip hm

theorem released_contiguous (h : Ordered returned s) :
    Released returned s s.releaseContiguous ∧ ¬s.releaseContiguous.Buffered s.releaseContiguous.expectedDownlink :=
  released_loop h le_rfl

theorem pending_eq_nil (h : s.pending = []) : s.buffered = 0 := by
  obtain ⟨hkeys, hnon⟩ := List.append_eq_nil_iff.mp h
  rw [buffered, Dict.size, List.map_eq_nil_iff.mp hkeys, hnon]
  rfl

/-- The least number that is buffered. -/
theorem first_spec {first : Nat} (h : s.pending.min? = some first) :
    s.Buffered first ∧ ∀ n, s.Buffered n → first ≤ n := by
  obtain ⟨hmem, hle⟩ := List.min?_eq_some_iff.mp h
  exact ⟨mem_pending.mp hmem, fun n hn => hle n (mem_pending.mpr hn)⟩

theorem first_none (h : s.pending.min? = none) : s.buffered = 0 := pending_eq_nil (List.min?_eq_none_iff.mp h)

/-- The numbers before the least one that is buffered are given up. -/
def skipTo (s : UdpDownlink) (first : Nat) : UdpDownlink := { s with expectedDownlink := first }

theorem released_skipTo {first : Nat} (h : Ordered returned s) (hfirst : s.pending.min? = some first) :
    Released returned s (s.skipTo first) := by
  obtain ⟨hb, hle⟩ := first_spec hfirst
  have honward := h.above first hb
  constructor
  case ordered =>
    exact ⟨h.keyed, h.apart, h.single, hle, h.sorted, fun f hf => (h.below f hf).trans_le honward⟩
  case holds => exact fun f hf => hf
  case rank =>
    intro f _
    simp only [UdpDownlink.rank, skipTo]
    omega
  case buffered => exact fun n hn => hn
  case fewer => exact le_rfl
  case deadline => exact fun _ => rfl
  case replay => rfl
  case waiting => rfl

theorem buffered_gap (s : UdpDownlink) :
    s.releaseGap.buffered ≤ s.buffered ∧ (s.buffered ≠ 0 → s.releaseGap.buffered < s.buffered) := by
  rw [releaseGap]
  cases hfirst : s.pending.min? with
  | none => exact ⟨le_rfl, fun hne => absurd (first_none hfirst) hne⟩
  | some first =>
    obtain ⟨hle, hless⟩ := buffered_loop s.buffered (s.skipTo first)
    exact ⟨hle, fun hne => hless hne (first_spec hfirst).1⟩

/-- Giving up a gap brings every frame nearer that is still buffered. -/
theorem released_gap (h : Ordered returned s) (hstrict : ¬s.Buffered s.expectedDownlink) :
    Released returned s s.releaseGap ∧ ¬s.releaseGap.Buffered s.releaseGap.expectedDownlink ∧
      ∀ f, s.reorder.get? f.sequence = some f → s.releaseGap.rank f < s.rank f := by
  rw [releaseGap]
  cases hfirst : s.pending.min? with
  | none =>
    refine ⟨Released.refl h, hstrict, ?_⟩
    intro f hf
    rw [Dict.get?_of_size_zero (buffered_eq_zero (first_none hfirst)).1] at hf
    cases hf
  | some first =>
    have hskip := released_skipTo h hfirst
    obtain ⟨hrest, hdone⟩ := released_contiguous hskip.ordered
    obtain ⟨hb, hle⟩ := first_spec hfirst
    refine ⟨hskip.trans hrest, hdone, ?_⟩
    intro f hf
    have hnear : (s.skipTo first).rank f < s.rank f := by
      have honward := h.above first hb
      have hne : first ≠ s.expectedDownlink := by
        rintro rfl
        exact hstrict hb
      have hlast : first ≤ f.sequence := hle _ (.inl (by rw [hf]; rfl))
      simp only [UdpDownlink.rank, skipTo]
      omega
    exact (hrest.rank f (.inr hf)).trans_lt hnear

/-- What holds between two steps. A number that is buffered has been used up, so it
comes only once, and as long as something is buffered the wait has a deadline. -/
structure Settled (returned : List MediaFrame) (s : UdpDownlink) : Prop where
  ordered : Ordered returned s
  strict : ¬s.Buffered s.expectedDownlink
  armed : s.buffered ≠ 0 → s.reorderDeadlineAt.isSome
  spent : ReplayWindow.Marks s.replay s.Buffered

/-- A step on the way that returns nothing: what was held stays held, and comes no later. -/
structure Carries (returned : List MediaFrame) (s t : UdpDownlink) : Prop where
  settled : Settled returned t
  holds : ∀ f, s.Holds f → t.Holds f
  rank : ∀ f, s.Holds f → t.rank f ≤ s.rank f
  few : s.buffered < 4 → t.buffered < 4

theorem Carries.refl (h : Settled returned s) : Carries returned s s :=
  ⟨h, fun _ hf => hf, fun _ _ => le_rfl, id⟩

theorem Carries.trans (h : Carries returned s t) (h' : Carries returned t u) : Carries returned s u where
  settled := h'.settled
  holds f hf := h'.holds f (h.holds f hf)
  rank f hf := (h'.rank f (h.holds f hf)).trans (h.rank f hf)
  few hs := h'.few (h.few hs)

theorem carries_gap (h : Settled returned s) : Carries returned s s.releaseGap := by
  obtain ⟨hrel, hstrict, -⟩ := released_gap h.ordered h.strict
  refine ⟨⟨hrel.ordered, hstrict, ?_, ?_⟩, hrel.holds, hrel.rank, hrel.fewer.trans_lt⟩
  · intro hne
    rw [hrel.deadline hne]
    apply h.armed
    have := hrel.fewer
    omega
  · rw [hrel.replay]
    exact h.spent.mono hrel.buffered

theorem carries_overdue (h : Settled returned s) (now : Time) : Carries returned s (s.releaseOverdue now) := by
  rw [releaseOverdue]
  split_ifs
  · exact carries_gap h
  · exact Carries.refl h

theorem armReorderDeadline_eq (s : UdpDownlink) (now : Time) :
    ∃ deadline, s.armReorderDeadline now = { s with reorderDeadlineAt := deadline } := by
  rw [armReorderDeadline]
  cases s.pending.min? with
  | none => exact ⟨_, rfl⟩
  | some first =>
    dsimp only
    split_ifs
    · exact ⟨_, rfl⟩
    · exact ⟨_, rfl⟩

/-- With a gap before everything that is buffered there is a deadline. -/
theorem armReorderDeadline_isSome (h : Ordered returned s) (hstrict : ¬s.Buffered s.expectedDownlink)
    (hne : s.buffered ≠ 0) (now : Time) : (s.armReorderDeadline now).reorderDeadlineAt.isSome := by
  rw [armReorderDeadline]
  cases hfirst : s.pending.min? with
  | none => exact absurd (first_none hfirst) hne
  | some first =>
    obtain ⟨hb, -⟩ := first_spec hfirst
    have honward := h.above first hb
    have hfar : first ≠ s.expectedDownlink := by
      rintro rfl
      exact hstrict hb
    dsimp only
    split_ifs with harm
    · rfl
    · rw [Option.isSome_iff_ne_none]
      exact fun hnone => harm ⟨by omega, hnone⟩

/-- A buffer that has become full gives up its first gap, so it never stays full. -/
theorem afterBuffering_few (hfew : s.buffered ≤ 4) (now : Time) : (s.afterBuffering now).buffered < 4 := by
  have hle : s.releaseContiguous.buffered ≤ s.buffered := (buffered_loop _ s).1
  obtain ⟨deadline, harm⟩ := armReorderDeadline_eq s.releaseContiguous now
  have hgap := (buffered_gap (s.releaseContiguous.armReorderDeadline now)).2
  have hsame : (s.releaseContiguous.armReorderDeadline now).buffered = s.releaseContiguous.buffered := by
    rw [harm]
    rfl
  rw [afterBuffering]
  split_ifs with hfull
  · have := hgap (by omega)
    omega
  · omega

/-- Once the number is in, what has become contiguous is released. -/
theorem carries_afterBuffering (h : Ordered returned s) (hfew : u.buffered < 4 → s.buffered ≤ 4)
    (hspent : ReplayWindow.Marks s.replay s.Buffered) (hholds : ∀ f, u.Holds f → s.Holds f)
    (hrank : ∀ f, s.rank f = u.rank f) (now : Time) : Carries returned u (s.afterBuffering now) := by
  obtain ⟨hrel, hstrict⟩ := released_contiguous h
  have hsome := fun hne => armReorderDeadline_isSome hrel.ordered hstrict hne now
  obtain ⟨deadline, harm⟩ := armReorderDeadline_eq s.releaseContiguous now
  have hready : Carries returned s (s.releaseContiguous.armReorderDeadline now) := by
    rw [harm] at hsome ⊢
    obtain ⟨hkeyed, hapart, hsingle, habove, hsorted, hbelow⟩ := hrel.ordered
    refine ⟨⟨⟨hkeyed, hapart, hsingle, habove, hsorted, hbelow⟩, hstrict, hsome, ?_⟩, hrel.holds, hrel.rank,
      hrel.fewer.trans_lt⟩
    have hmarks := hspent.mono hrel.buffered
    rw [← hrel.replay] at hmarks
    exact hmarks
  have hdone : Carries returned s (s.afterBuffering now) := by
    rw [afterBuffering]
    split_ifs
    · exact hready.trans (carries_gap hready.settled)
    · exact hready
  exact ⟨hdone.settled, fun f hf => hdone.holds f (hholds f hf),
    fun f hf => (hdone.rank f (hholds f hf)).trans (hrank f).le,
    fun hu => afterBuffering_few (hfew hu) now⟩

/-- A number that has just been used up, for a frame that is not buffered yet. -/
structure InHand (returned : List MediaFrame) (s : UdpDownlink) (n : Nat) : Prop where
  settled : Settled returned s
  free : ¬s.Buffered n
  spent : ReplayWindow.Marks s.replay (fun k => s.Buffered k ∨ k = n)

theorem carries_bufferNonAudio (h : InHand returned s n) (now : Time) :
    Carries returned s (s.bufferNonAudio n now) := by
  obtain ⟨⟨hordered, hstrict, harmed, hspent⟩, hfree, hmarks⟩ := h
  rw [bufferNonAudio]
  split_ifs with hlow
  · exact Carries.refl ⟨hordered, hstrict, harmed, hspent⟩
  · have hnot : n ∉ s.nonAudioSequences := fun hm => hfree (.inr hm)
    have hnone : s.reorder.get? n = none := Option.not_isSome_iff_eq_none.mp fun hr => hfree (.inl hr)
    have hsub : ∀ k, ({ s with nonAudioSequences := s.nonAudioSequences.insert n } : UdpDownlink).Buffered k →
        s.Buffered k ∨ k = n := by
      rintro k (hr | hm)
      · exact .inl (.inl hr)
      · rw [List.mem_insert_iff] at hm
        obtain rfl | hm := hm
        · exact .inr rfl
        · exact .inl (.inr hm)
    apply carries_afterBuffering
    case h =>
      constructor
      · exact hordered.keyed
      · intro k hk
        obtain rfl | hk := List.mem_insert_iff.mp hk
        · exact hnone
        · exact hordered.apart k hk
      · exact hordered.single.insert
      · intro k hk
        obtain hb | rfl := hsub k hk
        · exact hordered.above k hb
        · exact Nat.le_of_not_lt hlow
      · exact hordered.sorted
      · exact hordered.below
    case hfew =>
      intro hfew
      simp only [buffered, List.length_insert_of_not_mem hnot] at hfew ⊢
      omega
    case hspent => exact hmarks.mono hsub
    case hholds => exact fun f hf => hf
    case hrank => exact fun f => rfl

theorem checkFreshness_eq {now : Time} (h : s.checkFreshness f now = some t) :
    ∃ fresh, t = { s with fresh := fresh } := by
  rw [checkFreshness] at h
  cases hfresh : s.fresh with
  | none =>
    rw [hfresh] at h
    exact ⟨_, (Option.some.inj h).symm⟩
  | some fresh =>
    rw [hfresh] at h
    dsimp only at h
    split_ifs at h
    · exact ⟨_, (Option.some.inj h).symm⟩
    · exact ⟨s.fresh, (Option.some.inj h).symm⟩

/-- A frame in hand that is buffered is held, unless its number has been passed over. -/
theorem carries_buffer {now armNow : Time} (h : InHand returned s f.sequence)
    (hbuffer : s.buffer f now armNow = some t) :
    Carries returned s t ∧ (s.expectedDownlink ≤ f.sequence → t.Holds f) := by
  rw [buffer, Option.map_eq_some_iff] at hbuffer
  obtain ⟨s', hfresh, rfl⟩ := hbuffer
  obtain ⟨fresh, rfl⟩ := checkFreshness_eq hfresh
  obtain ⟨⟨⟨hkeyed, hapart, hsingle, habove, hsorted, hbelow⟩, hstrict, harmed, hspent⟩, hfree, hmarks⟩ := h
  dsimp only
  split_ifs with hlow
  · refine ⟨⟨⟨⟨hkeyed, hapart, hsingle, habove, hsorted, hbelow⟩, hstrict, harmed, hspent⟩, fun _ hf => hf,
      fun _ _ => le_rfl, id⟩, ?_⟩
    exact fun hle => absurd hlow (Nat.not_lt.mpr hle)
  · have hnot : f.sequence ∉ s.nonAudioSequences := fun hm => hfree (.inr hm)
    have hnone : s.reorder.get? f.sequence = none := Option.not_isSome_iff_eq_none.mp fun hr => hfree (.inl hr)
    have hset : ∀ k, (s.reorder.set f.sequence f).get? k = if k = f.sequence then some f else s.reorder.get? k :=
      fun k => Dict.get?_set _ _ _ _
    have hsub : ∀ k, (∃ g, (s.reorder.set f.sequence f).get? k = some g) ∨ k ∈ s.nonAudioSequences →
        s.Buffered k ∨ k = f.sequence := by
      rintro k (⟨g, hg⟩ | hm)
      · rw [hset] at hg
        split_ifs at hg with hk
        · exact .inr hk
        · exact .inl (.inl (by rw [hg]; rfl))
      · exact .inl (.inr hm)
    set s' : UdpDownlink := { s with fresh := fresh, reorder := s.reorder.set f.sequence f } with hs'
    have hordered : Ordered returned s' := by
      constructor
      · intro k g hg
        rw [hs', hset] at hg
        split_ifs at hg with hk
        · rw [hk, Option.some.inj hg]
        · exact hkeyed k g hg
      · intro k hk
        have hne : k ≠ f.sequence := by
          rintro rfl
          exact hnot hk
        rw [hs', hset, if_neg hne]
        exact hapart k hk
      · exact hsingle
      · intro k hk
        rw [Buffered, Option.isSome_iff_exists] at hk
        obtain hb | rfl := hsub k hk
        · exact habove k hb
        · exact Nat.le_of_not_lt hlow
      · exact hsorted
      · exact hbelow
    have hholds : ∀ g, s.Holds g → s'.Holds g := by
      rintro g (hg | hg)
      · exact .inl hg
      · refine .inr ?_
        have hne : g.sequence ≠ f.sequence := by
          intro heq
          rw [heq, hnone] at hg
          cases hg
        rw [hs', hset, if_neg hne]
        exact hg
    have hmine : s'.Holds f := .inr (by rw [hs', hset, if_pos rfl])
    have hcarries : ∀ u : UdpDownlink, (u.buffered < 4 → s'.buffered ≤ 4) → (∀ g, u.Holds g → s'.Holds g) →
        (∀ g, s'.rank g = u.rank g) → Carries returned u (s'.afterBuffering armNow) := by
      intro u hfew huh hrank
      apply carries_afterBuffering hordered hfew ?_ huh hrank
      exact hmarks.mono fun k hk => hsub k (by rwa [Buffered, Option.isSome_iff_exists] at hk)
    refine ⟨hcarries s ?_ hholds (fun g => rfl), fun _ => ?_⟩
    · intro hfew
      simp only [buffered, hs', Dict.size, Dict.entries_set_of_none _ _ hnone, List.length_append,
        List.length_singleton] at hfew ⊢
      omega
    · exact (hcarries s' (fun h => h.le) (fun _ hg => hg) (fun _ => rfl)).holds f hmine

theorem bufferNonAudio_few (h : s.buffered < 4) (n : Nat) (now : Time) : (s.bufferNonAudio n now).buffered < 4 := by
  rw [bufferNonAudio]
  split_ifs
  · exact h
  · apply afterBuffering_few
    have hlength : (s.nonAudioSequences.insert n).length ≤ s.nonAudioSequences.length + 1 := by
      rw [List.length_insert]
      split_ifs
      · exact Nat.le_succ _
      · exact le_rfl
    simp only [buffered] at h ⊢
    omega

theorem buffer_few {now armNow : Time} (h : s.buffered < 4) (hbuffer : s.buffer f now armNow = some t) :
    t.buffered < 4 := by
  rw [buffer, Option.map_eq_some_iff] at hbuffer
  obtain ⟨s', hfresh, rfl⟩ := hbuffer
  obtain ⟨fresh, rfl⟩ := checkFreshness_eq hfresh
  dsimp only
  split_ifs
  · exact h
  · apply afterBuffering_few
    have hsize := s.reorder.size_set_le f.sequence f
    simp only [buffered] at h ⊢
    omega

end

end UdpDownlink

end RealtimeVoice.Desktop
