import RealtimeVoice.Base.Runs
import RealtimeVoice.Firmware.JitterBuffer

namespace RealtimeVoice.Firmware

open RealtimeVoice.Base.Runs RealtimeVoice.Firmware.Wire

theorem length_filterMap_id_le {α : Type} (slots : List (Option α)) : (slots.filterMap id).length ≤ slots.length :=
  List.length_filterMap_le _ _

/-- There is no unused place only if every place is used. -/
theorem length_of_place_none {α : Type} {x : α} {slots : List (Option α)} (h : place x slots = none) :
    (slots.filterMap id).length = slots.length := by
  induction slots with
  | nil => rfl
  | cons slot slots ih =>
    cases slot with
    | none => cases h
    | some other =>
      rw [place, Option.map_eq_none_iff] at h
      rw [List.filterMap_cons, id, List.length_cons, ih h, List.length_cons]

theorem length_of_place_some {α : Type} {x : α} {slots slots' : List (Option α)} (h : place x slots = some slots') :
    slots'.length = slots.length := by
  induction slots generalizing slots' with
  | nil => cases h
  | cons slot slots ih =>
    cases slot with
    | none =>
      rw [place] at h
      obtain rfl := Option.some.inj h
      rfl
    | some other =>
      rw [place, Option.map_eq_some_iff] at h
      obtain ⟨rest, hrest, rfl⟩ := h
      rw [List.length_cons, List.length_cons, ih hrest]

theorem length_clearSlot (sequence : UInt32) (slots : List (Option Slot)) :
    (clearSlot sequence slots).length = slots.length := by
  induction slots with
  | nil => rfl
  | cons slot slots ih =>
    cases slot with
    | none => rw [clearSlot, List.length_cons, ih, List.length_cons]
    | some slot =>
      rw [clearSlot]
      split_ifs
      · rfl
      · rw [List.length_cons, ih, List.length_cons]

theorem findSlot_eq_none {sequence : UInt32} {slots : List (Option Slot)} :
    findSlot sequence slots = none ↔ ∀ slot ∈ slots.filterMap id, slot.sequence ≠ sequence := by
  rw [findSlot, List.find?_eq_none]
  simp

/-- The slot that `Pop` waits for is one of the slots in use, and there is one if any has a higher number. -/
theorem firstAfter_cases (expected : UInt32) (slots : List (Option Slot)) :
    (firstAfter expected slots = none ∧ ∀ slot ∈ slots.filterMap id, ¬expected < slot.sequence) ∨
      ∃ first ∈ slots.filterMap id, firstAfter expected slots = some first := by
  rw [firstAfter]
  generalize slots.filterMap id = used
  have hfold : ∀ (used : List Slot) (init : Option Slot), ∃ found, used.foldl (fun first slot =>
      if slot.sequence > expected ∧ first.all (fun f => slot.sequence < f.sequence) then some slot else first) init =
        found ∧ (found = init ∧ (init = none → ∀ slot ∈ used, ¬expected < slot.sequence) ∨ ∃ first ∈ used, found = some first) := by
    intro used
    induction used with
    | nil => exact fun init => ⟨init, rfl, .inl ⟨rfl, by simp⟩⟩
    | cons slot used ih =>
      intro init
      rw [List.foldl_cons]
      split_ifs with hslot
      · obtain ⟨found, hfound, ⟨rfl, -⟩ | ⟨first, hfirst, rfl⟩⟩ := ih (some slot)
        · exact ⟨_, hfound, .inr ⟨slot, List.mem_cons_self, rfl⟩⟩
        · exact ⟨_, hfound, .inr ⟨first, List.mem_cons_of_mem _ hfirst, rfl⟩⟩
      · obtain ⟨found, hfound, ⟨rfl, hnone⟩ | ⟨first, hfirst, rfl⟩⟩ := ih init
        · refine ⟨_, hfound, .inl ⟨rfl, ?_⟩⟩
          rintro rfl other hother
          obtain rfl | hother := List.mem_cons.mp hother
          · simpa using hslot
          · exact hnone rfl other hother
        · exact ⟨_, hfound, .inr ⟨first, List.mem_cons_of_mem _ hfirst, rfl⟩⟩
  obtain ⟨found, hfound, ⟨rfl, hnone⟩ | ⟨first, hfirst, rfl⟩⟩ := hfold used none
  · exact .inl ⟨hfound, hnone rfl⟩
  · exact .inr ⟨first, hfirst, hfound⟩

namespace JitterBuffer

/-- The buffer once the slot with the expected number is cleared. -/
def advance (b : JitterBuffer) : JitterBuffer :=
  { b with slots := clearSlot b.expected b.slots, expected := b.expected + 1 }

/-- The rounds of the loop of `Pop`, to its end. -/
inductive Loops (nowUs : Int) : JitterBuffer → JitterBuffer × PlayoutFrame → Prop
  | leaves {b : JitterBuffer} (h : findSlot b.expected b.slots = none) : Loops nowUs b (b.conceal nowUs)
  | audio {b : JitterBuffer} {slot : Slot} (h : findSlot b.expected b.slots = some slot) (hkind : slot.kind = .audio) :
      Loops nowUs b (b.advance, audioFrame slot)
  | control {b : JitterBuffer} {slot : Slot} {out : JitterBuffer × PlayoutFrame}
      (h : findSlot b.expected b.slots = some slot) (hkind : slot.kind = .control) (hrest : Loops nowUs b.advance out) :
      Loops nowUs b out

variable {b b' : JitterBuffer} {slot : Slot} {nowUs : Int}

theorem popLoop_loops (fuel : Nat) (h : b.used.length ≤ fuel) (nowUs : Int) : Loops nowUs b (popLoop fuel b nowUs) := by
  induction fuel generalizing b with
  | zero =>
    rw [popLoop]
    apply Loops.leaves
    rw [findSlot_eq_none]
    intro slot hslot
    have hempty : b.used = [] := List.eq_nil_of_length_eq_zero (Nat.le_zero.mp h)
    rw [used] at hempty
    rw [hempty] at hslot
    cases hslot
  | succ fuel ih =>
    rw [popLoop]
    cases hfind : findSlot b.expected b.slots with
    | none => exact .leaves hfind
    | some slot =>
      have hlength := (findSlot_some hfind).2.length_eq
      dsimp only
      split_ifs with hkind
      · apply Loops.control hfind hkind
        apply ih
        simp only [used, advance] at h ⊢
        rw [List.length_cons] at hlength
        omega
      · apply Loops.audio hfind
        cases hk : slot.kind with
        | audio => rfl
        | control => exact absurd hk hkind

/-- `Pop` comes to an end. -/
theorem pop_loops (h : b.cursorInitialized = true) (nowUs : Int) : Loops nowUs b (b.pop nowUs) := by
  rw [pop, if_neg (by simp [h])]
  exact popLoop_loops _ (length_filterMap_id_le _) nowUs

/-- The audio in the buffer, as it will be played. -/
def heldAudio (b : JitterBuffer) : List PlayoutFrame := (b.used.filter (fun slot => slot.kind = .audio)).map audioFrame

structure Windowed (b : JitterBuffer) : Prop where
  length : b.slots.length = slotCount
  distinct : (b.used.map Slot.sequence).Nodup
  window : ∀ slot ∈ b.used, b.expected ≤ slot.sequence ∧ slot.sequence.toNat < b.expected.toNat + slotCount
  generation : ∀ slot ∈ b.used, slot.generation = b.generation
  below : ∀ slot ∈ b.used, slot.sequence ≠ 0xFFFFFFFF
  cursor : b.cursorInitialized = false → b.used = []

theorem toNat_succ {n : UInt32} (h : n ≠ 0xFFFFFFFF) : (n + 1).toNat = n.toNat + 1 := by
  have hne : n.toNat ≠ 4294967295 := fun heq => h (UInt32.toNat_inj.mp heq)
  have hlt := n.toNat_lt
  rw [UInt32.toNat_add]
  exact Nat.mod_eq_of_lt (by simp; omega)

theorem Windowed.advance (h : b.Windowed) (hfind : findSlot b.expected b.slots = some slot) :
    b.advance.Windowed ∧ b.used.Perm (slot :: b.advance.used) ∧ slot.sequence = b.expected ∧
      b.advance.expected.toNat = b.expected.toNat + 1 := by
  obtain ⟨hsequence, hperm⟩ := findSlot_some hfind
  change b.used.Perm (slot :: b.advance.used) at hperm
  have hmem : slot ∈ b.used := hperm.symm.subset List.mem_cons_self
  have hrest : ∀ other ∈ b.advance.used, other ∈ b.used := fun other hother =>
    hperm.symm.subset (List.mem_cons_of_mem _ hother)
  have hexpected : b.advance.expected.toNat = b.expected.toNat + 1 := toNat_succ (hsequence ▸ h.below slot hmem)
  have hdistinct := (hperm.map Slot.sequence).nodup_iff.mp h.distinct
  rw [List.map_cons, List.nodup_cons] at hdistinct
  refine ⟨⟨?_, hdistinct.2, ?_, fun other hother => h.generation other (hrest other hother),
    fun other hother => h.below other (hrest other hother), ?_⟩, hperm, hsequence, hexpected⟩
  · exact (length_clearSlot _ _).trans h.length
  · intro other hother
    obtain ⟨hle, hlt⟩ := h.window other (hrest other hother)
    have hne : other.sequence ≠ slot.sequence := by
      intro heq
      exact hdistinct.1 (heq ▸ List.mem_map_of_mem hother)
    rw [hsequence] at hne
    rw [UInt32.le_iff_toNat_le] at hle ⊢
    have hne' : other.sequence.toNat ≠ b.expected.toNat := fun heq => hne (UInt32.toNat_inj.mp heq)
    omega
  · intro hcursor
    rw [h.cursor hcursor] at hmem
    cases hmem

/-- What `Pop` did to the buffer. -/
structure PopDone (nowUs : Int) (b b' : JitterBuffer) (frame : PlayoutFrame) : Prop where
  windowed : b'.Windowed
  generation : b'.generation = b.generation
  cursor : b'.cursorInitialized = b.cursorInitialized
  used : ∀ slot ∈ b'.used, slot ∈ b.used
  forward : b.expected.toNat ≤ b'.expected.toNat
  yields : frame.kind ≠ .none → b.expected.toNat ≤ frame.sequence.toNat ∧ frame.sequence.toNat < b'.expected.toNat
  audio : b.heldAudio.Perm ([frame].filter (fun frame => frame.kind = .audio) ++ b'.heldAudio)
  late : (∀ slot ∈ b.used, slot.arrivedUs + waitUs ≤ nowUs) → frame.kind = .none → b'.used = []

theorem PopDone.nothing (h : b.Windowed)
    (hlate : (∀ slot ∈ b.used, slot.arrivedUs + waitUs ≤ nowUs) → b.used = []) : PopDone nowUs b b {} :=
  ⟨h, rfl, rfl, fun _ hslot => hslot, Nat.le_refl _, fun hne => absurd rfl hne, .refl _, fun hall _ => hlate hall⟩

theorem conceal_done (h : b.Windowed) (hfind : findSlot b.expected b.slots = none) (nowUs : Int) :
    PopDone nowUs b (b.conceal nowUs).1 (b.conceal nowUs).2 := by
  have habsent : ∀ slot ∈ b.used, b.expected < slot.sequence := by
    intro slot hslot
    have hne := findSlot_eq_none.mp hfind slot hslot
    exact UInt32.lt_of_le_of_ne (h.window slot hslot).1 hne.symm
  rw [conceal]
  obtain ⟨hnone, hnothing⟩ | ⟨first, hfirst, hsome⟩ := firstAfter_cases b.expected b.slots
  · rw [hnone]
    apply PopDone.nothing h
    intro _
    apply List.eq_nil_iff_forall_not_mem.mpr
    intro slot hslot
    exact hnothing slot hslot (habsent slot hslot)
  · rw [hsome]
    dsimp only
    by_cases hwait : nowUs - first.arrivedUs < waitUs
    · rw [if_pos hwait]
      apply PopDone.nothing h
      intro hlate
      have hold := hlate first hfirst
      omega
    · rw [if_neg hwait]
      have hlt := habsent first hfirst
      have hne : b.expected ≠ 0xFFFFFFFF := by
        rintro heq
        rw [heq, UInt32.lt_iff_toNat_lt] at hlt
        have hbound := first.sequence.toNat_lt
        simp at hlt
        omega
      have hnext := toNat_succ hne
      refine ⟨⟨h.length, h.distinct, ?_, h.generation, h.below, h.cursor⟩, rfl, rfl, fun _ hslot => hslot, ?_, ?_,
        .refl _, fun _ hkind => by cases hkind⟩
      · intro slot hslot
        have hafter := habsent slot hslot
        obtain ⟨-, hbound⟩ := h.window slot hslot
        rw [UInt32.lt_iff_toNat_lt] at hafter
        rw [UInt32.le_iff_toNat_le]
        dsimp only
        omega
      · dsimp only
        omega
      · intro _
        dsimp only
        omega

theorem Loops.done {out : JitterBuffer × PlayoutFrame} (hloops : Loops nowUs b out) (h : b.Windowed) :
    PopDone nowUs b out.1 out.2 := by
  induction hloops with
  | leaves hfind => exact conceal_done h hfind nowUs
  | @audio b slot hfind hkind =>
    obtain ⟨hwindowed, hperm, hsequence, hnext⟩ := h.advance hfind
    refine ⟨hwindowed, rfl, rfl, ?_, ?_, ?_, ?_, ?_⟩
    · intro other hother
      exact hperm.symm.subset (List.mem_cons_of_mem _ hother)
    · dsimp only
      omega
    · intro _
      dsimp only [audioFrame]
      rw [hsequence]
      omega
    · have hheld := (hperm.filter (fun slot => slot.kind = .audio)).map audioFrame
      simpa [heldAudio, hkind, audioFrame] using hheld
    · intro _ hnone
      cases hnone
  | @control b slot out hfind hkind _ ih =>
    obtain ⟨hwindowed, hperm, -, hnext⟩ := h.advance hfind
    have hdone := ih hwindowed
    have hrest : ∀ other ∈ b.advance.used, other ∈ b.used := fun other hother =>
      hperm.symm.subset (List.mem_cons_of_mem _ hother)
    refine ⟨hdone.windowed, hdone.generation, hdone.cursor, fun other hother => hrest other (hdone.used other hother), ?_,
      ?_, ?_, fun hlate => hdone.late fun other hother => hlate other (hrest other hother)⟩
    · have hforward := hdone.forward
      omega
    · intro hne
      obtain ⟨hle, hlt⟩ := hdone.yields hne
      exact ⟨by omega, hlt⟩
    · have hheld := (hperm.filter (fun slot => slot.kind = .audio)).map audioFrame
      have hsame : b.heldAudio.Perm b.advance.heldAudio := by simpa [heldAudio, hkind] using hheld
      exact hsame.trans hdone.audio

theorem pop_done (h : b.Windowed) (nowUs : Int) : PopDone nowUs b (b.pop nowUs).1 (b.pop nowUs).2 := by
  obtain hcursor | hcursor := Bool.eq_false_or_eq_true b.cursorInitialized
  · exact (pop_loops hcursor nowUs).done h
  · rw [pop, if_pos hcursor]
    exact .nothing h fun _ => h.cursor hcursor

/-- Late enough pops empty the buffer, four of them at most. -/
theorem pops_empty (h : b.Windowed) (times : List Int) (hlate : ∀ nowUs ∈ times, ∀ slot ∈ b.used, slot.arrivedUs + waitUs ≤ nowUs) :
    ∀ slot ∈ (times.foldl (fun b nowUs => (b.pop nowUs).1) b).used,
      slot ∈ b.used ∧ b.expected.toNat + times.length ≤ slot.sequence.toNat := by
  induction times generalizing b with
  | nil =>
    intro slot hslot
    exact ⟨hslot, by simpa [UInt32.le_iff_toNat_le] using (h.window slot hslot).1⟩
  | cons nowUs times ih =>
    have hdone := pop_done h nowUs
    intro slot hslot
    obtain ⟨hmem, hfar⟩ := ih hdone.windowed (fun later hlater other hother =>
      hlate later (List.mem_cons_of_mem _ hlater) other (hdone.used other hother)) slot hslot
    refine ⟨hdone.used slot hmem, ?_⟩
    by_cases hnone : (b.pop nowUs).2.kind = .none
    · rw [hdone.late (hlate nowUs List.mem_cons_self) hnone] at hmem
      cases hmem
    · obtain ⟨hle, hlt⟩ := hdone.yields hnone
      rw [List.length_cons]
      omega

/-- A number in the window that no slot has finds an unused slot. -/
theorem Windowed.place (h : b.Windowed) (hcursor : b.cursorInitialized = true) (hgeneration : slot.generation = b.generation)
    (hle : b.expected.toNat ≤ slot.sequence.toNat) (hlt : slot.sequence.toNat < b.expected.toNat + slotCount)
    (hbelow : slot.sequence ≠ 0xFFFFFFFF) (hnew : findSlot slot.sequence b.slots = none) :
    ∃ slots, place slot b.slots = some slots ∧ { b with slots := slots }.Windowed ∧
      { b with slots := slots }.used.Perm (slot :: b.used) := by
  have hfresh : slot.sequence ∉ b.used.map Slot.sequence := by
    intro hmem
    obtain ⟨other, hother, heq⟩ := List.mem_map.mp hmem
    exact findSlot_eq_none.mp hnew other hother heq
  -- the numbers in use and the new one are different numbers of the window
  have hroom : b.used.length < slotCount := by
    have hnodup : ((slot.sequence :: b.used.map Slot.sequence).map UInt32.toNat).Nodup :=
      (List.nodup_cons.mpr ⟨hfresh, h.distinct⟩).map fun _ _ heq => UInt32.toNat_inj.mp heq
    have hsubset : (slot.sequence :: b.used.map Slot.sequence).map UInt32.toNat ⊆
        List.range' b.expected.toNat slotCount := by
      intro n hn
      rw [List.mem_range'_1]
      obtain ⟨sequence, hsequence, rfl⟩ := List.mem_map.mp hn
      obtain rfl | hsequence := List.mem_cons.mp hsequence
      · exact ⟨hle, hlt⟩
      · obtain ⟨other, hother, rfl⟩ := List.mem_map.mp hsequence
        obtain ⟨hfrom, hto⟩ := h.window other hother
        exact ⟨UInt32.le_iff_toNat_le.mp hfrom, hto⟩
    have hlength := (hnodup.subperm hsubset).length_le
    rw [List.length_map, List.length_cons, List.length_map, List.length_range'] at hlength
    exact hlength
  cases hplace : Firmware.place slot b.slots with
  | none =>
    have hfull : b.used.length = b.slots.length := length_of_place_none hplace
    rw [h.length] at hfull
    omega
  | some slots =>
    have hperm : { b with slots := slots }.used.Perm (slot :: b.used) := place_perm hplace
    have hused : ∀ other ∈ { b with slots := slots }.used, other = slot ∨ other ∈ b.used := fun other hother =>
      List.mem_cons.mp (hperm.subset hother)
    refine ⟨slots, rfl, ⟨(length_of_place_some hplace).trans h.length, ?_, ?_, ?_, ?_, ?_⟩, hperm⟩
    · rw [(hperm.map Slot.sequence).nodup_iff]
      exact List.nodup_cons.mpr ⟨hfresh, h.distinct⟩
    · intro other hother
      obtain rfl | hother := hused other hother
      · exact ⟨UInt32.le_iff_toNat_le.mpr hle, hlt⟩
      · exact h.window other hother
    · intro other hother
      obtain rfl | hother := hused other hother
      · exact hgeneration
      · exact h.generation other hother
    · intro other hother
      obtain rfl | hother := hused other hother
      · exact hbelow
      · exact h.below other hother
    · intro hnone
      exact absurd (hcursor.symm.trans hnone) (by decide)

/-- The number is so far ahead that the buffer starts over there. -/
def resyncs (b : JitterBuffer) (slot : Slot) : Bool :=
  slot.generation = b.generation && b.cursorInitialized && b.expected ≤ slot.sequence && slot.sequence - b.expected ≥ 4

/-- What `Reserve` did to the buffer. -/
structure Reserved (b : JitterBuffer) (slot : Slot) (b' : JitterBuffer) (result : JitterInsertResult) : Prop where
  windowed : b'.Windowed
  notFull : result ≠ .full
  generation : b'.generation = b.generation
  forward : b.cursorInitialized = true → b'.cursorInitialized = true ∧ b.expected.toNat ≤ b'.expected.toNat
  used : b'.used.Perm ((if result = .accepted then [slot] else []) ++ if b.resyncs slot then [] else b.used)

/-- A number within the window is taken in unless a slot has it already. -/
theorem reserve_near (h : b.Windowed) (hcursor : b.cursorInitialized = true) (hgeneration : slot.generation = b.generation)
    (hle : b.expected ≤ slot.sequence) (hlt : slot.sequence.toNat < b.expected.toNat + slotCount)
    (hbelow : slot.sequence ≠ 0xFFFFFFFF) :
    (b.reserve slot).1.Windowed ∧ (b.reserve slot).2 ≠ .full ∧ (b.reserve slot).1.generation = b.generation ∧
      (b.reserve slot).1.cursorInitialized = true ∧ (b.reserve slot).1.expected = b.expected ∧
      (b.reserve slot).1.used.Perm ((if (b.reserve slot).2 = .accepted then [slot] else []) ++ b.used) := by
  have hfar : ¬slot.sequence - b.expected ≥ 4 := by
    rw [ge_iff_le, UInt32.le_iff_toNat_le, UInt32.toNat_sub_of_le _ _ hle]
    simp only [slotCount] at hlt
    simp
    omega
  rw [reserve, if_neg (by simp [hgeneration]), if_pos hcursor]
  dsimp only
  rw [if_neg (UInt32.not_lt.mpr hle), if_neg hfar]
  cases hfind : findSlot slot.sequence b.slots with
  | some other => exact ⟨h, by simp, rfl, hcursor, rfl, .refl _⟩
  | none =>
    obtain ⟨slots, hplace, hwindowed, hperm⟩ :=
      h.place hcursor hgeneration (UInt32.le_iff_toNat_le.mp hle) hlt hbelow hfind
    rw [hplace]
    exact ⟨hwindowed, by simp, rfl, hcursor, rfl, hperm⟩

/-- Before the first number the cursor starts there. -/
theorem reserve_first (hgeneration : slot.generation = b.generation) (hcursor : b.cursorInitialized = false) :
    b.reserve slot = { b with expected := slot.sequence, cursorInitialized := true }.reserve slot := by
  simp [reserve, hgeneration, hcursor]

/-- Far ahead the buffer starts over at the number. -/
theorem reserve_far (hgeneration : slot.generation = b.generation) (hcursor : b.cursorInitialized = true)
    (hle : b.expected ≤ slot.sequence) (hfar : slot.sequence - b.expected ≥ 4) :
    b.reserve slot =
      (JitterBuffer.mk b.clear.slots b.clear.generation slot.sequence b.clear.cursorInitialized).reserve slot := by
  simp [reserve, clear, hgeneration, hcursor, UInt32.not_lt.mpr hle, hfar]

theorem windowed_clear (b : JitterBuffer) (expected : UInt32) :
    (JitterBuffer.mk b.clear.slots b.clear.generation expected b.clear.cursorInitialized).Windowed := by
  refine ⟨rfl, .nil, ?_, ?_, ?_, fun _ => rfl⟩ <;> intro slot hslot <;> cases hslot

theorem reserve_done (h : b.Windowed) (hbelow : slot.sequence ≠ 0xFFFFFFFF) :
    Reserved b slot (b.reserve slot).1 (b.reserve slot).2 := by
  have hat : ∀ n : Nat, n < n + slotCount := fun n => Nat.lt_add_of_pos_right (by decide)
  by_cases hgeneration : slot.generation = b.generation
  · obtain hcursor | hcursor := Bool.eq_false_or_eq_true b.cursorInitialized
    · by_cases hle : b.expected ≤ slot.sequence
      · by_cases hfar : slot.sequence - b.expected ≥ 4
        · have hresync : b.resyncs slot = true := by simp [resyncs, hgeneration, hcursor, hle, hfar]
          obtain ⟨hwindowed, hfull, hgen, hinit, hexpected, hperm⟩ :=
            reserve_near (windowed_clear b slot.sequence) hcursor hgeneration (UInt32.le_refl _) (hat _) hbelow
          rw [reserve_far hgeneration hcursor hle hfar]
          refine ⟨hwindowed, hfull, hgen, fun _ => ⟨hinit, ?_⟩, ?_⟩
          · rw [hexpected]
            exact UInt32.le_iff_toNat_le.mp hle
          · rw [if_pos hresync]
            exact hperm
        · have hresync : b.resyncs slot = false := by simp [resyncs, hfar]
          have hlt : slot.sequence.toNat < b.expected.toNat + slotCount := by
            rw [ge_iff_le, UInt32.le_iff_toNat_le, UInt32.toNat_sub_of_le _ _ hle] at hfar
            simp only [slotCount]
            simp at hfar
            omega
          obtain ⟨hwindowed, hfull, hgen, hinit, hexpected, hperm⟩ := reserve_near h hcursor hgeneration hle hlt hbelow
          refine ⟨hwindowed, hfull, hgen, fun _ => ⟨hinit, by rw [hexpected]⟩, ?_⟩
          rw [hresync]
          exact hperm
      · have hresync : b.resyncs slot = false := by simp [resyncs, hle]
        rw [reserve, if_neg (by simp [hgeneration]), if_pos hcursor]
        dsimp only
        rw [if_pos (UInt32.not_le.mp hle)]
        exact ⟨h, by simp, rfl, fun hcursor => ⟨hcursor, Nat.le_refl _⟩, by simp [hresync]⟩
    · have hempty := h.cursor hcursor
      have hstarted : { b with expected := slot.sequence, cursorInitialized := true }.Windowed := by
        refine ⟨h.length, h.distinct, ?_, h.generation, h.below, fun hnone => by cases hnone⟩
        intro other hother
        change other ∈ b.used at hother
        rw [hempty] at hother
        cases hother
      have hresync : b.resyncs slot = false := by simp [resyncs, hcursor]
      obtain ⟨hwindowed, hfull, hgen, hinit, -, hperm⟩ :=
        reserve_near hstarted rfl hgeneration (UInt32.le_refl _) (hat _) hbelow
      rw [reserve_first hgeneration hcursor]
      refine ⟨hwindowed, hfull, hgen, fun hnone => ?_, ?_⟩
      · rw [hcursor] at hnone
        cases hnone
      · rw [hresync]
        exact hperm
  · rw [reserve, if_pos hgeneration]
    exact ⟨h, by simp, rfl, fun hcursor => ⟨hcursor, Nat.le_refl _⟩, by simp [resyncs, hgeneration]⟩

inductive Op
  | insertAudio (sequence timestamp generation : UInt32) (payload : Bytes) (arrivedUs : Int)
  | insertControl (sequence generation : UInt32) (arrivedUs : Int)
  | pop (nowUs : Int)
  | reset (generation : UInt32)
  | beginAt (sequence : UInt32)
deriving DecidableEq

inductive Reply
  | inserted (result : JitterInsertResult)
  | popped (frame : PlayoutFrame)
  | done
deriving DecidableEq

def call (b : JitterBuffer) : Op → JitterBuffer × Reply
  | .insertAudio sequence timestamp generation payload arrivedUs =>
    (b.insertAudio sequence timestamp generation payload arrivedUs).map id .inserted
  | .insertControl sequence generation arrivedUs => (b.insertControl sequence generation arrivedUs).map id .inserted
  | .pop nowUs => (b.pop nowUs).map id .popped
  | .reset generation => (b.reset generation, .done)
  | .beginAt sequence => (b.beginAt sequence, .done)

/-- The audio that an operation clears: all of it by a `Reset` or by starting over far ahead. -/
def clears (b : JitterBuffer) : Op → List PlayoutFrame
  | .insertAudio sequence timestamp generation payload arrivedUs =>
    if payload.length = 0 ∨ payload.length > maxPayloadBytes then []
    else if b.resyncs ⟨.audio, sequence, timestamp, generation, arrivedUs, payload⟩ then b.heldAudio else []
  | .insertControl sequence generation arrivedUs =>
    if b.resyncs ⟨.control, sequence, 0, generation, arrivedUs, []⟩ then b.heldAudio else []
  | .reset _ => b.heldAudio
  | _ => []

/-- What is seen of an operation, with the audio it cleared. -/
structure Seen where
  reply : Reply
  cleared : List PlayoutFrame
deriving DecidableEq

def observe (b : JitterBuffer) (op : Op) : JitterBuffer × Seen := ((b.call op).1, ⟨(b.call op).2, b.clears op⟩)

abbrev Event := Op × Seen

/-- Numbers stay below the last one, and `BeginAt` is for an empty buffer. -/
def Proper (b : JitterBuffer) : Op → Prop
  | .insertAudio sequence .. => sequence ≠ 0xFFFFFFFF
  | .insertControl sequence .. => sequence ≠ 0xFFFFFFFF
  | .beginAt sequence => b.used = [] ∧ sequence ≠ 0xFFFFFFFF
  | _ => True

def Step (b : JitterBuffer) (e : Event) (b' : JitterBuffer) : Prop := Proper b e.1 ∧ Answers observe b e b'

namespace Event

/-- The frame of an accepted audio packet. -/
def accepted : Event → List PlayoutFrame
  | (.insertAudio sequence timestamp generation payload arrivedUs, ⟨.inserted .accepted, _⟩) =>
    [audioFrame ⟨.audio, sequence, timestamp, generation, arrivedUs, payload⟩]
  | _ => []

/-- The frame that `Pop` yielded. -/
def yielded (e : Event) : List PlayoutFrame :=
  match e.2.reply with
  | .popped frame => if frame.kind = .none then [] else [frame]
  | _ => []

/-- `Reset`, or `BeginAt` at or below a number: the cursor can be behind the number afterwards. -/
def takesBack (sequence : UInt32) (e : Event) : Bool :=
  match e.1 with
  | .reset _ => true
  | .beginAt start => start ≤ sequence
  | _ => false

end Event

def accepted (es : List Event) : List PlayoutFrame := es.flatMap Event.accepted

def yielded (es : List Event) : List PlayoutFrame := es.flatMap Event.yielded

def cleared (es : List Event) : List PlayoutFrame := es.flatMap (fun e => e.2.cleared)

def onlyAudio (frames : List PlayoutFrame) : List PlayoutFrame := frames.filter (fun frame => frame.kind = .audio)

/-- The cursor is past a number. -/
def Past (b : JitterBuffer) (sequence : UInt32) : Prop :=
  b.cursorInitialized = true ∧ sequence.toNat < b.expected.toNat

theorem Past.mono {sequence : UInt32} (h : b.Past sequence)
    (hforward : b.cursorInitialized = true → b'.cursorInitialized = true ∧ b.expected.toNat ≤ b'.expected.toNat) :
    b'.Past sequence :=
  ⟨(hforward h.1).1, h.2.trans_le (hforward h.1).2⟩

/-- What a step does: it keeps the window, never finds the buffer full, accounts for the audio,
yields between the old cursor and the new one, and stays past every number it does not go back to. -/
structure Stepped (b : JitterBuffer) (e : Event) (b' : JitterBuffer) : Prop where
  windowed : b'.Windowed
  notFull : e.2.reply ≠ .inserted .full
  audio : (e.accepted ++ b.heldAudio).Perm (onlyAudio e.yielded ++ e.2.cleared ++ b'.heldAudio)
  yields : ∀ frame ∈ e.yielded, b.expected.toNat ≤ frame.sequence.toNat ∧ b'.Past frame.sequence
  forward : ∀ sequence, e.takesBack sequence = false → b.Past sequence → b'.Past sequence

/-- A step that yields nothing. -/
theorem Stepped.silent {e : Event} (hwindowed : b'.Windowed) (hfull : e.2.reply ≠ .inserted .full) (hyielded : e.yielded = [])
    (haudio : (e.accepted ++ b.heldAudio).Perm (e.2.cleared ++ b'.heldAudio))
    (hforward : ∀ sequence, e.takesBack sequence = false → b.Past sequence → b'.Past sequence) : Stepped b e b' := by
  refine ⟨hwindowed, hfull, ?_, ?_, hforward⟩
  · rw [hyielded]
    exact haudio
  · rw [hyielded]
    intro frame hframe
    cases hframe

theorem reserve_stepped (slot : Slot) (h : b.Windowed) (hbelow : slot.sequence ≠ 0xFFFFFFFF) {op : Op}
    (hcall : b.call op = ((b.reserve slot).1, .inserted (b.reserve slot).2)) (hclears : b.clears op =
      if b.resyncs slot then b.heldAudio else [])
    (haccepted : ∀ result cleared, Event.accepted (op, ⟨.inserted result, cleared⟩) =
      if result = .accepted ∧ slot.kind = .audio then [audioFrame slot] else []) :
    Stepped b (op, (b.observe op).2) (b.observe op).1 := by
  have hdone := reserve_done h hbelow
  rw [observe, hcall, hclears]
  refine .silent hdone.windowed ?_ rfl ?_ (fun _ _ hpast => hpast.mono hdone.forward)
  · intro hfull
    exact hdone.notFull (Reply.inserted.inj hfull)
  · have hheld := (hdone.used.filter (fun slot => slot.kind = .audio)).map audioFrame
    rw [haccepted]
    have hnew : (b.reserve slot).1.heldAudio.Perm
        ((if (b.reserve slot).2 = .accepted ∧ slot.kind = .audio then [audioFrame slot] else []) ++
          if b.resyncs slot then [] else b.heldAudio) := by
      refine hheld.trans (.of_eq ?_)
      rw [List.filter_append, List.map_append]
      congr 1
      · split_ifs <;> simp_all
      · split_ifs <;> rfl
    change List.Perm _ ((if b.resyncs slot then b.heldAudio else []) ++ (b.reserve slot).1.heldAudio)
    cases hresync : b.resyncs slot with
    | true =>
      rw [hresync, if_pos rfl, List.append_nil] at hnew
      rw [if_pos rfl]
      exact List.perm_append_comm.trans (hnew.symm.append_left _)
    | false =>
      rw [hresync] at hnew
      exact hnew.symm

theorem step_stepped {e : Event} (h : b.Windowed) (hstep : Step b e b') : Stepped b e b' := by
  obtain ⟨op, seen⟩ := e
  obtain ⟨hproper, hanswer⟩ := hstep
  change b.observe op = (b', seen) at hanswer
  have hpair : b' = (b.observe op).1 ∧ seen = (b.observe op).2 := by
    rw [hanswer]
    exact ⟨rfl, rfl⟩
  obtain ⟨rfl, rfl⟩ := hpair
  cases op with
  | insertAudio sequence timestamp generation payload arrivedUs =>
    by_cases hpayload : payload.length = 0 ∨ payload.length > maxPayloadBytes
    · have hcall : b.observe (.insertAudio sequence timestamp generation payload arrivedUs) =
          (b, ⟨.inserted .outOfWindow, []⟩) := by
        rw [observe, call, insertAudio, if_pos hpayload, clears, if_pos hpayload]
        rfl
      rw [hcall]
      exact .silent h (by simp) rfl (.refl _) (fun _ _ hpast => hpast)
    · refine reserve_stepped ⟨.audio, sequence, timestamp, generation, arrivedUs, payload⟩ h hproper ?_ ?_ ?_
      · rw [call, insertAudio, if_neg hpayload]
        rfl
      · rw [clears, if_neg hpayload]
      · intro result cleared
        cases result <;> rfl
  | insertControl sequence generation arrivedUs =>
    refine reserve_stepped ⟨.control, sequence, 0, generation, arrivedUs, []⟩ h hproper ?_ ?_ ?_
    · rfl
    · rw [clears]
    · intro result cleared
      simp [Event.accepted]
  | pop nowUs =>
    have hdone := pop_done h nowUs
    have hyielded : Event.yielded (.pop nowUs, (b.observe (.pop nowUs)).2) =
        if (b.pop nowUs).2.kind = .none then [] else [(b.pop nowUs).2] := rfl
    have haudio : onlyAudio (if (b.pop nowUs).2.kind = .none then [] else [(b.pop nowUs).2]) =
        [(b.pop nowUs).2].filter (fun frame => frame.kind = .audio) := by
      rw [onlyAudio]
      split_ifs with hnone
      · simp [hnone]
      · rfl
    have hforward : b.cursorInitialized = true →
        (b.pop nowUs).1.cursorInitialized = true ∧ b.expected.toNat ≤ (b.pop nowUs).1.expected.toNat :=
      fun hcursor => ⟨hdone.cursor.trans hcursor, hdone.forward⟩
    refine ⟨hdone.windowed, by simp [observe, call], ?_, ?_, fun _ _ hpast => hpast.mono hforward⟩
    · rw [hyielded, haudio]
      exact hdone.audio.trans (.of_eq (congrArg (· ++ _) (List.append_nil _).symm))
    · rw [hyielded]
      intro frame hframe
      split_ifs at hframe with hnone
      · cases hframe
      · rw [List.mem_singleton.mp hframe]
        have hcursor : b.cursorInitialized = true := by
          rw [← Bool.not_eq_false]
          intro hstill
          rw [pop, if_pos hstill] at hnone
          exact hnone rfl
        exact ⟨(hdone.yields hnone).1, (hforward hcursor).1, (hdone.yields hnone).2⟩
  | reset generation =>
    have hreset : (b.reset generation).Windowed := by
      refine ⟨rfl, .nil, ?_, ?_, ?_, fun _ => rfl⟩ <;> intro slot hslot <;> cases hslot
    exact .silent hreset (by simp [observe, call]) rfl (.of_eq (List.append_nil _).symm) (fun _ hno => by cases hno)
  | beginAt sequence =>
    have hempty : b.used = [] := hproper.1
    have hnone : ∀ slot, slot ∉ (b.beginAt sequence).used := by
      intro slot hslot
      change slot ∈ b.used at hslot
      rw [hempty] at hslot
      cases hslot
    have hbegun : (b.beginAt sequence).Windowed := by
      refine ⟨h.length, h.distinct, ?_, ?_, ?_, fun hno => by cases hno⟩ <;>
        exact fun slot hslot => absurd hslot (hnone slot)
    refine .silent hbegun (by simp [observe, call]) rfl (.refl _) ?_
    -- the cursor begins above the number
    intro below hback _
    rw [Event.takesBack, decide_eq_false_iff_not, UInt32.not_le, UInt32.lt_iff_toNat_lt] at hback
    exact ⟨rfl, hback⟩

theorem accepted_snoc (es : List Event) (e : Event) : accepted (es ++ [e]) = accepted es ++ e.accepted := by
  simp [accepted]

theorem yielded_snoc (es : List Event) (e : Event) : yielded (es ++ [e]) = yielded es ++ e.yielded := by
  simp [yielded]

theorem cleared_snoc (es : List Event) (e : Event) : cleared (es ++ [e]) = cleared es ++ e.2.cleared := by
  simp [cleared]

/-- What holds after every run. -/
structure Accounted (es : List Event) (b : JitterBuffer) : Prop where
  windowed : b.Windowed
  notFull : ∀ e ∈ es, e.2.reply ≠ .inserted .full
  audio : (accepted es).Perm (onlyAudio (yielded es) ++ cleared es ++ b.heldAudio)

theorem Accounted.snoc {es : List Event} {e : Event} (h : Accounted es b) (hstep : Stepped b e b') :
    Accounted (es ++ [e]) b' := by
  refine ⟨hstep.windowed, ?_, ?_⟩
  · intro f hf
    obtain hf | hf := List.mem_append.mp hf
    · exact h.notFull f hf
    · rw [List.mem_singleton.mp hf]
      exact hstep.notFull
  · rw [List.perm_iff_count]
    intro frame
    have hbefore := h.audio.count_eq frame
    have hnow := hstep.audio.count_eq frame
    simp only [accepted_snoc, yielded_snoc, cleared_snoc, onlyAudio, List.filter_append, List.count_append] at hbefore hnow ⊢
    omega

theorem run_accounted {es : List Event} (h : Run Step {} es b) : Accounted es b := by
  refine h.invariant (R := Accounted) ?_ ?_
  · refine ⟨⟨rfl, .nil, ?_, ?_, ?_, fun _ => rfl⟩, by simp, .refl _⟩ <;> intro slot hslot <;> cases hslot
  · intro es b e b' _ haccounted hstep
    exact haccounted.snoc (step_stepped haccounted.windowed hstep)

theorem run_past {es : List Event} {sequence : UInt32} (h : Run Step b es b') (hwindowed : b.Windowed)
    (hpast : b.Past sequence) (hkept : ∀ e ∈ es, e.takesBack sequence = false) : b'.Past sequence := by
  have hboth : b'.Windowed ∧ ((∀ e ∈ es, e.takesBack sequence = false) → b'.Past sequence) := by
    refine h.invariant (R := fun es t => t.Windowed ∧ ((∀ e ∈ es, e.takesBack sequence = false) → t.Past sequence))
      ⟨hwindowed, fun _ => hpast⟩ ?_
    rintro fs t e u - ⟨ht, hkeeps⟩ hstep
    have hstepped := step_stepped ht hstep
    refine ⟨hstepped.windowed, fun hall => ?_⟩
    exact hstepped.forward sequence (hall e (by simp)) (hkeeps fun f hf => hall f (by simp [hf]))
  exact hboth.2 hkept

/-- A later number is higher, unless the cursor was taken back to the earlier one in between. -/
theorem run_ordered {before between later : List Event} {e f : Event} {x y : PlayoutFrame}
    (h : Run Step {} (before ++ e :: (between ++ f :: later)) b) (hx : x ∈ e.yielded) (hy : y ∈ f.yielded)
    (hkept : ∀ g ∈ between, g.takesBack x.sequence = false) : x.sequence < y.sequence := by
  obtain ⟨b₀, hbefore, hrest⟩ := h.split
  obtain ⟨b₁, he, hrest⟩ := Run.cons_iff.mp hrest
  obtain ⟨b₂, hbetween, hrest⟩ := hrest.split
  obtain ⟨b₃, hf, -⟩ := Run.cons_iff.mp hrest
  have hfirst := step_stepped (run_accounted hbefore).windowed he
  have hpast := run_past hbetween hfirst.windowed (hfirst.yields x hx).2 hkept
  have hsecond := step_stepped (run_accounted ((hbefore.snoc he).trans hbetween)).windowed hf
  rw [UInt32.lt_iff_toNat_lt]
  exact hpast.2.trans_le (hsecond.yields y hy).1

/-- After every run: the slots in use have different numbers of the window and the buffer's
generation, no insertion ever found the buffer full, `Pop` ends, what it yields goes up where no
`Reset` and no `BeginAt` took the cursor back, and every accepted audio packet was yielded once,
or cleared by a reset or by starting over, or is still there, to be yielded by late enough calls
of `Pop`. -/
theorem jitter_represented {es : List Event} (h : Run Step {} es b) :
    (b.used.map Slot.sequence).Nodup ∧
    (∀ slot ∈ b.used, b.expected ≤ slot.sequence ∧ slot.sequence.toNat < b.expected.toNat + 4 ∧
      slot.generation = b.generation) ∧
    (∀ e ∈ es, e.2.reply ≠ .inserted .full) ∧
    (b.cursorInitialized = true → ∀ nowUs, Loops nowUs b (b.pop nowUs)) ∧
    (∀ before e between f later x y, es = before ++ e :: (between ++ f :: later) → x ∈ e.yielded → y ∈ f.yielded →
      (∀ g ∈ between, g.takesBack x.sequence = false) → x.sequence < y.sequence) ∧
    (accepted es).Perm (onlyAudio (yielded es) ++ cleared es ++ b.heldAudio) ∧
    ∀ times : List Int, 4 ≤ times.length → (∀ nowUs ∈ times, ∀ slot ∈ b.used, slot.arrivedUs + waitUs ≤ nowUs) →
      (after observe b (times.map .pop)).used = [] := by
  have haccounted := run_accounted h
  have hwindowed := haccounted.windowed
  refine ⟨hwindowed.distinct, ?_, haccounted.notFull, fun hcursor nowUs => pop_loops hcursor nowUs, ?_,
    haccounted.audio, ?_⟩
  · intro slot hslot
    exact ⟨(hwindowed.window slot hslot).1, (hwindowed.window slot hslot).2, hwindowed.generation slot hslot⟩
  · rintro before e between f later x y rfl hx hy hkept
    exact run_ordered h hx hy hkept
  · intro times hfour hlate
    apply List.eq_nil_iff_forall_not_mem.mpr
    intro slot hslot
    rw [after, List.foldl_map] at hslot
    obtain ⟨hmem, hfar⟩ := pops_empty hwindowed times hlate slot hslot
    have hbound := (hwindowed.window slot hmem).2
    simp only [slotCount] at hbound
    omega

/-- A packet comes early and is played after the missing one is concealed. -/
def demoOps : List Op :=
  [.insertAudio 5 0 1 [1] 0, .pop 0, .insertAudio 7 1920 1 [2] 0, .pop 0, .pop 120000, .pop 120000]

instance (b : JitterBuffer) (op : Op) : Decidable (Proper b op) := by
  cases op <;> simp only [Proper] <;> infer_instance

theorem jitter_represented_demo :
    (accepted (history observe {} demoOps)).Perm (onlyAudio (yielded (history observe {} demoOps))) := by
  have hrun : Run Step {} (history observe {} demoOps) (after observe {} demoOps) :=
    run_history_along (P := Proper) (by decide +kernel)
  have haudio := (jitter_represented hrun).2.2.2.2.2.1
  have hcleared : cleared (history observe {} demoOps) ++ (after observe {} demoOps).heldAudio = [] := by decide +kernel
  rwa [List.append_assoc, hcleared, List.append_nil] at haudio

/-- `BeginAt` can take an empty buffer back behind what it has yielded. -/
def backOps : List Op := [.insertAudio 5 0 1 [1] 0, .pop 0, .beginAt 3, .insertAudio 3 0 1 [2] 0, .pop 0]

def Event.resets (e : Event) : Bool :=
  match e.1 with
  | .reset _ => true
  | _ => false

theorem beginAt_goes_back : ¬∀ (es : List Event) (b : JitterBuffer), Run Step {} es b →
    (yielded (since Event.resets es)).Pairwise (fun x y => x.sequence < y.sequence) := by
  intro hclaim
  have hrun : Run Step {} (history observe {} backOps) (after observe {} backOps) :=
    run_history_along (P := Proper) (by decide +kernel)
  have hordered := hclaim _ _ hrun
  revert hordered
  decide +kernel

end JitterBuffer

end RealtimeVoice.Firmware
