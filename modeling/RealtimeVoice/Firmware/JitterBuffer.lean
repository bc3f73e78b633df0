import RealtimeVoice.Firmware.UdpWire

namespace RealtimeVoice.Firmware

open RealtimeVoice.Firmware.Wire

inductive PlayoutKind
  | none | audio | plc
deriving DecidableEq

inductive JitterInsertResult
  | accepted | late | duplicate | outOfWindow | full
deriving DecidableEq

structure PlayoutFrame where
  kind : PlayoutKind := .none
  sequence : UInt32 := 0
  timestamp : UInt32 := 0
  generation : UInt32 := 0
  arrivedUs : Int := 0
  payload : Bytes := []
deriving DecidableEq

inductive SlotKind
  | audio | control
deriving DecidableEq

/-- A used slot. -/
structure Slot where
  kind : SlotKind
  sequence : UInt32
  timestamp : UInt32
  generation : UInt32
  arrivedUs : Int
  payload : Bytes
deriving DecidableEq

def slotCount : Nat := 4
def waitUs : Int := 120000
def samplesPerFrame : UInt32 := 960

/-- The buffer; an unused slot is `none`, as `ClearSlot` leaves nothing in it. -/
structure JitterBuffer where
  slots : List (Option Slot) := List.replicate slotCount none
  generation : UInt32 := 1
  expected : UInt32 := 0
  cursorInitialized : Bool := false
deriving DecidableEq

/-- Fills the first unused place of a fixed array. -/
def place {α : Type} (x : α) : List (Option α) → Option (List (Option α))
  | [] => none
  | none :: slots => some (some x :: slots)
  | some other :: slots => (place x slots).map (some other :: ·)

/-- Clears the first used slot with the given number. -/
def clearSlot (sequence : UInt32) : List (Option Slot) → List (Option Slot)
  | [] => []
  | none :: slots => none :: clearSlot sequence slots
  | some slot :: slots => if slot.sequence = sequence then none :: slots else some slot :: clearSlot sequence slots

/-- The first used slot with the given number. -/
def findSlot (sequence : UInt32) (slots : List (Option Slot)) : Option Slot :=
  (slots.filterMap id).find? (fun slot => slot.sequence = sequence)

/-- The used slot with the lowest number after the cursor. -/
def firstAfter (expected : UInt32) (slots : List (Option Slot)) : Option Slot :=
  (slots.filterMap id).foldl (fun first slot =>
    if slot.sequence > expected ∧ first.all (fun f => slot.sequence < f.sequence) then some slot else first) none

namespace JitterBuffer

def clear (b : JitterBuffer) : JitterBuffer := { b with slots := List.replicate slotCount none }

/-- `Reserve`, with the slot as the caller fills it. -/
def reserve (b : JitterBuffer) (slot : Slot) : JitterBuffer × JitterInsertResult :=
  if slot.generation ≠ b.generation then (b, .outOfWindow)
  else
    let b := if b.cursorInitialized then b else { b with expected := slot.sequence, cursorInitialized := true }
    if slot.sequence < b.expected then (b, .late)
    else
      let b := if slot.sequence - b.expected ≥ 4 then { b.clear with expected := slot.sequence } else b
      if (findSlot slot.sequence b.slots).isSome then (b, .duplicate)
      else
        match place slot b.slots with
        | none => (b, .full)
        | some slots => ({ b with slots := slots }, .accepted)

def insertAudio (b : JitterBuffer) (sequence timestamp generation : UInt32) (payload : Bytes) (arrivedUs : Int) :
    JitterBuffer × JitterInsertResult :=
  if payload.length = 0 ∨ payload.length > maxPayloadBytes then (b, .outOfWindow)
  else b.reserve
    { kind := .audio, sequence := sequence, timestamp := timestamp, generation := generation, arrivedUs := arrivedUs,
      payload := payload }

def insertControl (b : JitterBuffer) (sequence generation : UInt32) (arrivedUs : Int) :
    JitterBuffer × JitterInsertResult :=
  b.reserve
    { kind := .control, sequence := sequence, timestamp := 0, generation := generation, arrivedUs := arrivedUs,
      payload := [] }

def audioFrame (slot : Slot) : PlayoutFrame :=
  { kind := .audio, sequence := slot.sequence, timestamp := slot.timestamp, generation := slot.generation,
    arrivedUs := slot.arrivedUs, payload := slot.payload }

/-- The end of `Pop`, where no slot has the expected number: wait, or conceal one frame. -/
def conceal (b : JitterBuffer) (nowUs : Int) : JitterBuffer × PlayoutFrame :=
  match firstAfter b.expected b.slots with
  | none => (b, {})
  | some first =>
    if nowUs - first.arrivedUs < waitUs then (b, {})
    else
      let missing := first.sequence - b.expected
      let timestamp :=
        if first.timestamp ≥ missing * samplesPerFrame then first.timestamp - missing * samplesPerFrame else 0
      ({ b with expected := b.expected + 1 },
        { kind := .plc, sequence := b.expected, timestamp := timestamp, generation := b.generation,
          arrivedUs := first.arrivedUs })

/-- The loop of `Pop`. Every round clears a slot, so the fuel is the number of slots. -/
def popLoop : Nat → JitterBuffer → Int → JitterBuffer × PlayoutFrame
  | 0, b, nowUs => b.conceal nowUs
  | fuel + 1, b, nowUs =>
    match findSlot b.expected b.slots with
    | none => b.conceal nowUs
    | some slot =>
      let b := { b with slots := clearSlot b.expected b.slots, expected := b.expected + 1 }
      if slot.kind = .control then popLoop fuel b nowUs else (b, audioFrame slot)

def pop (b : JitterBuffer) (nowUs : Int) : JitterBuffer × PlayoutFrame :=
  if b.cursorInitialized = false then (b, {}) else popLoop b.slots.length b nowUs

def reset (_ : JitterBuffer) (generation : UInt32) : JitterBuffer := { generation := generation }

def beginAt (b : JitterBuffer) (sequence : UInt32) : JitterBuffer :=
  { b with expected := sequence, cursorInitialized := true }

end JitterBuffer

open List in
theorem place_perm {α : Type} {x : α} {slots slots' : List (Option α)} (h : place x slots = some slots') :
    slots'.filterMap id ~ x :: slots.filterMap id := by
  induction slots generalizing slots' with
  | nil => cases h
  | cons slot slots ih =>
    cases slot with
    | none =>
      rw [place] at h
      obtain rfl := Option.some.inj h
      exact .refl _
    | some other =>
      rw [place, Option.map_eq_some_iff] at h
      obtain ⟨rest, hrest, rfl⟩ := h
      exact ((ih hrest).cons other).trans (.swap x other _)

theorem clearSlot_filterMap (sequence : UInt32) (slots : List (Option Slot)) :
    (clearSlot sequence slots).filterMap id = (slots.filterMap id).eraseP (fun slot => slot.sequence = sequence) := by
  induction slots with
  | nil => rfl
  | cons slot slots ih =>
    cases slot with
    | none => simpa [clearSlot] using ih
    | some slot =>
      rw [clearSlot]
      by_cases h : slot.sequence = sequence
      · simp [h]
      · simpa [h] using ih

theorem findSlot_some {sequence : UInt32} {slots : List (Option Slot)} {slot : Slot}
    (h : findSlot sequence slots = some slot) :
    slot.sequence = sequence ∧ (slots.filterMap id).Perm (slot :: (clearSlot sequence slots).filterMap id) := by
  rw [clearSlot_filterMap]
  rw [findSlot, List.find?_eq_some_iff_append] at h
  obtain ⟨hsequence, before, rest, hslots, hbefore⟩ := h
  refine ⟨of_decide_eq_true hsequence, ?_⟩
  rw [hslots, List.eraseP_append_right _ (fun other hother => by simpa using hbefore other hother),
    List.eraseP_cons_of_pos (p := fun slot : Slot => decide (slot.sequence = sequence)) hsequence]
  exact List.perm_middle

namespace JitterBuffer

variable {b b' : JitterBuffer} {slot : Slot} {result : JitterInsertResult}

/-- The slots in use. -/
def used (b : JitterBuffer) : List Slot := b.slots.filterMap id

open List in
/-- What one insertion can do: the slots in use afterwards are among those before and
the new one, and the cursor does not go back. -/
structure Inserted (b : JitterBuffer) (slot : Slot) (b' : JitterBuffer) : Prop where
  used : b'.used <+~ slot :: b.used
  generation : b'.generation = b.generation
  current : slot ∈ b'.used → slot ∈ b.used ∨ slot.generation = b.generation
  cursor : b.cursorInitialized = true → b'.cursorInitialized = true ∧ b.expected ≤ b'.expected

theorem Inserted.same (slot : Slot) : Inserted b slot b :=
  ⟨(List.sublist_cons_self _ _).subperm, rfl, .inl, fun h => ⟨h, UInt32.le_refl _⟩⟩

theorem reserve_inserted (b : JitterBuffer) (slot : Slot) : Inserted b slot (b.reserve slot).1 := by
  rw [reserve]
  by_cases hgeneration : slot.generation ≠ b.generation
  · rw [if_pos hgeneration]
    exact .same slot
  · rw [if_neg hgeneration]
    rw [not_not] at hgeneration
    -- the cursor starts at the first number
    obtain ⟨c, hc, hused, hgen, hcursor⟩ : ∃ c, (if b.cursorInitialized then b
        else { b with expected := slot.sequence, cursorInitialized := true }) = c ∧ c.used = b.used ∧
        c.generation = b.generation ∧ (b.cursorInitialized = true → c.cursorInitialized = true ∧ c.expected = b.expected) := by
      refine ⟨_, rfl, ?_⟩
      by_cases h : b.cursorInitialized = true
      · simp [h]
      · simp [h, used]
    rw [hc]
    have hkeep : Inserted b slot c :=
      ⟨by rw [hused]; exact (List.sublist_cons_self _ _).subperm, hgen, by rw [hused]; exact .inl,
        fun h => ⟨(hcursor h).1, by rw [(hcursor h).2]; exact UInt32.le_refl _⟩⟩
    dsimp only
    by_cases hlate : slot.sequence < c.expected
    · rw [if_pos hlate]
      exact hkeep
    · rw [if_neg hlate]
      -- far ahead of the cursor the buffer starts over
      obtain ⟨d, hd, hsub, hgen', hnext⟩ : ∃ d, (if slot.sequence - c.expected ≥ 4
          then { c.clear with expected := slot.sequence } else c) = d ∧ d.used.Sublist b.used ∧
          d.generation = b.generation ∧
          (b.cursorInitialized = true → d.cursorInitialized = true ∧ b.expected ≤ d.expected) := by
        refine ⟨_, rfl, ?_⟩
        by_cases h : slot.sequence - c.expected ≥ 4
        · rw [if_pos h]
          refine ⟨List.nil_sublist _, hgen, fun hb => ⟨(hcursor hb).1, ?_⟩⟩
          rw [← (hcursor hb).2]
          exact UInt32.not_lt.mp hlate
        · rw [if_neg h, hused]
          exact ⟨.refl _, hgen, fun hb => ⟨(hcursor hb).1, by rw [(hcursor hb).2]; exact UInt32.le_refl _⟩⟩
      have hkept : Inserted b slot d :=
        ⟨hsub.subperm.trans (List.sublist_cons_self _ _).subperm, hgen', fun h => .inl (hsub.subset h), hnext⟩
      rw [hd]
      by_cases hdup : (findSlot slot.sequence d.slots).isSome = true
      · rw [if_pos hdup]
        exact hkept
      · rw [if_neg hdup]
        cases hplace : place slot d.slots with
        | none => exact hkept
        | some slots =>
          exact ⟨(place_perm hplace).subperm.trans ((hsub.cons_cons slot).subperm), hgen', fun _ => .inr hgeneration, hnext⟩

theorem insertControl_inserted (b : JitterBuffer) (sequence generation : UInt32) (arrivedUs : Int) :
    Inserted b { kind := .control, sequence, timestamp := 0, generation, arrivedUs, payload := [] }
      (b.insertControl sequence generation arrivedUs).1 :=
  reserve_inserted b _

theorem insertAudio_inserted (b : JitterBuffer) (sequence timestamp generation : UInt32) (payload : Bytes)
    (arrivedUs : Int) :
    Inserted b { kind := .audio, sequence, timestamp, generation, arrivedUs, payload }
      (b.insertAudio sequence timestamp generation payload arrivedUs).1 := by
  rw [insertAudio]
  by_cases h : payload.length = 0 ∨ payload.length > maxPayloadBytes
  · rw [if_pos h]
    exact .same _
  · rw [if_neg h]
    exact reserve_inserted b _

open List in
/-- What `Pop` can do. An audio frame is that of a slot at or after the cursor, and the
cursor moves past it. -/
structure Popped (b b' : JitterBuffer) (frame : PlayoutFrame) : Prop where
  generation : b'.generation = b.generation
  cursor : b'.cursorInitialized = b.cursorInitialized
  used : b'.used <+~ b.used
  forward : (∀ slot ∈ b.used, slot.sequence ≠ 0xFFFFFFFF) → b.expected ≤ b'.expected
  audio : frame.kind = .audio → b.cursorInitialized = true ∧ ∃ slot, slot.kind = .audio ∧ frame = audioFrame slot ∧
    slot :: b'.used <+~ b.used ∧
    ((∀ slot ∈ b.used, slot.sequence ≠ 0xFFFFFFFF) → b.expected ≤ slot.sequence ∧ slot.sequence < b'.expected)

theorem firstAfter_some {expected : UInt32} {slots : List (Option Slot)} {first : Slot}
    (h : firstAfter expected slots = some first) : expected < first.sequence := by
  have hall : ∀ (l : List Slot) (init : Option Slot), (∀ x ∈ init, expected < x.sequence) →
      ∀ x ∈ l.foldl (fun first slot => if slot.sequence > expected ∧ first.all (fun f => slot.sequence < f.sequence)
        then some slot else first) init, expected < x.sequence := by
    intro l
    induction l with
    | nil => exact fun init hinit => hinit
    | cons slot l ih =>
      intro init hinit
      rw [List.foldl_cons]
      apply ih
      by_cases hs : slot.sequence > expected ∧ init.all (fun f => slot.sequence < f.sequence)
      · rw [if_pos hs]
        intro x hx
        obtain rfl := Option.some.inj hx
        exact hs.1
      · rw [if_neg hs]
        exact hinit
  exact hall _ none (by simp) first h

theorem conceal_popped (b : JitterBuffer) (nowUs : Int) : Popped b (b.conceal nowUs).1 (b.conceal nowUs).2 := by
  have hsame : Popped b b {} :=
    ⟨rfl, rfl, .refl _, fun _ => UInt32.le_refl _, fun h => by cases h⟩
  rw [conceal]
  cases hfirst : firstAfter b.expected b.slots with
  | none => exact hsame
  | some first =>
    dsimp only
    by_cases hwait : nowUs - first.arrivedUs < waitUs
    · rw [if_pos hwait]
      exact hsame
    · rw [if_neg hwait]
      have hlt := firstAfter_some hfirst
      exact ⟨rfl, rfl, .refl _, fun _ => by dsimp only; grind, fun h => by cases h⟩

theorem popLoop_popped (fuel : Nat) (hcursor : b.cursorInitialized = true) (nowUs : Int) :
    Popped b (b.popLoop fuel nowUs).1 (b.popLoop fuel nowUs).2 := by
  induction fuel generalizing b with
  | zero => exact conceal_popped b nowUs
  | succ fuel ih =>
    rw [popLoop]
    cases hfind : findSlot b.expected b.slots with
    | none => exact conceal_popped b nowUs
    | some slot =>
      obtain ⟨hsequence, hperm⟩ := findSlot_some hfind
      have hmem : slot ∈ b.used := hperm.symm.subset List.mem_cons_self
      dsimp only
      by_cases hkind : slot.kind = .control
      · rw [if_pos hkind]
        -- a control packet only moves the cursor; the rest is the next round
        have h := ih (b := { b with slots := clearSlot b.expected b.slots, expected := b.expected + 1 }) hcursor
        have hused : (clearSlot b.expected b.slots).filterMap id ⊆ b.used :=
          fun x hx => hperm.symm.subset (List.mem_cons_of_mem _ hx)
        have hsub : List.Subperm ((clearSlot b.expected b.slots).filterMap id) b.used :=
          ((List.sublist_cons_self _ _).subperm).trans hperm.symm.subperm
        have hbound : (∀ x ∈ b.used, x.sequence ≠ 0xFFFFFFFF) → b.expected ≤ b.expected + 1 := by
          intro hb
          have := hb slot hmem
          grind
        refine ⟨h.generation, h.cursor, h.used.trans hsub, ?_, ?_⟩
        · intro hb
          exact UInt32.le_trans (hbound hb) (h.forward (fun x hx => hb x (hused hx)))
        · intro haudio
          obtain ⟨-, x, hx, hframe, hall, hnext⟩ := h.audio haudio
          refine ⟨hcursor, x, hx, hframe, hall.trans hsub, fun hb => ?_⟩
          obtain ⟨hle, hlt⟩ := hnext (fun x hx => hb x (hused hx))
          exact ⟨UInt32.le_trans (hbound hb) hle, hlt⟩
      · rw [if_neg hkind]
        have haudio : slot.kind = .audio := by
          cases hk : slot.kind with
          | audio => rfl
          | control => exact absurd hk hkind
        refine ⟨rfl, rfl, ((List.sublist_cons_self _ _).subperm).trans hperm.symm.subperm, ?_, fun _ =>
          ⟨hcursor, slot, haudio, rfl, hperm.symm.subperm, ?_⟩⟩
        · intro hb
          have := hb slot hmem
          dsimp only
          grind
        · intro hb
          have := hb slot hmem
          dsimp only
          grind

theorem pop_popped (b : JitterBuffer) (nowUs : Int) : Popped b (b.pop nowUs).1 (b.pop nowUs).2 := by
  rw [pop]
  by_cases hcursor : b.cursorInitialized = false
  · rw [if_pos hcursor]
    exact ⟨rfl, rfl, .refl _, fun _ => UInt32.le_refl _, fun h => by cases h⟩
  · rw [if_neg hcursor]
    rw [Bool.not_eq_false] at hcursor
    exact popLoop_popped _ hcursor nowUs

end JitterBuffer

end RealtimeVoice.Firmware
