import RealtimeVoice.Base.Ring
import RealtimeVoice.Base.Runs
import RealtimeVoice.Firmware.Control
import RealtimeVoice.Firmware.UdpWire

namespace RealtimeVoice.Firmware.Wss

open RealtimeVoice.Base RealtimeVoice.Base.Runs RealtimeVoice.Firmware.Control RealtimeVoice.Firmware.Wire

def mediaHeaderBytes : Nat := 32
def wssMaxPayloadBytes : Nat := 1200
def wssMaxFrameBytes : Nat := mediaHeaderBytes + wssMaxPayloadBytes
def maximumCallbackFragmentBytes : Nat := 2048
def maximumCallbackEvents : Nat :=
  (maxControlBytes + maximumCallbackFragmentBytes - 1) / maximumCallbackFragmentBytes + 2
def maximumQueuedCallbackBytes : Nat := 65536

inductive ClientEventType
  | connected | disconnected | textFragment | binaryFragment | error
deriving DecidableEq

namespace ClientEventType

def maximumPayload : ClientEventType → Nat
  | .textFragment => maxControlBytes
  | .binaryFragment => wssMaxFrameBytes
  | _ => 0

def carriesData (type : ClientEventType) : Bool := type = .textFragment || type = .binaryFragment

end ClientEventType

/-- What the websocket client hands to its callback: no data for a null pointer. -/
structure ClientEventView where
  type : ClientEventType := .error
  data : Option Bytes := none
  dataSize : Nat := 0
  payloadOffset : Nat := 0
  payloadSize : Nat := 0
  readable : ∀ bytes ∈ data, bytes.length = dataSize := by simp
deriving DecidableEq

/-- An event with the `data_size` bytes of its data. -/
structure OwnedClientEvent where
  type : ClientEventType := .error
  data : Bytes := []
  payloadOffset : Nat := 0
  payloadSize : Nat := 0
deriving DecidableEq

/-- An event in the queue, or the place for one. -/
structure Slot extends OwnedClientEvent where
  used : Bool := false
deriving DecidableEq

structure CallbackEventQueue where
  capacity : Nat
  byteCapacity : Nat
  slotCapacity : Nat
  slots : Ring Slot capacity
  queuedBytes : Nat := 0
  droppedEvents : UInt32 := 0
  ready : Bool := false

namespace CallbackEventQueue

/-- The constructor; `allocate` says which of the slots' buffers can be had. -/
def create (capacity byteCapacity : Nat) (allocate : Nat → Bool) : CallbackEventQueue :=
  let capacity := min capacity maximumCallbackEvents
  let byteCapacity := min byteCapacity maximumQueuedCallbackBytes
  let slotCapacity := min maximumCallbackFragmentBytes (if capacity = 0 then 0 else byteCapacity / capacity)
  if capacity = 0 ∨ slotCapacity = 0 ∨ ¬(List.range capacity).all allocate then
    { capacity := 0, byteCapacity := byteCapacity, slotCapacity := slotCapacity, slots := .empty {} }
  else
    { capacity := capacity, byteCapacity := byteCapacity, slotCapacity := slotCapacity, slots := .empty {}, ready := true }

def drop (q : CallbackEventQueue) : CallbackEventQueue := { q with droppedEvents := q.droppedEvents + 1 }

/-- An event that is not in order, or does not fit in a slot. -/
def malformed (q : CallbackEventQueue) (event : ClientEventView) : Bool :=
  (event.type.carriesData && (event.data = none || event.dataSize = 0 || event.payloadSize = 0 ||
    event.payloadSize > event.type.maximumPayload || event.payloadOffset > event.payloadSize ||
    event.dataSize > event.payloadSize - event.payloadOffset || event.dataSize > q.slotCapacity)) ||
  (!event.type.carriesData && (event.dataSize != 0 || event.payloadOffset != 0 || event.payloadSize != 0))

/-- The previous slot takes the event in. -/
def continues (q : CallbackEventQueue) (previous : Slot) (event : ClientEventView) : Bool :=
  previous.used && previous.type = event.type && previous.payloadSize = event.payloadSize &&
    previous.payloadOffset + previous.data.length = event.payloadOffset &&
    previous.data.length ≤ q.slotCapacity && event.dataSize ≤ q.slotCapacity - previous.data.length

def append (q : CallbackEventQueue) (event : ClientEventView) (h : 0 < q.slots.size) : CallbackEventQueue :=
  let previous := q.slots.last h
  { q with
    slots := q.slots.setLast { previous with data := previous.data ++ event.data.getD [] } h
    queuedBytes := q.queuedBytes + event.dataSize }

def store (q : CallbackEventQueue) (event : ClientEventView) (h : q.slots.size < q.capacity) : CallbackEventQueue :=
  let slot : Slot :=
    { type := event.type, payloadOffset := event.payloadOffset, payloadSize := event.payloadSize,
      data := if event.type.carriesData then event.data.getD [] else [], used := true }
  { q with slots := q.slots.pushBack slot h, queuedBytes := q.queuedBytes + event.dataSize }

def tryPush (q : CallbackEventQueue) (event : ClientEventView) : CallbackEventQueue × Bool :=
  if q.malformed event then (q.drop, false)
  else if q.capacity = 0 ∨ event.dataSize > q.byteCapacity - min q.byteCapacity q.queuedBytes then (q.drop, false)
  else if h : ∃ hsize : 0 < q.slots.size, event.type.carriesData ∧ q.continues (q.slots.last hsize) event then
    (q.append event h.1, true)
  else if h : q.slots.size < q.capacity then (q.store event h, true)
  else (q.drop, false)

def tryPop (q : CallbackEventQueue) : CallbackEventQueue × Option OwnedClientEvent :=
  if h : 0 < q.slots.size then
    let slot := q.slots.front h
    if slot.used then
      ({ q with slots := q.slots.popFront {} h, queuedBytes := q.queuedBytes - slot.data.length },
        some slot.toOwnedClientEvent)
    else (q, none)
  else (q, none)

end CallbackEventQueue

inductive AssembleResult
  | incomplete
  | complete (frame : Bytes)
  | rejected
deriving DecidableEq

structure FrameAssembler where
  type : ClientEventType := .error
  expectedSize : Nat := 0
  buffer : Bytes := []
deriving DecidableEq

namespace FrameAssembler

def consume (a : FrameAssembler) (event : OwnedClientEvent) : FrameAssembler × AssembleResult :=
  if event.type.maximumPayload = 0 ∨ event.payloadSize > event.type.maximumPayload ∨ event.data.length = 0 ∨
      event.data.length > maximumCallbackFragmentBytes ∨ event.payloadOffset + event.data.length > event.payloadSize then
    ({}, .rejected)
  else
    let a := if event.payloadOffset = 0 then ⟨event.type, event.payloadSize, []⟩ else a
    if a.type ≠ event.type ∨ a.expectedSize ≠ event.payloadSize ∨ event.payloadOffset ≠ a.buffer.length then
      ({}, .rejected)
    else
      let buffer := a.buffer ++ event.data
      if buffer.length ≠ a.expectedSize then ({ a with buffer := buffer }, .incomplete)
      else ({}, .complete buffer)

end FrameAssembler

/-- The byte at a place of a message, as an event carries it. -/
structure Cell where
  type : ClientEventType
  payloadSize : Nat
  offset : Nat
  byte : UInt8

/-- The bytes of an event, each at its place. -/
def cells (type : ClientEventType) (payloadSize : Nat) : Nat → Bytes → List Cell
  | _, [] => []
  | offset, byte :: data => ⟨type, payloadSize, offset, byte⟩ :: cells type payloadSize (offset + 1) data

section Cells

variable {type : ClientEventType} {payloadSize offset : Nat} {data : Bytes}

theorem cells_append (more : Bytes) :
    cells type payloadSize offset (data ++ more) =
      cells type payloadSize offset data ++ cells type payloadSize (offset + data.length) more := by
  induction data generalizing offset with
  | nil => rfl
  | cons byte data ih =>
    rw [List.cons_append, cells, ih, cells, List.length_cons, List.cons_append, Nat.add_right_comm, Nat.add_assoc]

theorem map_byte_cells : (cells type payloadSize offset data).map Cell.byte = data := by
  induction data generalizing offset with
  | nil => rfl
  | cons byte data ih => rw [cells, List.map_cons, ih]

@[simp]
theorem length_cells : (cells type payloadSize offset data).length = data.length := by
  rw [← List.length_map Cell.byte, map_byte_cells]

end Cells

def OwnedClientEvent.cells (event : OwnedClientEvent) : List Cell :=
  Wss.cells event.type event.payloadSize event.payloadOffset event.data

/-- The event as a slot of its own holds it. -/
def ClientEventView.owned (event : ClientEventView) : OwnedClientEvent :=
  { type := event.type, data := event.data.getD [], payloadOffset := event.payloadOffset, payloadSize := event.payloadSize }

/-- An event as it may stand in a slot of the given capacity. -/
structure OwnedClientEvent.Fits (slotCapacity : Nat) (event : OwnedClientEvent) : Prop where
  size : event.data.length ≤ slotCapacity
  within : event.type.carriesData = true → event.data ≠ [] ∧
    event.payloadOffset + event.data.length ≤ event.payloadSize ∧ event.payloadSize ≤ event.type.maximumPayload
  bare : event.type.carriesData = false → event.data = []

namespace CallbackEventQueue

variable {q : CallbackEventQueue} {event : ClientEventView}

/-- The bytes in the queue. -/
def cells (q : CallbackEventQueue) : List Cell := q.slots.toList.flatMap (fun slot => slot.toOwnedClientEvent.cells)

/-- What holds of the queue between any two calls. -/
structure Fine (q : CallbackEventQueue) : Prop where
  slotCapacity : q.slotCapacity ≤ maximumCallbackFragmentBytes
  used : ∀ slot ∈ q.slots.toList, slot.used = true
  fits : ∀ slot ∈ q.slots.toList, slot.toOwnedClientEvent.Fits q.slotCapacity
  bytes : q.queuedBytes = (q.slots.toList.map (fun slot => slot.data.length)).sum
  room : q.queuedBytes ≤ q.byteCapacity

theorem create_fine (capacity byteCapacity : Nat) (allocate : Nat → Bool) : (create capacity byteCapacity allocate).Fine := by
  rw [create]
  split_ifs <;> exact ⟨Nat.min_le_left _ _, by simp, by simp, rfl, Nat.zero_le _⟩

theorem create_cells (capacity byteCapacity : Nat) (allocate : Nat → Bool) :
    (create capacity byteCapacity allocate).cells = [] := by
  rw [create]
  split_ifs <;> rfl

/-- What one call of `TryPush` did. -/
structure Pushed (q : CallbackEventQueue) (event : ClientEventView) (q' : CallbackEventQueue) (accepted : Bool) : Prop where
  fine : q'.Fine
  cells : q'.cells = if accepted then q.cells ++ event.owned.cells else q.cells

theorem Fine.drop (h : q.Fine) : q.drop.Fine := ⟨h.slotCapacity, h.used, h.fits, h.bytes, h.room⟩

theorem length_data (event : ClientEventView) (h : event.dataSize = 0 ∨ event.data.isSome) :
    event.owned.data.length = event.dataSize := by
  rw [ClientEventView.owned]
  cases hdata : event.data with
  | none => simpa [hdata, eq_comm] using h
  | some bytes => exact event.readable bytes hdata

/-- What an event that is not malformed looks like in a slot of its own. -/
theorem fits_of_wellFormed (h : q.malformed event = false) :
    event.owned.data.length = event.dataSize ∧ event.owned.Fits q.slotCapacity := by
  cases htype : event.type.carriesData with
  | false =>
    simp only [malformed, htype, Bool.false_and, Bool.not_false, Bool.true_and, Bool.false_or, Bool.or_eq_false_iff,
      bne_eq_false_iff_eq] at h
    have hlength := length_data event (.inl h.1.1)
    have hempty : event.owned.data = [] := List.eq_nil_of_length_eq_zero (hlength.trans h.1.1)
    refine ⟨hlength, ?_, ?_, fun _ => hempty⟩
    · simp [hempty]
    · intro hcarries
      exact absurd (htype.symm.trans hcarries) (by decide)
  | true =>
    simp only [malformed, htype, Bool.true_and, Bool.not_true, Bool.false_and, Bool.or_false, Bool.or_eq_false_iff,
      decide_eq_false_iff_not, not_lt, gt_iff_lt] at h
    obtain ⟨⟨⟨⟨⟨⟨hdata, hsize⟩, -⟩, hmaximum⟩, hoffset⟩, hwithin⟩, hslot⟩ := h
    have hlength := length_data event (.inr (Option.isSome_iff_ne_none.mpr hdata))
    refine ⟨hlength, ?_, ?_, ?_⟩
    · rw [hlength]
      exact hslot
    · intro _
      refine ⟨?_, ?_, hmaximum⟩
      · intro hempty
        exact hsize (by rw [← hlength, hempty, List.length_nil])
      · rw [hlength]
        change event.payloadOffset + event.dataSize ≤ event.payloadSize
        omega
    · intro hcarries
      exact absurd (htype.symm.trans hcarries) (by decide)

theorem store_pushed (h : q.Fine) (hevent : q.malformed event = false) (hroom : q.queuedBytes + event.dataSize ≤ q.byteCapacity)
    (hsize : q.slots.size < q.capacity) : Pushed q event (q.store event hsize) true := by
  obtain ⟨hlength, hfits⟩ := fits_of_wellFormed hevent
  have hdata : (if event.type.carriesData then event.data.getD [] else []) = event.owned.data := by
    split_ifs with hcarries
    · rfl
    · exact (hfits.bare (Bool.eq_false_iff.mpr hcarries)).symm
  refine ⟨⟨h.slotCapacity, ?_, ?_, ?_, hroom⟩, ?_⟩
  · intro slot hslot
    rw [store, Ring.toList_pushBack, List.mem_append, List.mem_singleton] at hslot
    obtain hslot | rfl := hslot
    · exact h.used slot hslot
    · rfl
  · intro slot hslot
    rw [store, Ring.toList_pushBack, List.mem_append, List.mem_singleton] at hslot
    obtain hslot | rfl := hslot
    · exact h.fits slot hslot
    · rw [hdata]
      exact hfits
  · simp only [store, Ring.toList_pushBack, List.map_append, List.map_cons, List.map_nil, List.sum_append, List.sum_cons,
      List.sum_nil, hdata, hlength, h.bytes, Nat.add_zero]
  · rw [if_pos rfl, cells, store, Ring.toList_pushBack, List.flatMap_append, List.flatMap_singleton, hdata]
    rfl

/-- The bytes of an event go on where those of the previous slot end. -/
theorem append_pushed (h : q.Fine) (hevent : q.malformed event = false) (hroom : q.queuedBytes + event.dataSize ≤ q.byteCapacity)
    (hsize : 0 < q.slots.size) (hcarries : event.type.carriesData = true)
    (hcontinues : q.continues (q.slots.last hsize) event = true) : Pushed q event (q.append event hsize) true := by
  obtain ⟨hlength, hfits⟩ := fits_of_wellFormed hevent
  obtain ⟨before, hlist, hset⟩ := Ring.toList_setLast hsize
  obtain ⟨previous, hprevious⟩ : ∃ previous, previous = q.slots.last hsize := ⟨_, rfl⟩
  have hlist' : (q.append event hsize).slots.toList =
      before ++ [{ previous with data := previous.data ++ event.owned.data }] := by
    subst hprevious
    exact hset _
  rw [← hprevious] at hlist hcontinues
  simp only [continues, Bool.and_eq_true, decide_eq_true_eq] at hcontinues
  obtain ⟨⟨⟨⟨⟨hused, htype⟩, hpayload⟩, hoffset⟩, hheld⟩, hslot⟩ := hcontinues
  have hmem : previous ∈ q.slots.toList := by simp [hlist]
  obtain ⟨-, hkept, -⟩ := h.fits previous hmem
  obtain ⟨hne, hwithin, hmaximum⟩ := hfits.within hcarries
  have hcarried : previous.type.carriesData = true := htype ▸ hcarries
  obtain ⟨-, hkept, -⟩ := hkept hcarried
  refine ⟨⟨h.slotCapacity, ?_, ?_, ?_, hroom⟩, ?_⟩
  · intro slot hslot
    rw [hlist', List.mem_append, List.mem_singleton] at hslot
    obtain hslot | rfl := hslot
    · exact h.used slot (by simp [hlist, hslot])
    · exact hused
  · intro slot hslot
    rw [hlist', List.mem_append, List.mem_singleton] at hslot
    obtain hslot | rfl := hslot
    · exact h.fits slot (by simp [hlist, hslot])
    · refine ⟨?_, fun _ => ⟨?_, ?_, ?_⟩, ?_⟩
      · change (previous.data ++ event.owned.data).length ≤ q.slotCapacity
        rw [List.length_append, hlength]
        omega
      · exact List.append_ne_nil_of_right_ne_nil _ hne
      · change previous.payloadOffset + (previous.data ++ event.owned.data).length ≤ previous.payloadSize
        rw [List.length_append, ← Nat.add_assoc, hoffset, hpayload]
        exact hwithin
      · change previous.payloadSize ≤ previous.type.maximumPayload
        rw [hpayload, htype]
        exact hmaximum
      · intro hbare
        exact absurd (hcarried.symm.trans hbare) (by decide)
  · change q.queuedBytes + event.dataSize = _
    rw [hlist', h.bytes, hlist]
    simp [hlength, Nat.add_assoc]
  · rw [if_pos rfl, cells, hlist', cells, hlist, List.flatMap_append, List.flatMap_append, List.flatMap_singleton,
      List.flatMap_singleton, List.append_assoc]
    congr 1
    change Wss.cells _ _ _ (previous.data ++ event.owned.data) = _
    rw [cells_append, hoffset, OwnedClientEvent.cells, OwnedClientEvent.cells, hpayload, htype]
    rfl

theorem tryPush_pushed (h : q.Fine) : Pushed q event (q.tryPush event).1 (q.tryPush event).2 := by
  have hdropped : Pushed q event q.drop false := ⟨h.drop, rfl⟩
  have hroom : ¬(q.capacity = 0 ∨ event.dataSize > q.byteCapacity - min q.byteCapacity q.queuedBytes) →
      q.queuedBytes + event.dataSize ≤ q.byteCapacity := by
    intro hfull
    have hbytes := h.room
    omega
  rw [tryPush]
  split_ifs with hmalformed hfull hcontinues hsize
  · exact hdropped
  · exact hdropped
  · exact append_pushed h (by simpa using hmalformed) (hroom hfull) hcontinues.1 hcontinues.2.1 hcontinues.2.2
  · exact store_pushed h (by simpa using hmalformed) (hroom hfull) hsize
  · exact hdropped

/-- An accepted event without data leaves nothing to read. -/
theorem bare_of_tryPush (h : (q.tryPush event).2 = true) (hbare : event.type.carriesData = false) :
    event.owned.data = [] := by
  cases hmalformed : q.malformed event with
  | false => exact (fits_of_wellFormed hmalformed).2.bare hbare
  | true =>
    rw [tryPush, if_pos hmalformed] at h
    cases h

/-- `TryPop` takes the oldest event out, and finds none only in an empty queue. -/
theorem tryPop_cases (h : q.Fine) :
    (q.tryPop = (q, none) ∧ q.slots.size = 0) ∨
      ∃ q' event, q.tryPop = (q', some event) ∧ q'.Fine ∧ event.Fits maximumCallbackFragmentBytes ∧
        q.cells = event.cells ++ q'.cells := by
  rw [tryPop]
  by_cases hsize : 0 < q.slots.size
  · have hlist := Ring.toList_popFront {} hsize
    have hmem : q.slots.front hsize ∈ q.slots.toList := by
      rw [hlist]
      exact List.mem_cons_self
    have hrest : ∀ slot ∈ (q.slots.popFront {} hsize).toList, slot ∈ q.slots.toList := by
      intro slot hslot
      rw [hlist]
      exact List.mem_cons_of_mem _ hslot
    rw [dif_pos hsize]
    simp only [h.used _ hmem, if_true]
    obtain ⟨hfit, hwithin, hbare⟩ := h.fits _ hmem
    refine .inr ⟨_, _, rfl, ⟨h.slotCapacity, ?_, ?_, ?_, ?_⟩, ⟨hfit.trans h.slotCapacity, hwithin, hbare⟩, ?_⟩
    · exact fun slot hslot => h.used slot (hrest slot hslot)
    · exact fun slot hslot => h.fits slot (hrest slot hslot)
    · rw [h.bytes, hlist, List.map_cons, List.sum_cons, Nat.add_sub_cancel_left]
    · exact (Nat.sub_le _ _).trans h.room
    · rw [cells, hlist]
      rfl
  · rw [dif_neg hsize]
    exact .inl ⟨rfl, Nat.eq_zero_of_not_pos hsize⟩

theorem cells_of_empty (h : q.slots.size = 0) : q.cells = [] := by
  rw [← Ring.length_toList] at h
  rw [cells, List.eq_nil_of_length_eq_zero h, List.flatMap_nil]

end CallbackEventQueue

end RealtimeVoice.Firmware.Wss
