import RealtimeVoice.Base.Ring
import RealtimeVoice.Base.Runs
import RealtimeVoice.Firmware.JitterBuffer

namespace RealtimeVoice.Firmware

open RealtimeVoice.Base RealtimeVoice.Base.Runs

/-- `PlayoutQueue::kCapacity` -/
def playoutCapacity : Nat := 4

inductive PlayoutPushResult
  | accepted | replacedOldest | closed | stale
deriving DecidableEq

structure PlayoutQueue where
  items : Ring PlayoutFrame playoutCapacity := .empty {}
  generation : UInt32 := 0
  isOpen : Bool := false
deriving DecidableEq

/-- What `PopFresh` leaves: the queue, the caller's frame, whether it is one to play, and how
many frames were too old. -/
structure FreshPop where
  queue : PlayoutQueue
  frame : PlayoutFrame
  ready : Bool
  expired : Nat
deriving DecidableEq

/-- The frame has been queued for longer than the maximum age, if there is one. -/
def PlayoutFrame.expired (nowUs maximumAgeUs : Int) (frame : PlayoutFrame) : Bool :=
  maximumAgeUs > 0 && nowUs ≥ frame.arrivedUs && nowUs - frame.arrivedUs > maximumAgeUs

namespace PlayoutQueue

def openAt (_ : PlayoutQueue) (generation : UInt32) : PlayoutQueue :=
  { generation := generation, isOpen := generation != 0 }

def advanceGeneration (q : PlayoutQueue) (generation : UInt32) : PlayoutQueue :=
  if q.isOpen = false ∨ generation ≤ q.generation then q
  else { q with items := .empty {}, generation := generation }

def close (_ : PlayoutQueue) : PlayoutQueue := {}

def push (q : PlayoutQueue) (frame : PlayoutFrame) : PlayoutQueue × PlayoutPushResult :=
  if q.isOpen = false then (q, .closed)
  else if frame.generation ≠ q.generation then (q, .stale)
  else if h : q.items.size = playoutCapacity then
    let items := q.items.popFront {} (by rw [h]; decide)
    ({ q with items := items.pushBack frame (by rw [Ring.size_popFront, h]; decide) }, .replacedOldest)
  else ({ q with items := q.items.pushBack frame (Nat.lt_of_le_of_ne q.items.size_le h) }, .accepted)

/-- The loop of `PopFresh`. Every round takes a frame out, so the fuel is the size. -/
def popLoop (nowUs maximumAgeUs : Int) : Nat → PlayoutQueue → PlayoutFrame → Nat → FreshPop
  | 0, q, frame, expired => ⟨q, frame, false, expired⟩
  | fuel + 1, q, frame, expired =>
    if h : 0 < q.items.size then
      if q.isOpen = false then ⟨q, frame, false, expired⟩
      else
        let candidate := q.items.front h
        let q := { q with items := q.items.popFront {} h }
        if candidate.generation ≠ q.generation then popLoop nowUs maximumAgeUs fuel q candidate expired
        else if candidate.expired nowUs maximumAgeUs then popLoop nowUs maximumAgeUs fuel q {} (expired + 1)
        else ⟨q, candidate, true, expired⟩
    else ⟨q, frame, false, expired⟩

def popFresh (q : PlayoutQueue) (frame : PlayoutFrame) (nowUs maximumAgeUs : Int) : FreshPop :=
  popLoop nowUs maximumAgeUs q.items.size q frame 0

inductive Op
  | openAt (generation : UInt32)
  | advanceGeneration (generation : UInt32)
  | close
  | push (frame : PlayoutFrame)
  | popFresh (frame : PlayoutFrame) (nowUs maximumAgeUs : Int)
deriving DecidableEq

inductive Reply
  | done
  | pushed (result : PlayoutPushResult)
  | popped (frame : Option PlayoutFrame) (expired : Nat)
deriving DecidableEq

def FreshPop.reply (p : FreshPop) : Reply := .popped (if p.ready then some p.frame else none) p.expired

/-- The operations, each under the mutex of the queue. -/
def call (q : PlayoutQueue) : Op → PlayoutQueue × Reply
  | .openAt generation => (q.openAt generation, .done)
  | .advanceGeneration generation => (q.advanceGeneration generation, .done)
  | .close => (q.close, .done)
  | .push frame => (q.push frame).map id .pushed
  | .popFresh frame nowUs maximumAgeUs =>
    ((q.popFresh frame nowUs maximumAgeUs).queue, FreshPop.reply (q.popFresh frame nowUs maximumAgeUs))

end PlayoutQueue

/-- What the queue is for: the newest frames of one generation, the oldest first, or nothing
while it is closed. -/
structure Fifo where
  generation : Option UInt32 := none
  frames : List PlayoutFrame := []

namespace Fifo

open PlayoutQueue (Op Reply)

def newest (frames : List PlayoutFrame) : List PlayoutFrame := frames.drop (frames.length - playoutCapacity)

def openAt (generation : UInt32) : Fifo := if generation = 0 then {} else { generation := some generation }

def advanceGeneration (f : Fifo) (generation : UInt32) : Fifo :=
  if ∃ current ∈ f.generation, current < generation then { generation := some generation } else f

def push (f : Fifo) (frame : PlayoutFrame) : Fifo × PlayoutPushResult :=
  match f.generation with
  | none => (f, .closed)
  | some generation =>
    if frame.generation ≠ generation then (f, .stale)
    else ({ f with frames := newest (f.frames ++ [frame]) },
      if f.frames.length < playoutCapacity then .accepted else .replacedOldest)

/-- The oldest frame that is not too old, with the number of those before it. -/
def popFresh (f : Fifo) (nowUs maximumAgeUs : Int) : Fifo × Reply :=
  let expired := f.frames.takeWhile (PlayoutFrame.expired nowUs maximumAgeUs)
  let fresh := f.frames.dropWhile (PlayoutFrame.expired nowUs maximumAgeUs)
  ({ f with frames := fresh.tail }, .popped fresh.head? expired.length)

def call (f : Fifo) : Op → Fifo × Reply
  | .openAt generation => (openAt generation, .done)
  | .advanceGeneration generation => (f.advanceGeneration generation, .done)
  | .close => ({}, .done)
  | .push frame => (f.push frame).map id .pushed
  | .popFresh _ nowUs maximumAgeUs => f.popFresh nowUs maximumAgeUs

end Fifo

namespace PlayoutQueue

variable {q : PlayoutQueue} {frame : PlayoutFrame}

/-- The queue holds frames of its own generation, and none while it is closed. -/
structure Coupled (q : PlayoutQueue) : Prop where
  current : ∀ frame ∈ q.items.toList, frame.generation = q.generation
  closed : q.isOpen = false → q.items.size = 0

def view (q : PlayoutQueue) : Fifo := if q.isOpen then ⟨some q.generation, q.items.toList⟩ else {}

theorem Coupled.empty (generation : UInt32) (isOpen : Bool) :
    Coupled { generation := generation, isOpen := isOpen } := ⟨by simp, fun _ => rfl⟩

theorem Coupled.popFront (hq : Coupled q) (h : 0 < q.items.size) :
    Coupled { q with items := q.items.popFront {} h } := by
  refine ⟨?_, ?_⟩
  · intro frame hframe
    apply hq.current
    rw [Ring.toList_popFront {} h]
    exact List.mem_cons_of_mem _ hframe
  · intro hclosed
    rw [Ring.size_popFront, hq.closed hclosed]

theorem Coupled.pushBack (hq : Coupled q) (h : q.items.size < playoutCapacity) (hopen : q.isOpen = true)
    (hframe : frame.generation = q.generation) : Coupled { q with items := q.items.pushBack frame h } := by
  refine ⟨?_, ?_⟩
  · intro other hother
    rw [Ring.toList_pushBack, List.mem_append, List.mem_singleton] at hother
    obtain hother | rfl := hother
    · exact hq.current other hother
    · exact hframe
  · intro hclosed
    exact absurd (hopen.symm.trans hclosed) (by decide)

theorem view_of_open (hopen : q.isOpen = true) : q.view = ⟨some q.generation, q.items.toList⟩ := if_pos hopen

theorem view_of_closed (hclosed : q.isOpen = false) : q.view = {} := if_neg (Bool.eq_false_iff.mp hclosed)

theorem openAt_refines (generation : UInt32) :
    Coupled (q.openAt generation) ∧ (q.openAt generation).view = Fifo.openAt generation := by
  refine ⟨.empty _ _, ?_⟩
  rw [Fifo.openAt, openAt, view]
  by_cases hzero : generation = 0
  · simp [hzero]
  · simp [hzero]

theorem advanceGeneration_refines (hq : Coupled q) (generation : UInt32) :
    Coupled (q.advanceGeneration generation) ∧
      (q.advanceGeneration generation).view = q.view.advanceGeneration generation := by
  rw [advanceGeneration, Fifo.advanceGeneration]
  obtain hopen | hclosed := Bool.eq_false_or_eq_true q.isOpen
  · rw [view_of_open hopen]
    by_cases hle : generation ≤ q.generation
    · rw [if_pos (.inr hle), if_neg (by simpa using hle), view_of_open hopen]
      exact ⟨hq, rfl⟩
    · rw [if_neg (by simp [hopen, hle]), if_pos ⟨_, rfl, UInt32.not_le.mp hle⟩]
      exact ⟨.empty _ _, if_pos hopen⟩
  · rw [if_pos (.inl hclosed), view_of_closed hclosed]
    exact ⟨hq, (if_neg (by simp)).symm⟩

theorem push_refines (hq : Coupled q) (frame : PlayoutFrame) :
    Coupled (q.push frame).1 ∧ q.view.push frame = ((q.push frame).1.view, (q.push frame).2) := by
  rw [push]
  obtain hopen | hclosed := Bool.eq_false_or_eq_true q.isOpen
  · rw [if_neg (by simp [hopen]), view_of_open hopen, Fifo.push]
    dsimp only
    by_cases hstale : frame.generation ≠ q.generation
    · rw [if_pos hstale, if_pos hstale, view_of_open hopen]
      exact ⟨hq, rfl⟩
    · rw [if_neg hstale, if_neg hstale, Ring.length_toList]
      rw [not_not] at hstale
      have hsize := q.items.size_le
      split_ifs with hfull hroom hroom
      · omega
      · have hpos : 0 < q.items.size := by
          rw [hfull]
          decide
        have hless : (q.items.popFront {} hpos).size < playoutCapacity := by
          rw [Ring.size_popFront]
          omega
        refine ⟨(hq.popFront hpos).pushBack hless hopen hstale, ?_⟩
        -- the newest frames are all but the first
        have hnewest : Fifo.newest (q.items.toList ++ [frame]) = ((q.items.popFront {} hpos).pushBack frame hless).toList := by
          rw [Ring.toList_pushBack, Fifo.newest, List.length_append, Ring.length_toList, hfull,
            Ring.toList_popFront {} hpos]
          rfl
        rw [hnewest]
        refine Prod.ext ?_ rfl
        exact (if_pos hopen).symm
      · have hless := Nat.lt_of_le_of_ne hsize hfull
        refine ⟨hq.pushBack hless hopen hstale, ?_⟩
        have hnewest : Fifo.newest (q.items.toList ++ [frame]) = (q.items.pushBack frame hless).toList := by
          rw [Ring.toList_pushBack, Fifo.newest, List.length_append, Ring.length_toList, List.length_singleton,
            Nat.sub_eq_zero_of_le hless, List.drop_zero]
        rw [hnewest]
        refine Prod.ext ?_ rfl
        exact (if_pos hopen).symm
      · omega
  · rw [if_pos hclosed, view_of_closed hclosed]
    exact ⟨hq, rfl⟩

theorem popLoop_refines (hq : Coupled q) (hopen : q.isOpen = true) (nowUs maximumAgeUs : Int) (fuel : Nat)
    (hfuel : fuel = q.items.size) (frame : PlayoutFrame) (expired : Nat) :
    Coupled (popLoop nowUs maximumAgeUs fuel q frame expired).queue ∧
    (popLoop nowUs maximumAgeUs fuel q frame expired).queue.view =
      ⟨some q.generation, (q.items.toList.dropWhile (PlayoutFrame.expired nowUs maximumAgeUs)).tail⟩ ∧
    FreshPop.reply (popLoop nowUs maximumAgeUs fuel q frame expired) =
      .popped (q.items.toList.dropWhile (PlayoutFrame.expired nowUs maximumAgeUs)).head?
        (expired + (q.items.toList.takeWhile (PlayoutFrame.expired nowUs maximumAgeUs)).length) := by
  induction fuel generalizing q frame expired with
  | zero =>
    have hempty : q.items.toList = [] := by
      apply List.eq_nil_of_length_eq_zero
      rw [Ring.length_toList, ← hfuel]
    rw [popLoop, view_of_open hopen, hempty]
    exact ⟨hq, rfl, rfl⟩
  | succ fuel ih =>
    have hpos : 0 < q.items.size := by omega
    have hlist := Ring.toList_popFront {} hpos
    have hcurrent : q.items.front hpos ∈ q.items.toList := by
      rw [hlist]
      exact List.mem_cons_self
    rw [popLoop, dif_pos hpos, if_neg (by simp [hopen]), if_neg (by simpa using hq.current _ hcurrent), hlist]
    by_cases hold : (q.items.front hpos).expired nowUs maximumAgeUs = true
    · obtain ⟨hcoupled, hview, hreply⟩ :=
        ih (hq.popFront hpos) hopen (by rw [Ring.size_popFront]; omega) {} (expired + 1)
      rw [if_pos hold, List.dropWhile_cons_of_pos hold, List.takeWhile_cons_of_pos hold, List.length_cons]
      refine ⟨hcoupled, hview, hreply.trans ?_⟩
      rw [Nat.add_assoc, Nat.add_comm 1]
    · rw [if_neg hold, List.dropWhile_cons_of_neg hold, List.takeWhile_cons_of_neg hold]
      exact ⟨hq.popFront hpos, view_of_open hopen, rfl⟩

theorem popFresh_refines (hq : Coupled q) (frame : PlayoutFrame) (nowUs maximumAgeUs : Int) :
    Coupled (q.popFresh frame nowUs maximumAgeUs).queue ∧
      q.view.popFresh nowUs maximumAgeUs = ((q.popFresh frame nowUs maximumAgeUs).queue.view,
        FreshPop.reply (q.popFresh frame nowUs maximumAgeUs)) := by
  obtain hopen | hclosed := Bool.eq_false_or_eq_true q.isOpen
  · obtain ⟨hcoupled, hview, hreply⟩ := popLoop_refines hq hopen nowUs maximumAgeUs _ rfl frame 0
    rw [popFresh, hview, hreply, view_of_open hopen, Fifo.popFresh, Nat.zero_add]
    exact ⟨hcoupled, rfl⟩
  · rw [popFresh, hq.closed hclosed, popLoop, view_of_closed hclosed]
    exact ⟨hq, rfl⟩

theorem call_refines (hq : Coupled q) (op : Op) :
    Coupled (q.call op).1 ∧ q.view.call op = ((q.call op).1.view, (q.call op).2) := by
  cases op with
  | openAt generation =>
    obtain ⟨hcoupled, hview⟩ := openAt_refines (q := q) generation
    exact ⟨hcoupled, by rw [Fifo.call, ← hview]; rfl⟩
  | advanceGeneration generation =>
    obtain ⟨hcoupled, hview⟩ := advanceGeneration_refines hq generation
    exact ⟨hcoupled, by rw [Fifo.call, ← hview]; rfl⟩
  | close => exact ⟨.empty _ _, rfl⟩
  | push frame =>
    obtain ⟨hcoupled, hview⟩ := push_refines hq frame
    exact ⟨hcoupled, by rw [Fifo.call, hview]; rfl⟩
  | popFresh frame nowUs maximumAgeUs => exact popFresh_refines hq frame nowUs maximumAgeUs

/-- Every history of the queue is one of the abstract queue. -/
theorem run_refines {q q' : PlayoutQueue} {es : List (Op × Reply)} (hq : Coupled q) (h : Run (Answers call) q es q') :
    Coupled q' ∧ Run (Answers Fifo.call) q.view es q'.view := by
  refine h.invariant (R := fun es t => Coupled t ∧ Run (Answers Fifo.call) q.view es t.view) ⟨hq, .nil⟩ ?_
  rintro es t ⟨op, reply⟩ u - ⟨ht, hrun⟩ hstep
  obtain ⟨hcoupled, hview⟩ := call_refines ht op
  change t.call op = (u, reply) at hstep
  rw [hstep] at hcoupled hview
  exact ⟨hcoupled, hrun.snoc hview⟩

theorem popLoop_keeps (nowUs maximumAgeUs : Int) (fuel : Nat) (frame : PlayoutFrame) (expired : Nat) :
    (popLoop nowUs maximumAgeUs fuel q frame expired).queue.generation = q.generation ∧
      (popLoop nowUs maximumAgeUs fuel q frame expired).queue.isOpen = q.isOpen := by
  induction fuel generalizing q frame expired with
  | zero => exact ⟨rfl, rfl⟩
  | succ fuel ih =>
    rw [popLoop]
    dsimp only
    split_ifs
    · exact ⟨rfl, rfl⟩
    · exact ih _ _
    · exact ih _ _
    · exact ⟨rfl, rfl⟩
    · exact ⟨rfl, rfl⟩

/-- A frame is handed out by an open queue, and of its generation. -/
theorem popFresh_current (hq : Coupled q) {nowUs maximumAgeUs : Int} (h : (q.popFresh frame nowUs maximumAgeUs).ready = true) :
    q.isOpen = true ∧ (q.popFresh frame nowUs maximumAgeUs).frame.generation = q.generation := by
  have hpop := congrArg Prod.snd (popFresh_refines hq frame nowUs maximumAgeUs).2
  simp only [Fifo.popFresh, FreshPop.reply, if_pos h, Reply.popped.injEq] at hpop
  obtain hopen | hclosed := Bool.eq_false_or_eq_true q.isOpen
  · rw [view_of_open hopen] at hpop
    have hmem := List.mem_of_mem_head? (Option.mem_def.mpr hpop.1)
    exact ⟨hopen, hq.current _ ((List.dropWhile_sublist _).subset hmem)⟩
  · rw [view_of_closed hclosed] at hpop
    cases hpop.1

/-- The queue is closed, or at the generation or past it. -/
def Fenced (q : PlayoutQueue) (generation : UInt32) : Prop := q.isOpen = false ∨ generation ≤ q.generation

theorem advanceGeneration_reaches (generation : UInt32) : (q.advanceGeneration generation).Fenced generation := by
  rw [advanceGeneration]
  split_ifs with h
  · exact h
  · exact .inr (UInt32.le_refl _)

theorem Fenced.advanceGeneration {generation : UInt32} (h : q.Fenced generation) (next : UInt32) :
    (q.advanceGeneration next).Fenced generation := by
  rw [PlayoutQueue.advanceGeneration]
  split_ifs with hnext
  · exact h
  · obtain hclosed | hle := h
    · exact .inl hclosed
    · rw [not_or] at hnext
      exact .inr (UInt32.le_trans hle (UInt32.le_of_lt (UInt32.not_le.mp hnext.2)))

theorem push_keeps (frame : PlayoutFrame) :
    (q.push frame).1.generation = q.generation ∧ (q.push frame).1.isOpen = q.isOpen := by
  rw [push]
  split_ifs <;> exact ⟨rfl, rfl⟩

theorem Fenced.of_eq {q' : PlayoutQueue} {generation : UInt32} (h : q.Fenced generation)
    (hkeeps : q'.generation = q.generation ∧ q'.isOpen = q.isOpen) : q'.Fenced generation := by
  rwa [Fenced, hkeeps.1, hkeeps.2]

end PlayoutQueue

end RealtimeVoice.Firmware
