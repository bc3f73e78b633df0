import RealtimeVoice.Base.Runs

namespace RealtimeVoice.Base

open Runs

/-- What a task does with a queue, operation by operation, on the answers it gets. A mark is
something it does elsewhere. -/
inductive QueueProgram (ι μ α : Type)
  | done (a : α)
  | trySend (item : ι) (next : Bool → QueueProgram ι μ α)
  | tryReceive (next : Option ι → QueueProgram ι μ α)
  | mark (m : μ) (next : QueueProgram ι μ α)

namespace QueueProgram

variable {ι μ α β : Type}

def andThen : QueueProgram ι μ α → (α → QueueProgram ι μ β) → QueueProgram ι μ β
  | .done a, f => f a
  | .trySend item next, f => .trySend item fun sent => (next sent).andThen f
  | .tryReceive next, f => .tryReceive fun item => (next item).andThen f
  | .mark m next, f => .mark m (next.andThen f)

instance : Monad (QueueProgram ι μ) where
  pure := .done
  bind := andThen

theorem andThen_done (p : QueueProgram ι μ α) : p.andThen .done = p := by
  induction p with
  | done a => rfl
  | trySend item next ih => exact congrArg (trySend item) (funext ih)
  | tryReceive next ih => exact congrArg tryReceive (funext ih)
  | mark m next ih => exact congrArg (mark m) ih

theorem andThen_assoc {γ : Type} (p : QueueProgram ι μ α) (f : α → QueueProgram ι μ β)
    (g : β → QueueProgram ι μ γ) : (p.andThen f).andThen g = p.andThen fun a => (f a).andThen g := by
  induction p with
  | done a => rfl
  | trySend item next ih => exact congrArg (trySend item) (funext ih)
  | tryReceive next ih => exact congrArg tryReceive (funext ih)
  | mark m next ih => exact congrArg (mark m) ih

instance : LawfulMonad (QueueProgram ι μ) := by
  refine LawfulMonad.mk' (QueueProgram ι μ) ?_ ?_ ?_
  · intro α p
    exact andThen_done p
  · intro α β a f
    rfl
  · intro α β γ p f g
    exact andThen_assoc p f g

/-- What happens at the queue: at the hands of the task, of the one consumer, or of other senders. -/
inductive Event (ι μ : Type)
  | sent (item : ι) (accepted : Bool)
  | popped (item : Option ι)
  | marked (m : μ)
  | received (item : ι)
  | foreign (item : ι)
deriving DecidableEq

/-- The task and the queue between two operations. -/
structure System (ι μ α : Type) where
  program : QueueProgram ι μ α
  queue : List ι

/-- One operation on a bounded first-in first-out queue. Between two of the task's own, the consumer
may take an item, and other senders, if there are any, may put one. -/
inductive Step (others : Prop) (capacity : Nat) : System ι μ α → Event ι μ → System ι μ α → Prop
  | sent {item : ι} {next : Bool → QueueProgram ι μ α} {queue : List ι} : queue.length < capacity →
    Step others capacity ⟨.trySend item next, queue⟩ (.sent item true) ⟨next true, queue ++ [item]⟩
  | full {item : ι} {next : Bool → QueueProgram ι μ α} {queue : List ι} : capacity ≤ queue.length →
    Step others capacity ⟨.trySend item next, queue⟩ (.sent item false) ⟨next false, queue⟩
  | popped {item : ι} {next : Option ι → QueueProgram ι μ α} {queue : List ι} :
    Step others capacity ⟨.tryReceive next, item :: queue⟩ (.popped (some item)) ⟨next (some item), queue⟩
  | empty {next : Option ι → QueueProgram ι μ α} :
    Step others capacity ⟨.tryReceive next, []⟩ (.popped none) ⟨next none, []⟩
  | marked {m : μ} {next : QueueProgram ι μ α} {queue : List ι} :
    Step others capacity ⟨.mark m next, queue⟩ (.marked m) ⟨next, queue⟩
  | received {program : QueueProgram ι μ α} {item : ι} {queue : List ι} :
    Step others capacity ⟨program, item :: queue⟩ (.received item) ⟨program, queue⟩
  | foreign {program : QueueProgram ι μ α} {item : ι} {queue : List ι} : others → queue.length < capacity →
    Step others capacity ⟨program, queue⟩ (.foreign item) ⟨program, queue ++ [item]⟩

namespace Event

/-- The item that the consumer gets. -/
def received? : Event ι μ → Option ι
  | .received item => some item
  | _ => none

/-- The item that leaves the queue. -/
def taken? : Event ι μ → Option ι
  | .received item => some item
  | .popped item => item
  | _ => none

/-- The item that the task puts into the queue. -/
def queued? : Event ι μ → Option ι
  | .sent item true => some item
  | _ => none

/-- The item that enters the queue. -/
def put? : Event ι μ → Option ι
  | .sent item true => some item
  | .foreign item => some item
  | _ => none

def mark? : Event ι μ → Option μ
  | .marked m => some m
  | _ => none

/-- The task takes an item out of the queue, which the consumer then does not get. -/
def discards : Event ι μ → Bool
  | .popped (some _) => true
  | _ => false

def isMark : Event ι μ → Bool
  | .marked _ => true
  | _ => false

end Event

section Fifo

variable {others : Prop} {capacity : Nat} {s s' : System ι μ α} {es : List (Event ι μ)} {e : Event ι μ}

theorem step_fifo (h : Step others capacity s e s') :
    [e].filterMap Event.taken? ++ s'.queue = s.queue ++ [e].filterMap Event.put? := by
  cases h with
  | sent _ | foreign _ _ | empty => rfl
  | full _ | popped | marked | received => exact (List.append_nil _).symm

theorem step_capacity (h : Step others capacity s e s') (hs : s.queue.length ≤ capacity) :
    s'.queue.length ≤ capacity := by
  cases h with
  | sent hroom | foreign _ hroom =>
    rw [List.length_append]
    exact hroom
  | full _ | empty | marked => exact hs
  | popped | received => exact Nat.le_of_succ_le hs

/-- What has left the queue and what is in it is what has entered it, in that order. -/
theorem run_fifo (h : Run (Step others capacity) s es s') :
    es.filterMap Event.taken? ++ s'.queue = s.queue ++ es.filterMap Event.put? := by
  induction h with
  | nil => simp
  | @snoc es t u e hr hs ih =>
    rw [List.filterMap_append, List.append_assoc, step_fifo hs, ← List.append_assoc, ih, List.append_assoc,
      ← List.filterMap_append]

theorem run_capacity (h : Run (Step others capacity) s es s') (hs : s.queue.length ≤ capacity) :
    s'.queue.length ≤ capacity := by
  induction h with
  | nil => exact hs
  | snoc hr hstep ih => exact step_capacity hstep ih

theorem received_sublist_taken (es : List (Event ι μ)) :
    (es.filterMap Event.received?).Sublist (es.filterMap Event.taken?) := by
  induction es with
  | nil => exact .slnil
  | cons e es ih =>
    rcases e with _ | (_ | item) | _ | item | _
    case popped.some => exact ih.cons item
    case received => exact ih.cons_cons item
    all_goals exact ih

theorem put_eq_queued (hothers : ¬others) (h : Run (Step others capacity) s es s') :
    es.filterMap Event.put? = es.filterMap Event.queued? := by
  induction h with
  | nil => rfl
  | @snoc es t u e hr hs ih =>
    rw [List.filterMap_append, List.filterMap_append, ih]
    cases hs with
    | foreign h _ => exact absurd h hothers
    | sent _ | full _ | popped | empty | marked | received => rfl

/-- The consumer of a queue with one sender gets some of what was sent, in the order of the sender. -/
theorem received_sublist_queued (hothers : ¬others) (h : Run (Step others capacity) s es s') (hs : s.queue = []) :
    (es.filterMap Event.received?).Sublist (es.filterMap Event.queued?) := by
  have hfifo := run_fifo h
  rw [hs, List.nil_append, put_eq_queued hothers h] at hfifo
  rw [← hfifo]
  exact (received_sublist_taken es).trans (List.sublist_append_left _ _)

end Fifo

end QueueProgram

end RealtimeVoice.Base
