import Mathlib

/-! Programs over a store of keys whose single operations may fail, with or without effect,
and which may stop before any of them for good. -/

namespace RealtimeVoice.Base.FaultyStore

variable {κ ν φ α β : Type}

abbrev Store (κ ν : Type) := κ → Option ν

inductive Operation (κ ν : Type)
  | read (key : κ)
  | write (key : κ) (value : ν)
  | erase (key : κ)
deriving DecidableEq

/-- What becomes of one operation. -/
inductive Outcome (φ : Type)
  | done
  | failed (failure : φ) (applied : Bool)
deriving DecidableEq

inductive Reply (ν φ : Type)
  | ok
  | value (value : ν)
  | notFound
  | failed (failure : φ)
deriving DecidableEq

inductive Prog (κ ν φ α : Type)
  | pure (a : α)
  | step (operation : Operation κ ν) (next : Reply ν φ → Prog κ ν φ α)

namespace Prog

def bind : Prog κ ν φ α → (α → Prog κ ν φ β) → Prog κ ν φ β
  | .pure a, f => f a
  | .step operation next, f => .step operation fun reply => (next reply).bind f

instance : Monad (Prog κ ν φ) where
  pure := .pure
  bind := .bind

def perform (operation : Operation κ ν) : Prog κ ν φ (Reply ν φ) := .step operation .pure

end Prog

variable [DecidableEq κ]

namespace Operation

/-- The key it sets or clears. -/
def change : Operation κ ν → Option (κ × Option ν)
  | .read _ => none
  | .write key value => some (key, some value)
  | .erase key => some (key, none)

def apply (s : Store κ ν) (operation : Operation κ ν) : Store κ ν :=
  match operation.change with
  | none => s
  | some (key, value) => Function.update s key value

def reply (s : Store κ ν) : Operation κ ν → Reply ν φ
  | .read key => (s key).elim .notFound .value
  | .write _ _ => .ok
  | .erase key => if (s key).isNone then .notFound else .ok

end Operation

/-- What a program did: the store it left, the changes that took effect, and its result if
it came to its end. -/
structure Execution (κ ν α : Type) where
  store : Store κ ν
  changes : List (κ × Option ν)
  result : Option α

def Execution.after (operation : Operation κ ν) (e : Execution κ ν α) : Execution κ ν α :=
  { e with changes := operation.change.toList ++ e.changes }

/-- The program under the outcomes of its operations. Where they end before it does, it is
stopped there. -/
def exec : Prog κ ν φ α → List (Outcome φ) → Store κ ν → Execution κ ν α
  | .pure a, _, s => ⟨s, [], some a⟩
  | .step _ _, [], s => ⟨s, [], none⟩
  | .step operation next, .done :: outcomes, s =>
    (exec (next (operation.reply s)) outcomes (operation.apply s)).after operation
  | .step operation next, .failed failure true :: outcomes, s =>
    (exec (next (.failed failure)) outcomes (operation.apply s)).after operation
  | .step _ next, .failed failure false :: outcomes, s => exec (next (.failed failure)) outcomes s

/-- Whatever becomes of the operations, the execution has the property. -/
def Always (p : Prog κ ν φ α) (s : Store κ ν) (Q : Execution κ ν α → Prop) : Prop := ∀ outcomes, Q (exec p outcomes s)

variable {p : Prog κ ν φ α} {s : Store κ ν} {Q Q' : Execution κ ν α → Prop} {f : α → Prog κ ν φ β}

theorem Always.mono (h : Always p s Q) (hQ : ∀ e, Q e → Q' e) : Always p s Q' := fun outcomes => hQ _ (h outcomes)

theorem always_pure {a : α} (h : Q ⟨s, [], some a⟩) : Always (.pure a : Prog κ ν φ α) s Q := by
  intro outcomes
  exact h

theorem always_step {operation : Operation κ ν} {next : Reply ν φ → Prog κ ν φ α} (hstop : Q ⟨s, [], none⟩)
    (hdone : Always (next (operation.reply s)) (operation.apply s) fun e => Q (e.after operation))
    (happlied : ∀ failure, Always (next (.failed failure)) (operation.apply s) fun e => Q (e.after operation))
    (hfailed : ∀ failure, Always (next (.failed failure)) s Q) : Always (.step operation next) s Q := by
  intro outcomes
  match outcomes with
  | [] => exact hstop
  | .done :: outcomes => exact hdone outcomes
  | .failed failure true :: outcomes => exact happlied failure outcomes
  | .failed failure false :: outcomes => exact hfailed failure outcomes

/-- A read has no effect, whether it fails or not. -/
theorem always_read {key : κ} {next : Reply ν φ → Prog κ ν φ α} (hstop : Q ⟨s, [], none⟩)
    (hdone : Always (next ((s key).elim .notFound .value)) s Q)
    (hfailed : ∀ failure, Always (next (.failed failure)) s Q) : Always (.step (.read key) next) s Q :=
  always_step hstop hdone hfailed hfailed

end RealtimeVoice.Base.FaultyStore
