import Mathlib

namespace RealtimeVoice.Udp

def replayWindowPackets : Nat := 64
def maxSequenceForwardJump : Nat := 1024
def jitterWindowPackets : Nat := 4

inductive Flag
  | audio | probe | probeAck | keepalive | unknown
deriving DecidableEq, Repr

structure UdpPacketHeader where
  flags : Flag
  mediaId : List UInt8
  mediaEpoch : Nat
  sequence : Nat
  timestamp : Nat
  generation : Nat
  payloadLength : Nat
deriving DecidableEq

/-- 64-packet replay history with a bounded forward admission jump. -/
structure ReplayWindow where
  highest : Int := -1
  bitmap : Nat := 0
deriving DecidableEq, Repr

namespace ReplayWindow

def distance (w : ReplayWindow) (sequence : Nat) : Nat := (w.highest - sequence).toNat

def canAccept (w : ReplayWindow) (sequence : Nat) : Bool :=
  if w.highest < 0 then true
  else if sequence > w.highest then sequence - w.highest ≤ maxSequenceForwardJump
  else w.distance sequence < replayWindowPackets && (w.bitmap &&& (1 <<< w.distance sequence)) == 0

def contains (w : ReplayWindow) (sequence : Nat) : Bool :=
  if w.highest < 0 ∨ sequence > w.highest then false
  else w.distance sequence < replayWindowPackets && (w.bitmap &&& (1 <<< w.distance sequence)) != 0

/-- `commit`, which the session calls only for an acceptable sequence. -/
def commit (w : ReplayWindow) (sequence : Nat) : ReplayWindow :=
  if sequence > w.highest then
    let shift := (sequence - w.highest).toNat
    { highest := sequence
      bitmap :=
        if shift ≥ replayWindowPackets then 1
        else ((w.bitmap <<< shift) ||| 1) &&& ((1 <<< replayWindowPackets) - 1) }
  else { w with bitmap := w.bitmap ||| (1 <<< w.distance sequence) }

theorem bit_free_iff (n i : Nat) : ((n &&& (1 <<< i)) == 0) = !n.testBit i := by
  rw [Nat.one_shiftLeft, Nat.and_two_pow]
  cases n.testBit i <;> simp

/-- The window remembers every committed sequence that is near its front. -/
structure Tracks (w : ReplayWindow) (committed : List Nat) : Prop where
  below : ∀ n ∈ committed, (n : Int) ≤ w.highest
  marked : ∀ n ∈ committed, w.distance n < replayWindowPackets → w.bitmap.testBit (w.distance n) = true

theorem tracks_init : Tracks {} [] := ⟨by simp, by simp⟩

variable {w : ReplayWindow} {committed : List Nat} {n : Nat}

/-- An acceptable sequence has not been committed. -/
theorem Tracks.not_mem (h : Tracks w committed) (hn : w.canAccept n = true) : n ∉ committed := by
  intro hmem
  have hle := h.below n hmem
  rw [canAccept, if_neg (by omega), if_neg (by omega), bit_free_iff] at hn
  simp only [Bool.and_eq_true, decide_eq_true_eq, Bool.not_eq_true'] at hn
  rw [h.marked n hmem hn.1] at hn
  cases hn.2

theorem testBit_pushed (bitmap shift i : Nat) (hi : i < replayWindowPackets) :
    (((bitmap <<< shift) ||| 1) &&& ((1 <<< replayWindowPackets) - 1)).testBit i =
      (decide (shift ≤ i) && bitmap.testBit (i - shift) || decide (i = 0)) := by
  have hone : (1 : Nat).testBit i = decide (i = 0) := by
    rw [← pow_zero 2, Nat.testBit_two_pow, decide_eq_decide]
    exact eq_comm
  rw [Nat.one_shiftLeft, Nat.testBit_and, Nat.testBit_or, Nat.testBit_shiftLeft, Nat.testBit_two_pow_sub_one, hone]
  simp [hi]

theorem Tracks.commit (h : Tracks w committed) : Tracks (w.commit n) (committed ++ [n]) := by
  rw [ReplayWindow.commit]
  by_cases hgt : (n : Int) > w.highest
  · rw [if_pos hgt]
    refine ⟨?_, ?_⟩
    · intro m hm
      rw [List.mem_append, List.mem_singleton] at hm
      obtain hm | rfl := hm
      · have hle := h.below m hm
        dsimp only
        omega
      · exact le_rfl
    · intro m hm hnear
      dsimp only [distance] at hnear ⊢
      rw [List.mem_append, List.mem_singleton] at hm
      obtain hm | rfl := hm
      · -- an older sequence moves up with the shifted bitmap
        have hle := h.below m hm
        rw [if_neg (by omega), testBit_pushed _ _ _ hnear]
        have hold := h.marked m hm (by rw [distance]; omega)
        rw [distance] at hold
        rw [show ((n : Int) - m).toNat - (n - w.highest).toNat = (w.highest - m).toNat by omega, hold]
        simp only [Bool.and_true, Bool.or_eq_true, decide_eq_true_eq]
        omega
      · rw [sub_self, Int.toNat_zero]
        split
        · rfl
        · rw [testBit_pushed _ _ _ (by decide)]
          simp
  · rw [if_neg hgt]
    refine ⟨?_, ?_⟩
    · intro m hm
      rw [List.mem_append, List.mem_singleton] at hm
      obtain hm | rfl := hm
      · exact h.below m hm
      · exact not_lt.mp hgt
    · intro m hm hnear
      dsimp only [distance] at hnear ⊢
      rw [List.mem_append, List.mem_singleton] at hm
      rw [Nat.testBit_or, Nat.one_shiftLeft]
      obtain hm | rfl := hm
      · have hold := h.marked m hm hnear
        rw [distance] at hold
        rw [hold, Bool.true_or]
      · rw [Nat.testBit_two_pow_self, Bool.or_true]

end ReplayWindow

end RealtimeVoice.Udp
