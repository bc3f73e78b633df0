import RealtimeVoice.Udp.Wire

namespace RealtimeVoice.Udp

/-- An admission window: a number is committed only after it was found acceptable. -/
structure Window (W N : Type) where
  start : W
  canAccept : W → N → Bool
  commit : W → N → W

namespace Window

variable {W V M N : Type}

def offer (win : Window W N) (w : W) (n : N) : W := if win.canAccept w n then win.commit w n else w

def after (win : Window W N) (ns : List N) : W := ns.foldl win.offer win.start

/-- The answers to the numbers of a list, offered in order. -/
def answers (win : Window W N) : W → List N → List Bool
  | _, [] => []
  | w, n :: ns => win.canAccept w n :: answers win (win.offer w n) ns

/-- The numbers that were accepted, in order. -/
def accepted (win : Window W N) : W → List N → List N
  | _, [] => []
  | w, n :: ns => (if win.canAccept w n then [n] else []) ++ accepted win (win.offer w n) ns

theorem after_snoc (win : Window W N) (ns : List N) (n : N) :
    win.after (ns ++ [n]) = win.offer (win.after ns) n := by
  rw [after, List.foldl_append]
  rfl

theorem accepted_append (win : Window W N) (w : W) (ns ms : List N) :
    win.accepted w (ns ++ ms) = win.accepted w ns ++ win.accepted (ns.foldl win.offer w) ms := by
  induction ns generalizing w with
  | nil => rfl
  | cons n ns ih => rw [List.cons_append, accepted, accepted, ih, List.append_assoc, List.foldl_cons]

theorem accepted_snoc (win : Window W N) (ns : List N) (n : N) :
    win.accepted win.start (ns ++ [n]) =
      win.accepted win.start ns ++ if win.canAccept (win.after ns) n then [n] else [] := by
  rw [accepted_append]
  change _ ++ (_ ++ []) = _
  rw [List.append_nil]
  rfl

/-- Windows that answer alike and stay related give the same answers for ever. -/
theorem answers_eq {win : Window W N} {other : Window V M} {R : W → V → Prop} (f : M → N)
    (haccept : ∀ w v n, R w v → win.canAccept w (f n) = other.canAccept v n)
    (hcommit : ∀ w v n, R w v → other.canAccept v n = true → R (win.commit w (f n)) (other.commit v n))
    {w : W} {v : V} (h : R w v) (ns : List M) : win.answers w (ns.map f) = other.answers v ns := by
  induction ns generalizing w v with
  | nil => rfl
  | cons n ns ih =>
    have hnext : R (win.offer w (f n)) (other.offer v n) := by
      rw [offer, offer, haccept w v n h]
      by_cases hn : other.canAccept v n = true
      · rw [if_pos hn, if_pos hn]
        exact hcommit w v n h hn
      · rw [if_neg hn, if_neg hn]
        exact h
    rw [List.map_cons, answers, answers, haccept w v n h, ih hnext]

end Window

namespace ReplayWindow

/-- The server's window. -/
def window : Window ReplayWindow Nat := { start := {}, canAccept, commit }

/-- The bitmap says which of the last 64 numbers were accepted, and `highest` which
was the greatest. -/
structure Mirrors (w : ReplayWindow) (accepted : List Nat) : Prop where
  highest : w.highest = (accepted.max?).elim (-1) (fun h => (h : Int))
  marked : ∀ i < replayWindowPackets, w.bitmap.testBit i = true ↔ ∃ n ∈ accepted, (n : Int) + i = w.highest

theorem mirrors_start : Mirrors {} [] := ⟨rfl, by simp⟩

variable {w : ReplayWindow} {accepted : List Nat} {n : Nat}

theorem Mirrors.nil_or (h : Mirrors w accepted) :
    (accepted = [] ∧ w.highest = -1) ∨ ∃ top ∈ accepted, w.highest = (top : Int) ∧ ∀ m ∈ accepted, m ≤ top := by
  have hhighest := h.highest
  cases hmax : accepted.max? with
  | none =>
    rw [hmax] at hhighest
    exact .inl ⟨List.max?_eq_none_iff.mp hmax, hhighest⟩
  | some top =>
    rw [hmax] at hhighest
    obtain ⟨hmem, hle⟩ := List.max?_eq_some_iff.mp hmax
    exact .inr ⟨top, hmem, hhighest, hle⟩

theorem Mirrors.below (h : Mirrors w accepted) {m : Nat} (hm : m ∈ accepted) : (m : Int) ≤ w.highest := by
  obtain ⟨rfl, -⟩ | ⟨top, -, htop, hle⟩ := h.nil_or
  · cases hm
  · have := hle m hm
    omega

theorem Mirrors.canAccept_iff (h : Mirrors w accepted) :
    w.canAccept n = true ↔
      n ∉ accepted ∧ ∀ top, accepted.max? = some top → top < n + replayWindowPackets ∧ n ≤ top + maxSequenceForwardJump := by
  obtain ⟨rfl, hhighest⟩ | ⟨top, hmem, hhighest, hle⟩ := h.nil_or
  · rw [canAccept, hhighest]
    simp
  · have hmax : accepted.max? = some top := List.max?_eq_some_iff.mpr ⟨hmem, hle⟩
    have hfit : (∀ top', accepted.max? = some top' →
        top' < n + replayWindowPackets ∧ n ≤ top' + maxSequenceForwardJump) ↔
        top < n + replayWindowPackets ∧ n ≤ top + maxSequenceForwardJump := by
      rw [hmax]
      simp
    rw [hfit, canAccept, if_neg (by omega)]
    by_cases hgt : (n : Int) > w.highest
    · -- ahead of the window only the forward bound matters
      have hnot : n ∉ accepted := fun hn => absurd (hle n hn) (by omega)
      rw [if_pos hgt, decide_eq_true_iff]
      simp only [replayWindowPackets, maxSequenceForwardJump, hnot, not_false_eq_true, true_and]
      omega
    · obtain ⟨d, hd⟩ : ∃ d : Nat, w.distance n = d ∧ (n : Int) + d = w.highest :=
        ⟨w.distance n, rfl, by rw [distance]; omega⟩
      rw [if_neg hgt, bit_free_iff, Bool.and_eq_true, decide_eq_true_iff, Bool.not_eq_true', hd.1]
      by_cases hnear : d < replayWindowPackets
      · have hbit := h.marked d hnear
        have hmem' : (∃ m ∈ accepted, (m : Int) + d = w.highest) ↔ n ∈ accepted := by
          refine ⟨?_, fun hn => ⟨n, hn, hd.2⟩⟩
          rintro ⟨m, hm, heq⟩
          rwa [show n = m by omega]
        rw [hmem'] at hbit
        rw [← Bool.not_eq_true, hbit]
        simp only [hnear, true_and]
        refine ⟨fun hn => ⟨hn, by omega, ?_⟩, fun hn => hn.1⟩
        rw [maxSequenceForwardJump]
        omega
      · simp only [hnear, false_and, false_iff]
        rintro ⟨-, hlow, -⟩
        omega

theorem Mirrors.commit (h : Mirrors w accepted) (hn : w.canAccept n = true) :
    Mirrors (w.commit n) (accepted ++ [n]) := by
  rw [ReplayWindow.commit]
  by_cases hgt : (n : Int) > w.highest
  · have hmax : (accepted ++ [n]).max? = some n := by
      refine List.max?_eq_some_iff.mpr ⟨by simp, ?_⟩
      intro m hm
      rw [List.mem_append, List.mem_singleton] at hm
      obtain hm | rfl := hm
      · have hle := h.below hm
        omega
      · exact le_rfl
    rw [if_pos hgt]
    refine ⟨by rw [hmax]; rfl, ?_⟩
    intro i hi
    dsimp only
    have hpushed : (if (n - w.highest).toNat ≥ replayWindowPackets then 1
        else ((w.bitmap <<< (n - w.highest).toNat) ||| 1) &&& ((1 <<< replayWindowPackets) - 1)).testBit i =
        (decide ((n - w.highest).toNat ≤ i) && w.bitmap.testBit (i - (n - w.highest).toNat) || decide (i = 0)) := by
      split
      · rename_i hfar
        have hshort : ¬(n - w.highest).toNat ≤ i := by omega
        have hone : (1 : Nat).testBit i = decide (i = 0) := by
          rw [Bool.eq_iff_iff, Nat.testBit_one_eq_true_iff_self_eq_zero, decide_eq_true_iff]
        simp [hone, hshort]
      · exact testBit_pushed _ _ _ hi
    rw [hpushed]
    simp only [List.mem_append, List.mem_singleton, Bool.or_eq_true, Bool.and_eq_true, decide_eq_true_eq]
    refine ⟨?_, ?_⟩
    · rintro (⟨hle, hbit⟩ | rfl)
      · obtain ⟨m, hm, heq⟩ := (h.marked _ (by omega)).mp hbit
        exact ⟨m, .inl hm, by omega⟩
      · exact ⟨n, .inr rfl, by simp⟩
    · rintro ⟨m, hm | rfl, heq⟩
      · have hle := h.below hm
        refine .inl ⟨by omega, (h.marked _ (by omega)).mpr ⟨m, hm, by omega⟩⟩
      · exact .inr (by omega)
  · have hacc := h.canAccept_iff.mp hn
    obtain ⟨rfl, hhighest⟩ | ⟨top, hmem, hhighest, hle⟩ := h.nil_or
    · exact absurd hgt (by omega)
    · have hmax : (accepted ++ [n]).max? = some top := by
        refine List.max?_eq_some_iff.mpr ⟨by simp [hmem], ?_⟩
        intro m hm
        rw [List.mem_append, List.mem_singleton] at hm
        obtain hm | rfl := hm
        · exact hle m hm
        · omega
      rw [if_neg hgt]
      refine ⟨by rw [hmax]; exact hhighest, ?_⟩
      intro i hi
      rw [Nat.testBit_or, Nat.one_shiftLeft, Nat.testBit_two_pow, Bool.or_eq_true, h.marked i hi, distance,
        decide_eq_true_iff]
      simp only [List.mem_append, List.mem_singleton]
      refine ⟨?_, ?_⟩
      · rintro (⟨m, hm, heq⟩ | rfl)
        · exact ⟨m, .inl hm, heq⟩
        · exact ⟨n, .inr rfl, by omega⟩
      · rintro ⟨m, hm | rfl, heq⟩
        · exact .inl ⟨m, hm, heq⟩
        · exact .inr (by omega)

theorem mirrors_after (ns : List Nat) : Mirrors (window.after ns) (window.accepted window.start ns) := by
  induction ns using List.reverseRecOn with
  | nil => exact mirrors_start
  | append_singleton ns n ih =>
    rw [Window.after_snoc, Window.accepted_snoc, Window.offer]
    by_cases hn : window.canAccept (window.after ns) n = true
    · rw [if_pos hn, if_pos hn]
      exact ih.commit hn
    · rw [if_neg hn, if_neg hn, List.append_nil]
      exact ih

end ReplayWindow

end RealtimeVoice.Udp

namespace RealtimeVoice.Firmware

structure ReplayWindow where
  highest : UInt32 := 0
  bitmap : UInt64 := 0
deriving DecidableEq

namespace ReplayWindow

def maxForwardDistance : UInt32 := 1024

def canAccept (w : ReplayWindow) (sequence : UInt32) : Bool :=
  if sequence > w.highest then decide (sequence - w.highest ≤ maxForwardDistance)
  else
    let distance := w.highest - sequence
    decide (distance < 64) && (w.bitmap &&& (1 <<< distance.toUInt64)) == 0

def commit (w : ReplayWindow) (sequence : UInt32) : ReplayWindow :=
  if sequence > w.highest then
    let shift := sequence - w.highest
    { highest := sequence, bitmap := if shift ≥ 64 then 1 else (w.bitmap <<< shift.toUInt64) ||| 1 }
  else { w with bitmap := w.bitmap ||| (1 <<< (w.highest - sequence).toUInt64) }

def window : Udp.Window ReplayWindow UInt32 := { start := {}, canAccept, commit }

end ReplayWindow

end RealtimeVoice.Firmware

namespace RealtimeVoice.Desktop

structure ReplayWindow where
  highest : Option Nat := none
  bitmap : Nat := 0
deriving DecidableEq

namespace ReplayWindow

def replayWindowPackets : Nat := 64
def maxSequenceForwardJump : Nat := 1024

def acceptable (w : ReplayWindow) (sequence : Nat) : Bool :=
  if ¬sequence ≤ 0xFFFFFFFF then false
  else
    match w.highest with
    | none => true
    | some highest =>
      if sequence > highest then decide (sequence - highest ≤ maxSequenceForwardJump)
      else decide (highest - sequence < replayWindowPackets) && (w.bitmap &&& (1 <<< (highest - sequence))) == 0

/-- `commit` of an acceptable sequence. -/
def commit (w : ReplayWindow) (sequence : Nat) : ReplayWindow :=
  match w.highest with
  | none => { highest := some sequence, bitmap := 1 }
  | some highest =>
    if sequence > highest then
      { highest := some sequence
        bitmap := ((w.bitmap <<< (sequence - highest)) ||| 1) &&& ((1 <<< replayWindowPackets) - 1) }
    else { w with bitmap := w.bitmap ||| (1 <<< (highest - sequence)) }

def window : Udp.Window ReplayWindow Nat := { start := {}, canAccept := acceptable, commit }

end ReplayWindow

end RealtimeVoice.Desktop

namespace RealtimeVoice.Udp.ReplayWindow

/-- A server window and a firmware window that have accepted the same numbers. -/
def Same (w : ReplayWindow) (v : Firmware.ReplayWindow) : Prop :=
  w.highest = v.highest.toNat ∧ w.bitmap = v.bitmap.toNat

variable {w : ReplayWindow} {v : Firmware.ReplayWindow}

theorem toNat_sub_of_le {a b : UInt32} (h : b.toNat ≤ a.toNat) : (a - b).toNat = a.toNat - b.toNat :=
  UInt32.toNat_sub_of_le _ _ (UInt32.le_iff_toNat_le.mpr h)

theorem toNat_bit {distance : UInt32} (h : distance.toNat < 64) :
    ((1 : UInt64) <<< distance.toUInt64).toNat = 1 <<< distance.toNat := by
  have hlt : 2 ^ distance.toNat < 2 ^ 64 := Nat.pow_lt_pow_right (by decide) h
  rw [UInt64.toNat_shiftLeft, UInt32.toNat_toUInt64, Nat.mod_eq_of_lt h]
  change 1 <<< distance.toNat % 2 ^ 64 = _
  rw [Nat.one_shiftLeft, Nat.mod_eq_of_lt hlt]

theorem same_canAccept (h : Same w v) (n : UInt32) : w.canAccept n.toNat = v.canAccept n := by
  obtain ⟨hhighest, hbitmap⟩ := h
  rw [canAccept, Firmware.ReplayWindow.canAccept, if_neg (by omega)]
  by_cases hgt : n > v.highest
  · have hlt := UInt32.lt_iff_toNat_lt.mp hgt
    rw [if_pos hgt, if_pos (by omega), decide_eq_decide, UInt32.le_iff_toNat_le, toNat_sub_of_le hlt.le, hhighest]
    change _ ≤ ((1024 : Nat) : Int) ↔ _ ≤ 1024
    omega
  · have hle : ¬v.highest.toNat < n.toNat := fun hlt => hgt (UInt32.lt_iff_toNat_lt.mpr hlt)
    have hdistance : w.distance n.toNat = (v.highest - n).toNat := by
      rw [distance, hhighest, toNat_sub_of_le (not_lt.mp hle)]
      omega
    rw [if_neg hgt, if_neg (by omega), hdistance]
    dsimp only
    have hnear : v.highest - n < 64 ↔ (v.highest - n).toNat < 64 := UInt32.lt_iff_toNat_lt
    by_cases hlt : v.highest - n < 64
    · rw [decide_eq_true hlt, decide_eq_true (show _ < replayWindowPackets from hnear.mp hlt), Bool.true_and,
        Bool.true_and, hbitmap, ← toNat_bit (hnear.mp hlt), ← UInt64.toNat_and, Bool.eq_iff_iff, beq_iff_eq,
        beq_iff_eq, ← UInt64.toNat_inj]
      rfl
    · rw [decide_eq_false hlt, decide_eq_false (show ¬_ < replayWindowPackets from mt hnear.mpr hlt),
        Bool.false_and, Bool.false_and]

theorem same_commit (h : Same w v) (n : UInt32) (hn : v.canAccept n = true) :
    Same (w.commit n.toNat) (v.commit n) := by
  obtain ⟨hhighest, hbitmap⟩ := h
  rw [commit, Firmware.ReplayWindow.commit]
  by_cases hgt : n > v.highest
  · have hlt := UInt32.lt_iff_toNat_lt.mp hgt
    have hshift : ((n.toNat : Int) - w.highest).toNat = (n - v.highest).toNat := by
      rw [toNat_sub_of_le hlt.le]
      omega
    rw [if_pos hgt, if_pos (by omega), hshift]
    refine ⟨rfl, ?_⟩
    dsimp only
    have hfar : n - v.highest ≥ 64 ↔ (n - v.highest).toNat ≥ 64 := UInt32.le_iff_toNat_le
    by_cases hge : n - v.highest ≥ 64
    · rw [if_pos hge, if_pos (show _ ≥ replayWindowPackets from hfar.mp hge)]
      rfl
    · have hshort : (n - v.highest).toNat < 64 := not_le.mp (mt hfar.mpr hge)
      rw [if_neg hge, if_neg (show ¬_ ≥ replayWindowPackets from mt hfar.mpr hge), UInt64.toNat_or,
        UInt64.toNat_shiftLeft, UInt32.toNat_toUInt64, Nat.mod_eq_of_lt hshort, hbitmap, Nat.one_shiftLeft,
        Nat.and_two_pow_sub_one_eq_mod, Nat.or_mod_two_pow]
      rfl
  · have hle : ¬v.highest.toNat < n.toNat := fun hlt => hgt (UInt32.lt_iff_toNat_lt.mpr hlt)
    rw [Firmware.ReplayWindow.canAccept, if_neg hgt] at hn
    simp only [Bool.and_eq_true, decide_eq_true_eq] at hn
    have hnear : (v.highest - n).toNat < 64 := UInt32.lt_iff_toNat_lt.mp hn.1
    have hdistance : w.distance n.toNat = (v.highest - n).toNat := by
      rw [distance, hhighest, toNat_sub_of_le (not_lt.mp hle)]
      omega
    rw [if_neg hgt, if_neg (by omega)]
    refine ⟨hhighest, ?_⟩
    rw [hdistance, hbitmap, UInt64.toNat_or, toNat_bit hnear]

/-- A server window and a desktop window that have accepted the same numbers. -/
structure SameDesktop (w : ReplayWindow) (v : Desktop.ReplayWindow) : Prop where
  highest : w.highest = v.highest.elim (-1) (fun h => (h : Int))
  bitmap : w.bitmap = v.bitmap
  fresh : v.highest = none → v.bitmap = 0

section Desktop

variable {v : Desktop.ReplayWindow}

theorem SameDesktop.highest_some (h : SameDesktop w v) {top : Nat} (htop : v.highest = some top) :
    w.highest = (top : Int) := by
  rw [h.highest, htop]
  rfl

theorem SameDesktop.highest_none (h : SameDesktop w v) (hnone : v.highest = none) : w.highest = -1 := by
  rw [h.highest, hnone]
  rfl

theorem sameDesktop_canAccept (h : SameDesktop w v) (n : UInt32) : w.canAccept n.toNat = v.acceptable n.toNat := by
  have hrange : n.toNat ≤ 0xFFFFFFFF := Nat.le_of_lt_succ n.toNat_lt
  rw [canAccept, Desktop.ReplayWindow.acceptable, if_neg (not_not.mpr hrange)]
  cases hv : v.highest with
  | none => rw [if_pos (by rw [h.highest_none hv]; decide)]
  | some top =>
    have hhighest := h.highest_some hv
    rw [if_neg (by omega)]
    dsimp only
    by_cases hgt : n.toNat > top
    · rw [if_pos hgt, if_pos (by omega), decide_eq_decide, hhighest]
      change _ ≤ ((1024 : Nat) : Int) ↔ _ ≤ 1024
      omega
    · have hdistance : w.distance n.toNat = top - n.toNat := by
        rw [distance, hhighest]
        omega
      rw [if_neg hgt, if_neg (by omega), hdistance, h.bitmap]
      rfl

theorem pushed_far (bitmap : Nat) {shift : Nat} (h : shift ≥ replayWindowPackets) :
    ((bitmap <<< shift) ||| 1) &&& ((1 <<< replayWindowPackets) - 1) = 1 := by
  have hzero : bitmap <<< shift % 2 ^ replayWindowPackets = 0 := by
    rw [Nat.shiftLeft_eq]
    exact Nat.mod_eq_zero_of_dvd (Dvd.dvd.mul_left (pow_dvd_pow 2 h) bitmap)
  rw [Nat.one_shiftLeft, Nat.and_two_pow_sub_one_eq_mod, Nat.or_mod_two_pow, hzero]
  rfl

theorem sameDesktop_commit (h : SameDesktop w v) (n : Nat) : SameDesktop (w.commit n) (v.commit n) := by
  rw [commit, Desktop.ReplayWindow.commit]
  cases hv : v.highest with
  | none =>
    have hhighest := h.highest_none hv
    have hbitmap : w.bitmap = 0 := h.bitmap.trans (h.fresh hv)
    rw [if_pos (by omega)]
    refine ⟨rfl, ?_, by simp⟩
    dsimp only
    rw [hbitmap, Nat.zero_shiftLeft]
    split <;> rfl
  | some top =>
    have hhighest := h.highest_some hv
    dsimp only
    by_cases hgt : n > top
    · have hshift : ((n : Int) - w.highest).toNat = n - top := by omega
      rw [if_pos hgt, if_pos (by omega), hshift, h.bitmap]
      refine ⟨rfl, ?_, by simp⟩
      dsimp only
      split
      · rename_i hfar
        exact (pushed_far _ hfar).symm
      · rfl
    · have hdistance : w.distance n = top - n := by
        rw [distance, hhighest]
        omega
      rw [if_neg hgt, if_neg (by omega)]
      refine ⟨hhighest, ?_, by simp⟩
      rw [hdistance, h.bitmap]

end Desktop

theorem commit_start (n : Nat) : commit {} n = { highest := n, bitmap := 1 } := by
  have hgt : (n : Int) > ({} : ReplayWindow).highest := by
    change (n : Int) > -1
    omega
  rw [commit, if_pos hgt]
  dsimp only
  rw [Nat.zero_shiftLeft]
  split <;> rfl

theorem firmware_commit_start (n : UInt32) : Firmware.ReplayWindow.commit {} n = { highest := n, bitmap := 1 } := by
  by_cases hzero : n = 0
  · rw [hzero]
    rfl
  · have hgt : n > ({} : Firmware.ReplayWindow).highest := by
      refine UInt32.lt_iff_toNat_lt.mpr (Nat.pos_of_ne_zero fun h => hzero ?_)
      exact UInt32.toNat_inj.mp h
    rw [Firmware.ReplayWindow.commit, if_pos hgt]
    dsimp only
    rw [UInt64.zero_shiftLeft]
    split <;> rfl

/-- The firmware's window remembers what was committed to it. -/
def FirmwareTracks (v : Firmware.ReplayWindow) (committed : List UInt32) : Prop :=
  committed = [] ∧ v = {} ∨ ∃ w : ReplayWindow, Same w v ∧ Tracks w (committed.map UInt32.toNat)

theorem FirmwareTracks.not_mem {committed : List UInt32} {n : UInt32} (h : FirmwareTracks v committed)
    (hn : v.canAccept n = true) : n ∉ committed := by
  obtain ⟨rfl, -⟩ | ⟨w, hsame, htracks⟩ := h
  · exact List.not_mem_nil
  · intro hmem
    exact htracks.not_mem ((same_canAccept hsame n).trans hn) (List.mem_map_of_mem hmem)

theorem FirmwareTracks.commit {committed : List UInt32} {n : UInt32} (h : FirmwareTracks v committed)
    (hn : v.canAccept n = true) : FirmwareTracks (v.commit n) (committed ++ [n]) := by
  right
  obtain ⟨rfl, rfl⟩ | ⟨w, hsame, htracks⟩ := h
  · refine ⟨ReplayWindow.commit {} n.toNat, ?_, tracks_init.commit⟩
    rw [commit_start, firmware_commit_start]
    exact ⟨rfl, rfl⟩
  · refine ⟨w.commit n.toNat, same_commit hsame n hn, ?_⟩
    rw [List.map_append]
    exact htracks.commit

/-- The firmware's `highest_` starts at zero, so only a first number within the
forward bound is taken as the server takes it. -/
theorem firmware_canAccept_start {n : UInt32} (h : n.toNat ≤ maxSequenceForwardJump) :
    Firmware.ReplayWindow.canAccept {} n = true := by
  by_cases hzero : n = 0
  · rw [hzero]
    decide
  · have hgt : n > ({} : Firmware.ReplayWindow).highest := by
      refine UInt32.lt_iff_toNat_lt.mpr (Nat.pos_of_ne_zero fun h => hzero ?_)
      exact UInt32.toNat_inj.mp h
    rw [Firmware.ReplayWindow.canAccept, if_pos hgt, UInt32.sub_zero]
    exact decide_eq_true (UInt32.le_iff_toNat_le.mpr h)

theorem firmware_answers {ns : List UInt32} (h : ∀ n ∈ ns.head?, n.toNat ≤ maxSequenceForwardJump) :
    window.answers window.start (ns.map UInt32.toNat) =
      Firmware.ReplayWindow.window.answers Firmware.ReplayWindow.window.start ns := by
  cases ns with
  | nil => rfl
  | cons n ns =>
    have hserver : window.canAccept window.start n.toNat = true := rfl
    have hfirmware : Firmware.ReplayWindow.window.canAccept Firmware.ReplayWindow.window.start n = true :=
      firmware_canAccept_start (h n rfl)
    have hsame : Same (window.commit window.start n.toNat)
        (Firmware.ReplayWindow.window.commit Firmware.ReplayWindow.window.start n) := by
      change Same (commit {} n.toNat) (Firmware.ReplayWindow.commit {} n)
      rw [commit_start, firmware_commit_start]
      exact ⟨rfl, rfl⟩
    rw [List.map_cons, Window.answers, Window.answers, hserver, hfirmware, Window.offer, Window.offer, if_pos hserver,
      if_pos hfirmware]
    exact congrArg _ (Window.answers_eq (R := Same) UInt32.toNat (fun _ _ n hR => same_canAccept hR n)
      (fun _ _ n hR hn => same_commit hR n hn) hsame ns)

theorem desktop_answers (ns : List UInt32) :
    window.answers window.start (ns.map UInt32.toNat) =
      Desktop.ReplayWindow.window.answers Desktop.ReplayWindow.window.start (ns.map UInt32.toNat) := by
  have hnumbers : Desktop.ReplayWindow.window.answers Desktop.ReplayWindow.window.start (ns.map UInt32.toNat) =
      ({ start := {}, canAccept := fun v n => v.acceptable n.toNat, commit := fun v n => v.commit n.toNat } :
        Window Desktop.ReplayWindow UInt32).answers {} ns := by
    refine Window.answers_eq (R := Eq) UInt32.toNat ?_ ?_ rfl ns
    · rintro w _ n rfl
      rfl
    · rintro w _ n rfl -
      rfl
  rw [hnumbers]
  exact Window.answers_eq (R := SameDesktop) UInt32.toNat (fun _ _ n hR => sameDesktop_canAccept hR n)
    (fun _ _ n hR _ => sameDesktop_commit hR n.toNat) ⟨rfl, rfl, fun _ => rfl⟩ ns

/-- The server accepts a number exactly when it is new and lies within the window,
and the two endpoints answer every history as the server does. -/
theorem replay_windows :
    (∀ (before : List Nat) (n : Nat), window.canAccept (window.after before) n = true ↔
      n ∉ window.accepted window.start before ∧
        ∀ top, (window.accepted window.start before).max? = some top →
          (top : Int) - 64 < n ∧ (n : Int) ≤ top + 1024) ∧
    ∀ ns : List UInt32, (∀ n ∈ ns.head?, n.toNat ≤ 1024) →
      Firmware.ReplayWindow.window.answers Firmware.ReplayWindow.window.start ns =
        window.answers window.start (ns.map UInt32.toNat) ∧
      Desktop.ReplayWindow.window.answers Desktop.ReplayWindow.window.start (ns.map UInt32.toNat) =
        window.answers window.start (ns.map UInt32.toNat) := by
  refine ⟨?_, ?_⟩
  · intro before n
    refine (mirrors_after before).canAccept_iff.trans (and_congr_right fun _ => forall₂_congr fun top _ => ?_)
    simp only [replayWindowPackets, maxSequenceForwardJump]
    omega
  · intro ns h
    exact ⟨(firmware_answers h).symm, (desktop_answers ns).symm⟩

theorem replay_windows_near_zero :
    Firmware.ReplayWindow.window.answers Firmware.ReplayWindow.window.start [5, 0, 5, 4294967295, 1029] =
      window.answers window.start [5, 0, 5, 4294967295, 1029] ∧
    window.answers window.start [5, 0, 5, 4294967295, 1029] = [true, true, false, false, true] := by
  refine ⟨(replay_windows.2 [5, 0, 5, 4294967295, 1029] ?_).1, by decide⟩
  intro n hn
  obtain rfl := Option.some.inj hn
  decide

end RealtimeVoice.Udp.ReplayWindow
