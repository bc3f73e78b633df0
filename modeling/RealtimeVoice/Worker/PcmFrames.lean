import RealtimeVoice.Base.Gen

namespace RealtimeVoice.Worker

open RealtimeVoice.Base

/-- `ProviderError` without the text of its base class, `f"{provider}: {message}"`. -/
structure ProviderError where
  provider : String
  message : String
  retryable : Bool
deriving DecidableEq

namespace PcmFrames

abbrev Bytes := List UInt8

structure PCMFrame where
  data : Bytes
  sampleRate : Int
  samplesPerChannel : Nat
  requestId : String
deriving DecidableEq

def noFrame : ProviderError := ⟨"cosyvoice", "sample rate cannot form a 20 ms frame", false⟩
def oddByteCount : ProviderError := ⟨"cosyvoice", "gateway returned an odd PCM byte count", false⟩

def usable (frameBytes : Nat) (data : Bytes) : Nat := data.length - data.length % frameBytes

/-- `data[start : start + frame_bytes]` for each `start` in `range(0, usable, frame_bytes)` -/
def slices (frameBytes : Nat) (data : Bytes) : List Bytes :=
  (List.range (usable frameBytes data / frameBytes)).map fun i => (data.drop (i * frameBytes)).take frameBytes

def remainder (frameBytes : Nat) (data : Bytes) : Bytes := data.drop (usable frameBytes data)

def frame (sampleRate : Int) (requestId : String) (data : Bytes) : PCMFrame :=
  ⟨data, sampleRate, data.length / 2, requestId⟩

/-- One round of the loop over the chunks, with what was left by the one before. -/
def takeChunk (frameBytes : Nat) (sampleRate : Int) (requestId : String) (left chunk : Bytes) :
    Gen PCMFrame ProviderError Bytes :=
  ⟨(slices frameBytes (left ++ chunk)).map (frame sampleRate requestId), .ok (remainder frameBytes (left ++ chunk))⟩

def pcmFrames (chunks : List Bytes) (sampleRate : Int) (requestId : String) (frameMs : Int := 20) :
    Gen PCMFrame ProviderError Unit :=
  let samples := sampleRate * frameMs / 1000
  if samples ≤ 0 then Gen.raise noFrame
  else do
    let left ← chunks.foldlM (takeChunk (samples.toNat * 2) sampleRate requestId) []
    if left ≠ [] then
      if left.length % 2 ≠ 0 then Gen.raise oddByteCount
      else Gen.yield (frame sampleRate requestId left)

variable {n : Nat} {a b x : Bytes}

/-- Data is less than a frame, or a frame with data behind it. -/
theorem frames_induction {P : Bytes → Prop} (hn : 0 < n) (short : ∀ a, a.length < n → P a)
    (cons : ∀ x a, x.length = n → P a → P (x ++ a)) (a : Bytes) : P a := by
  induction hlength : a.length using Nat.strong_induction_on generalizing a with
  | _ m ih =>
    by_cases hshort : a.length < n
    · exact short a hshort
    · rw [← List.take_append_drop n a]
      apply cons _ _ (List.length_take_of_le (not_lt.mp hshort))
      apply ih (a.drop n).length _ _ rfl
      rw [List.length_drop]
      omega

theorem usable_short (h : a.length < n) : usable n a = 0 := by
  rw [usable, Nat.mod_eq_of_lt h, Nat.sub_self]

theorem usable_cons (h : x.length = n) : usable n (x ++ a) = usable n a + n := by
  rw [usable, usable, List.length_append, h, Nat.add_mod_left]
  have hle := Nat.mod_le a.length n
  omega

theorem slices_short (h : a.length < n) : slices n a = [] := by
  rw [slices, usable_short h, Nat.zero_div]
  rfl

theorem remainder_short (h : a.length < n) : remainder n a = a := by
  rw [remainder, usable_short h, List.drop_zero]

theorem slices_cons (hn : 0 < n) (h : x.length = n) : slices n (x ++ a) = x :: slices n a := by
  rw [slices, slices, usable_cons h, Nat.add_div_right _ hn, List.range_succ_eq_map, List.map_cons, List.map_map,
    Nat.zero_mul, List.drop_zero, List.take_left' h]
  congr 1
  apply List.map_congr_left
  intro i _
  have hlength : (i + 1) * n = x.length + i * n := by
    rw [h, Nat.succ_mul, Nat.add_comm]
  rw [Function.comp_apply, hlength, List.drop_length_add_append]

theorem remainder_cons (h : x.length = n) : remainder n (x ++ a) = remainder n a := by
  rw [remainder, remainder, usable_cons h, Nat.add_comm, ← h, List.drop_length_add_append]

theorem slices_append (hn : 0 < n) (a b : Bytes) : slices n (a ++ b) = slices n a ++ slices n (remainder n a ++ b) := by
  induction a using frames_induction hn with
  | short a h => rw [slices_short h, remainder_short h, List.nil_append]
  | cons x a h ih =>
    rw [List.append_assoc, slices_cons hn h, slices_cons hn h, ih, remainder_cons h]
    rfl

theorem remainder_append (hn : 0 < n) (a b : Bytes) : remainder n (a ++ b) = remainder n (remainder n a ++ b) := by
  induction a using frames_induction hn with
  | short a h => rw [remainder_short h]
  | cons x a h ih => rw [List.append_assoc, remainder_cons h, remainder_cons h, ih]

theorem slices_flatten (hn : 0 < n) (a : Bytes) : (slices n a).flatten ++ remainder n a = a := by
  induction a using frames_induction hn with
  | short a h => rw [slices_short h, remainder_short h, List.flatten_nil, List.nil_append]
  | cons x a h ih => rw [slices_cons hn h, remainder_cons h, List.flatten_cons, List.append_assoc, ih]

theorem slices_length (hn : 0 < n) (a : Bytes) : (∀ s ∈ slices n a, s.length = n) ∧ (remainder n a).length < n := by
  induction a using frames_induction hn with
  | short a h =>
    rw [slices_short h, remainder_short h]
    exact ⟨fun s hs => (List.not_mem_nil hs).elim, h⟩
  | cons x a h ih =>
    rw [slices_cons hn h, remainder_cons h]
    refine ⟨?_, ih.2⟩
    intro s hs
    rcases List.mem_cons.mp hs with rfl | hs
    · exact h
    · exact ih.1 s hs

variable {sampleRate : Int} {requestId : String} {chunks : List Bytes}

/-- The chunks together are framed as one. -/
theorem foldlM_takeChunk (hn : 0 < n) (left : Bytes) (hleft : left.length < n) :
    chunks.foldlM (takeChunk n sampleRate requestId) left =
      ⟨(slices n (left ++ chunks.flatten)).map (frame sampleRate requestId), .ok (remainder n (left ++ chunks.flatten))⟩ := by
  induction chunks generalizing left with
  | nil =>
    rw [List.foldlM_nil, List.flatten_nil, List.append_nil, slices_short hleft, remainder_short hleft]
    rfl
  | cons chunk chunks ih =>
    rw [List.foldlM_cons, Gen.bind_ok rfl, ih _ (slices_length hn _).2, List.flatten_cons, ← List.append_assoc,
      slices_append hn (left ++ chunk), remainder_append hn (left ++ chunk), List.map_append]
    rfl

/-- The bytes of a frame of 20 ms. -/
def frameBytes (sampleRate : Int) : Nat := (sampleRate * 20 / 1000).toNat * 2

theorem frameBytes_pos (h : 50 ≤ sampleRate) : 0 < frameBytes sampleRate := by
  rw [frameBytes]
  omega

/-- Whole frames, and what is left in a frame of its own if it is even. -/
theorem pcmFrames_eq (h : 50 ≤ sampleRate) : pcmFrames chunks sampleRate requestId =
    let n := frameBytes sampleRate
    let left := remainder n chunks.flatten
    ⟨(slices n chunks.flatten ++ if left ≠ [] ∧ left.length % 2 = 0 then [left] else []).map (frame sampleRate requestId),
      if left.length % 2 = 0 then .ok () else .error oddByteCount⟩ := by
  have hn := frameBytes_pos h
  have hsamples : ¬sampleRate * 20 / 1000 ≤ 0 := by omega
  rw [pcmFrames]
  simp only
  rw [if_neg hsamples, ← frameBytes, foldlM_takeChunk hn [] hn, List.nil_append, Gen.bind_ok rfl]
  by_cases hnil : remainder (frameBytes sampleRate) chunks.flatten = []
  · simp [hnil, pure]
  · by_cases heven : (remainder (frameBytes sampleRate) chunks.flatten).length % 2 = 0
    · simp [hnil, heven, Gen.yield]
    · simp [hnil, heven, Gen.raise]

/-- What the frames of a stream are. -/
structure Framed (pcm : Bytes) (sampleRate : Int) (g : Gen PCMFrame ProviderError Unit) : Prop where
  fails : (∃ e, g.ending = .error e) ↔ pcm.length % 2 = 1
  prefix_of : g.yields.flatMap PCMFrame.data <+: pcm
  all : g.ending = .ok () → g.yields.flatMap PCMFrame.data = pcm
  full : ∀ f ∈ g.yields.dropLast, f.data.length = frameBytes sampleRate
  last : ∀ f ∈ g.yields, 0 < f.data.length ∧ f.data.length ≤ frameBytes sampleRate

theorem flatMap_frame (l : List Bytes) : (l.map (frame sampleRate requestId)).flatMap PCMFrame.data = l.flatten := by
  rw [List.flatMap_map]
  exact List.flatMap_id

theorem pcmFrames_framed (h : 50 ≤ sampleRate) :
    Framed chunks.flatten sampleRate (pcmFrames chunks sampleRate requestId) := by
  have hn := frameBytes_pos h
  have hall := slices_flatten hn chunks.flatten
  obtain ⟨hfull, hleft⟩ := slices_length hn chunks.flatten
  have hparity : chunks.flatten.length % 2 = (remainder (frameBytes sampleRate) chunks.flatten).length % 2 := by
    have hmod : usable (frameBytes sampleRate) chunks.flatten % 2 = 0 := by
      rw [usable, frameBytes]
      have hdvd : 2 ∣ (sampleRate * 20 / 1000).toNat * 2 := Nat.dvd_mul_left 2 _
      have h' := Nat.mod_mod_of_dvd chunks.flatten.length hdvd
      have hle := Nat.mod_le chunks.flatten.length ((sampleRate * 20 / 1000).toNat * 2)
      omega
    have hle : usable (frameBytes sampleRate) chunks.flatten ≤ chunks.flatten.length := Nat.sub_le _ _
    rw [remainder, List.length_drop]
    omega
  rw [pcmFrames_eq h]
  simp only
  generalize remainder (frameBytes sampleRate) chunks.flatten = left at *
  generalize slices (frameBytes sampleRate) chunks.flatten = whole at *
  refine ⟨?_, ?_, ?_, ?_, ?_⟩
  · rw [hparity]
    by_cases heven : left.length % 2 = 0
    · simp [heven]
    · simp [heven]
      omega
  · rw [flatMap_frame, ← hall, List.flatten_append, List.prefix_append_right_inj]
    split_ifs <;> simp
  · intro hok
    rw [flatMap_frame, List.flatten_append, ← hall]
    have heven : left.length % 2 = 0 := by
      by_contra hodd
      rw [if_neg hodd] at hok
      cases hok
    by_cases hnil : left = [] <;> simp [hnil, heven]
  · intro f hf
    rw [← List.map_dropLast] at hf
    obtain ⟨s, hs, rfl⟩ := List.mem_map.mp hf
    apply hfull
    split_ifs at hs
    · rwa [List.dropLast_concat] at hs
    · rw [List.append_nil] at hs
      exact List.mem_of_mem_dropLast hs
  · intro f hf
    obtain ⟨s, hs, rfl⟩ := List.mem_map.mp hf
    rcases List.mem_append.mp hs with hs | hs
    · have hlen := hfull s hs
      simp only [frame]
      omega
    · split_ifs at hs with hcond
      · obtain rfl := List.mem_singleton.mp hs
        exact ⟨List.length_pos_iff.mpr hcond.1, hleft.le⟩
      · cases hs

/-- Chunks do not matter. -/
theorem pcmFrames_congr (h : 50 ≤ sampleRate) {chunks' : List Bytes} (heq : chunks.flatten = chunks'.flatten) :
    pcmFrames chunks sampleRate requestId = pcmFrames chunks' sampleRate requestId := by
  rw [pcmFrames_eq h, pcmFrames_eq h, heq]

end PcmFrames

end RealtimeVoice.Worker
