import RealtimeVoice.Base.Rounding

namespace RealtimeVoice.Desktop.Resample

open RealtimeVoice.Base.Rounding

inductive Error
  | ratesNotPositive
  | channelsNotPositive
  | pushAfterFlush
  | oddLength
  | misaligned
  | fellBehind
  /-- `IndexError` of a read past the retained samples. -/
  | index
  /-- `OverflowError` of a value that is no 16-bit sample. -/
  | overflow
deriving DecidableEq, Repr

/-- The two bytes of a little-endian sample, as `array("h")` reads them. -/
def sampleOf (lo hi : UInt8) : ℤ := (BitVec.ofNat 16 (lo.toNat + 256 * hi.toNat)).toInt

def bytesOf (v : ℤ) : List UInt8 :=
  [UInt8.ofNat ((v % 65536).toNat % 256), UInt8.ofNat ((v % 65536).toNat / 256)]

def samplesOf : List UInt8 → List ℤ
  | lo :: hi :: rest => sampleOf lo hi :: samplesOf rest
  | _ => []

def pcm16leToSamples (data : List UInt8) : Except Error (List ℤ) :=
  if data.length % 2 ≠ 0 then .error .oddLength else .ok (samplesOf data)

def IsSample (v : ℤ) : Prop := -32768 ≤ v ∧ v ≤ 32767

instance (v : ℤ) : Decidable (IsSample v) := inferInstanceAs (Decidable (_ ∧ _))

def samplesToPcm16le (samples : List ℤ) : Except Error (List UInt8) :=
  if ∀ v ∈ samples, IsSample v then .ok (samples.flatMap bytesOf) else .error .overflow

/-- The arguments that the constructor accepts. -/
structure Settings where
  inputRate : Nat
  channels : Nat
  outputRate : Nat
  inputRate_pos : 0 < inputRate
  channels_pos : 0 < channels
  outputRate_pos : 0 < outputRate
deriving DecidableEq, Repr

def Settings.of (inputSampleRateHz inputChannels outputSampleRateHz : ℤ) : Except Error Settings :=
  if h : inputSampleRateHz ≤ 0 ∨ outputSampleRateHz ≤ 0 then .error .ratesNotPositive
  else if h' : inputChannels ≤ 0 then .error .channelsNotPositive
  else .ok
    { inputRate := inputSampleRateHz.toNat
      channels := inputChannels.toNat
      outputRate := outputSampleRateHz.toNat
      inputRate_pos := by omega
      channels_pos := by omega
      outputRate_pos := by omega }

structure Pcm16MonoResampler where
  samples : List ℤ
  baseIndex : Nat
  nextPositionNumerator : Nat
  flushed : Bool
deriving DecidableEq, Repr

def Pcm16MonoResampler.init : Pcm16MonoResampler :=
  { samples := [], baseIndex := 0, nextPositionNumerator := 0, flushed := false }

variable (cfg : Settings)

/-- One sample for each frame: the rounded mean of its channels. -/
def downmix (raw : List ℤ) : List ℤ :=
  if cfg.channels = 1 then raw
  else (List.range (raw.length / cfg.channels)).map fun i =>
    roundEven (double (((raw.drop (i * cfg.channels)).take cfg.channels).sum / cfg.channels))

/-- The value `remainder / outputRate` of the way from one sample to the next,
each arithmetic operation rounded to a binary64 number. -/
def interpolate (current following : ℤ) (remainder : Nat) : ℤ :=
  roundEven (double (current + double ((following - current) * remainder / cfg.outputRate)))

def clamp (v : ℤ) : ℤ := max (-32768) (min 32767 v)

/-- The `while` loop of `_produce`, with its output so far. -/
def produceLoop (s : Pcm16MonoResampler) (lastIndex : Nat) (repeatLast : Bool) (next : Nat) (output : List ℤ) :
    Except Error (List ℤ × Nat) :=
  let index := next / cfg.outputRate
  let remainder := next % cfg.outputRate
  if _h : lastIndex < index then .ok (output, next)
  else if index < s.baseIndex then .error .fellBehind
  else
    match s.samples[index - s.baseIndex]? with
    | none => .error .index
    | some current =>
      if remainder = 0 then
        produceLoop s lastIndex repeatLast (next + cfg.inputRate) (output ++ [clamp current])
      else if index = lastIndex then
        -- the sample after the last one is waited for, or stands in for itself at the end
        if repeatLast then
          produceLoop s lastIndex repeatLast (next + cfg.inputRate)
            (output ++ [clamp (interpolate cfg current current remainder)])
        else .ok (output, next)
      else
        match s.samples[index - s.baseIndex + 1]? with
        | none => .error .index
        | some following =>
          produceLoop s lastIndex repeatLast (next + cfg.inputRate)
            (output ++ [clamp (interpolate cfg current following remainder)])
termination_by (lastIndex + 1) * cfg.outputRate - next
decreasing_by
  all_goals
    have hlt : next < (lastIndex + 1) * cfg.outputRate :=
      (Nat.div_lt_iff_lt_mul cfg.outputRate_pos).mp (by omega)
    have := cfg.inputRate_pos
    omega

def produce (s : Pcm16MonoResampler) (repeatLast : Bool) : Except Error (List ℤ × Pcm16MonoResampler) :=
  if s.samples = [] then .ok ([], s)
  else do
    let lastIndex := s.baseIndex + s.samples.length - 1
    let (output, next) ← produceLoop cfg s lastIndex repeatLast s.nextPositionNumerator []
    let removable := min s.samples.length (next / cfg.outputRate - s.baseIndex)
    .ok (output,
      { s with
        samples := s.samples.drop removable
        baseIndex := s.baseIndex + removable
        nextPositionNumerator := next })

def push (s : Pcm16MonoResampler) (pcm16le : List UInt8) : Except Error (List UInt8 × Pcm16MonoResampler) := do
  if s.flushed then .error .pushAfterFlush
  let raw ← pcm16leToSamples pcm16le
  if raw.length % cfg.channels ≠ 0 then .error .misaligned
  let (output, s) ← produce cfg { s with samples := s.samples ++ downmix cfg raw } false
  return (← samplesToPcm16le output, s)

def flush (s : Pcm16MonoResampler) : Except Error (List UInt8 × Pcm16MonoResampler) :=
  if s.flushed then .ok ([], s)
  else do
    let (output, s) ← produce cfg { s with flushed := true } true
    return (← samplesToPcm16le output, { s with samples := [] })

/-- All chunks in turn: what the calls of `push` return, joined. -/
def pushAll (s : Pcm16MonoResampler) : List (List UInt8) → Except Error (List UInt8 × Pcm16MonoResampler)
  | [] => .ok ([], s)
  | chunk :: chunks => do
    let (out, s) ← push cfg s chunk
    let (rest, s) ← pushAll s chunks
    return (out ++ rest, s)

/-- What a fresh resampler gives for the chunks and the `flush` after them. -/
def converted (chunks : List (List UInt8)) : Except Error (List UInt8) := do
  let (out, s) ← pushAll cfg .init chunks
  let (tail, _) ← flush cfg s
  return out ++ tail

/-- Output sample `k`, from the whole stream of mono samples. -/
def valueAt (mono : List ℤ) (k : Nat) : ℤ :=
  let index := k * cfg.inputRate / cfg.outputRate
  let remainder := k * cfg.inputRate % cfg.outputRate
  let current := mono.getD index 0
  clamp (if remainder = 0 then current else interpolate cfg current (mono.getD (index + 1) current) remainder)

/-- The position numerators below which an output sample can be made from `length`
mono samples: without the end of the stream, a position between the last sample
and the next one waits. -/
def bound (repeatLast : Bool) (length : Nat) : Nat :=
  if repeatLast then length * cfg.outputRate
  else if length = 0 then 0
  else (length - 1) * cfg.outputRate + 1

/-- How many multiples of the input rate lie below a bound. -/
def count (limit : Nat) : Nat := (limit + cfg.inputRate - 1) / cfg.inputRate

theorem lt_count_iff (limit k : Nat) : k < count cfg limit ↔ k * cfg.inputRate < limit := by
  have hpos := cfg.inputRate_pos
  rw [count, Nat.lt_div_iff_mul_lt hpos]
  have hmul : cfg.inputRate * k = k * cfg.inputRate := Nat.mul_comm _ _
  omega

theorem count_le_iff (limit k : Nat) : count cfg limit ≤ k ↔ limit ≤ k * cfg.inputRate := by
  rw [← Nat.not_lt, lt_count_iff, Nat.not_lt]

/-- The resampler keeps the end of the stream, from a sample that no output needs before. -/
structure Retains (mono : List ℤ) (k : Nat) (s : Pcm16MonoResampler) : Prop where
  samples : s.samples = mono.drop s.baseIndex
  base : s.baseIndex ≤ mono.length
  behind : s.baseIndex ≤ k * cfg.inputRate / cfg.outputRate

variable {cfg} {mono : List ℤ} {k lastIndex : Nat} {s : Pcm16MonoResampler} {repeatLast : Bool}

theorem Retains.sample (h : Retains cfg mono k s) (index : Nat) (hindex : s.baseIndex ≤ index) :
    s.samples[index - s.baseIndex]? = mono[index]? := by
  rw [h.samples, List.getElem?_drop]
  congr 1
  omega

theorem loop_stops (hlength : mono.length = lastIndex + 1) (h : Retains cfg mono k s)
    (hk : bound cfg repeatLast mono.length ≤ k * cfg.inputRate) (output : List ℤ) :
    produceLoop cfg s lastIndex repeatLast (k * cfg.inputRate) output = .ok (output, k * cfg.inputRate) := by
  have hout := cfg.outputRate_pos
  rw [produceLoop]
  by_cases hlast : lastIndex < k * cfg.inputRate / cfg.outputRate
  · rw [dif_pos hlast]
  have hlt : k * cfg.inputRate < (lastIndex + 1) * cfg.outputRate :=
    (Nat.div_lt_iff_lt_mul hout).mp (by omega)
  cases repeatLast with
  | true =>
    rw [bound, if_pos rfl, hlength] at hk
    omega
  | false =>
    rw [bound, if_neg Bool.false_ne_true, if_neg (by omega), hlength, Nat.add_sub_cancel] at hk
    have hindex : k * cfg.inputRate / cfg.outputRate = lastIndex := by
      apply Nat.le_antisymm (by omega)
      rw [Nat.le_div_iff_mul_le hout]
      omega
    have hremainder : k * cfg.inputRate % cfg.outputRate ≠ 0 := by
      have hdiv := Nat.div_add_mod (k * cfg.inputRate) cfg.outputRate
      rw [hindex, Nat.mul_comm] at hdiv
      omega
    have hsample := h.sample _ h.behind
    rw [List.getElem?_eq_getElem (by omega : k * cfg.inputRate / cfg.outputRate < mono.length)] at hsample
    rw [dif_neg hlast, if_neg (Nat.not_lt.mpr h.behind), hsample]
    simp only [if_neg hremainder, if_pos hindex, Bool.false_eq_true, if_false]

theorem loop_emits (hlength : mono.length = lastIndex + 1) (h : Retains cfg mono k s)
    (hk : k * cfg.inputRate < bound cfg repeatLast mono.length) (output : List ℤ) :
    produceLoop cfg s lastIndex repeatLast (k * cfg.inputRate) output =
      produceLoop cfg s lastIndex repeatLast ((k + 1) * cfg.inputRate) (output ++ [valueAt cfg mono k]) := by
  have hout := cfg.outputRate_pos
  have hlt : k * cfg.inputRate < (lastIndex + 1) * cfg.outputRate := by
    rw [bound, hlength, Nat.add_sub_cancel] at hk
    have hmul : (lastIndex + 1) * cfg.outputRate = lastIndex * cfg.outputRate + cfg.outputRate := by ring
    split_ifs at hk <;> omega
  have hindex : k * cfg.inputRate / cfg.outputRate < mono.length := by
    rw [hlength]
    exact (Nat.div_lt_iff_lt_mul hout).mpr hlt
  have hsample := h.sample _ h.behind
  rw [List.getElem?_eq_getElem hindex] at hsample
  have hstep : k * cfg.inputRate + cfg.inputRate = (k + 1) * cfg.inputRate := by ring
  rw [produceLoop, dif_neg (by omega), if_neg (Nat.not_lt.mpr h.behind), hsample, valueAt,
    List.getD_eq_getElem _ _ hindex]
  by_cases hremainder : k * cfg.inputRate % cfg.outputRate = 0
  · simp only [if_pos hremainder, hstep]
  simp only [if_neg hremainder]
  by_cases hlast : k * cfg.inputRate / cfg.outputRate = lastIndex
  · -- at the last sample only the end of the stream lets the loop go on
    cases repeatLast with
    | true =>
      rw [List.getD_eq_default _ _ (by omega)]
      simp only [if_pos hlast, if_true, hstep]
    | false =>
      rw [bound, if_neg Bool.false_ne_true, if_neg (by omega), hlength, Nat.add_sub_cancel] at hk
      have hdiv := Nat.div_add_mod (k * cfg.inputRate) cfg.outputRate
      rw [hlast, Nat.mul_comm] at hdiv
      omega
  · have hfollowing := h.sample (k * cfg.inputRate / cfg.outputRate + 1) (by have := h.behind; omega)
    have hinside : k * cfg.inputRate / cfg.outputRate + 1 < mono.length := by omega
    rw [List.getElem?_eq_getElem hinside] at hfollowing
    rw [List.getD_eq_getElem _ _ hinside]
    have hrelative : k * cfg.inputRate / cfg.outputRate + 1 - s.baseIndex =
        k * cfg.inputRate / cfg.outputRate - s.baseIndex + 1 := by
      have := h.behind
      omega
    rw [hrelative] at hfollowing
    simp only [if_neg hlast, hfollowing, hstep]

theorem Retains.later (h : Retains cfg mono k s) {n : Nat} (hn : k ≤ n) : Retains cfg mono n s where
  samples := h.samples
  base := h.base
  behind := h.behind.trans (Nat.div_le_div_right (Nat.mul_le_mul_right _ hn))

theorem range'_step {n m : Nat} (h : n < m) : List.range' n (m - n) = n :: List.range' (n + 1) (m - (n + 1)) := by
  rw [← List.range'_succ]
  congr 1
  omega

/-- What the loop appends, from output sample `k` on. -/
theorem produceLoop_eq (hlength : mono.length = lastIndex + 1) (h : Retains cfg mono k s) (output : List ℤ)
    {n : Nat} (hn : n = max k (count cfg (bound cfg repeatLast mono.length))) :
    produceLoop cfg s lastIndex repeatLast (k * cfg.inputRate) output =
      .ok (output ++ (List.range' k (n - k)).map (valueAt cfg mono), n * cfg.inputRate) := by
  induction hd : n - k generalizing k output with
  | zero =>
    have hk : n = k := by omega
    have hstop : count cfg (bound cfg repeatLast mono.length) ≤ k := by omega
    rw [loop_stops hlength h ((count_le_iff cfg _ _).mp hstop), hk]
    simp
  | succ d ih =>
    have hlt : k < count cfg (bound cfg repeatLast mono.length) := by omega
    have hrange := range'_step (show k < n by omega)
    rw [hd, show n - (k + 1) = d by omega] at hrange
    rw [loop_emits hlength h ((lt_count_iff cfg _ _).mp hlt), ih (h.later (Nat.le_succ k)) _ (by omega) (by omega), hrange]
    simp

/-- What `_produce` gives and what it keeps. -/
theorem produce_eq (repeatLast : Bool) (h : Retains cfg mono k s) (hnext : s.nextPositionNumerator = k * cfg.inputRate)
    {n : Nat} (hn : n = max k (count cfg (bound cfg repeatLast mono.length))) :
    ∃ t, produce cfg s repeatLast = .ok ((List.range' k (n - k)).map (valueAt cfg mono), t) ∧ Retains cfg mono n t ∧
      t.nextPositionNumerator = n * cfg.inputRate ∧ t.flushed = s.flushed := by
  have hout := cfg.outputRate_pos
  rw [produce]
  by_cases hempty : s.samples = []
  · -- nothing is retained, so the next position is past the end of the stream
    have hbase : mono.length ≤ s.baseIndex := by
      rw [h.samples, List.drop_eq_nil_iff] at hempty
      exact hempty
    have hpast : mono.length * cfg.outputRate ≤ k * cfg.inputRate :=
      (Nat.le_div_iff_mul_le hout).mp (hbase.trans h.behind)
    have hstop : count cfg (bound cfg repeatLast mono.length) ≤ k := by
      rw [count_le_iff, bound]
      split_ifs with hrepeat hzero
      · exact hpast
      · exact Nat.zero_le _
      · obtain ⟨l, hl⟩ := Nat.exists_eq_succ_of_ne_zero hzero
        rw [hl, Nat.succ_mul] at hpast
        rw [hl, Nat.succ_sub_one]
        omega
    obtain rfl : n = k := by omega
    rw [if_pos hempty]
    exact ⟨s, by simp, h, hnext, rfl⟩
  · have hlen : s.samples.length = mono.length - s.baseIndex := by rw [h.samples, List.length_drop]
    have hpos : 0 < s.samples.length := List.length_pos_iff.mpr hempty
    have hlength : mono.length = s.baseIndex + s.samples.length - 1 + 1 := by omega
    have hloop := produceLoop_eq hlength h [] hn
    rw [← hnext] at hloop
    have hkn : k ≤ n := by omega
    have hbehind := (h.later hkn).behind
    rw [if_neg hempty]
    simp only [hloop, bind, Except.bind, List.nil_append]
    refine ⟨_, rfl, ⟨?_, ?_, ?_⟩, rfl, rfl⟩
    · rw [h.samples, List.drop_drop]
    · dsimp only
      omega
    · dsimp only
      omega

/-- More input changes no sample that could be made without it. -/
theorem valueAt_append (more : List ℤ) (hk : k < count cfg (bound cfg false mono.length)) :
    valueAt cfg (mono ++ more) k = valueAt cfg mono k := by
  have hout := cfg.outputRate_pos
  rw [lt_count_iff, bound, if_neg Bool.false_ne_true] at hk
  split_ifs at hk with hzero
  · omega
  have hdiv := Nat.div_add_mod (k * cfg.inputRate) cfg.outputRate
  have hle : k * cfg.inputRate / cfg.outputRate ≤ mono.length - 1 := by
    rw [← Nat.lt_succ_iff, Nat.div_lt_iff_lt_mul hout, Nat.succ_mul]
    omega
  rw [valueAt, valueAt, List.getD_append _ _ _ _ (by omega)]
  by_cases hremainder : k * cfg.inputRate % cfg.outputRate = 0
  · simp only [if_pos hremainder]
  · have hne : k * cfg.inputRate / cfg.outputRate ≠ mono.length - 1 := by
      intro heq
      rw [heq, Nat.mul_comm] at hdiv
      omega
    simp only [if_neg hremainder]
    rw [List.getD_append _ _ _ _ (by omega), List.getD_eq_getElem _ _ (by omega), List.getD_eq_getElem _ _ (by omega)]

section Bytes

theorem length_samplesOf (data : List UInt8) : (samplesOf data).length = data.length / 2 := by
  induction data using samplesOf.induct with
  | case1 lo hi rest ih =>
    rw [samplesOf, List.length_cons, ih, List.length_cons, List.length_cons]
    omega
  | case2 data h =>
    match data with
    | [] => rfl
    | [_] => simp [samplesOf]
    | lo :: hi :: rest => exact absurd rfl (h lo hi rest)

theorem samplesOf_append (front back : List UInt8) (h : front.length % 2 = 0) :
    samplesOf (front ++ back) = samplesOf front ++ samplesOf back := by
  induction front using samplesOf.induct with
  | case1 lo hi rest ih =>
    rw [List.length_cons, List.length_cons] at h
    have hrest := ih (by omega)
    simpa [samplesOf] using hrest
  | case2 front hfront =>
    match front with
    | [] => rfl
    | [_] => simp at h
    | lo :: hi :: rest => exact absurd rfl (hfront lo hi rest)

theorem clamp_isSample (v : ℤ) : IsSample (clamp v) := by
  rw [IsSample, clamp]
  omega

theorem valueAt_isSample : IsSample (valueAt cfg mono k) := clamp_isSample _

theorem samplesToPcm16le_valueAt (ks : List Nat) :
    samplesToPcm16le (ks.map (valueAt cfg mono)) = .ok ((ks.map (valueAt cfg mono)).flatMap bytesOf) := by
  rw [samplesToPcm16le, if_pos]
  intro v hv
  obtain ⟨k, -, rfl⟩ := List.mem_map.mp hv
  exact valueAt_isSample

end Bytes

theorem length_downmix (raw : List ℤ) :
    (downmix cfg raw).length = raw.length / cfg.channels := by
  rw [downmix]
  by_cases hone : cfg.channels = 1
  · rw [if_pos hone, hone, Nat.div_one]
  · rw [if_neg hone, List.length_map, List.length_range]

theorem downmix_append {front : List ℤ} (back : List ℤ) (h : front.length % cfg.channels = 0) :
    downmix cfg (front ++ back) = downmix cfg front ++ downmix cfg back := by
  rw [downmix, downmix, downmix]
  by_cases hone : cfg.channels = 1
  · simp only [if_pos hone]
  obtain ⟨n, hn⟩ := Nat.dvd_of_mod_eq_zero h
  have hpos := cfg.channels_pos
  have hfront : front.length / cfg.channels = n := by rw [hn, Nat.mul_div_cancel_left _ hpos]
  have hlength : (front ++ back).length / cfg.channels = n + back.length / cfg.channels := by
    rw [List.length_append, hn, Nat.mul_add_div hpos]
  simp only [if_neg hone]
  rw [hlength, hfront, List.range_add, List.map_append, List.map_map]
  congr 1
  · -- a frame of the front is the same in both
    apply List.map_congr_left
    intro i hi
    have hi' := List.mem_range.mp hi
    have hend : i * cfg.channels + cfg.channels ≤ front.length := by
      rw [hn, Nat.mul_comm cfg.channels, ← Nat.succ_mul]
      exact Nat.mul_le_mul_right _ hi'
    rw [List.drop_append_of_le_length (by omega), List.take_append_of_le_length (by rw [List.length_drop]; omega)]
  · apply List.map_congr_left
    intro i _
    have hskip : (n + i) * cfg.channels = front.length + i * cfg.channels := by
      rw [hn]
      ring
    rw [Function.comp_apply, hskip, List.drop_append, List.drop_eq_nil_of_le (by omega), Nat.add_sub_cancel_left,
      List.nil_append]

/-- The mono samples of interleaved bytes. -/
def monoOf (cfg : Settings) (pcm16le : List UInt8) : List ℤ := downmix cfg (samplesOf pcm16le)

/-- Whole frames: as many samples as the channels need, of two bytes each. -/
def Aligned (cfg : Settings) (pcm16le : List UInt8) : Prop := 2 * cfg.channels ∣ pcm16le.length

theorem Aligned.even {pcm16le : List UInt8} (h : Aligned cfg pcm16le) : pcm16le.length % 2 = 0 :=
  Nat.mod_eq_zero_of_dvd ((Nat.dvd_mul_right 2 cfg.channels).trans h)

theorem Aligned.samples {pcm16le : List UInt8} (h : Aligned cfg pcm16le) :
    (samplesOf pcm16le).length % cfg.channels = 0 := by
  obtain ⟨n, hn⟩ := h
  rw [length_samplesOf, hn, Nat.mul_assoc, Nat.mul_div_cancel_left _ Nat.two_pos, Nat.mul_mod_right]

theorem Aligned.append {front back : List UInt8} (h : Aligned cfg front) (h' : Aligned cfg back) :
    Aligned cfg (front ++ back) := by
  rw [Aligned, List.length_append]
  exact dvd_add h h'

theorem Aligned.flatten {chunks : List (List UInt8)} (h : ∀ chunk ∈ chunks, Aligned cfg chunk) :
    Aligned cfg chunks.flatten := by
  induction chunks with
  | nil => exact dvd_zero _
  | cons chunk chunks ih =>
    rw [List.flatten_cons]
    apply (h chunk List.mem_cons_self).append
    exact ih fun c hc => h c (List.mem_cons_of_mem _ hc)

theorem length_monoOf (pcm16le : List UInt8) :
    (monoOf cfg pcm16le).length = pcm16le.length / (2 * cfg.channels) := by
  rw [monoOf, length_downmix, length_samplesOf, Nat.div_div_eq_div_mul]

theorem monoOf_append {front : List UInt8} (h : Aligned cfg front) (back : List UInt8) :
    monoOf cfg (front ++ back) = monoOf cfg front ++ monoOf cfg back := by
  rw [monoOf, samplesOf_append _ _ h.even, downmix_append _ h.samples]
  rfl

/-- The state after the bytes whose mono samples are `mono`. -/
structure Holds (cfg : Settings) (mono : List ℤ) (s : Pcm16MonoResampler) : Prop where
  retains : Retains cfg mono (count cfg (bound cfg false mono.length)) s
  next : s.nextPositionNumerator = count cfg (bound cfg false mono.length) * cfg.inputRate
  open_ : s.flushed = false

theorem holds_init : Holds cfg [] .init where
  retains := ⟨rfl, le_rfl, Nat.zero_le _⟩
  next := by simp [count, bound, Pcm16MonoResampler.init, Nat.div_eq_of_lt (Nat.sub_lt cfg.inputRate_pos Nat.one_pos)]
  open_ := rfl

theorem bound_mono {l m : Nat} (h : l ≤ m) : bound cfg false l ≤ bound cfg false m := by
  rw [bound, bound, if_neg Bool.false_ne_true, if_neg Bool.false_ne_true]
  by_cases hl : l = 0
  · rw [if_pos hl]
    exact Nat.zero_le _
  · rw [if_neg hl, if_neg (by omega)]
    have := Nat.mul_le_mul_right cfg.outputRate (Nat.sub_le_sub_right h 1)
    omega

theorem bound_le (l : Nat) : bound cfg false l ≤ bound cfg true l := by
  have hout := cfg.outputRate_pos
  rw [bound, bound, if_neg Bool.false_ne_true, if_pos rfl]
  cases l with
  | zero => simp
  | succ l =>
    rw [if_neg (Nat.succ_ne_zero l), Nat.succ_sub_one, Nat.succ_mul]
    omega

theorem count_le_count {l m : Nat} (h : l ≤ m) : count cfg l ≤ count cfg m :=
  Nat.div_le_div_right (Nat.sub_le_sub_right (Nat.add_le_add_right h _) 1)

/-- The bytes of the output samples below `n`, from `k` on. -/
def encoded (cfg : Settings) (mono : List ℤ) (k n : Nat) : List UInt8 :=
  ((List.range' k (n - k)).map (valueAt cfg mono)).flatMap bytesOf

theorem encoded_append {m n : Nat} (hkm : k ≤ m) (hmn : m ≤ n) :
    encoded cfg mono k m ++ encoded cfg mono m n = encoded cfg mono k n := by
  rw [encoded, encoded, encoded, ← List.flatMap_append, ← List.map_append]
  congr 2
  have hrange : List.range' k (m - k) ++ List.range' (k + (m - k)) (n - m) = List.range' k (m - k + (n - m)) :=
    List.range'_append_1
  rwa [show k + (m - k) = m by omega, show m - k + (n - m) = n - k by omega] at hrange

theorem length_encoded (n : Nat) : (encoded cfg mono 0 n).length = 2 * n := by
  have htwo : ∀ v : ℤ, (bytesOf v).length = 2 := fun v => rfl
  simp [encoded, List.length_flatMap, Function.comp_def, htwo, Nat.mul_comm]

theorem push_eq (h : Holds cfg mono s) {chunk : List UInt8} (hc : Aligned cfg chunk) :
    ∃ t, push cfg s chunk = .ok (encoded cfg (mono ++ monoOf cfg chunk) (count cfg (bound cfg false mono.length))
        (count cfg (bound cfg false (mono ++ monoOf cfg chunk).length)), t) ∧
      Holds cfg (mono ++ monoOf cfg chunk) t := by
  set k := count cfg (bound cfg false mono.length) with hk
  have hle : k ≤ count cfg (bound cfg false (mono ++ monoOf cfg chunk).length) :=
    count_le_count (bound_mono (List.sublist_append_left _ _).length_le)
  have hretains : Retains cfg (mono ++ monoOf cfg chunk) k { s with samples := s.samples ++ monoOf cfg chunk } := by
    obtain ⟨hsamples, hbase, hbehind⟩ := h.retains
    refine ⟨?_, ?_, hbehind⟩
    · dsimp only
      rw [hsamples, List.drop_append_of_le_length hbase]
    · rw [List.length_append]
      exact Nat.le_add_right_of_le hbase
  obtain ⟨t, ht, hkept, hnext, hopen⟩ := produce_eq false hretains h.next rfl
  rw [Nat.max_eq_right hle] at ht hkept hnext
  refine ⟨t, ?_, hkept, hnext, hopen.trans h.open_⟩
  rw [monoOf, h.open_] at ht
  simp only [push, h.open_, Bool.false_eq_true, if_false, pcm16leToSamples, hc.even, ne_eq, not_true_eq_false,
    hc.samples, ht, samplesToPcm16le_valueAt, bind, Except.bind, pure, Except.pure]
  rfl

theorem flush_eq (h : Holds cfg mono s) :
    ∃ t, flush cfg s = .ok (encoded cfg mono (count cfg (bound cfg false mono.length))
      (count cfg (bound cfg true mono.length)), t) := by
  have hle : count cfg (bound cfg false mono.length) ≤ count cfg (bound cfg true mono.length) :=
    count_le_count (bound_le _)
  have hretains : Retains cfg mono (count cfg (bound cfg false mono.length)) { s with flushed := true } :=
    ⟨h.retains.samples, h.retains.base, h.retains.behind⟩
  obtain ⟨t, ht, -, -, -⟩ := produce_eq true hretains h.next rfl
  rw [Nat.max_eq_right hle] at ht
  refine ⟨{ t with samples := [] }, ?_⟩
  simp only [flush, h.open_, Bool.false_eq_true, if_false, ht, samplesToPcm16le_valueAt, bind, Except.bind, pure,
    Except.pure]
  rfl

theorem encoded_congr (more : List ℤ) {n : Nat} (hn : n ≤ count cfg (bound cfg false mono.length)) :
    encoded cfg (mono ++ more) k n = encoded cfg mono k n := by
  rw [encoded, encoded]
  congr 1
  apply List.map_congr_left
  intro i hi
  obtain ⟨hle, hlt⟩ := List.mem_range'_1.mp hi
  exact valueAt_append more (by omega)

theorem pushAll_eq {chunks : List (List UInt8)} (h : Holds cfg mono s) (hall : ∀ chunk ∈ chunks, Aligned cfg chunk) :
    ∃ t, pushAll cfg s chunks = .ok (encoded cfg (mono ++ monoOf cfg chunks.flatten)
        (count cfg (bound cfg false mono.length))
        (count cfg (bound cfg false (mono ++ monoOf cfg chunks.flatten).length)), t) ∧
      Holds cfg (mono ++ monoOf cfg chunks.flatten) t := by
  induction chunks generalizing mono s with
  | nil =>
    have hnil : monoOf cfg [] = [] := List.eq_nil_of_length_eq_zero (by rw [length_monoOf]; simp)
    rw [List.flatten_nil, hnil, List.append_nil]
    refine ⟨s, ?_, h⟩
    rw [pushAll, encoded, Nat.sub_self]
    rfl
  | cons chunk chunks ih =>
    have hchunk := hall chunk List.mem_cons_self
    obtain ⟨t, ht, hholds⟩ := push_eq h hchunk
    obtain ⟨u, hu, hlast⟩ := ih hholds fun c hc => hall c (List.mem_cons_of_mem _ hc)
    rw [List.flatten_cons, monoOf_append hchunk, ← List.append_assoc]
    refine ⟨u, ?_, hlast⟩
    have hfirst : count cfg (bound cfg false mono.length) ≤
        count cfg (bound cfg false (mono ++ monoOf cfg chunk).length) :=
      count_le_count (bound_mono (List.sublist_append_left _ _).length_le)
    have hrest : count cfg (bound cfg false (mono ++ monoOf cfg chunk).length) ≤
        count cfg (bound cfg false (mono ++ monoOf cfg chunk ++ monoOf cfg chunks.flatten).length) :=
      count_le_count (bound_mono (List.sublist_append_left _ _).length_le)
    simp only [pushAll, ht, hu, bind, Except.bind, pure, Except.pure]
    rw [← encoded_append hfirst hrest, encoded_congr _ le_rfl]

/-- What any aligned chunks are converted to: all output samples of the joined input. -/
theorem converted_eq {chunks : List (List UInt8)} (hall : ∀ chunk ∈ chunks, Aligned cfg chunk) :
    converted cfg chunks = .ok (encoded cfg (monoOf cfg chunks.flatten) 0
      (count cfg (bound cfg true (monoOf cfg chunks.flatten).length))) := by
  have hzero : count cfg (bound cfg false ([] : List ℤ).length) = 0 := by
    apply Nat.le_zero.mp
    rw [count_le_iff]
    exact Nat.zero_le _
  obtain ⟨t, ht, hholds⟩ := pushAll_eq holds_init hall
  rw [hzero, List.nil_append] at ht
  rw [List.nil_append] at hholds
  obtain ⟨u, hu⟩ := flush_eq hholds
  simp only [converted, ht, hu, bind, Except.bind, pure, Except.pure]
  rw [encoded_append (Nat.zero_le _) (count_le_count (bound_le _))]

theorem count_eq_ceil (frames : Nat) :
    count cfg (bound cfg true frames) = ⌈(frames * cfg.outputRate / cfg.inputRate : ℚ)⌉₊ := by
  have hin : (0 : ℚ) < cfg.inputRate := by exact_mod_cast cfg.inputRate_pos
  apply le_antisymm
  · rw [count_le_iff, bound, if_pos rfl]
    have hceil := Nat.le_ceil (frames * cfg.outputRate / cfg.inputRate : ℚ)
    rw [div_le_iff₀ hin] at hceil
    exact_mod_cast hceil
  · rw [Nat.ceil_le, div_le_iff₀ hin]
    have hcount := (count_le_iff cfg (bound cfg true frames) _).mp le_rfl
    rw [bound, if_pos rfl] at hcount
    exact_mod_cast hcount

theorem of_ok {inputRate channels outputRate : ℤ} (h : 0 < inputRate ∧ 0 < channels ∧ 0 < outputRate) :
    ∃ cfg, Settings.of inputRate channels outputRate = .ok cfg ∧ (cfg.inputRate : ℤ) = inputRate ∧
      (cfg.channels : ℤ) = channels ∧ (cfg.outputRate : ℤ) = outputRate := by
  obtain ⟨hin, hch, hout⟩ := h
  rw [Settings.of, dif_neg (by omega), dif_neg (by omega)]
  exact ⟨_, rfl, Int.toNat_of_nonneg hin.le, Int.toNat_of_nonneg hch.le, Int.toNat_of_nonneg hout.le⟩

/-- However `n` frames are split into chunks of whole frames, the output is that of all
of them pushed at once, of one sample for each output position inside the input. -/
theorem chunk_invariance {inputRate channels outputRate : ℤ} (hpos : 0 < inputRate ∧ 0 < channels ∧ 0 < outputRate)
    (n : Nat) (input : List UInt8) (hinput : (input.length : ℤ) = 2 * channels * n) (chunks : List (List UInt8))
    (hjoined : chunks.flatten = input) (hall : ∀ chunk ∈ chunks, 2 * channels ∣ chunk.length) :
    ∃ cfg, Settings.of inputRate channels outputRate = .ok cfg ∧
      ∃ out, converted cfg chunks = .ok out ∧ converted cfg [input] = .ok out ∧
        out.length = 2 * ⌈(n * outputRate / inputRate : ℚ)⌉₊ := by
  obtain ⟨cfg, hcfg, rfl, rfl, rfl⟩ := of_ok hpos
  have haligned : ∀ chunk ∈ chunks, Aligned cfg chunk := fun c hc => by exact_mod_cast hall c hc
  have hwhole : ∀ chunk ∈ [chunks.flatten], Aligned cfg chunk := by
    intro chunk hchunk
    rw [List.mem_singleton.mp hchunk]
    exact Aligned.flatten haligned
  subst hjoined
  refine ⟨cfg, hcfg, _, converted_eq haligned, ?_, ?_⟩
  · rw [converted_eq hwhole]
    simp
  · have hframes : (monoOf cfg chunks.flatten).length = n := by
      have hlength : chunks.flatten.length = 2 * cfg.channels * n := by exact_mod_cast hinput
      rw [length_monoOf, hlength]
      exact Nat.mul_div_cancel_left n (Nat.mul_pos Nat.two_pos cfg.channels_pos)
    rw [length_encoded, count_eq_ceil, hframes]
    rfl

/-- Three stereo frames at 3 Hz, in two chunks and an empty one between them, to mono at 2 Hz. -/
theorem chunk_invariance_stereo : ∃ cfg, Settings.of 3 2 2 = .ok cfg ∧
    ∃ out, converted cfg [[1, 0, 3, 0], [], [5, 0, 9, 0, 0, 1, 0, 1]] = .ok out ∧
      converted cfg [[1, 0, 3, 0, 5, 0, 9, 0, 0, 1, 0, 1]] = .ok out ∧ out.length = 4 := by
  obtain ⟨cfg, hcfg, out, hsplit, hwhole, hlength⟩ := @chunk_invariance 3 2 2 (by decide) 3 [1, 0, 3, 0, 5, 0, 9, 0, 0, 1, 0, 1]
    (by decide) [[1, 0, 3, 0], [], [5, 0, 9, 0, 0, 1, 0, 1]] rfl (by decide)
  refine ⟨cfg, hcfg, out, hsplit, hwhole, ?_⟩
  rw [hlength]
  decide +kernel

end RealtimeVoice.Desktop.Resample
