import RealtimeVoice.Base.Unicode
import RealtimeVoice.Worker.PcmFrames

namespace RealtimeVoice.Worker

open RealtimeVoice.Base

namespace SseEvents

open PcmFrames

def mimoMaxSseLineBytes : Nat := 1 * 1024 * 1024
def mimoMaxSseEventBytes : Nat := 1 * 1024 * 1024
def mimoMaxSseDataLines : Nat := 256
def mimoMaxResponseBytes : Nat := 8 * 1024 * 1024

def utf8Bom : Bytes := [0xEF, 0xBB, 0xBF]

abbrev Events := Gen PyStr ProviderError

def lineTooLarge (provider : String) : ProviderError := ⟨provider, "TTS SSE line is too large", false⟩
def invalidUtf8 (provider : String) : ProviderError := ⟨provider, "TTS SSE is not valid UTF-8", false⟩
def eventTooLarge (provider : String) : ProviderError := ⟨provider, "TTS SSE event is too large", false⟩
def responseTooLarge (provider : String) : ProviderError := ⟨provider, "TTS SSE response is too large", false⟩

/-- `bytes.decode("utf-8")`, which takes no surrogate. -/
def decode (bytes : Bytes) : Option PyStr :=
  (Unicode.decodeUtf8 bytes).filter fun s => s.all fun n => !(PyStr.isHighSurrogate n || PyStr.isLowSurrogate n)

/-- The length of `value.encode("utf-8")`. -/
def encodedLength (s : PyStr) : Nat :=
  (s.map fun n => if n < 0x80 then 1 else if n < 0x800 then 2 else if n < 0x10000 then 3 else 4).sum

/-- `str.isspace` of one character. -/
def isSpace (n : Nat) : Bool :=
  (9 ≤ n && n ≤ 13) || (28 ≤ n && n ≤ 32) || n == 0x85 || n == 0xA0 || n == 0x1680 || (0x2000 ≤ n && n ≤ 0x200A) ||
    n == 0x2028 || n == 0x2029 || n == 0x202F || n == 0x205F || n == 0x3000

def strip (s : PyStr) : PyStr := (s.dropWhile isSpace).rdropWhile isSpace

/-- `"\n".join(data_lines)` -/
def joinLines (lines : List PyStr) : PyStr := [10].intercalate lines

/-- The event that is being read. -/
structure Pending where
  dataLines : List PyStr := []
  eventBytes : Nat := 0
deriving DecidableEq

/-- `handle_line`: the event that the line ends, if it does. -/
def handleLine (provider : String) (pending : Pending) (rawLine : Bytes) :
    Except ProviderError (Pending × Option PyStr) :=
  if mimoMaxSseLineBytes < rawLine.length then .error (lineTooLarge provider)
  else
    match decode (rawLine.rdropWhile (· == 0x0D)) with
    | none => .error (invalidUtf8 provider)
    | some text =>
      let line := strip text
      if line = [] then
        if pending.dataLines ≠ [] then .ok ({}, some (joinLines pending.dataLines)) else .ok (pending, none)
      else if (PyStr.ofString ":").isPrefixOf line then .ok (pending, none)
      else if (PyStr.ofString "data:").isPrefixOf line then
        let value := strip (line.drop 5)
        let eventBytes := pending.eventBytes + encodedLength value
        if mimoMaxSseEventBytes < eventBytes ∨ mimoMaxSseDataLines ≤ pending.dataLines.length then
          .error (eventTooLarge provider)
        else .ok ({ dataLines := pending.dataLines ++ [value], eventBytes := eventBytes }, none)
      else .ok (pending, none)

/-- What a CR in front of these bytes ends. At the end of the buffer it is held back unless the
stream is over, as an LF may follow. -/
def popCr (final : Bool) : Bytes → Option (Bytes × Bytes)
  | [] => if final then some ([], []) else none
  | next :: rest => some ([], if next = 0x0A then rest else next :: rest)

/-- `_pop_sse_line`: the first line and what stays in the buffer. -/
def popSseLine (final : Bool) : Bytes → Option (Bytes × Bytes)
  | [] => none
  | value :: buffer =>
    if value = 0x0A then some ([], buffer)
    else if value = 0x0D then popCr final buffer
    else (popSseLine final buffer).map fun (line, rest) => (value :: line, rest)

variable {provider : String} {final : Bool} {buffer line rest : Bytes}

theorem popCr_some (h : popCr final buffer = some (line, rest)) : line = [] ∧ rest.length ≤ buffer.length := by
  cases buffer with
  | nil =>
    obtain ⟨-, hs⟩ := Option.ite_none_right_eq_some.mp h
    obtain ⟨rfl, rfl⟩ := Prod.mk.inj (Option.some.inj hs)
    exact ⟨rfl, le_rfl⟩
  | cons next more =>
    obtain ⟨rfl, rfl⟩ := Prod.mk.inj (Option.some.inj h)
    refine ⟨rfl, ?_⟩
    split_ifs <;> simp

theorem popSseLine_shorter (h : popSseLine final buffer = some (line, rest)) : rest.length < buffer.length := by
  induction buffer generalizing line with
  | nil => cases h
  | cons value buffer ih =>
    rw [popSseLine] at h
    rw [List.length_cons]
    split_ifs at h with hlf hcr
    · obtain ⟨rfl, rfl⟩ := Prod.mk.inj (Option.some.inj h)
      omega
    · have hless := (popCr_some h).2
      omega
    · obtain ⟨⟨line', rest'⟩, hpop, hs⟩ := Option.map_eq_some_iff.mp h
      obtain ⟨rfl, rfl⟩ := Prod.mk.inj hs
      have hless := ih hpop
      omega

/-- One line, and the event it ends. -/
def emitLine (provider : String) (pending : Pending) (rawLine : Bytes) : Events Pending := do
  let (pending, event) ← Gen.ofExcept (handleLine provider pending rawLine)
  match event with
  | some event => do
    Gen.yield event
    return pending
  | none => return pending

/-- The lines of the buffer in turn, as long as there is one to pop. -/
def drain (provider : String) (final : Bool) (pending : Pending) (buffer : Bytes) : Events (Pending × Bytes) :=
  match _h : popSseLine final buffer with
  | none => pure (pending, buffer)
  | some (line, rest) => do
    let pending ← emitLine provider pending line
    drain provider final pending rest
termination_by buffer.length
decreasing_by exact popSseLine_shorter _h

/-- The variables of `_sse_events`. -/
structure SseReader where
  buffer : Bytes := []
  pending : Pending := {}
  responseBytes : Nat := 0
  bomChecked : Bool := false
deriving DecidableEq

/-- `if buffer.startswith(_UTF8_BOM): del buffer[: len(_UTF8_BOM)]` -/
def dropBom (buffer : Bytes) : Bytes := if utf8Bom.isPrefixOf buffer then buffer.drop utf8Bom.length else buffer

/-- One round of the loop over the chunks. -/
def feed (provider : String) (s : SseReader) (chunk : Bytes) : Events SseReader :=
  let responseBytes := s.responseBytes + chunk.length
  if mimoMaxResponseBytes < responseBytes then Gen.raise (responseTooLarge provider)
  else
    let buffer := s.buffer ++ chunk
    if !s.bomChecked && decide (buffer.length < utf8Bom.length) && buffer.isPrefixOf utf8Bom then
      return { s with buffer := buffer, responseBytes := responseBytes }
    else do
      let (pending, buffer) ← drain provider false s.pending (if s.bomChecked then buffer else dropBom buffer)
      if mimoMaxSseLineBytes < buffer.length then Gen.raise (lineTooLarge provider)
      else return { buffer := buffer, pending := pending, responseBytes := responseBytes, bomChecked := true }

/-- The lines that are left when the stream is over, and the event that no line ended. -/
def conclude (provider : String) (pending : Pending) (buffer : Bytes) : Events Unit := do
  let (pending, buffer) ← drain provider true pending buffer
  let pending ← if buffer ≠ [] then emitLine provider pending buffer else pure pending
  if pending.dataLines ≠ [] then Gen.yield (joinLines pending.dataLines)

/-- What follows the loop over the chunks. -/
def finish (provider : String) (s : SseReader) : Events Unit :=
  conclude provider s.pending (if s.bomChecked then s.buffer else dropBom s.buffer)

def sseEvents (provider : String) (chunks : List Bytes) : Events Unit := do
  let s ← chunks.foldlM (feed provider) {}
  finish provider s

/-- No byte ends a line. -/
def Plain (bytes : Bytes) : Prop := ∀ b ∈ bytes, b ≠ 0x0A ∧ b ≠ 0x0D

/-- The first line is longer than the limit, or what is there of it. -/
def TooLong (bytes : Bytes) : Prop :=
  mimoMaxSseLineBytes < ((popSseLine false bytes).elim bytes Prod.fst).length

/-- The first line is as long as the limit, a CR ends it, and something follows that. -/
def Exact (bytes : Bytes) : Prop :=
  ∃ content rest, Plain content ∧ content.length = mimoMaxSseLineBytes ∧ rest ≠ [] ∧ bytes = content ++ 0x0D :: rest

/-- Some lines are handled, and what is pending and what follows them. -/
inductive Reaches (provider : String) : Pending → Bytes → Pending → Bytes → Prop
  | refl {pending : Pending} {bytes : Bytes} : Reaches provider pending bytes pending bytes
  | line {pending pending' last : Pending} {event : Option PyStr} {bytes line rest remaining : Bytes}
    (hpop : popSseLine false bytes = some (line, rest))
    (hline : handleLine provider pending line = .ok (pending', event))
    (hrest : Reaches provider pending' rest last remaining) : Reaches provider pending bytes last remaining

/-- The lines up to one that is too long end no event. -/
inductive Spoiled (provider : String) : Pending → Bytes → Prop
  | long {pending : Pending} {bytes : Bytes} (hlong : TooLong bytes) : Spoiled provider pending bytes
  | line {pending pending' : Pending} {bytes line rest : Bytes} (hpop : popSseLine false bytes = some (line, rest))
    (hline : handleLine provider pending line = .ok (pending', none)) (hrest : Spoiled provider pending' rest) :
    Spoiled provider pending bytes

/-- Wherever a line of exactly the limit that a CR ends is reached before the end of the
stream, the stream fails from there on for a line that is too long, before the next event. -/
def Uniform (provider : String) (stream : Bytes) : Prop :=
  ∀ pending rest, Reaches provider {} (dropBom stream) pending rest → Exact rest → Spoiled provider pending rest

theorem Reaches.trans {provider : String} {p q r : Pending} {bytes middle rest : Bytes}
    (h : Reaches provider p bytes q middle) (h' : Reaches provider q middle r rest) : Reaches provider p bytes r rest := by
  induction h with
  | refl => exact h'
  | line hpop hline _ ih => exact .line hpop hline (ih h')

variable {pending pending' : Pending} {content more : Bytes} {chunks : List Bytes}

theorem popSseLine_plain (h : Plain content) (more : Bytes) :
    popSseLine final (content ++ more) = (popSseLine final more).map fun (line, rest) => (content ++ line, rest) := by
  induction content with
  | nil =>
    rw [List.nil_append]
    cases popSseLine final more <;> rfl
  | cons b content ih =>
    obtain ⟨hlf, hcr⟩ := h b List.mem_cons_self
    rw [List.cons_append, popSseLine, if_neg hlf, if_neg hcr, ih fun c hc => h c (List.mem_cons_of_mem _ hc),
      Option.map_map]
    rfl

theorem popSseLine_append (h : popSseLine false buffer = some (line, rest)) (more : Bytes) :
    popSseLine false (buffer ++ more) = some (line, rest ++ more) := by
  induction buffer generalizing line with
  | nil => cases h
  | cons b buffer ih =>
    rw [popSseLine] at h
    rw [List.cons_append, popSseLine]
    split_ifs at h ⊢ with hlf hcr
    · obtain ⟨rfl, rfl⟩ := Prod.mk.inj (Option.some.inj h)
      rfl
    · cases buffer with
      | nil => cases h
      | cons next buffer =>
        obtain ⟨rfl, rfl⟩ := Prod.mk.inj (Option.some.inj h)
        simp only [popCr, List.cons_append]
        split_ifs <;> rfl
    · obtain ⟨⟨line', rest'⟩, hpop, hs⟩ := Option.map_eq_some_iff.mp h
      obtain ⟨rfl, rfl⟩ := Prod.mk.inj hs
      rw [ih hpop]
      rfl

/-- A buffer without a line to pop holds the beginning of a line, or a line and its CR. -/
theorem popSseLine_eq_none (h : popSseLine false buffer = none) :
    Plain buffer ∨ ∃ content, Plain content ∧ buffer = content ++ [0x0D] := by
  induction buffer with
  | nil =>
    left
    intro b hb
    cases hb
  | cons b buffer ih =>
    rw [popSseLine] at h
    split_ifs at h with hlf hcr
    · cases buffer with
      | nil => exact .inr ⟨[], fun b hb => (List.not_mem_nil hb).elim, by rw [hcr]; rfl⟩
      | cons next rest => cases h
    · have hcons : ∀ bytes, Plain bytes → Plain (b :: bytes) := by
        intro bytes hplain c hc
        rcases List.mem_cons.mp hc with rfl | hc
        · exact ⟨hlf, hcr⟩
        · exact hplain c hc
      rcases ih (Option.map_eq_none_iff.mp h) with hplain | ⟨content, hplain, rfl⟩
      · exact .inl (hcons _ hplain)
      · exact .inr ⟨b :: content, hcons _ hplain, rfl⟩

/-- A line that is popped is a beginning of the buffer without its end. -/
theorem popSseLine_some (h : popSseLine false buffer = some (line, rest)) :
    Plain line ∧ ∃ ending, buffer = line ++ ending ++ rest ∧
      ∀ front more, rest = front ++ more → front ≠ [] → popSseLine false (line ++ ending ++ front) = some (line, front) := by
  induction buffer generalizing line with
  | nil => cases h
  | cons b buffer ih =>
    rw [popSseLine] at h
    split_ifs at h with hlf hcr
    · obtain ⟨rfl, rfl⟩ := Prod.mk.inj (Option.some.inj h)
      refine ⟨fun b hb => (List.not_mem_nil hb).elim, [b], rfl, ?_⟩
      intro front more _ _
      rw [List.nil_append, List.singleton_append, popSseLine, if_pos hlf]
    · cases buffer with
      | nil => cases h
      | cons next buffer =>
        obtain ⟨rfl, hrest⟩ := Prod.mk.inj (Option.some.inj h)
        refine ⟨fun b hb => (List.not_mem_nil hb).elim, ?_⟩
        by_cases hnext : next = 0x0A
        · rw [if_pos hnext] at hrest
          subst hrest
          refine ⟨[b, next], rfl, ?_⟩
          intro front more _ _
          simp [popSseLine, popCr, hcr, hnext]
        · rw [if_neg hnext] at hrest
          subst hrest
          refine ⟨[b], rfl, ?_⟩
          intro front more heq hne
          obtain ⟨first, front, rfl⟩ := List.exists_cons_of_ne_nil hne
          obtain ⟨rfl, -⟩ := List.cons.inj heq
          simp [popSseLine, popCr, hcr, hnext]
    · obtain ⟨⟨line', rest'⟩, hpop, hs⟩ := Option.map_eq_some_iff.mp h
      obtain ⟨rfl, rfl⟩ := Prod.mk.inj hs
      obtain ⟨hplain, ending, rfl, hfront⟩ := ih hpop
      refine ⟨?_, ending, rfl, ?_⟩
      · intro c hc
        rcases List.mem_cons.mp hc with rfl | hc
        · exact ⟨hlf, hcr⟩
        · exact hplain c hc
      · intro front more heq hne
        rw [List.cons_append, List.cons_append, popSseLine, if_neg hlf, if_neg hcr, hfront front more heq hne]
        rfl

theorem drain_none (h : popSseLine final buffer = none) : drain provider final pending buffer = pure (pending, buffer) := by
  rw [drain]
  split
  · rfl
  · rename_i hpop
    rw [h] at hpop
    cases hpop

theorem drain_some (h : popSseLine final buffer = some (line, rest)) :
    drain provider final pending buffer = emitLine provider pending line >>= fun p => drain provider final p rest := by
  rw [drain]
  split
  · rename_i hpop
    rw [h] at hpop
    cases hpop
  · rename_i hpop
    rw [h] at hpop
    obtain ⟨rfl, rfl⟩ := Prod.mk.inj (Option.some.inj hpop)
    rfl

/-- What is drained first is drained of the longer buffer first. -/
theorem drain_append (more : Bytes) : drain provider false pending (buffer ++ more) =
    drain provider false pending buffer >>= fun s => drain provider false s.1 (s.2 ++ more) := by
  induction hlength : buffer.length using Nat.strong_induction_on generalizing buffer pending with
  | _ n ih =>
    cases hpop : popSseLine false buffer with
    | none => rw [drain_none hpop, pure_bind]
    | some popped =>
      rw [drain_some (popSseLine_append hpop more), drain_some hpop, bind_assoc]
      apply Gen.bind_congr
      intro p _
      apply ih popped.2.length _ rfl
      rw [← hlength]
      exact popSseLine_shorter hpop

/-- Nothing can be popped of what a buffer is drained to, and lines alone lead to it. -/
theorem drain_ok {s : Pending × Bytes} (h : (drain provider false pending buffer).ending = .ok s) (more : Bytes) :
    popSseLine false s.2 = none ∧ Reaches provider pending (buffer ++ more) s.1 (s.2 ++ more) := by
  induction hlength : buffer.length using Nat.strong_induction_on generalizing buffer pending with
  | _ n ih =>
    cases hpop : popSseLine false buffer with
    | none =>
      rw [drain_none hpop] at h
      obtain rfl := Except.ok.inj h
      exact ⟨hpop, .refl⟩
    | some popped =>
      rw [drain_some hpop] at h
      cases hline : handleLine provider pending popped.1 with
      | error e =>
        rw [emitLine, hline] at h
        cases h
      | ok handled =>
        have hrest : (drain provider false handled.1 popped.2).ending = .ok s := by
          rw [emitLine, hline] at h
          rcases handled with ⟨pending', _ | event⟩
          all_goals exact h
        have hless : popped.2.length < n := by
          rw [← hlength]
          exact popSseLine_shorter hpop
        obtain ⟨hnone, hreach⟩ := ih _ hless hrest rfl
        exact ⟨hnone, .line (popSseLine_append hpop more) hline hreach⟩

theorem invalidUtf8_ne : invalidUtf8 provider ≠ lineTooLarge provider := by simp [invalidUtf8, lineTooLarge]

theorem eventTooLarge_ne : eventTooLarge provider ≠ lineTooLarge provider := by simp [eventTooLarge, lineTooLarge]

theorem handleLine_error {e : ProviderError} (h : handleLine provider pending line = .error e) :
    e = lineTooLarge provider ↔ mimoMaxSseLineBytes < line.length := by
  rw [handleLine] at h
  by_cases hlong : mimoMaxSseLineBytes < line.length
  · rw [if_pos hlong] at h
    obtain rfl := Except.error.inj h
    exact iff_of_true rfl hlong
  · rw [if_neg hlong] at h
    refine iff_of_false ?_ hlong
    rintro rfl
    cases hdecode : decode (line.rdropWhile (· == 0x0D)) with
    | none =>
      rw [hdecode] at h
      exact invalidUtf8_ne (Except.error.inj h)
    | some text =>
      rw [hdecode] at h
      simp only at h
      split_ifs at h
      exact eventTooLarge_ne (Except.error.inj h)

theorem emitLine_long (h : mimoMaxSseLineBytes < line.length) :
    emitLine provider pending line = Gen.raise (lineTooLarge provider) := by
  rw [emitLine, handleLine, if_pos h]
  rfl

/-- The outcome of a stream that comes in one chunk. -/
def settle (provider : String) (s : Pending × Bytes) : Events Unit :=
  if mimoMaxSseLineBytes < s.2.length then Gen.raise (lineTooLarge provider) else conclude provider s.1 s.2

def whole (provider : String) (pending : Pending) (bytes : Bytes) : Events Unit :=
  drain provider false pending bytes >>= settle provider

/-- The outcome of a stream that goes on in chunks. -/
def readOn (provider : String) (s : Pending × Bytes) : List Bytes → Events Unit
  | [] => conclude provider s.1 s.2
  | chunk :: chunks => drain provider false s.1 (s.2 ++ chunk) >>= fun s =>
    if mimoMaxSseLineBytes < s.2.length then Gen.raise (lineTooLarge provider) else readOn provider s chunks

theorem whole_append : whole provider pending (buffer ++ more) =
    drain provider false pending buffer >>= fun s => whole provider s.1 (s.2 ++ more) := by
  rw [whole, drain_append, bind_assoc]
  rfl

theorem whole_none (h : popSseLine false buffer = none) : whole provider pending buffer = settle provider (pending, buffer) := by
  rw [whole, drain_none h, pure_bind]

theorem whole_some (h : popSseLine false buffer = some (line, rest)) : whole provider pending buffer =
    emitLine provider pending line >>= fun p => whole provider p rest := by
  rw [whole, drain_some h, bind_assoc]
  rfl

theorem tooLong_none (h : popSseLine false buffer = none) : TooLong buffer ↔ mimoMaxSseLineBytes < buffer.length := by
  rw [TooLong, h]
  rfl

theorem tooLong_some (h : popSseLine false buffer = some (line, rest)) :
    TooLong buffer ↔ mimoMaxSseLineBytes < line.length := by
  rw [TooLong, h]
  rfl

theorem whole_of_tooLong (h : TooLong buffer) : whole provider pending buffer = Gen.raise (lineTooLarge provider) := by
  cases hpop : popSseLine false buffer with
  | none => rw [whole_none hpop, settle, if_pos ((tooLong_none hpop).mp h)]
  | some popped => rw [whole_some hpop, emitLine_long ((tooLong_some hpop).mp h), Gen.raise_bind]

theorem whole_of_spoiled (h : Spoiled provider pending buffer) :
    whole provider pending buffer = Gen.raise (lineTooLarge provider) := by
  induction h with
  | long hlong => exact whole_of_tooLong hlong
  | line hpop hline hrest ih =>
    rw [whole_some hpop, emitLine, hline]
    exact ih

theorem popSseLine_cr (h : Plain content) (b : UInt8) (more : Bytes) :
    popSseLine false (content ++ 0x0D :: b :: more) = some (content, if b = 0x0A then more else b :: more) := by
  rw [popSseLine_plain h]
  simp [popSseLine, popCr]

/-- A buffer over the limit that the check after a chunk refuses is one that the stream fails
for, a held CR after exactly the limit apart. -/
theorem whole_of_held (h : popSseLine false buffer = none) (hlong : mimoMaxSseLineBytes < buffer.length)
    (hexact : Exact (buffer ++ more) → Spoiled provider pending (buffer ++ more)) :
    whole provider pending (buffer ++ more) = Gen.raise (lineTooLarge provider) := by
  rcases popSseLine_eq_none h with hplain | ⟨content, hplain, rfl⟩
  · apply whole_of_tooLong
    have hpop : popSseLine false (buffer ++ more) = _ := popSseLine_plain hplain more
    cases hmore : popSseLine false more with
    | none =>
      rw [hmore] at hpop
      rw [tooLong_none hpop, List.length_append]
      omega
    | some popped =>
      rw [hmore] at hpop
      rw [tooLong_some hpop, List.length_append]
      omega
  · rw [List.length_append, List.length_singleton] at hlong
    cases more with
    | nil =>
      rw [List.append_nil]
      apply whole_of_tooLong
      rw [tooLong_none h, List.length_append, List.length_singleton]
      exact hlong
    | cons b more =>
      rw [List.append_assoc, List.singleton_append] at hexact ⊢
      by_cases heq : content.length = mimoMaxSseLineBytes
      · exact whole_of_spoiled (hexact ⟨content, b :: more, hplain, heq, List.cons_ne_nil _ _, rfl⟩)
      · apply whole_of_tooLong
        rw [tooLong_some (popSseLine_cr hplain b more)]
        omega

/-- Chunks do not matter where every exact line is spoiled anyway. -/
theorem readOn_eq_whole (h : popSseLine false buffer = none) (hshort : buffer.length ≤ mimoMaxSseLineBytes)
    (huniform : ∀ p rest, Reaches provider pending (buffer ++ chunks.flatten) p rest → Exact rest →
      Spoiled provider p rest) :
    readOn provider (pending, buffer) chunks = whole provider pending (buffer ++ chunks.flatten) := by
  induction chunks generalizing pending buffer with
  | nil =>
    rw [List.flatten_nil, List.append_nil, whole_none h, settle, if_neg hshort.not_gt]
    rfl
  | cons chunk chunks ih =>
    rw [List.flatten_cons, ← List.append_assoc] at huniform
    rw [List.flatten_cons, ← List.append_assoc, whole_append, readOn]
    apply Gen.bind_congr
    intro s hs
    obtain ⟨hnone, hreach⟩ := drain_ok hs chunks.flatten
    split_ifs with hlong
    · exact (whole_of_held hnone hlong (huniform _ _ hreach)).symm
    · exact ih hnone (not_lt.mp hlong) fun p rest hp => huniform p rest (hreach.trans hp)

theorem emitLine_ending (h : line.length ≤ mimoMaxSseLineBytes) :
    (emitLine provider pending line).ending ≠ .error (lineTooLarge provider) := by
  intro hending
  cases hline : handleLine provider pending line with
  | error e =>
    rw [emitLine, hline] at hending
    obtain rfl := Except.error.inj hending
    exact absurd ((handleLine_error hline).mp rfl) h.not_gt
  | ok handled =>
    rw [emitLine, hline] at hending
    rcases handled with ⟨pending', _ | event⟩
    all_goals cases hending

/-- Nothing is too long once the stream is over. -/
theorem conclude_ending (h : popSseLine false buffer = none) (hshort : buffer.length ≤ mimoMaxSseLineBytes) :
    (conclude provider pending buffer).ending ≠ .error (lineTooLarge provider) := by
  have hlast : ∀ p : Pending, (if p.dataLines ≠ [] then Gen.yield (joinLines p.dataLines) else pure () :
      Events Unit).ending ≠ .error (lineTooLarge provider) := by
    intro p
    split_ifs <;> rintro ⟨⟩
  intro hending
  rw [conclude] at hending
  rcases popSseLine_eq_none h with hplain | ⟨content, hplain, rfl⟩
  · have hpop : popSseLine true buffer = none := by
      have hnil : popSseLine true (buffer ++ []) = _ := popSseLine_plain hplain []
      rwa [List.append_nil] at hnil
    rw [drain_none hpop, pure_bind] at hending
    simp only at hending
    split_ifs at hending with hnil
    · rcases Gen.bind_ending_error hending with hline | ⟨p, -, hp⟩
      · exact emitLine_ending hshort hline
      · exact hlast p hp
    · rw [pure_bind] at hending
      exact hlast pending hending
  · have hpop : popSseLine true (content ++ [0x0D]) = some (content, []) := by
      rw [popSseLine_plain hplain]
      simp [popSseLine, popCr]
    rw [List.length_append] at hshort
    rw [drain_some hpop, bind_assoc] at hending
    rcases Gen.bind_ending_error hending with hline | ⟨p, -, hp⟩
    · exact emitLine_ending (by omega) hline
    · rw [drain_none rfl] at hp
      exact hlast p hp

/-- A stream that fails for a line that is too long, before it yields an event, is spoiled. -/
theorem spoiled_of_whole (h : whole provider pending buffer = Gen.raise (lineTooLarge provider)) :
    Spoiled provider pending buffer := by
  induction hlength : buffer.length using Nat.strong_induction_on generalizing buffer pending with
  | _ n ih =>
    cases hpop : popSseLine false buffer with
    | none =>
      apply Spoiled.long
      rw [tooLong_none hpop]
      by_contra hshort
      rw [whole_none hpop, settle, if_neg hshort] at h
      exact conclude_ending hpop (not_lt.mp hshort) (congrArg Gen.ending h)
    | some popped =>
      rw [whole_some hpop, emitLine] at h
      cases hline : handleLine provider pending popped.1 with
      | error e =>
        rw [hline] at h
        obtain rfl := Except.error.inj (congrArg Gen.ending h)
        exact .long ((tooLong_some hpop).mpr ((handleLine_error hline).mp rfl))
      | ok handled =>
        rw [hline] at h
        rcases handled with ⟨pending', _ | event⟩
        · apply Spoiled.line hpop hline
          apply ih popped.2.length _ h rfl
          rw [← hlength]
          exact popSseLine_shorter hpop
        · cases congrArg Gen.yields h

/-- The lines that lead somewhere are drained from every buffer that ends behind them. -/
theorem Reaches.front {p q : Pending} {bytes remaining : Bytes} (h : Reaches provider p bytes q remaining) :
    ∃ (before : Bytes) (first : Events Unit), first.ending = .ok () ∧ bytes = before ++ remaining ∧
      ∀ front more, remaining = front ++ more → front ≠ [] →
        drain provider false p (before ++ front) = first >>= fun _ => drain provider false q front := by
  induction h with
  | refl => exact ⟨[], pure (), rfl, rfl, fun _ _ _ _ => rfl⟩
  | @line p p' q event bytes line rest remaining hpop hline hrest ih =>
    obtain ⟨before, first, hfirst, rfl, hdrain⟩ := ih
    obtain ⟨-, ending, rfl, hfront⟩ := popSseLine_some hpop
    have hok : (emitLine provider p line).ending = .ok p' := by
      rw [emitLine, hline]
      cases event <;> rfl
    refine ⟨line ++ ending ++ before, emitLine provider p line >>= fun _ => first, ?_, ?_, ?_⟩
    · rw [Gen.bind_ok hok]
      exact hfirst
    · simp only [List.append_assoc]
    · intro front more heq hne
      have hnonempty : before ++ front ≠ [] := List.append_ne_nil_of_right_ne_nil _ hne
      have hpop' := hfront (before ++ front) more (by rw [heq, List.append_assoc]) hnonempty
      rw [List.append_assoc (line ++ ending), drain_some hpop', bind_assoc]
      apply Gen.bind_congr
      intro p'' hp''
      obtain rfl := Except.ok.inj (hok.symm.trans hp'')
      exact hdrain front more heq hne

/-- A cut behind the CR of an exact line shows in the outcome, unless the line is spoiled. -/
theorem spoiled_of_cuts {bytes : Bytes} {p : Pending} (hreach : Reaches provider {} bytes p rest) (hexact : Exact rest)
    (hcuts : ∀ front more, bytes = front ++ more → mimoMaxSseLineBytes < front.length →
      readOn provider ({}, []) [front, more] = whole provider {} bytes) : Spoiled provider p rest := by
  obtain ⟨content, more, hplain, hlength, hmore, rfl⟩ := hexact
  obtain ⟨before, first, hfirst, rfl, hdrain⟩ := hreach.front
  have hsplit : content ++ 0x0D :: more = content ++ [0x0D] ++ more := by simp
  have hheld : popSseLine false (content ++ [0x0D]) = none := by
    rw [popSseLine_plain hplain]
    rfl
  have hlong : mimoMaxSseLineBytes < (content ++ [0x0D]).length := by
    rw [List.length_append, List.length_singleton]
    omega
  have hcut := hcuts (before ++ (content ++ [0x0D])) more (by simp)
    (by rw [List.length_append]; omega)
  have hwhole := hdrain _ [] (List.append_nil _).symm (by simp)
  rw [whole, hwhole, readOn, List.nil_append, hdrain _ more hsplit (by simp), bind_assoc, bind_assoc,
    drain_none hheld, pure_bind, if_pos hlong] at hcut
  exact spoiled_of_whole (Gen.bind_inj hfirst hcut).symm

/-- With the BOM behind it, the reader reads on. -/
theorem foldlM_feed_checked {s : SseReader} (hchecked : s.bomChecked = true)
    (htotal : s.responseBytes + chunks.flatten.length ≤ mimoMaxResponseBytes) :
    (chunks.foldlM (feed provider) s >>= finish provider) = readOn provider (s.pending, s.buffer) chunks := by
  induction chunks generalizing s with
  | nil =>
    rw [List.foldlM_nil, pure_bind, finish, if_pos hchecked]
    rfl
  | cons chunk chunks ih =>
    rw [List.flatten_cons, List.length_append] at htotal
    have hless : ¬mimoMaxResponseBytes < s.responseBytes + chunk.length := by omega
    rw [List.foldlM_cons, bind_assoc, feed, if_neg hless, readOn]
    simp only [hchecked, Bool.not_true, Bool.false_and, Bool.false_eq_true, if_false, if_true]
    rw [bind_assoc]
    apply Gen.bind_congr
    intro drained _
    split_ifs
    · rfl
    · rw [pure_bind]
      exact ih rfl (by simp only; omega)

/-- A first chunk that shows whether the stream begins with a BOM. -/
theorem foldlM_feed_first (s : SseReader) {chunk : Bytes} (hchecked : s.bomChecked = false) (hpending : s.pending = {})
    (hdecided : ¬((s.buffer ++ chunk).length < utf8Bom.length ∧ (s.buffer ++ chunk).isPrefixOf utf8Bom = true))
    (htotal : s.responseBytes + (chunk :: chunks).flatten.length ≤ mimoMaxResponseBytes) :
    ((chunk :: chunks).foldlM (feed provider) s >>= finish provider) =
      readOn provider ({}, []) (dropBom (s.buffer ++ chunk) :: chunks) := by
  rw [List.flatten_cons, List.length_append] at htotal
  have hless : ¬mimoMaxResponseBytes < s.responseBytes + chunk.length := by omega
  have hgoes : (!s.bomChecked && decide ((s.buffer ++ chunk).length < utf8Bom.length) &&
      (s.buffer ++ chunk).isPrefixOf utf8Bom) = false := by
    rw [Bool.eq_false_iff]
    intro h
    simp only [hchecked, Bool.not_false, Bool.true_and, Bool.and_eq_true, decide_eq_true_eq] at h
    exact hdecided h
  rw [List.foldlM_cons, bind_assoc, feed, if_neg hless, readOn, List.nil_append]
  simp only [hgoes, Bool.false_eq_true, if_false]
  rw [hchecked, hpending, bind_assoc]
  apply Gen.bind_congr
  intro drained _
  split_ifs
  · rfl
  · rw [pure_bind]
    exact foldlM_feed_checked rfl (by simp only; omega)

theorem dropBom_append (h : ¬(buffer.length < utf8Bom.length ∧ buffer.isPrefixOf utf8Bom = true)) (more : Bytes) :
    dropBom (buffer ++ more) = dropBom buffer ++ more := by
  by_cases hbom : utf8Bom <+: buffer
  · obtain ⟨rest, rfl⟩ := hbom
    simp [dropBom, utf8Bom]
  · have hneither : ¬utf8Bom <+: buffer ++ more := by
      intro hstarts
      rcases List.prefix_or_prefix_of_prefix hstarts (List.prefix_append buffer more) with hbom' | hbuffer
      · exact hbom hbom'
      · apply h
        refine ⟨lt_of_le_of_ne hbuffer.length_le ?_, List.isPrefixOf_iff_prefix.mpr hbuffer⟩
        intro hlength
        exact hbom (hbuffer.eq_of_length hlength ▸ List.prefix_rfl)
    rw [dropBom, dropBom, if_neg, if_neg]
    all_goals
      rw [List.isPrefixOf_iff_prefix]
      assumption

/-- What the reader does with the chunks is what it does with some chunks of the stream without
its BOM. -/
theorem foldlM_feed_waiting (s : SseReader) (hchecked : s.bomChecked = false) (hpending : s.pending = {})
    (hshort : s.buffer.length < utf8Bom.length) (hstarts : s.buffer.isPrefixOf utf8Bom = true)
    (htotal : s.responseBytes + chunks.flatten.length ≤ mimoMaxResponseBytes) :
    ∃ cut, cut.flatten = dropBom (s.buffer ++ chunks.flatten) ∧
      (chunks.foldlM (feed provider) s >>= finish provider) = readOn provider ({}, []) cut := by
  induction chunks generalizing s with
  | nil =>
    have hnone : popSseLine false s.buffer = none := by
      obtain ⟨rest, hrest⟩ := List.isPrefixOf_iff_prefix.mp hstarts
      cases hpop : popSseLine false s.buffer with
      | none => rfl
      | some popped =>
        have hbom := popSseLine_append hpop rest
        rw [hrest] at hbom
        cases hbom
    have hdrop : dropBom s.buffer = s.buffer := by
      rw [dropBom, if_neg]
      intro hbom
      have hle := (List.isPrefixOf_iff_prefix.mp hbom).length_le
      omega
    have hsmall : ¬mimoMaxSseLineBytes < s.buffer.length := by
      have hbom : utf8Bom.length ≤ mimoMaxSseLineBytes := by decide
      omega
    refine ⟨[s.buffer], by simp [hdrop], ?_⟩
    rw [List.foldlM_nil, pure_bind, finish, readOn, List.nil_append, drain_none hnone, pure_bind, if_neg hsmall,
      hchecked, hpending, hdrop]
    rfl
  | cons chunk chunks ih =>
    by_cases hwait : (s.buffer ++ chunk).length < utf8Bom.length ∧ (s.buffer ++ chunk).isPrefixOf utf8Bom = true
    · rw [List.flatten_cons, List.length_append] at htotal
      have hless : ¬mimoMaxResponseBytes < s.responseBytes + chunk.length := by omega
      have hgoes : (!s.bomChecked && decide ((s.buffer ++ chunk).length < utf8Bom.length) &&
          (s.buffer ++ chunk).isPrefixOf utf8Bom) = true := by
        rw [hchecked, hwait.2, decide_eq_true hwait.1]
        rfl
      obtain ⟨cut, hcut, hread⟩ := ih { s with
        buffer := s.buffer ++ chunk, responseBytes := s.responseBytes + chunk.length } hchecked hpending hwait.1 hwait.2 (by simp only; omega)
      refine ⟨cut, ?_, ?_⟩
      · rw [hcut, List.flatten_cons, List.append_assoc]
      · rw [List.foldlM_cons, bind_assoc, feed, if_neg hless]
        simp only [hgoes, if_true, pure_bind]
        exact hread
    · refine ⟨dropBom (s.buffer ++ chunk) :: chunks, ?_, foldlM_feed_first s hchecked hpending hwait htotal⟩
      rw [List.flatten_cons, List.flatten_cons, ← List.append_assoc, dropBom_append hwait]

/-- A first chunk of three bytes or more, and the others. -/
theorem sseEvents_cons {chunk : Bytes} (hchunk : utf8Bom.length ≤ chunk.length)
    (htotal : (chunk :: chunks).flatten.length ≤ mimoMaxResponseBytes) :
    sseEvents provider (chunk :: chunks) = readOn provider ({}, []) (dropBom chunk :: chunks) :=
  foldlM_feed_first {} rfl rfl (fun h => absurd h.1 hchunk.not_gt) (by rwa [Nat.zero_add])

theorem sseEvents_singleton {stream : Bytes} (hstream : utf8Bom.length ≤ stream.length)
    (htotal : stream.length ≤ mimoMaxResponseBytes) :
    sseEvents provider [stream] = whole provider {} (dropBom stream) := by
  rw [sseEvents_cons hstream (by rwa [List.flatten_singleton]), whole, readOn, List.nil_append]
  rfl

theorem sseEvents_eq_whole {stream : Bytes} (htotal : stream.length ≤ mimoMaxResponseBytes)
    (huniform : Uniform provider stream) (hchunks : chunks.flatten = stream) :
    sseEvents provider chunks = whole provider {} (dropBom stream) := by
  subst hchunks
  have htotal' : 0 + chunks.flatten.length ≤ mimoMaxResponseBytes := by rwa [Nat.zero_add]
  obtain ⟨cut, hcut, hread⟩ := foldlM_feed_waiting {} rfl rfl (by decide) rfl htotal'
  have hflat : [] ++ cut.flatten = dropBom chunks.flatten := hcut
  rw [sseEvents, hread, readOn_eq_whole rfl (Nat.zero_le _), hflat]
  rw [hflat]
  exact huniform

theorem dropBom_front {stream front more : Bytes} (h : dropBom stream = front ++ more) :
    ∃ chunk, stream = chunk ++ more ∧ dropBom chunk = front ∧ front.length ≤ chunk.length := by
  by_cases hbom : utf8Bom.isPrefixOf stream = true
  · obtain ⟨rest, rfl⟩ := List.isPrefixOf_iff_prefix.mp hbom
    rw [dropBom, if_pos hbom, List.drop_left] at h
    subst h
    exact ⟨utf8Bom ++ front, (List.append_assoc _ _ _).symm, rfl, by simp⟩
  · rw [dropBom, if_neg hbom] at h
    subst h
    refine ⟨front, rfl, ?_, le_rfl⟩
    rw [dropBom, if_neg]
    intro hfront
    apply hbom
    rw [List.isPrefixOf_iff_prefix] at hfront ⊢
    exact hfront.trans (List.prefix_append front more)

theorem uniform_of_congr {stream : Bytes} (htotal : stream.length ≤ mimoMaxResponseBytes)
    (hcongr : ∀ cs cs' : List Bytes, cs.flatten = stream → cs'.flatten = stream →
      sseEvents provider cs = sseEvents provider cs') : Uniform provider stream := by
  intro p rest hreach hexact
  apply spoiled_of_cuts hreach hexact
  intro front more heq hlong
  obtain ⟨chunk, rfl, hdrop, hle⟩ := dropBom_front heq
  have hbom : utf8Bom.length ≤ mimoMaxSseLineBytes := by decide
  have hpieces : [chunk, more].flatten = chunk ++ more := by simp
  rw [← sseEvents_singleton (by rw [List.length_append]; omega) htotal, ← hdrop,
    ← sseEvents_cons (by omega) (by rwa [hpieces])]
  exact hcongr _ _ hpieces List.flatten_singleton

/-- The events and the ending of a stream do not depend on its chunks exactly if no line of
exactly the limit, that a CR ends before the end of the stream, is reached, unless the lines
from it on fail for a line that is too long before they end an event. The frames of a PCM
stream never depend on its chunks. -/
theorem chunks_iff {stream : Bytes} (htotal : stream.length ≤ mimoMaxResponseBytes) {sampleRate : Int}
    (hrate : 50 ≤ sampleRate) (provider requestId : String) :
    ((∀ cs cs' : List Bytes, cs.flatten = stream → cs'.flatten = stream →
        sseEvents provider cs = sseEvents provider cs') ↔ Uniform provider stream) ∧
      ∀ cs : List Bytes, Framed cs.flatten sampleRate (pcmFrames cs sampleRate requestId) ∧
        ∀ cs' : List Bytes, cs.flatten = cs'.flatten →
          pcmFrames cs sampleRate requestId = pcmFrames cs' sampleRate requestId := by
  refine ⟨⟨uniform_of_congr htotal, fun huniform cs cs' h h' => ?_⟩, fun cs => ⟨pcmFrames_framed hrate, ?_⟩⟩
  · rw [sseEvents_eq_whole htotal huniform h, sseEvents_eq_whole htotal huniform h']
  · exact fun cs' => pcmFrames_congr hrate

/-- What is reached is an end of the stream. -/
theorem Reaches.length_le {p q : Pending} {bytes remaining : Bytes} (h : Reaches provider p bytes q remaining) :
    remaining.length ≤ bytes.length := by
  induction h with
  | refl => exact le_rfl
  | line hpop _ _ ih => exact ih.trans (popSseLine_shorter hpop).le

theorem uniform_of_short {stream : Bytes} (h : stream.length ≤ mimoMaxSseLineBytes) : Uniform provider stream := by
  intro p rest hreach hexact
  obtain ⟨content, more, -, hlength, -, rfl⟩ := hexact
  have hle := hreach.length_le
  have hdrop : (dropBom stream).length ≤ stream.length := by
    rw [dropBom]
    split_ifs <;> simp
  rw [List.length_append, List.length_cons] at hle
  omega

/-- The stream `"data: a\r\n\r\n"`, cut inside of its first line end. -/
theorem chunks_iff_short :
    sseEvents "mimo" [[100, 97, 116, 97, 58, 32, 97, 13], [10, 13, 10]] =
        sseEvents "mimo" [[100, 97, 116, 97, 58, 32, 97, 13, 10, 13, 10]] ∧
      pcmFrames [[1], [2, 3]] 24000 "r" = pcmFrames [[1, 2], [], [3]] 24000 "r" := by
  have hlength : ([100, 97, 116, 97, 58, 32, 97, 13, 10, 13, 10] : Bytes).length ≤ mimoMaxResponseBytes := by decide
  have hrate : (50 : Int) ≤ 24000 := by decide
  have hboth := chunks_iff hlength hrate "mimo" "r"
  exact ⟨hboth.1.mpr (uniform_of_short (by decide)) _ _ rfl rfl, (hboth.2 _).2 _ rfl⟩

/-- The CR after exactly the limit is refused at the end of a chunk, and the line is not. -/
theorem exact_line_cut (hplain : Plain content) (hlength : content.length = mimoMaxSseLineBytes) (hbom : 0xEF ∉ content) :
    sseEvents provider [content ++ [0x0D], [0x0A]] ≠ sseEvents provider [content ++ [0x0D, 0x0A]] := by
  have hshort : utf8Bom.length ≤ mimoMaxSseLineBytes := by decide
  have hroom : mimoMaxSseLineBytes + 2 ≤ mimoMaxResponseBytes := by decide
  have hdrop : ∀ ending, 0xEF ∉ ending → dropBom (content ++ ending) = content ++ ending := by
    intro ending hending
    rw [dropBom, if_neg]
    intro hstarts
    have hmem := (List.isPrefixOf_iff_prefix.mp hstarts).subset List.mem_cons_self
    rcases List.mem_append.mp hmem with h | h
    · exact hbom h
    · exact hending h
  have hheld : popSseLine false (content ++ [0x0D]) = none := by
    rw [popSseLine_plain hplain]
    rfl
  have hpop := popSseLine_cr hplain 0x0A []
  have hlong : mimoMaxSseLineBytes < (content ++ [0x0D]).length := by
    rw [List.length_append, hlength]
    exact Nat.lt_succ_self _
  intro heq
  rw [sseEvents_cons (by omega) (by simp; omega), hdrop _ (by decide), readOn, List.nil_append, drain_none hheld,
    pure_bind, if_pos hlong, sseEvents_singleton (by simp; omega) (by simp; omega), hdrop _ (by decide)] at heq
  cases spoiled_of_whole heq.symm with
  | long h =>
    rw [tooLong_some hpop, hlength] at h
    exact lt_irrefl _ h
  | line hpop' _ hrest =>
    obtain ⟨rfl, rfl⟩ := Prod.mk.inj (Option.some.inj (hpop.symm.trans hpop'))
    cases hrest with
    | long h =>
      rw [if_pos rfl, tooLong_none rfl] at h
      exact Nat.not_lt_zero _ h
    | line h => cases h

/-- A comment of exactly the limit, and its CR LF in two chunks. -/
theorem crlf_cut_at_limit :
    sseEvents "mimo" [List.replicate mimoMaxSseLineBytes 0x3A ++ [0x0D], [0x0A]] ≠
      sseEvents "mimo" [List.replicate mimoMaxSseLineBytes 0x3A ++ [0x0D, 0x0A]] := by
  apply exact_line_cut
  · intro b hb
    rw [List.eq_of_mem_replicate hb]
    decide
  · exact List.length_replicate
  · intro hb
    have hne := List.eq_of_mem_replicate hb
    revert hne
    decide

end SseEvents

end RealtimeVoice.Worker
