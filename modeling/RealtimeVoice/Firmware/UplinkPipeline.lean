import RealtimeVoice.Base.QueueProgram

namespace RealtimeVoice.Firmware.UplinkPipeline

open RealtimeVoice.Base RealtimeVoice.Base.Runs

def uplinkSamplesPerFrame : Nat := 960

structure UplinkPcmFrame where
  samples : List Int16
  timestamp : UInt32
  capturedAtUs : Int
  full : samples.length = uplinkSamplesPerFrame
deriving DecidableEq

/-- The samples of `frame_` that are accumulated. A full frame is given away at once. -/
structure UplinkFramer where
  samples : List Int16
  nextTimestamp : UInt32
  partly : samples.length < uplinkSamplesPerFrame
deriving DecidableEq

namespace UplinkFramer

theorem empty_partly : ([] : List Int16).length < uplinkSamplesPerFrame := by decide

def reset (timestamp : UInt32) : UplinkFramer := ⟨[], timestamp, empty_partly⟩

section

variable {m : Type → Type} [Monad m]

/-- The loop of `Consume`, on the samples from `offset` on. -/
def consumeLoop (capturedAtUs : Int) (sink : UplinkPcmFrame → m Unit) (framer : UplinkFramer)
    (samples : List Int16) (emitted : Nat) : m (UplinkFramer × Nat) :=
  if samples = [] then pure (framer, emitted)
  else
    let copied := min (uplinkSamplesPerFrame - framer.samples.length) samples.length
    let accumulated := framer.samples ++ samples.take copied
    if hpartly : accumulated.length < uplinkSamplesPerFrame then
      consumeLoop capturedAtUs sink ⟨accumulated, framer.nextTimestamp, hpartly⟩ (samples.drop copied) emitted
    else do
      sink ⟨accumulated, framer.nextTimestamp, capturedAtUs, by
        have := framer.partly
        simp only [accumulated, copied, List.length_append, List.length_take] at hpartly ⊢
        omega⟩
      consumeLoop capturedAtUs sink ⟨[], framer.nextTimestamp + UInt32.ofNat uplinkSamplesPerFrame, empty_partly⟩
        (samples.drop copied) (emitted + 1)
termination_by samples.length
decreasing_by
  all_goals
    have hpos := List.length_pos_of_ne_nil ‹samples ≠ []›
    have := framer.partly
    rw [List.length_drop]
    omega

/-- Of a fetch there is a pointer to its samples, or none, with a count. -/
def consume (framer : UplinkFramer) (samples : Option (List Int16)) (capturedAtUs : Int)
    (sink : UplinkPcmFrame → m Unit) : m (UplinkFramer × Nat) :=
  match samples with
  | none => pure (framer, 0)
  | some samples => consumeLoop capturedAtUs sink framer samples 0

/-- One fetch after the other. -/
def consumeAll (sink : UplinkPcmFrame → m Unit) : UplinkFramer → List (Option (List Int16) × Int) → m UplinkFramer
  | framer, [] => pure framer
  | framer, (samples, capturedAtUs) :: fetches => do
    let (framer, _) ← framer.consume samples capturedAtUs sink
    consumeAll sink framer fetches

end

/-- The frames are cut out of the accumulated samples and the input, and the clock goes on by
a frame with each of them. -/
structure Framed (framer final : UplinkFramer) (input : List Int16) (frames : List UplinkPcmFrame) : Prop where
  samples : frames.flatMap (·.samples) ++ final.samples = framer.samples ++ input
  timestamps : ∀ k (hk : k < frames.length),
    frames[k].timestamp = framer.nextTimestamp + UInt32.ofNat (uplinkSamplesPerFrame * k)
  next : final.nextTimestamp = framer.nextTimestamp + UInt32.ofNat (uplinkSamplesPerFrame * frames.length)

variable {framer framer' framer'' : UplinkFramer} {input input' : List Int16} {frames frames' : List UplinkPcmFrame}

theorem advance_add (timestamp : UInt32) (k l : Nat) :
    timestamp + UInt32.ofNat (uplinkSamplesPerFrame * (k + l)) =
      timestamp + UInt32.ofNat (uplinkSamplesPerFrame * k) + UInt32.ofNat (uplinkSamplesPerFrame * l) := by
  rw [Nat.mul_add, UInt32.ofNat_add, UInt32.add_assoc]

theorem Framed.trans (h : Framed framer framer' input frames) (h' : Framed framer' framer'' input' frames') :
    Framed framer framer'' (input ++ input') (frames ++ frames') where
  samples := by
    rw [List.flatMap_append, List.append_assoc, h'.samples, ← List.append_assoc, h.samples, List.append_assoc]
  timestamps k hk := by
    by_cases hfirst : k < frames.length
    · rw [List.getElem_append_left hfirst, h.timestamps k hfirst]
    · have hlater := not_lt.mp hfirst
      rw [List.getElem_append_right hlater, h'.timestamps, h.next, ← advance_add, Nat.add_sub_cancel' hlater]
  next := by rw [h'.next, h.next, ← advance_add, List.length_append]

theorem Framed.keep (hpartly : (framer.samples ++ input).length < uplinkSamplesPerFrame) :
    Framed framer ⟨framer.samples ++ input, framer.nextTimestamp, hpartly⟩ input [] where
  samples := rfl
  timestamps k hk := absurd hk (Nat.not_lt_zero k)
  next := by simp

theorem Framed.emit (capturedAtUs : Int) (hfull : (framer.samples ++ input).length = uplinkSamplesPerFrame) :
    Framed framer ⟨[], framer.nextTimestamp + UInt32.ofNat uplinkSamplesPerFrame, empty_partly⟩ input
      [⟨framer.samples ++ input, framer.nextTimestamp, capturedAtUs, hfull⟩] where
  samples := by simp
  timestamps k hk := by
    obtain rfl : k = 0 := Nat.lt_one_iff.mp hk
    simp
  next := by simp

/-- What the loop does depends on the sink in nothing but the frames that the sink is given. -/
theorem consumeLoop_framed (capturedAtUs : Int) (framer : UplinkFramer) (samples : List Int16) :
    ∃ frames final, Framed framer final samples frames ∧
      ∀ (m : Type → Type) [Monad m] [LawfulMonad m] (sink : UplinkPcmFrame → m Unit) (emitted : Nat),
        consumeLoop capturedAtUs sink framer samples emitted =
          (do frames.forM sink; pure (final, emitted + frames.length)) := by
  induction hlength : samples.length using Nat.strong_induction_on generalizing framer samples with
  | _ n ih =>
    by_cases hend : samples = []
    · refine ⟨[], framer, ?_, ?_⟩
      · exact ⟨by simp [hend], by simp, by simp⟩
      · intro m _ _ sink emitted
        rw [consumeLoop, if_pos hend]
        simp
    · have hpos := List.length_pos_of_ne_nil hend
      have hroom := framer.partly
      obtain ⟨copied, hcopied⟩ : ∃ copied, min (uplinkSamplesPerFrame - framer.samples.length) samples.length = copied :=
        ⟨_, rfl⟩
      have hfewer : (samples.drop copied).length < n := by
        rw [List.length_drop]
        omega
      by_cases hpartly : (framer.samples ++ samples.take copied).length < uplinkSamplesPerFrame
      · obtain ⟨frames, final, hframed, hloop⟩ := ih _ hfewer ⟨_, framer.nextTimestamp, hpartly⟩ _ rfl
        refine ⟨frames, final, ?_, ?_⟩
        · have h := (Framed.keep hpartly).trans hframed
          rwa [List.take_append_drop] at h
        · intro m _ _ sink emitted
          rw [consumeLoop, if_neg hend]
          simp only [hcopied]
          rw [dif_pos hpartly, hloop]
      · obtain ⟨frames, final, hframed, hloop⟩ := ih _ hfewer
          ⟨[], framer.nextTimestamp + UInt32.ofNat uplinkSamplesPerFrame, empty_partly⟩ _ rfl
        have hfull : (framer.samples ++ samples.take copied).length = uplinkSamplesPerFrame := by
          rw [List.length_append, List.length_take] at hpartly ⊢
          omega
        refine ⟨⟨_, framer.nextTimestamp, capturedAtUs, hfull⟩ :: frames, final, ?_, ?_⟩
        · have h := (Framed.emit capturedAtUs hfull).trans hframed
          rwa [List.take_append_drop] at h
        · intro m _ _ sink emitted
          rw [consumeLoop, if_neg hend]
          simp only [hcopied]
          rw [dif_neg hpartly, hloop]
          simp [Nat.add_assoc, Nat.add_comm 1]

theorem consume_framed (framer : UplinkFramer) (samples : Option (List Int16)) (capturedAtUs : Int) :
    ∃ frames final, Framed framer final (samples.getD []) frames ∧
      ∀ (m : Type → Type) [Monad m] [LawfulMonad m] (sink : UplinkPcmFrame → m Unit),
        framer.consume samples capturedAtUs sink = (do frames.forM sink; pure (final, frames.length)) := by
  cases samples with
  | none =>
    refine ⟨[], framer, ⟨by simp, by simp, by simp⟩, ?_⟩
    intro m _ _ sink
    simp [consume]
  | some samples =>
    obtain ⟨frames, final, hframed, hloop⟩ := consumeLoop_framed capturedAtUs framer samples
    refine ⟨frames, final, hframed, ?_⟩
    intro m _ _ sink
    rw [consume, hloop, Nat.zero_add]

/-- The samples of all fetches in one. -/
def concatenated (fetches : List (Option (List Int16) × Int)) : List Int16 := fetches.flatMap (·.1.getD [])

theorem consumeAll_framed (framer : UplinkFramer) (fetches : List (Option (List Int16) × Int)) :
    ∃ frames final, Framed framer final (concatenated fetches) frames ∧
      ∀ (m : Type → Type) [Monad m] [LawfulMonad m] (sink : UplinkPcmFrame → m Unit),
        consumeAll sink framer fetches = (do frames.forM sink; pure final) := by
  induction fetches generalizing framer with
  | nil =>
    refine ⟨[], framer, ⟨by simp [concatenated], by simp, by simp⟩, ?_⟩
    intro m _ _ sink
    simp [consumeAll]
  | cons fetch fetches ih =>
    obtain ⟨samples, capturedAtUs⟩ := fetch
    obtain ⟨frames, framer', hframed, hconsume⟩ := consume_framed framer samples capturedAtUs
    obtain ⟨frames', final, hframed', hrest⟩ := ih framer'
    refine ⟨frames ++ frames', final, hframed.trans hframed', ?_⟩
    intro m _ _ sink
    rw [consumeAll, hconsume]
    simp [hrest]

/-- A piece of a concatenation of pieces of one length. -/
theorem take_drop_flatMap {α β : Type} {f : α → List β} {n : Nat} {l : List α} (h : ∀ a ∈ l, (f a).length = n)
    (rest : List β) {k : Nat} (hk : k < l.length) : ((l.flatMap f ++ rest).drop (n * k)).take n = f l[k] := by
  induction l generalizing k with
  | nil => cases hk
  | cons a l ih =>
    have ha := h a List.mem_cons_self
    rw [List.flatMap_cons, List.append_assoc]
    cases k with
    | zero => exact List.take_left' ha
    | succ k =>
      rw [Nat.mul_succ, Nat.add_comm, ← List.drop_drop, List.drop_left' ha]
      exact ih (fun b hb => h b (List.mem_cons_of_mem a hb)) (Nat.lt_of_succ_lt_succ hk)

theorem length_flatMap_samples (frames : List UplinkPcmFrame) :
    (frames.flatMap (·.samples)).length = uplinkSamplesPerFrame * frames.length := by
  induction frames with
  | nil => rfl
  | cons frame frames ih =>
    rw [List.flatMap_cons, List.length_append, frame.full, ih, List.length_cons, Nat.mul_succ, Nat.add_comm]

/-- The frames are the blocks of the input, and what is kept of it is less than one. -/
structure Blocks (t0 : UInt32) (final : UplinkFramer) (input : List Int16) (frames : List UplinkPcmFrame) : Prop where
  count : frames.length = input.length / uplinkSamplesPerFrame
  samples : ∀ k (hk : k < frames.length),
    frames[k].samples = (input.drop (uplinkSamplesPerFrame * k)).take uplinkSamplesPerFrame
  timestamps : ∀ k (hk : k < frames.length),
    frames[k].timestamp.toNat = (t0.toNat + uplinkSamplesPerFrame * k) % 2 ^ 32
  retained : final.samples = input.drop (uplinkSamplesPerFrame * frames.length)
  fewer : final.samples.length < uplinkSamplesPerFrame

theorem Framed.blocks {t0 : UInt32} (h : Framed (reset t0) framer input frames) : Blocks t0 framer input frames where
  count := by
    have hsamples := congrArg List.length h.samples
    have hpartly := framer.partly
    rw [List.length_append, length_flatMap_samples] at hsamples
    change _ = input.length at hsamples
    rw [uplinkSamplesPerFrame] at *
    omega
  samples k hk := by
    have hsamples : frames.flatMap (·.samples) ++ framer.samples = input := h.samples
    rw [← hsamples, take_drop_flatMap (fun frame _ => frame.full) framer.samples hk]
  timestamps k hk := by
    rw [h.timestamps k hk, UInt32.toNat_add, UInt32.toNat_ofNat', Nat.add_mod_mod]
    rfl
  retained := by
    have hsamples : frames.flatMap (·.samples) ++ framer.samples = input := h.samples
    rw [← hsamples, List.drop_left' (length_flatMap_samples frames)]
  fewer := framer.partly

end UplinkFramer

inductive LatestEnqueueResult
  | enqueued | replacedOldest | failed
deriving DecidableEq

def enqueueLatest {m : Type → Type} [Monad m] {ι : Type} (item : ι) (trySend : ι → m Bool)
    (tryReceive : m (Option ι)) : m LatestEnqueueResult := do
  if ← trySend item then return .enqueued
  match ← tryReceive with
  | some _ => return if ← trySend item then .replacedOldest else .failed
  | none => return if ← trySend item then .enqueued else .failed

section Queue

variable {ι α : Type}

/-- A task on a queue that marks the results of its calls. -/
abbrev Task (ι α : Type) := QueueProgram ι (ι × LatestEnqueueResult) α

abbrev Event (ι : Type) := QueueProgram.Event ι (ι × LatestEnqueueResult)

/-- `EnqueueLatest` on the queue, and what comes of the result: a counter, or a failure. -/
def queueSink (item : ι) : Task ι Unit := do
  let queued ← enqueueLatest item (.trySend · .done) (.tryReceive .done)
  .mark (item, queued) (.done ())

def offer (items : List ι) (a : α) : Task ι α := do
  items.forM queueSink
  return a

/-- Inside of a call: the queue was full; the place of the oldest item or of one that the consumer
took is tried; the result is known. -/
inductive Position
  | full
  | second (discarded : Bool)
  | returned (discarded sent : Bool)

/-- The result of a call, by whether it took an item out of the queue and whether it put its own in. -/
def callResult (discarded sent : Bool) : LatestEnqueueResult :=
  if sent then if discarded then .replacedOldest else .enqueued else .failed

namespace Position

def discarded : Position → Nat
  | .full => 0
  | .second d => d.toNat
  | .returned d _ => d.toNat

def queued (item : ι) : Position → List ι
  | .returned _ true => [item]
  | _ => []

/-- What is left of the call of the item, and then of the task. -/
def program (item : ι) (rest : Task ι α) : Position → Task ι α
  | .full => .tryReceive fun oldest => .trySend item fun sent =>
    .mark (item, callResult oldest.isSome sent) rest
  | .second d => .trySend item fun sent => .mark (item, callResult d sent) rest
  | .returned d sent => .mark (item, callResult d sent) rest

end Position

theorem offer_cons (item : ι) (items : List ι) (a : α) :
    offer (item :: items) a = .trySend item fun sent =>
      if sent then Position.program item (offer items a) (.returned false true)
      else Position.program item (offer items a) .full := by
  change QueueProgram.trySend item _ = _
  refine congrArg (QueueProgram.trySend item) (funext fun sent => ?_)
  cases sent with
  | true => rfl
  | false =>
    refine congrArg QueueProgram.tryReceive (funext fun oldest => ?_)
    cases oldest with
    | none =>
      refine congrArg (QueueProgram.trySend item) (funext fun sent => ?_)
      cases sent <;> rfl
    | some oldest =>
      refine congrArg (QueueProgram.trySend item) (funext fun sent => ?_)
      cases sent <;> rfl

/-- The calls that are over, and what the call under way has done. -/
structure Tally (es : List (Event ι)) (calls : List ι) (discards : Nat) (queued : List ι) : Prop where
  marks : (es.filterMap (·.mark?)).map Prod.fst = calls
  discarded : (since (·.isMark) es).countP (·.discards) = discards
  own : (since (·.isMark) es).filterMap (·.queued?) = queued
  all : (es.filterMap (·.queued?)).Sublist (calls ++ queued)

section Tally

variable {es : List (Event ι)} {calls queued : List ι} {discards : Nat} {e : Event ι} {item : ι}

theorem tally_nil : Tally ([] : List (Event ι)) [] 0 [] := ⟨rfl, rfl, rfl, .slnil⟩

theorem Tally.snoc (h : Tally es calls discards queued) (hmark : e.mark? = none) (hisMark : e.isMark = false) :
    Tally (es ++ [e]) calls (discards + [e].countP (·.discards)) (queued ++ [e].filterMap (·.queued?)) where
  marks := by simp [hmark, h.marks]
  discarded := by
    rw [since_snoc, if_neg (by simp [hisMark]), List.countP_append, h.discarded]
  own := by
    rw [since_snoc, if_neg (by simp [hisMark]), List.filterMap_append, h.own]
  all := by
    rw [List.filterMap_append, ← List.append_assoc]
    exact h.all.append (List.Sublist.refl _)

/-- The consumer and other senders change nothing. -/
theorem Tally.idle (h : Tally es calls discards queued) (hmark : e.mark? = none) (hisMark : e.isMark = false)
    (hdiscards : e.discards = false) (hqueued : e.queued? = none) : Tally (es ++ [e]) calls discards queued := by
  simpa [hdiscards, hqueued] using h.snoc hmark hisMark

/-- A call queues nothing but its own item, if anything. -/
theorem Tally.marked {result : LatestEnqueueResult} (h : Tally es calls discards queued)
    (hqueued : queued.Sublist [item]) : Tally (es ++ [.marked (item, result)]) (calls ++ [item]) 0 [] where
  marks := by
    rw [List.filterMap_append, List.map_append, h.marks]
    rfl
  discarded := by
    rw [since_snoc]
    rfl
  own := by
    rw [since_snoc]
    rfl
  all := by
    rw [List.filterMap_append, List.append_nil]
    change (_ ++ []).Sublist _
    rw [List.append_nil]
    exact h.all.trans ((List.Sublist.refl calls).append hqueued)

end Tally

/-- What the position tells of a queue with one sender. -/
def Position.Certain (capacity : Nat) (queue : List ι) : Position → Prop
  | .full => True
  | .second _ => queue.length < capacity
  | .returned _ sent => sent = true

/-- Where the task stands after the events. -/
inductive At (others : Prop) (capacity : Nat) (items : List ι) (a : α) (es : List (Event ι)) :
    QueueProgram.System ι (ι × LatestEnqueueResult) α → Prop
  | between {before after queue} : items = before ++ after → Tally es before 0 [] →
    At others capacity items a es ⟨offer after a, queue⟩
  | within {before item after queue} (position : Position) : items = before ++ item :: after →
    Tally es before position.discarded (position.queued item) →
    (¬others → 1 ≤ capacity → position.Certain capacity queue) →
    At others capacity items a es ⟨position.program item (offer after a), queue⟩

section At

open QueueProgram (Step)

variable {others : Prop} {capacity : Nat} {items : List ι} {a : α} {es : List (Event ι)} {e : Event ι}
  {s s' : QueueProgram.System ι (ι × LatestEnqueueResult) α}

theorem Position.queued_sublist (position : Position) (item : ι) : (position.queued item).Sublist [item] := by
  rcases position with _ | d | ⟨d, sent⟩
  · exact List.nil_sublist _
  · exact List.nil_sublist _
  · cases sent with
    | false => exact List.nil_sublist _
    | true => exact List.Sublist.refl _

theorem at_step (h : At others capacity items a es s) (hqueue : s.queue.length ≤ capacity)
    (hstep : Step others capacity s e s') : At others capacity items a (es ++ [e]) s' := by
  cases h with
  | @between before after queue hitems htally =>
    cases after with
    | nil =>
      change Step others capacity ⟨.done a, queue⟩ e s' at hstep
      cases hstep with
      | received | foreign _ _ => exact .between hitems (htally.idle rfl rfl rfl rfl)
    | cons item after =>
      rw [offer_cons] at hstep
      cases hstep with
      | sent hroom => exact .within (.returned false true) hitems (htally.snoc rfl rfl) fun _ _ => rfl
      | full hfull => exact .within .full hitems (htally.snoc rfl rfl) fun _ _ => trivial
      | received | foreign _ _ =>
        rw [← offer_cons]
        exact .between hitems (htally.idle rfl rfl rfl rfl)
  | @within before item after queue position hitems htally hcertain =>
    cases position with
    | full =>
      cases hstep with
      | popped =>
        exact .within (.second true) hitems (htally.snoc rfl rfl) fun _ _ => hqueue
      | empty => exact .within (.second false) hitems (htally.snoc rfl rfl) fun _ hcapacity => hcapacity
      | received | foreign _ _ => exact .within .full hitems (htally.idle rfl rfl rfl rfl) fun _ _ => trivial
    | second d =>
      cases hstep with
      | sent hroom => exact .within (.returned d true) hitems (htally.snoc rfl rfl) fun _ _ => rfl
      | full hfull =>
        refine .within (.returned d false) hitems (htally.snoc rfl rfl) fun hothers hcapacity => ?_
        exact absurd (hcertain hothers hcapacity) (not_lt.mpr hfull)
      | received =>
        refine .within (.second d) hitems (htally.idle rfl rfl rfl rfl) fun hothers hcapacity => ?_
        exact (Nat.le_succ _).trans_lt (hcertain hothers hcapacity)
      | foreign hforeign _ =>
        exact .within (.second d) hitems (htally.idle rfl rfl rfl rfl) fun hothers => absurd hforeign hothers
    | returned d sent =>
      cases hstep with
      | marked =>
        have hafter : items = (before ++ [item]) ++ after := by rw [hitems, List.append_assoc, List.singleton_append]
        exact .between hafter (htally.marked (Position.queued_sublist _ item))
      | received | foreign _ _ => exact .within (.returned d sent) hitems (htally.idle rfl rfl rfl rfl) hcertain

theorem at_marked {item : ι} {result : LatestEnqueueResult} (h : At others capacity items a es s)
    (hstep : Step others capacity s (.marked (item, result)) s') :
    ∃ discarded sent, result = callResult discarded sent ∧
      (since (·.isMark) es).countP (·.discards) = discarded.toNat ∧
      (since (·.isMark) es).filterMap (·.queued?) = (if sent then [item] else []) ∧
      (¬others → 1 ≤ capacity → sent = true) := by
  cases h with
  | @between before after queue hitems htally =>
    cases after with
    | nil =>
      change Step others capacity ⟨.done a, queue⟩ _ s' at hstep
      cases hstep
    | cons item' after =>
      rw [offer_cons] at hstep
      cases hstep
  | @within before item' after queue position hitems htally hcertain =>
    cases position with
    | full | second d => cases hstep
    | returned d sent =>
      cases hstep
      refine ⟨d, sent, rfl, htally.discarded, ?_, hcertain⟩
      rw [htally.own]
      cases sent <;> rfl

theorem run_at (h : Run (Step others capacity) ⟨offer items a, []⟩ es s) : At others capacity items a es s := by
  induction h with
  | nil => exact .between (List.nil_append items).symm tally_nil
  | @snoc es t u e hr hs ih => exact at_step ih (QueueProgram.run_capacity hr (Nat.zero_le capacity)) hs

theorem At.discards_le (h : At others capacity items a es s) : (since (·.isMark) es).countP (·.discards) ≤ 1 := by
  cases h with
  | between hitems htally =>
    rw [htally.discarded]
    exact Nat.zero_le 1
  | within position hitems htally hcertain =>
    rw [htally.discarded]
    rcases position with _ | d | ⟨d, sent⟩
    · exact Nat.zero_le 1
    · exact Bool.toNat_le d
    · exact Bool.toNat_le d

theorem At.marks_front (h : At others capacity items a es s) : (es.filterMap (·.mark?)).map Prod.fst <+: items := by
  cases h with
  | between hitems htally =>
    rw [htally.marks, hitems]
    exact List.prefix_append _ _
  | within position hitems htally hcertain =>
    rw [htally.marks, hitems]
    exact List.prefix_append _ _

theorem At.queued_sublist (h : At others capacity items a es s) : (es.filterMap (·.queued?)).Sublist items := by
  cases h with
  | between hitems htally =>
    rw [hitems]
    exact htally.all.trans ((List.append_nil _).symm ▸ List.sublist_append_left _ _)
  | @within before item after queue position hitems htally hcertain =>
    rw [hitems]
    have hcall : (position.queued item).Sublist (item :: after) :=
      (position.queued_sublist item).trans (List.singleton_sublist.mpr List.mem_cons_self)
    exact htally.all.trans ((List.Sublist.refl before).append hcall)

/-- What the calls do to the queue, whatever happens between their operations. -/
structure Latest (others : Prop) (capacity : Nat) (items : List ι) (es : List (Event ι)) : Prop where
  calls : (es.filterMap (·.mark?)).map Prod.fst <+: items
  inOrder : ¬others → (es.filterMap (·.received?)).Sublist items
  discards : ∀ before after, es = before ++ after → (since (·.isMark) before).countP (·.discards) ≤ 1
  queued : ∀ before item result after, es = before ++ .marked (item, result) :: after →
    (since (·.isMark) before).filterMap (·.queued?) = if result = .failed then [] else [item]
  succeeds : ¬others → 1 ≤ capacity → ∀ item, .marked (item, .failed) ∉ es

theorem run_latest (h : Run (Step others capacity) ⟨offer items a, []⟩ es s) : Latest others capacity items es where
  calls := (run_at h).marks_front
  inOrder hothers := (QueueProgram.received_sublist_queued hothers h rfl).trans (run_at h).queued_sublist
  discards := by
    rintro before after rfl
    obtain ⟨t, hbefore, -⟩ := h.split
    exact (run_at hbefore).discards_le
  queued := by
    rintro before item result after rfl
    obtain ⟨t, hbefore, hlater⟩ := h.split
    obtain ⟨u, hstep, -⟩ := Run.cons_iff.mp hlater
    obtain ⟨discarded, sent, rfl, -, hqueued, -⟩ := at_marked (run_at hbefore) hstep
    rw [hqueued]
    cases discarded <;> cases sent <;> rfl
  succeeds := by
    intro hothers hcapacity item hmem
    obtain ⟨before, after, rfl⟩ := List.append_of_mem hmem
    obtain ⟨t, hbefore, hlater⟩ := h.split
    obtain ⟨u, hstep, -⟩ := Run.cons_iff.mp hlater
    obtain ⟨discarded, sent, hresult, -, -, hsent⟩ := at_marked (run_at hbefore) hstep
    rw [hsent hothers hcapacity] at hresult
    cases discarded <;> cases hresult

end At

end Queue

open UplinkFramer in
/-- However the input is split into fetches, its blocks go to the sink, each with its place on the
media clock. On the queue the consumer gets some of them in order, and a call loses at most one. -/
theorem uplink_keeps_clock (t0 : UInt32) (fetches : List (Option (List Int16) × Int)) :
    ∃ frames final, Blocks t0 final (concatenated fetches) frames ∧
      (∀ (m : Type → Type) [Monad m] [LawfulMonad m] (sink : UplinkPcmFrame → m Unit),
        consumeAll sink (reset t0) fetches = (do frames.forM sink; pure final)) ∧
      ∀ (others : Prop) (capacity : Nat) (es : List (Event UplinkPcmFrame))
        (s : QueueProgram.System UplinkPcmFrame (UplinkPcmFrame × LatestEnqueueResult) UplinkFramer),
        Run (QueueProgram.Step others capacity) ⟨consumeAll queueSink (reset t0) fetches, []⟩ es s →
          Latest others capacity frames es := by
  obtain ⟨frames, final, hframed, hconsume⟩ := consumeAll_framed (reset t0) fetches
  refine ⟨frames, final, hframed.blocks, hconsume, ?_⟩
  intro others capacity es s h
  rw [hconsume] at h
  exact run_latest h

/-- 2000 samples in two fetches, with a fetch of nothing between them. -/
def demoFetches : List (Option (List Int16) × Int) :=
  [(some (List.replicate 500 1), 10), (none, 20), (some (List.replicate 1500 2), 30)]

open UplinkFramer in
/-- The clock wraps between the two frames, and the second one replaces the first in a queue for one. -/
theorem uplink_keeps_clock_wrapping : ∃ first second : UplinkPcmFrame,
    first.timestamp.toNat = 4294966336 ∧ second.timestamp.toNat = 0 ∧
    Latest False 1 [first, second] [.sent first true, .marked (first, .enqueued), .sent second false,
      .popped (some first), .sent second true, .marked (second, .replacedOldest), .received second] := by
  obtain ⟨frames, final, hblocks, hsink, hqueue⟩ := uplink_keeps_clock 4294966336 demoFetches
  have hinput : (concatenated demoFetches).length = 2000 := by
    simp only [concatenated, demoFetches, List.flatMap_cons, List.flatMap_nil, Option.getD_some, Option.getD_none,
      List.length_append, List.length_replicate, List.length_nil]
  have hcount : frames.length = 2 := by rw [hblocks.count, hinput, uplinkSamplesPerFrame]
  obtain ⟨first, second, rfl⟩ := List.length_eq_two.mp hcount
  refine ⟨first, second, hblocks.timestamps 0 Nat.zero_lt_two, hblocks.timestamps 1 Nat.one_lt_two, ?_⟩
  refine hqueue False 1 _ ⟨.done final, []⟩ ?_
  rw [hsink]
  refine Run.cons_iff.mpr ⟨⟨_, [first]⟩, .sent Nat.zero_lt_one, ?_⟩
  refine Run.cons_iff.mpr ⟨_, .marked, ?_⟩
  refine Run.cons_iff.mpr ⟨_, .full le_rfl, ?_⟩
  refine Run.cons_iff.mpr ⟨_, .popped, ?_⟩
  refine Run.cons_iff.mpr ⟨⟨_, [second]⟩, .sent Nat.zero_lt_one, ?_⟩
  refine Run.cons_iff.mpr ⟨_, .marked, ?_⟩
  exact Run.single .received

end RealtimeVoice.Firmware.UplinkPipeline
