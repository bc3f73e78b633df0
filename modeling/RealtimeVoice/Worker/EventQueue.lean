import RealtimeVoice.Base.Runs

namespace RealtimeVoice.Worker

open RealtimeVoice.Base.Runs

variable {ε : Type}

/-- The queue of recognition events, where `none` is the end marker, with what was put in it and
what `events` yielded so far. -/
structure EventQueue (ε : Type) where
  maxsize : Nat
  room : 0 < maxsize
  items : List (Option ε) := []
  eventsEnded : Bool := false
  /-- `events` took the end marker. -/
  finished : Bool := false
  put : List ε := []
  yielded : List ε := []

namespace EventQueue

def full (q : EventQueue ε) : Bool := decide (q.maxsize ≤ q.items.length)

/-- `put` of an event, which waits while the queue is full. -/
def putEvent (q : EventQueue ε) (event : ε) : Option (EventQueue ε) :=
  if q.full then none else some { q with items := q.items ++ [some event], put := q.put ++ [event] }

/-- `_end_events`: in a full queue the oldest item makes room for the end marker. -/
def endEvents (q : EventQueue ε) : EventQueue ε :=
  if q.eventsEnded then q
  else if q.full then { q with items := q.items.tail ++ [none], eventsEnded := true }
  else { q with items := q.items ++ [none], eventsEnded := true }

/-- One round of `events`, which waits while the queue is empty. -/
def next (q : EventQueue ε) : Option (EventQueue ε) :=
  if q.finished then none
  else
    match q.items with
    | [] => none
    | none :: items => some { q with items := items, finished := true }
    | some event :: items => some { q with items := items, yielded := q.yielded ++ [event] }

/-- The events in the queue. -/
def queued (q : EventQueue ε) : List ε := q.items.reduceOption

/-- Every event that was put was yielded or is still there, in its order. -/
def Kept (q : EventQueue ε) : Prop := q.put = q.yielded ++ q.queued

/-- Some event that was put is neither there nor was it yielded. -/
def Lost (q : EventQueue ε) : Prop := q.yielded.length + q.queued.length < q.put.length

/-- The end marker comes last, and once. -/
structure Shaped (q : EventQueue ε) : Prop where
  open_ : q.eventsEnded = false → none ∉ q.items ∧ q.finished = false
  ended : q.eventsEnded = true → q.finished = false → ∃ events : List ε, q.items = events.map some ++ [none]
  finished : q.finished = true → q.eventsEnded = true ∧ q.items = []

variable {q t : EventQueue ε} {event : ε}

theorem not_kept_of_lost (h : q.Lost) : ¬q.Kept := by
  intro hkept
  have hlength := congrArg List.length hkept
  rw [List.length_append] at hlength
  rw [Lost] at h
  omega

theorem reduceOption_map_some (events : List ε) : (events.map some).reduceOption = events := by
  induction events with
  | nil => rfl
  | cons e events ih => rw [List.map_cons, List.reduceOption_cons_of_some, ih]

/-- When `events` ends, the events that it yielded are all that were put. -/
theorem Kept.yielded (h : q.Kept) (hshaped : q.Shaped) (hfinished : q.finished = true) : q.yielded = q.put := by
  rw [h, queued, (hshaped.finished hfinished).2]
  exact (List.append_nil _).symm

theorem putEvent_some (h : q.putEvent event = some t) :
    t = { q with items := q.items ++ [some event], put := q.put ++ [event] } := by
  rw [putEvent] at h
  split_ifs at h
  exact (Option.some.inj h).symm

theorem kept_putEvent (h : q.Kept) (hput : q.putEvent event = some t) : t.Kept := by
  obtain rfl := putEvent_some hput
  rw [Kept, queued, List.reduceOption_append, ← List.append_assoc]
  exact congrArg (· ++ [event]) h

theorem lost_putEvent (h : q.Lost) (hput : q.putEvent event = some t) : t.Lost := by
  obtain rfl := putEvent_some hput
  rw [Lost, queued] at h ⊢
  simp only [List.reduceOption_append, List.length_append, List.reduceOption_singleton, Option.toList_some,
    List.length_singleton]
  omega

theorem shaped_putEvent (h : q.Shaped) (hopen : q.eventsEnded = false) (hput : q.putEvent event = some t) : t.Shaped := by
  obtain rfl := putEvent_some hput
  refine ⟨fun hf => ?_, fun hended => ?_, fun hfinished => ?_⟩
  · obtain ⟨hnone, hfinished⟩ := h.open_ hf
    exact ⟨by simpa using hnone, hfinished⟩
  · rw [hopen] at hended
    cases hended
  · have hended := (h.finished hfinished).1
    rw [hopen] at hended
    cases hended

theorem next_eventsEnded (hnext : q.next = some t) : t.eventsEnded = q.eventsEnded := by
  rw [next] at hnext
  split_ifs at hnext
  rcases hitems : q.items with _ | ⟨_ | event, items⟩
  all_goals rw [hitems] at hnext
  · cases hnext
  all_goals
    obtain rfl := Option.some.inj hnext
    rfl

theorem kept_next (h : q.Kept) (hnext : q.next = some t) : t.Kept := by
  rw [next] at hnext
  rw [Kept, queued] at h
  split_ifs at hnext with hfinished
  rcases hitems : q.items with _ | ⟨_ | event, items⟩
  all_goals
    rw [hitems] at hnext h
    try obtain rfl := Option.some.inj hnext
  · cases hnext
  · exact h
  · rw [List.reduceOption_cons_of_some] at h
    simp [Kept, queued, h]

theorem lost_next (h : q.Lost) (hnext : q.next = some t) : t.Lost := by
  rw [next] at hnext
  rw [Lost, queued] at h
  split_ifs at hnext with hfinished
  rcases hitems : q.items with _ | ⟨_ | event, items⟩
  all_goals
    rw [hitems] at hnext h
    try obtain rfl := Option.some.inj hnext
  · cases hnext
  · exact h
  · rw [List.reduceOption_cons_of_some, List.length_cons] at h
    simp only [Lost, queued, List.length_append, List.length_singleton]
    omega

theorem shaped_next (h : q.Shaped) (hnext : q.next = some t) : t.Shaped := by
  rw [next] at hnext
  split_ifs at hnext with hfinished
  have hopen : q.eventsEnded = true → ∃ events : List ε, q.items = events.map some ++ [none] := fun hended =>
    h.ended hended (Bool.not_eq_true _ ▸ hfinished)
  rcases hitems : q.items with _ | ⟨_ | event, items⟩
  all_goals
    rw [hitems] at hnext hopen
    try obtain rfl := Option.some.inj hnext
  · cases hnext
  · have hended : q.eventsEnded = true := by
      by_contra hfalse
      have hnone := (h.open_ (Bool.not_eq_true _ ▸ hfalse)).1
      rw [hitems] at hnone
      exact hnone List.mem_cons_self
    refine ⟨fun hf => ?_, fun _ hf => (by cases hf), fun _ => ⟨hended, ?_⟩⟩
    · rw [hended] at hf
      cases hf
    · obtain ⟨events, hevents⟩ := hopen hended
      cases events with
      | nil => exact (List.cons.inj hevents).2
      | cons e events => cases (List.cons.inj hevents).1
  · refine ⟨fun hf => ?_, fun hended hf => ?_, fun hf => absurd hf hfinished⟩
    · obtain ⟨hnone, hf'⟩ := h.open_ hf
      rw [hitems] at hnone
      exact ⟨fun hmem => hnone (List.mem_cons_of_mem _ hmem), hf'⟩
    · obtain ⟨events, hevents⟩ := hopen hended
      cases events with
      | nil => cases (List.cons.inj hevents).1
      | cons e events => exact ⟨events, (List.cons.inj hevents).2⟩

/-- The items of a queue that is not ended are events. -/
theorem Shaped.items_eq (h : q.Shaped) (hopen : q.eventsEnded = false) : q.items = q.queued.map some := by
  have hnone := (h.open_ hopen).1
  rw [queued]
  generalize q.items = items at hnone
  induction items with
  | nil => rfl
  | cons item items ih =>
    cases item with
    | none => exact absurd List.mem_cons_self hnone
    | some e =>
      rw [List.reduceOption_cons_of_some, List.map_cons, ← ih fun hmem => hnone (List.mem_cons_of_mem _ hmem)]

/-- There is room for the end marker, or it has been put. -/
def Roomy (q : EventQueue ε) : Prop := q.eventsEnded = true ∨ q.full = false

instance : Decidable q.Roomy := inferInstanceAs (Decidable (_ ∨ _))

theorem kept_endEvents (h : q.Kept) (hroomy : q.Roomy) : q.endEvents.Kept := by
  rw [endEvents]
  split_ifs with hended hfull
  · exact h
  · exact (hroomy.elim (fun h => absurd h hended) fun h => absurd hfull (by rw [h]; exact Bool.false_ne_true))
  · rw [Kept, queued, List.reduceOption_append]
    exact h.trans (by simp [queued])

/-- The end marker in a full queue costs an event. -/
theorem lost_of_evicted (h : q.Kept) (hshaped : q.Shaped) (hroomy : ¬q.Roomy) : q.endEvents.Lost := by
  obtain ⟨hended, hfull⟩ := not_or.mp hroomy
  rw [Bool.not_eq_false, full, decide_eq_true_eq] at hfull
  have hopen : q.eventsEnded = false := Bool.not_eq_true _ ▸ hended
  have hitems := hshaped.items_eq hopen
  have hlength := congrArg List.length h
  rw [endEvents, if_neg hended, if_pos (by rw [full]; exact decide_eq_true hfull)]
  rw [List.length_append] at hlength
  rw [hitems, List.length_map] at hfull
  have hroom := q.room
  simp only [Lost, queued]
  rw [List.reduceOption_append, hitems, ← List.map_tail, reduceOption_map_some]
  simp only [List.reduceOption_singleton, Option.toList_none, List.append_nil, List.length_tail]
  rw [queued] at *
  omega

theorem lost_endEvents (h : q.Lost) : q.endEvents.Lost := by
  rw [endEvents]
  rw [Lost, queued] at h
  split_ifs
  · exact h
  · rw [Lost, queued, List.reduceOption_append]
    have htail : (q.items.tail.reduceOption).length ≤ (q.items.reduceOption).length := by
      cases q.items with
      | nil => exact le_rfl
      | cons item items => cases item <;> simp
    simp only [List.length_append, List.reduceOption_singleton, Option.toList_none, List.length_nil]
    omega
  · rw [Lost, queued, List.reduceOption_append]
    simpa using h

theorem shaped_endEvents (h : q.Shaped) : q.endEvents.Shaped := by
  rw [endEvents]
  split_ifs with hended hfull
  · exact h
  all_goals
    have hopen : q.eventsEnded = false := Bool.not_eq_true _ ▸ hended
    have hitems := h.items_eq hopen
    refine ⟨fun hf => (by cases hf), fun _ _ => ?_, fun hfinished => ?_⟩
  · exact ⟨q.queued.tail, by simp only [hitems, List.map_tail]⟩
  · rw [(h.finished hfinished).1] at hopen
    cases hopen
  · exact ⟨q.queued, by rw [← hitems]⟩
  · rw [(h.finished hfinished).1] at hopen
    cases hopen

/-- What one step of a stream does to its events: nothing, or one of the operations. An event is
put only before the end marker. -/
inductive Moves (q : EventQueue ε) (ends : Bool) (t : EventQueue ε) : Prop
  | same (hends : ends = false) (hsame : t = q)
  | put (event : ε) (hends : ends = false) (hopen : q.eventsEnded = false) (hput : q.putEvent event = some t)
  | next (hends : ends = false) (hnext : q.next = some t)
  | ends (hends : ends = true) (hend : t = q.endEvents)

variable {ends : Bool}

theorem shaped_of_moves (h : q.Shaped) (hm : q.Moves ends t) : t.Shaped := by
  cases hm with
  | same _ hsame => rwa [hsame]
  | put event _ hopen hput => exact shaped_putEvent h hopen hput
  | next _ hnext => exact shaped_next h hnext
  | ends _ hend =>
    rw [hend]
    exact shaped_endEvents h

theorem kept_of_moves (h : q.Kept) (hm : q.Moves ends t) (hroomy : ends = true → q.Roomy) : t.Kept := by
  cases hm with
  | same _ hsame => rwa [hsame]
  | put event _ _ hput => exact kept_putEvent h hput
  | next _ hnext => exact kept_next h hnext
  | ends hends hend =>
    rw [hend]
    exact kept_endEvents h (hroomy hends)

theorem lost_of_moves (h : q.Lost) (hm : q.Moves ends t) : t.Lost := by
  cases hm with
  | same _ hsame => rwa [hsame]
  | put event _ _ hput => exact lost_putEvent h hput
  | next _ hnext => exact lost_next h hnext
  | ends _ hend =>
    rw [hend]
    exact lost_endEvents h

theorem lost_of_moves_full (h : q.Kept) (hshaped : q.Shaped) (hm : q.Moves ends t) (hends : ends = true)
    (hfull : ¬q.Roomy) : t.Lost := by
  cases hm with
  | same hfalse _ => cases hfalse.symm.trans hends
  | put _ hfalse _ _ => cases hfalse.symm.trans hends
  | next hfalse _ => cases hfalse.symm.trans hends
  | ends _ hend =>
    rw [hend]
    exact lost_of_evicted h hshaped hfull

section Streams

variable {σ ι : Type} {step : σ → ι → σ → Prop} (events : σ → EventQueue ε) (failed : σ → Prop) (ending : ι → Bool)
  (Sound : List ι → σ → Prop) {s u : σ} {es : List ι}

/-- A stream that did not fail is sound, and its events are kept exactly if no end marker was put
in a full queue. -/
theorem sound_kept_iff (hrun : Run step s es u) (hu : ¬failed u)
    (hunique : ∀ t e u v, step t e u → step t e v → u = v) (hfailed : ∀ t e u, step t e u → failed t → failed u)
    (hnil : Sound [] s) (hkept : (events s).Kept) (hshaped : ∀ es t, Sound es t → (events t).Shaped)
    (hsound : ∀ es t e u, Sound es t → step t e u → ¬failed u → Sound (es ++ [e]) u)
    (hmoves : ∀ es t e u, Sound es t → step t e u → ¬failed u → (events t).Moves (ending e) (events u)) :
    Sound es u ∧ ((events u).Kept ↔
      Run (fun t e u => (ending e = true → (events t).Roomy) ∧ step t e u) s es u) := by
  have hboth := hrun.meets_or_broken (fun t e => ending e = true → (events t).Roomy)
    (fun es t => ¬failed t → Sound es t ∧ (events t).Kept) (fun es t => ¬failed t → Sound es t ∧ (events t).Lost)
    hunique (fun _ => ⟨hnil, hkept⟩) ?_ ?_ ?_
  · obtain ⟨hgood, hmeeting⟩ | ⟨hbroken, hnot⟩ := hboth
    · exact ⟨(hgood hu).1, fun _ => hmeeting, fun _ => (hgood hu).2⟩
    · exact ⟨(hbroken hu).1, fun hk => absurd hk (not_kept_of_lost (hbroken hu).2), fun hall => absurd hall hnot⟩
  · intro es t e u hgood hs hmeets hu
    obtain ⟨hso, hk⟩ := hgood fun ht => hu (hfailed t e u hs ht)
    exact ⟨hsound es t e u hso hs hu, kept_of_moves hk (hmoves es t e u hso hs hu) hmeets⟩
  · intro es t e u hgood hs hmeets hu
    obtain ⟨hso, hk⟩ := hgood fun ht => hu (hfailed t e u hs ht)
    obtain ⟨hends, hfull⟩ := Classical.not_imp.mp hmeets
    exact ⟨hsound es t e u hso hs hu,
      lost_of_moves_full hk (hshaped es t hso) (hmoves es t e u hso hs hu) hends hfull⟩
  · intro es t e u hbroken hs hu
    obtain ⟨hso, hl⟩ := hbroken fun ht => hu (hfailed t e u hs ht)
    exact ⟨hsound es t e u hso hs hu, lost_of_moves hl (hmoves es t e u hso hs hu)⟩

end Streams

end EventQueue

end RealtimeVoice.Worker
