import RealtimeVoice.Base.Runs

namespace RealtimeVoice.Worker.ResponseGate

open RealtimeVoice.Base.Runs

structure PlaybackResponseGate where
  pendingLimit : Nat := 8
  responseActive : Bool := false
  turnSequence : Nat := 0
  activeTurn : Option Nat := none
  activeTurnContaminated : Bool := false
  pending : List (Nat × String) := []
  deriving DecidableEq

/-- Append to a deque of bounded length, which drops from its front. -/
def appendBounded {α : Type} (limit : Nat) (items : List α) (item : α) : List α :=
  (items ++ [item]).drop (items.length + 1 - limit)

namespace PlaybackResponseGate

def setResponseActive (g : PlaybackResponseGate) (active : Bool) : PlaybackResponseGate :=
  { g with responseActive := active }

def userStateChanged (g : PlaybackResponseGate) (newState : String) : PlaybackResponseGate :=
  if newState ≠ "speaking" then g
  else
    { g with
      pending := if g.responseActive then g.pending else []
      turnSequence := g.turnSequence + 1
      activeTurn := some (g.turnSequence + 1)
      activeTurnContaminated := g.responseActive }

/-- The turn a transcript belongs to: the active one, or a new one. -/
def ensureTurn (g : PlaybackResponseGate) : PlaybackResponseGate × Nat :=
  match g.activeTurn with
  | some turn => (g, turn)
  | none => ({ g with turnSequence := g.turnSequence + 1, activeTurn := some (g.turnSequence + 1) }, g.turnSequence + 1)

def observeTranscript (g : PlaybackResponseGate) (text : String) (isFinal : Bool) : PlaybackResponseGate :=
  if text = "" then g
  else
    let (g, turn) := g.ensureTurn
    let contaminated := g.responseActive || g.activeTurnContaminated
    if isFinal then
      { g with
        pending := if contaminated then appendBounded g.pendingLimit g.pending (turn, text) else g.pending
        activeTurn := none
        activeTurnContaminated := false }
    else { g with activeTurnContaminated := contaminated }

/-- The argument is the text content of the message, if it has one. -/
def shouldSuppress (g : PlaybackResponseGate) (rawTextContent : Option String) : PlaybackResponseGate × Bool :=
  let candidate := rawTextContent.getD ""
  match g.pending with
  | (_, expected) :: rest =>
    if candidate = expected then ({ g with pending := rest }, true)
    else ({ g with pending := [] }, g.responseActive)
  | [] => (g, g.responseActive)

end PlaybackResponseGate

/-- What reaches the gate. A completion hook names the finalised turn it is for,
which the code does not see. -/
inductive Event
  | setResponseActive (active : Bool)
  | userStateChanged (oldState newState : String)
  | observeTranscript (text : String) (isFinal : Bool)
  | shouldSuppress (turn : Nat) (rawTextContent : Option String)
  deriving DecidableEq

def call (g : PlaybackResponseGate) : Event → PlaybackResponseGate × Option Bool
  | .setResponseActive active => (g.setResponseActive active, none)
  | .userStateChanged _ newState => (g.userStateChanged newState, none)
  | .observeTranscript text isFinal => (g.observeTranscript text isFinal, none)
  | .shouldSuppress _ rawTextContent => ((g.shouldSuppress rawTextContent).1, some (g.shouldSuppress rawTextContent).2)

structure Turn where
  text : String
  /-- A response was active at the turn's speech start or at one of its transcripts. -/
  overlapped : Bool
  deriving DecidableEq

/-- The user's turns as they happened. A turn begins with a speech start, or with a
transcript while none is open, and its final transcript finalises it. -/
structure Turns where
  responseActive : Bool := false
  opened : Option Bool := none
  finalised : List Turn := []
  /-- The number of finalised turns up to the last one with a hook. -/
  passed : Nat := 0
  /-- The number of turns finalised when speech last started without a response. -/
  swept : Nat := 0
  deriving DecidableEq

def Turns.finalise (t : Turns) (turn : Turn) : Turns :=
  { t with opened := none, finalised := t.finalised ++ [turn] }

def Turns.note (t : Turns) : Event → Turns
  | .setResponseActive active => { t with responseActive := active }
  | .userStateChanged _ newState =>
    if newState ≠ "speaking" then t
    else
      { t with
        opened := some t.responseActive
        swept := if t.responseActive then t.swept else t.finalised.length }
  | .observeTranscript text isFinal =>
    if text = "" then t
    else
      let overlapped := t.responseActive || t.opened.getD false
      if isFinal then t.finalise ⟨text, overlapped⟩ else { t with opened := some overlapped }
  | .shouldSuppress turn _ => { t with passed := turn + 1 }

def turns (es : List (Event × Option Bool)) : Turns := es.foldl (fun t e => t.note e.1) {}

/-- Hooks come in the order of their turns, at most one for each, with the turn's text. -/
def Hooked (t : Turns) : Event → Prop
  | .shouldSuppress turn rawTextContent =>
    t.passed ≤ turn ∧ (t.finalised[turn]?).map (fun finalised => some finalised.text) = some rawTextContent
  | _ => True

instance (t : Turns) : (event : Event) → Decidable (Hooked t event)
  | .shouldSuppress _ _ => inferInstanceAs (Decidable (_ ∧ _))
  | .setResponseActive _ | .userStateChanged _ _ | .observeTranscript _ _ => .isTrue trivial

def InOrder (es : List (Event × Option Bool)) : Prop :=
  ∀ before e later, es = before ++ e :: later → Hooked (turns before) e.1

/-- The turns, with their numbers, that overlapped a response and were finalised after the
last speech start without one and after the turn of the last hook. -/
def Turns.due (t : Turns) : List (Turn × Nat) :=
  t.finalised.zipIdx.filter fun p => p.1.overlapped && decide (t.passed ≤ p.2) && decide (t.swept ≤ p.2)

/-- The youngest of them, as many as may wait. -/
def Turns.waiting (limit : Nat) (t : Turns) : List (Turn × Nat) := t.due.rtake limit

/-- A hook comes in step if its turn is the oldest one that waits. It also does while no younger
turn waits than its own and the oldest one that waits has another text, if its own turn did not
overlap a response or a response is active now. -/
def InStep (limit : Nat) (t : Turns) : Event → Prop
  | .shouldSuppress turn rawTextContent =>
    (t.waiting limit).head?.map Prod.snd = some turn ∨
      (∀ p ∈ t.waiting limit, p.2 ≤ turn) ∧
      (t.waiting limit).head?.map (fun p => p.1.text) ≠ some (rawTextContent.getD "") ∧
      (t.responseActive = false → ∀ finalised ∈ t.finalised[turn]?, finalised.overlapped = false)
  | _ => True

instance (limit : Nat) (t : Turns) : (event : Event) → Decidable (InStep limit t event)
  | .shouldSuppress _ _ => inferInstanceAs (Decidable (_ ∨ _ ∧ _ ∧ (_ → ∀ _ ∈ _, _)))
  | .setResponseActive _ | .userStateChanged _ _ | .observeTranscript _ _ => .isTrue trivial

def Steady (limit : Nat) (es : List (Event × Option Bool)) : Prop :=
  ∀ before e later, es = before ++ e :: later → InStep limit (turns before) e.1

/-- The verdict at a hook is right for its turn. -/
def RightAt (before : List (Event × Option Bool)) : Event × Option Bool → Prop
  | (.shouldSuppress turn _, some verdict) => ∀ finalised ∈ (turns before).finalised[turn]?,
    (finalised.overlapped → verdict = true) ∧
      (finalised.overlapped = false → (turns before).responseActive = false → verdict = false)
  | _ => True

def Exact (es : List (Event × Option Bool)) : Prop :=
  ∀ before e later, es = before ++ e :: later → RightAt before e

section
variable {es : List (Event × Option Bool)} {g g' : PlaybackResponseGate} {e : Event × Option Bool} {limit : Nat}
  {t : Turns}

theorem turns_snoc (es : List (Event × Option Bool)) (e : Event × Option Bool) :
    turns (es ++ [e]) = (turns es).note e.1 := by
  rw [turns, List.foldl_append]
  rfl

theorem map_appendBounded {α β : Type} (f : α → β) (limit : Nat) (items : List α) (item : α) :
    (appendBounded limit items item).map f = appendBounded limit (items.map f) (f item) := by
  simp [appendBounded, List.map_drop]

theorem appendBounded_rtake {α : Type} (limit : Nat) (items : List α) (item : α) :
    appendBounded limit (items.rtake limit) item = (items ++ [item]).rtake limit := by
  have hrtake : appendBounded limit (items.rtake limit) item = (items.rtake limit ++ [item]).rtake limit := by
    simp [appendBounded, List.rtake]
  rw [hrtake]
  cases limit with
  | zero => rw [List.rtake_zero, List.rtake_zero]
  | succ n =>
    rw [List.rtake_concat_succ, List.rtake_concat_succ]
    simp only [List.rtake, List.drop_drop, List.length_drop]
    congr 2
    omega

/-- The numbers of the turns rise along the list. -/
theorem due_pairwise (t : Turns) : t.due.Pairwise fun p q => p.2 < q.2 := by
  refine List.Pairwise.filter _ (List.pairwise_map.mp ?_)
  rw [List.zipIdx_map_snd]
  exact List.pairwise_lt_range'

theorem mem_waiting {p : Turn × Nat} (h : p ∈ t.waiting limit) :
    t.finalised[p.2]? = some p.1 ∧ p.1.overlapped = true ∧ t.passed ≤ p.2 := by
  have hdue : p ∈ t.due := List.mem_of_mem_drop h
  obtain ⟨hmem, hcond⟩ := List.mem_filter.mp hdue
  simp only [Bool.and_eq_true, decide_eq_true_eq] at hcond
  exact ⟨List.mem_zipIdx_iff_getElem?.mp hmem, hcond.1.1, hcond.1.2⟩

theorem due_hook {turn : Nat} (h : t.passed ≤ turn) (text : Option String) :
    (t.note (.shouldSuppress turn text)).due = t.due.filter fun p => turn < p.2 := by
  rw [Turns.due, Turns.due, List.filter_filter]
  refine List.filter_congr fun p _ => ?_
  rw [Bool.eq_iff_iff]
  simp only [Bool.and_eq_true, decide_eq_true_eq]
  change (p.1.overlapped = true ∧ turn + 1 ≤ p.2) ∧ t.swept ≤ p.2 ↔ _
  constructor
  · rintro ⟨⟨hover, hlt⟩, hswept⟩
    exact ⟨hlt, ⟨hover, by omega⟩, hswept⟩
  · rintro ⟨hlt, ⟨hover, -⟩, hswept⟩
    exact ⟨⟨hover, hlt⟩, hswept⟩

/-- A hook of the oldest waiting turn leaves the others. -/
theorem waiting_front {p : Turn × Nat} {rest : List (Turn × Nat)}
    (h : t.waiting limit = p :: rest) (text : Option String) :
    (t.note (.shouldSuppress p.2 text)).waiting limit = rest := by
  have hpassed := (mem_waiting (h ▸ List.mem_cons_self)).2.2
  have hpairwise := due_pairwise t
  have hlength : rest.length + 1 ≤ limit := by
    have hle : (t.waiting limit).length ≤ limit := by
      rw [Turns.waiting, List.rtake, List.length_drop]
      omega
    rwa [h] at hle
  rw [Turns.waiting, List.rtake] at h
  rw [← List.take_append_drop (t.due.length - limit) t.due, h, List.pairwise_append] at hpairwise
  obtain ⟨-, hrest, hfront⟩ := hpairwise
  have hdue : (t.note (.shouldSuppress p.2 text)).due = rest := by
    rw [due_hook hpassed, ← List.take_append_drop (t.due.length - limit) t.due, h, List.filter_append]
    have hnone : (t.due.take (t.due.length - limit)).filter (fun q => decide (p.2 < q.2)) = [] := by
      refine List.filter_eq_nil_iff.mpr fun q hq => ?_
      have := hfront q hq p List.mem_cons_self
      simp only [decide_eq_true_eq]
      omega
    have hall : rest.filter (fun q => decide (p.2 < q.2)) = rest :=
      List.filter_eq_self.mpr fun q hq => decide_eq_true (List.rel_of_pairwise_cons hrest hq)
    rw [hnone, List.nil_append, List.filter_cons_of_neg (by simp), hall]
  rw [Turns.waiting, hdue, List.rtake, Nat.sub_eq_zero_of_le (by omega), List.drop_zero]

/-- A hook past all waiting turns leaves none. -/
theorem waiting_past {turn : Nat} (hpassed : t.passed ≤ turn) (text : Option String)
    (h : ∀ p ∈ t.waiting limit, p.2 ≤ turn) : (t.note (.shouldSuppress turn text)).waiting limit = [] := by
  by_cases hlimit : limit = 0
  · rw [Turns.waiting, hlimit, List.rtake_zero]
  have hdue : (t.note (.shouldSuppress turn text)).due = [] := by
    rw [due_hook hpassed]
    refine List.filter_eq_nil_iff.mpr fun q hq => ?_
    have hle : q.2 ≤ turn := by
      have hpairwise := due_pairwise t
      rw [← List.take_append_drop (t.due.length - limit) t.due] at hpairwise hq
      obtain hq | hq := List.mem_append.mp hq
      · have hne : t.due.drop (t.due.length - limit) ≠ [] := by
          have hpos : 0 < t.due.length := by
            have := List.length_pos_of_mem hq
            rw [List.length_take] at this
            omega
          rw [Ne, List.drop_eq_nil_iff]
          omega
        have hlast := List.head_mem hne
        have hlt := (List.pairwise_append.mp hpairwise).2.2 q hq _ hlast
        exact hlt.le.trans (h _ hlast)
      · exact h q hq
    simpa using hle
  rw [Turns.waiting, hdue, List.rtake_nil]

theorem waiting_swept (h : t.swept = t.finalised.length) : t.waiting limit = [] := by
  have hdue : t.due = [] := by
    refine List.filter_eq_nil_iff.mpr fun p hp => ?_
    have hlt := List.snd_lt_of_mem_zipIdx hp
    simp only [Bool.and_eq_true, decide_eq_true_eq]
    omega
  rw [Turns.waiting, hdue, List.rtake_nil]

theorem waiting_finalise {turn : Turn} (hpassed : t.passed ≤ t.finalised.length)
    (hswept : t.swept ≤ t.finalised.length) :
    (t.finalise turn).waiting limit =
      if turn.overlapped then appendBounded limit (t.waiting limit) (turn, t.finalised.length)
      else t.waiting limit := by
  have hdue : (t.finalise turn).due = t.due ++ if turn.overlapped then [(turn, t.finalised.length)] else [] := by
    rw [Turns.due, Turns.finalise, List.zipIdx_append, List.filter_append]
    cases hover : turn.overlapped <;> simp [Turns.due, hover, hpassed, hswept]
  rw [Turns.waiting, hdue]
  split_ifs
  · exact (appendBounded_rtake limit t.due _).symm
  · rw [List.append_nil, Turns.waiting]

theorem ensureTurn_eq (g : PlaybackResponseGate) :
    ∃ sequence turn, g.ensureTurn = ({ g with turnSequence := sequence, activeTurn := some turn }, turn) := by
  rw [PlaybackResponseGate.ensureTurn]
  cases hturn : g.activeTurn with
  | none => exact ⟨_, _, rfl⟩
  | some turn => exact ⟨g.turnSequence, turn, by simp [← hturn]⟩

/-- The gate's fields against the turns as they happened. -/
structure Tracks (limit : Nat) (t : Turns) (g : PlaybackResponseGate) : Prop where
  sameLimit : g.pendingLimit = limit
  active : g.responseActive = t.responseActive
  opened : t.opened = g.activeTurn.map (fun _ => g.activeTurnContaminated)
  contaminated : g.activeTurn = none → g.activeTurnContaminated = false
  passed : t.passed ≤ t.finalised.length
  swept : t.swept ≤ t.finalised.length
  pending : g.pending.map Prod.snd = (t.waiting limit).map fun p => p.1.text

namespace Tracks

theorem init (limit : Nat) : Tracks limit {} { pendingLimit := limit } := by
  constructor <;> simp [Turns.waiting, Turns.due, List.rtake_nil]

theorem opened_getD (h : Tracks limit t g) : t.opened.getD false = g.activeTurnContaminated := by
  rw [h.opened]
  cases hturn : g.activeTurn with
  | none => simp [h.contaminated hturn]
  | some turn => simp

theorem userStateChanged (h : Tracks limit t g) (oldState newState : String) :
    Tracks limit (t.note (.userStateChanged oldState newState)) (g.userStateChanged newState) := by
  rw [Turns.note, PlaybackResponseGate.userStateChanged]
  by_cases hspeaking : newState ≠ "speaking"
  · rw [if_pos hspeaking, if_pos hspeaking]
    exact h
  · rw [if_neg hspeaking, if_neg hspeaking, h.active]
    cases hactive : t.responseActive with
    | true =>
      exact ⟨h.sameLimit, rfl, rfl, (fun hnone => by cases hnone), h.passed, h.swept, h.pending⟩
    | false =>
      refine ⟨h.sameLimit, rfl, rfl, (fun hnone => by cases hnone), h.passed, le_refl _, ?_⟩
      rw [waiting_swept rfl]
      rfl

theorem observeTranscript (h : Tracks limit t g) (text : String) (isFinal : Bool) :
    Tracks limit (t.note (.observeTranscript text isFinal)) (g.observeTranscript text isFinal) := by
  rw [Turns.note, PlaybackResponseGate.observeTranscript]
  by_cases htext : text = ""
  · rw [if_pos htext, if_pos htext]
    exact h
  · obtain ⟨sequence, turn, hensure⟩ := ensureTurn_eq g
    rw [if_neg htext, if_neg htext, hensure, h.opened_getD, ← h.active]
    cases isFinal with
    | false => exact ⟨h.sameLimit, rfl, rfl, (fun hnone => by cases hnone), h.passed, h.swept, h.pending⟩
    | true =>
      refine ⟨h.sameLimit, h.active, rfl, fun _ => rfl, ?_, ?_, ?_⟩
      · exact h.passed.trans (by simp [Turns.finalise])
      · exact h.swept.trans (by simp [Turns.finalise])
      · dsimp only
        rw [if_pos rfl, if_pos rfl, waiting_finalise h.passed h.swept]
        cases g.responseActive || g.activeTurnContaminated with
        | false => exact h.pending
        | true =>
          rw [if_pos rfl, if_pos rfl, map_appendBounded, map_appendBounded, h.pending, h.sameLimit]

/-- A hook that comes in step takes its own marker, or clears markers of turns that are passed. -/
theorem shouldSuppress (h : Tracks limit t g) {turn : Nat} {text : Option String}
    (hhooked : Hooked t (.shouldSuppress turn text)) (hstep : InStep limit t (.shouldSuppress turn text)) :
    Tracks limit (t.note (.shouldSuppress turn text)) (g.shouldSuppress text).1 := by
  obtain ⟨hpassed, htext⟩ := hhooked
  obtain ⟨finalised, hfinalised, rfl⟩ := Option.map_eq_some_iff.mp htext
  have hlt : turn < t.finalised.length := (List.getElem?_eq_some_iff.mp hfinalised).1
  have hpending := h.pending
  have hqueue : (g.shouldSuppress (some finalised.text)).1 =
        { g with pending := (g.shouldSuppress (some finalised.text)).1.pending } ∧
      (g.shouldSuppress (some finalised.text)).1.pending.map Prod.snd =
        ((t.note (.shouldSuppress turn (some finalised.text))).waiting limit).map fun p => p.1.text := by
    rw [PlaybackResponseGate.shouldSuppress]
    obtain hfront | ⟨hpast, hother, -⟩ := hstep
    · obtain ⟨p, hp, rfl⟩ := Option.map_eq_some_iff.mp hfront
      obtain ⟨rest, hwaiting⟩ := List.head?_eq_some_iff.mp hp
      have hsame := (mem_waiting (List.mem_of_mem_head? hp)).1
      obtain rfl : finalised = p.1 := Option.some.inj (hfinalised.symm.trans hsame)
      rw [hwaiting, List.map_cons] at hpending
      obtain ⟨marker, markers, hmarkers, hmarker, hrest⟩ := List.map_eq_cons_iff.mp hpending
      rw [waiting_front hwaiting, hmarkers]
      dsimp only [Option.getD_some]
      rw [if_pos hmarker.symm]
      exact ⟨rfl, hrest⟩
    · rw [waiting_past hpassed _ hpast]
      rw [← List.head?_map, ← hpending] at hother
      split
      · rename_i expected markers hmarkers
        have hmiss : (some finalised.text).getD "" ≠ expected := by
          rintro rfl
          rw [hmarkers] at hother
          exact hother rfl
        rw [if_neg hmiss]
        exact ⟨rfl, rfl⟩
      · rename_i hmarkers
        exact ⟨rfl, congrArg (List.map Prod.snd) hmarkers⟩
  rw [hqueue.1]
  exact ⟨h.sameLimit, h.active, h.opened, h.contaminated, hlt, h.swept, hqueue.2⟩

theorem step (h : Tracks limit t g) {event : Event} {verdict : Option Bool} (hhooked : Hooked t event)
    (hstep : InStep limit t event) (he : Answers call g (event, verdict) g') : Tracks limit (t.note event) g' := by
  cases event with
  | setResponseActive active =>
    obtain ⟨rfl, -⟩ := Prod.mk.inj he
    exact ⟨h.sameLimit, rfl, h.opened, h.contaminated, h.passed, h.swept, h.pending⟩
  | userStateChanged oldState newState =>
    obtain ⟨rfl, -⟩ := Prod.mk.inj he
    exact h.userStateChanged oldState newState
  | observeTranscript text isFinal =>
    obtain ⟨rfl, -⟩ := Prod.mk.inj he
    exact h.observeTranscript text isFinal
  | shouldSuppress turn text =>
    obtain ⟨rfl, -⟩ := Prod.mk.inj he
    exact h.shouldSuppress hhooked hstep

end Tracks

/-- The verdict at a hook: the oldest waiting turn has its text, or a response is active. -/
theorem verdict_eq {turn : Nat} {text : String} {verdict : Bool} (h : Tracks limit t g)
    (he : Answers call g (.shouldSuppress turn (some text), some verdict) g') :
    verdict = (decide ((t.waiting limit).head?.map (fun p => p.1.text) = some text) || t.responseActive) := by
  obtain ⟨-, hverdict⟩ := Prod.mk.inj he
  rw [← Option.some.inj hverdict, ← h.active, ← List.head?_map, ← h.pending, PlaybackResponseGate.shouldSuppress]
  cases hrest : g.pending with
  | nil => simp
  | cons marker rest =>
    by_cases hmatch : text = marker.2
    · simp [hmatch]
    · simp [hmatch, Ne.symm hmatch]

/-- The verdict at a hook that comes in step is right for its turn. -/
theorem right_of_inStep {before : List (Event × Option Bool)} (h : Tracks limit (turns before) g)
    (hhooked : Hooked (turns before) e.1) (hstep : InStep limit (turns before) e.1) (he : Answers call g e g') :
    RightAt before e := by
  obtain ⟨event, verdict⟩ := e
  cases event with
  | setResponseActive active => trivial
  | userStateChanged oldState newState => trivial
  | observeTranscript text isFinal => trivial
  | shouldSuppress turn text =>
    cases verdict with
    | none => trivial
    | some verdict =>
      intro finalised hfinalised
      obtain ⟨-, htext⟩ := hhooked
      rw [Option.mem_def.mp hfinalised, Option.map_some, Option.some_inj] at htext
      subst htext
      have hverdict := verdict_eq h he
      obtain hfront | ⟨-, hother, hclean⟩ := hstep
      · obtain ⟨p, hp, rfl⟩ := Option.map_eq_some_iff.mp hfront
        obtain ⟨hsame, hover, -⟩ := mem_waiting (List.mem_of_mem_head? hp)
        obtain rfl : finalised = p.1 := Option.some.inj ((Option.mem_def.mp hfinalised).symm.trans hsame)
        rw [hp, Option.map_some] at hverdict
        simp [hverdict, hover]
      · rw [Option.getD_some] at hother
        rw [decide_eq_false hother, Bool.false_or] at hverdict
        rw [hverdict]
        refine ⟨fun hover => ?_, fun _ hactive => hactive⟩
        by_contra hactive
        rw [hclean (by simpa using hactive) finalised hfinalised] at hover
        cases hover

theorem tracks_run (h : Run (Answers call) { pendingLimit := limit } es g) (horder : InOrder es)
    (hsteady : Steady limit es) : Tracks limit (turns es) g := by
  induction h with
  | nil => exact Tracks.init limit
  | @snoc es t u e hr he ih =>
    rw [turns_snoc]
    have htracks := ih (split_front horder) (split_front hsteady)
    exact htracks.step (horder es e [] rfl) (hsteady es e [] rfl) he

/-- The gate is right about the turn of every hook in the runs where every hook comes in step. -/
theorem exact_of_steady (limit : Nat) (es : List (Event × Option Bool)) (g : PlaybackResponseGate)
    (h : Run (Answers call) { pendingLimit := limit } es g) (horder : InOrder es) (hsteady : Steady limit es) :
    Exact es := by
  intro before e later hes
  have hhooked := horder before e later hes
  have hstep := hsteady before e later hes
  subst hes
  obtain ⟨m, hm, hrest⟩ := h.split
  obtain ⟨u, hu, -⟩ := Run.cons_iff.mp hrest
  exact right_of_inStep (tracks_run hm (split_front horder) (split_front hsteady)) hhooked hstep hu

end

/-- A turn without a response, two turns during one, then all hooks but the second. -/
def demoOverlaps : List Event :=
  [.userStateChanged "listening" "speaking", .observeTranscript "clean" true, .shouldSuppress 0 (some "clean"),
    .setResponseActive true, .userStateChanged "listening" "speaking", .observeTranscript "first" true,
    .userStateChanged "listening" "speaking", .observeTranscript "second" true, .setResponseActive false]

def demoHooks : List Event := demoOverlaps ++ [.shouldSuppress 1 (some "first"), .shouldSuppress 2 (some "second")]

theorem exact_of_steady_hooks : Exact (history call {} demoHooks) := by
  have hrun := run_history call {} demoHooks
  refine exact_of_steady 8 _ _ hrun ?_ ?_
  · intro before e later hes
    refine split_of_take (P := fun before e => Hooked (turns before) e.1) ?_ hes
    decide +kernel
  · intro before e later hes
    refine split_of_take (P := fun before e => InStep 8 (turns before) e.1) ?_ hes
    decide +kernel

/-- The hook of the first overlapped turn is skipped. -/
def demoSkipped : List Event := demoOverlaps ++ [.shouldSuppress 2 (some "second")]

/-- The hook of the second one misses the marker of the first one and is let through. -/
theorem skipped_hook_lets_through : ∃ es g, Run (Answers call) {} es g ∧ es.map Prod.fst = demoSkipped ∧
    InOrder es ∧ ¬Exact es := by
  refine ⟨_, _, run_history call {} demoSkipped, by decide +kernel, ?_, ?_⟩
  · intro before e later hes
    refine split_of_take (P := fun before e => Hooked (turns before) e.1) ?_ hes
    decide +kernel
  · intro hexact
    have hright := hexact (history call {} demoOverlaps) (.shouldSuppress 2 (some "second"), some false) []
      (by decide +kernel) ⟨"second", true⟩ (by decide +kernel)
    exact Bool.noConfusion (hright.1 rfl)

end RealtimeVoice.Worker.ResponseGate
