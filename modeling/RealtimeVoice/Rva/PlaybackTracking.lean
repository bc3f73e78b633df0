import RealtimeVoice.Firmware.PlaybackFacts
import RealtimeVoice.Firmware.Supervisor
import RealtimeVoice.Rva.EndpointSession
import RealtimeVoice.Rva.StopOutcome

namespace RealtimeVoice.Firmware

open RealtimeVoice.Firmware.PlaybackState (ResponseTarget)

/-- A command in the queue to the playback task. -/
inductive QueuedCommand
  | begin (target : ResponseTarget)
  | complete (target : ResponseTarget) (value : Nat)
  | stop (target : ResponseTarget) (value : Nat)
deriving DecidableEq

/-- The call that `ProcessPlaybackCommands` makes for a command. -/
def QueuedCommand.call (nowUs : Int) : QueuedCommand → PlaybackState.Call
  | .begin target => .begin target
  | .complete target value => .setFinalMediaSequence target value nowUs true
  | .stop target value => .stop target value true

/-- The command that `EnqueuePlaybackCommand` queues. -/
def RuntimeEvent.command? : RuntimeEvent → Option QueuedCommand
  | .begin target => some (.begin ⟨target.responseId, target.generation⟩)
  | .complete target value => some (.complete ⟨target.responseId, target.generation⟩ value)
  | .stop target value => some (.stop ⟨target.responseId, target.generation⟩ value)
  | _ => none

def QueuedCommand.isStop : QueuedCommand → Bool
  | .stop .. => true
  | _ => false

/-- The calls that the playback task makes on its own account while nothing fails. -/
def PlaybackState.Call.own : PlaybackState.Call → Bool
  | .begin _ | .setFinalMediaSequence .. | .stop .. | .fail _ => false
  | _ => true

/-- The packet that `HandleMedia` queues, by its sequence and generation. -/
def RuntimeEvent.packet? : RuntimeEvent → Option (Nat × Nat)
  | .media sequence generation _ => some (sequence, generation)
  | _ => none

end RealtimeVoice.Firmware

namespace RealtimeVoice.Rva

open RealtimeVoice.Base RealtimeVoice.Firmware
open RealtimeVoice.Firmware.PlaybackState (ResponseTarget PlaybackFact State)
open RealtimeVoice.Rva.Coordinator (Moves Consistent)

/-- The target of a record, as the endpoint names it. -/
def ResponseRecord.playbackTarget (rec : ResponseRecord) : ResponseTarget := ⟨rec.responseId, rec.target.generation⟩

/-- A media frame with this number has been sent for the record. -/
def ResponseRecord.Spans (rec : ResponseRecord) (n : Nat) : Prop :=
  rec.firstMediaSequence.any (· ≤ n) = true ∧ rec.lastMediaSequence.any (n ≤ ·) = true

/-- What a step of the server tells the playback task: its commands and its packets. The number counts the
media frames. -/
inductive Told (c : Coordinator) (next : Nat) : Coordinator → Nat → List QueuedCommand → List (Nat × Nat) → Prop
  | quiet : Told c next c next [] []
  | begun {r : Ref} {c' : Coordinator} {rec : ResponseRecord} :
      Moves c (.begun r) c' → c'.heap[r]? = some rec → Told c next c' next [.begin rec.playbackTarget] []
  | media {r : Ref} {c' : Coordinator} {rec : ResponseRecord} :
      Moves c (.media r next) c' → c'.heap[r]? = some rec →
      Told c next c' (next + 1) [] [(next, rec.target.generation)]
  | completed {r : Ref} {c' : Coordinator} {rec : ResponseRecord} :
      Moves c (.completed r) c' → c'.heap[r]? = some rec →
      Told c next c' next (rec.lastMediaSequence.toList.map (.complete rec.playbackTarget)) []
  | fenced {r : Ref} {g : Nat} {c' : Coordinator} {rec : ResponseRecord} :
      Moves c (.fenced r g) c' → c'.heap[r]? = some rec → Told c next c' next [.stop rec.playbackTarget g] []

/-- The stop of a playback that is still due to the playback task. -/
def stopDue (c : Coordinator) (rec : ResponseRecord) : List QueuedCommand :=
  if rec.stopSent then [.stop rec.playbackTarget c.session.generation] else []

/-- The commands that are still due to the playback task, which knows this final number. -/
def due (c : Coordinator) (rec : ResponseRecord) (final : Option Nat) : List QueuedCommand :=
  (if rec.outcome = some .completed ∧ final = none then
    rec.lastMediaSequence.toList.map (.complete rec.playbackTarget) else []) ++ stopDue c rec

/-- The record and its coordinator after the server has told this to the playback of the record. -/
structure Grown (c : Coordinator) (rec : ResponseRecord) (commands : List QueuedCommand) (c' : Coordinator)
    (rec' : ResponseRecord) : Prop where
  target : rec'.playbackTarget = rec.playbackTarget
  started : rec'.playbackStarted = rec.playbackStarted
  spans : ∀ n, rec.Spans n → rec'.Spans n
  completed : rec.outcome = some .completed →
    rec'.outcome = some .completed ∧ rec'.lastMediaSequence = rec.lastMediaSequence
  stopped : rec.stopSent = true → rec'.stopSent = true ∧ commands = []
  due : ∀ final, (∀ n, final = some n → rec.outcome = some .completed) →
    due c' rec' final = due c rec final ++ commands
  stopDue : rec.outcome = some .completed → stopDue c' rec' = stopDue c rec ++ commands

section Told

variable {c c' : Coordinator} {next next' : Nat} {commands : List QueuedCommand} {packets : List (Nat × Nat)} {r : Ref}
  {rec rec' : ResponseRecord}

theorem stopDue_unsent (h : rec.stopSent = false) : stopDue c rec = [] := by
  rw [stopDue, h, if_neg Bool.false_ne_true]

theorem stopDue_sent (h : rec.stopSent = true) : stopDue c rec = [.stop rec.playbackTarget c.session.generation] := by
  rw [stopDue, if_pos h]

/-- Before its outcome nothing is due of a response. -/
theorem due_live (hc : c.Consistent) (hrec : c.heap[r]? = some rec) (hlive : rec.outcome = none) (final : Option Nat) :
    due c rec final = [] ∧ stopDue c rec = [] := by
  have hstop : rec.stopSent = false := by
    by_contra hnot
    exact hc.stopped r rec hrec (by simpa using hnot) hlive
  have hnone : stopDue c rec = [] := stopDue_unsent hstop
  refine ⟨?_, hnone⟩
  rw [due, hnone, hlive, if_neg (by simp)]
  rfl

theorem stopDue_cons {command : QueuedCommand} {pipe : List QueuedCommand} (h : stopDue c rec = command :: pipe) :
    command = .stop rec.playbackTarget c.session.generation ∧ pipe = [] ∧ rec.stopSent = true := by
  rw [stopDue] at h
  split at h
  · rename_i hsent
    obtain ⟨rfl, rfl⟩ := List.cons.inj h
    exact ⟨rfl, rfl, hsent⟩
  · cases h

/-- What comes first is the final number of a response that is complete, and then the stop. -/
theorem due_cons {final : Option Nat} {command : QueuedCommand} {pipe : List QueuedCommand}
    (h : due c rec final = command :: pipe) :
    (∃ n, command = .complete rec.playbackTarget n ∧ rec.outcome = some .completed ∧ final = none ∧
      rec.lastMediaSequence = some n ∧ pipe = stopDue c rec) ∨
    command = .stop rec.playbackTarget c.session.generation ∧ pipe = [] ∧ rec.stopSent = true := by
  rw [due] at h
  split at h
  · rename_i hdue
    cases hlast : rec.lastMediaSequence with
    | none =>
      rw [hlast] at h
      exact .inr (stopDue_cons h)
    | some n =>
      rw [hlast] at h
      obtain ⟨rfl, rfl⟩ := List.cons.inj h
      exact .inl ⟨n, rfl, hdue.1, hdue.2, rfl, rfl⟩
  · exact .inr (stopDue_cons h)

theorem ResponseRecord.Spans.noted {n m : Nat} (h : rec.Spans n)
    (hnext : ∀ n, rec.lastMediaSequence = some n → n < m) : (Coordinator.noted m rec).Spans n := by
  obtain ⟨hfirst, hlast⟩ := h
  rw [Option.any_eq_true] at hfirst hlast
  obtain ⟨first, hfirst, hle⟩ := hfirst
  obtain ⟨last, hlast, hle'⟩ := hlast
  have hlt := hnext last hlast
  rw [decide_eq_true_iff] at hle hle'
  constructor
  · rw [Coordinator.noted, hfirst]
    exact decide_eq_true hle
  · exact decide_eq_true (hle'.trans hlt.le)

/-- The record of the playback grows, and what is due grows by what is told. -/
theorem Told.current (h : Told c next c' next' commands packets) (hc : c.Consistent) (hc' : c'.Consistent)
    (hplayback : c.playback = some r) (hrec : c.heap[r]? = some rec)
    (hnext : ∀ n, rec.lastMediaSequence = some n → n < next) :
    c'.playback = some r ∧ ∃ rec', c'.heap[r]? = some rec' ∧ Grown c rec commands c' rec' := by
  cases h with
  | quiet =>
    refine ⟨hplayback, rec, hrec, rfl, rfl, fun _ => id, fun h => ⟨h, rfl⟩, fun h => ⟨h, rfl⟩, ?_, ?_⟩
    · exact fun _ _ => (List.append_nil _).symm
    · exact fun _ => (List.append_nil _).symm
  | begun hm _ =>
    cases hm with
    | begun _ hnone _ _ => cases hnone.symm.trans hplayback
  | @media r' _ _ hm _ =>
    have hactive := Coordinator.moves_media hm
    obtain rfl := Option.some.inj ((hc.active r' hactive).symm.trans hplayback)
    have hlive := hc.outcome_of_active hactive hrec
    have hdue := due_live hc hrec hlive
    cases hm with
    | media _ _ _ =>
      have hrec' := Coordinator.update_self c (Coordinator.noted next) rfl hrec
      refine ⟨hplayback, _, hrec', rfl, rfl, fun n hn => hn.noted hnext, fun hdone => ?_, fun hsent => ⟨hsent, rfl⟩,
        ?_, fun hdone => ?_⟩
      · cases hlive.symm.trans hdone
      · intro final _
        rw [(hdue final).1, (due_live hc' hrec' hlive final).1]
        rfl
      · cases hlive.symm.trans hdone
  | @completed r' _ rec' hm hrec' =>
    obtain ⟨rec₀, hrec₀, hactive, hplayback', hrec₁⟩ := Coordinator.moves_completed hm
    obtain rfl := Option.some.inj (hplayback'.symm.trans hplayback)
    obtain rfl := Option.some.inj (hrec₀.symm.trans hrec)
    obtain rfl := Option.some.inj (hrec₁.symm.trans hrec')
    have hlive := hc.outcome_of_active hactive hrec
    have hplayed : c'.playback = some r' := by
      cases hm with
      | completed _ _ _ _ => exact hplayback
    have hunsent : rec₀.stopSent = false := by
      by_contra hnot
      exact hc.stopped r' rec₀ hrec (by simpa using hnot) hlive
    refine ⟨hplayed, _, hrec', rfl, rfl, fun _ => id, fun hdone => ?_, fun hsent => ?_, ?_, fun hdone => ?_⟩
    · cases hlive.symm.trans hdone
    · cases hunsent.symm.trans hsent
    · intro final hfinal
      cases final with
      | some n => cases hlive.symm.trans (hfinal n rfl)
      | none =>
        rw [(due_live hc hrec hlive none).1, due, if_pos ⟨rfl, rfl⟩]
        exact congrArg (_ ++ ·) (stopDue_unsent hunsent) |>.trans (List.append_nil _)
    · cases hlive.symm.trans hdone
  | @fenced r' g _ rec' hm hrec' =>
    obtain ⟨rec₀, outcome, code, hrec₀, hplayback', hstop, hg, hgeneration, houtcome, hrec₁⟩ :=
      Coordinator.moves_fenced hm
    obtain ⟨-, -, hplayed, -⟩ := Follows.moves_fenced_frame hm
    obtain rfl := Option.some.inj (hplayback'.symm.trans hplayback)
    obtain rfl := Option.some.inj (hrec₀.symm.trans hrec)
    obtain rfl := Option.some.inj (hrec₁.symm.trans hrec')
    have hsent : stopDue c' (Coordinator.stopped (c.active == some r') outcome code rec₀) =
        stopDue c rec₀ ++ [.stop (Coordinator.stopped (c.active == some r') outcome code rec₀).playbackTarget g] := by
      rw [stopDue_unsent hstop, stopDue_sent rfl, hgeneration]
      rfl
    have hkept : rec₀.outcome = some .completed → (c.active == some r') = false := by
      intro hdone
      rw [beq_eq_false_iff_ne]
      intro hactive
      cases (hc.outcome_of_active hactive hrec).symm.trans hdone
    refine ⟨hplayed, _, hrec', rfl, rfl, fun _ => id, fun hdone => ⟨?_, rfl⟩, fun hnot => ?_, ?_, fun _ => hsent⟩
    · rw [Coordinator.stopped, hkept hdone]
      exact hdone
    · cases hstop.symm.trans hnot
    · intro final hfinal
      have hsame : (Coordinator.stopped (c.active == some r') outcome code rec₀).outcome = some .completed ↔
          rec₀.outcome = some .completed := by
        refine ⟨fun hdone => ?_, fun hdone => ?_⟩
        · rw [Coordinator.stopped] at hdone
          dsimp only at hdone
          split at hdone
          · exact absurd (Option.some.inj hdone) houtcome
          · exact hdone
        · rw [Coordinator.stopped, hkept hdone]
          exact hdone
      rw [due, due, hsent, ← List.append_assoc]
      congr 2
      exact if_congr (and_congr_left fun _ => hsame) rfl rfl

end Told

/-- The `playback.started` of a playback: not written, on its way, or taken by the server. -/
inductive Announced (rec : ResponseRecord) : Bool → List PlaybackFact → Prop
  | silent : rec.playbackStarted = false → Announced rec false []
  | written {f : PlaybackFact} :
      rec.playbackStarted = false → f.type = .started → f.target = rec.playbackTarget → rec.Spans f.firstMediaSequence →
      Announced rec true [f]
  | taken : rec.playbackStarted = true → Announced rec true []

/-- What the terminal fact of a playback says, and the commands that come too late for it. -/
structure EndReport (c : Coordinator) (rec : ResponseRecord) (pipe : List QueuedCommand) (f : PlaybackFact) : Prop where
  type : f.type = .ended
  target : f.target = rec.playbackTarget
  played : ∀ n, f.lastMediaSequence = some n → f.playedSamples ≠ 0 ∧ rec.Spans n
  completed : f.outcome = .completed → ∃ n, f.lastMediaSequence = some n ∧ rec.lastMediaSequence = some n
  stopped : f.outcome = .stopped → rec.stopSent = true ∧ pipe = []
  finished : f.outcome ≠ .stopped → rec.outcome = some .completed ∧ pipe = stopDue c rec

/-- How far the playback task has followed the server: between them there are the commands in `pipe`, one way,
and the facts in `flight`, the other. -/
inductive Tracks (c : Coordinator) (q : State) : List QueuedCommand → List PlaybackFact → Prop
  | idle : c.playback = none → q.active = false → Tracks c q [] []
  | begun {r : Ref} {rec : ResponseRecord} {pipe : List QueuedCommand} :
      c.playback = some r → c.heap[r]? = some rec → q.active = false → q.fenceGeneration < rec.target.generation →
      rec.playbackStarted = false → pipe = .begin rec.playbackTarget :: due c rec none → Tracks c q pipe []
  | playing {r : Ref} {rec : ResponseRecord} {pipe : List QueuedCommand} {flight : List PlaybackFact} :
      c.playback = some r → c.heap[r]? = some rec → q.active = true → q.target = rec.playbackTarget →
      (∀ n, q.lastSampleSequence = some n → rec.Spans n) →
      (∀ n, q.finalMediaSequence = some n → rec.outcome = some .completed ∧ rec.lastMediaSequence = some n) →
      pipe = due c rec q.finalMediaSequence → Announced rec q.started flight → Tracks c q pipe flight
  | ended {r : Ref} {rec : ResponseRecord} {started : Bool} {pipe : List QueuedCommand} {flight : List PlaybackFact}
      {f : PlaybackFact} :
      c.playback = some r → c.heap[r]? = some rec → q.active = false → (f.outcome ≠ .stopped → q.stopRecorded = false) →
      Announced rec started flight → EndReport c rec pipe f → Tracks c q pipe (flight ++ [f])

section Serving

variable {c c' : Coordinator} {q : State} {next next' : Nat} {pipe commands : List QueuedCommand}
  {packets : List (Nat × Nat)} {flight : List PlaybackFact} {r : Ref} {rec rec' : ResponseRecord}

theorem Announced.grown {started : Bool} (h : Announced rec started flight) (hg : Grown c rec commands c' rec') :
    Announced rec' started flight := by
  cases h with
  | silent hquiet => exact .silent (hg.started.trans hquiet)
  | written hquiet htype htarget hspans =>
    exact .written (hg.started.trans hquiet) htype (htarget.trans hg.target.symm) (hg.spans _ hspans)
  | taken htold => exact .taken (hg.started.trans htold)

theorem EndReport.grown {f : PlaybackFact} (h : EndReport c rec pipe f) (hg : Grown c rec commands c' rec') :
    EndReport c' rec' (pipe ++ commands) f where
  type := h.type
  target := h.target.trans hg.target.symm
  played n hn := ⟨(h.played n hn).1, hg.spans n (h.played n hn).2⟩
  completed hdone := by
    obtain ⟨n, hn, hlast⟩ := h.completed hdone
    have hfinished := (h.finished (by rw [hdone]; decide)).1
    exact ⟨n, hn, (hg.completed hfinished).2.trans hlast⟩
  stopped hstopped := by
    obtain ⟨hsent, hpipe⟩ := h.stopped hstopped
    obtain ⟨hsent', hcommands⟩ := hg.stopped hsent
    exact ⟨hsent', by rw [hpipe, hcommands, List.append_nil]⟩
  finished hnot := by
    obtain ⟨hdone, hpipe⟩ := h.finished hnot
    exact ⟨(hg.completed hdone).1, by rw [hpipe, hg.stopDue hdone]⟩

theorem playbackTarget_eq (h : rec'.playbackTarget = rec.playbackTarget) :
    rec'.responseId = rec.responseId ∧ rec'.target.generation = rec.target.generation := by
  rw [ResponseRecord.playbackTarget, ResponseRecord.playbackTarget, PlaybackState.ResponseTarget.ext_iff] at h
  exact h

/-- What the server tells is what the playback task has still to follow. -/
theorem Tracks.told (h : Tracks c q pipe flight) (htold : Told c next c' next' commands packets) (hc : c.Consistent)
    (hc' : c'.Consistent) (hfence : q.fenceGeneration ≤ c.session.generation)
    (hnext : ∀ (r : Ref) (rec : ResponseRecord) (n : Nat), c.heap[r]? = some rec → rec.lastMediaSequence = some n →
      n < next) : Tracks c' q (pipe ++ commands) flight := by
  cases h with
  | idle hplayback hquiet =>
    cases htold with
    | quiet => exact .idle hplayback hquiet
    | begun hm hrec =>
      obtain ⟨rec₀, hrec₀, hgeneration, -⟩ := Coordinator.moves_begun hm
      obtain rfl := Option.some.inj (hrec₀.symm.trans hrec)
      cases hm with
      | begun _ _ _ htarget =>
        have hfresh := Option.some.inj (hrec.symm.trans List.getElem?_concat_length)
        refine .begun rfl hrec hquiet ?_ (by rw [hfresh]) ?_
        · rw [hgeneration]
          exact Nat.lt_succ_of_le hfence
        · rw [(due_live hc' hrec (by rw [hfresh]) none).1]
          rfl
    | media hm _ => cases (hc.active _ (Coordinator.moves_media hm)).symm.trans hplayback
    | completed hm _ =>
      obtain ⟨-, -, -, hsome, -⟩ := Coordinator.moves_completed hm
      cases hsome.symm.trans hplayback
    | fenced hm _ =>
      obtain ⟨-, -, -, -, hsome, -⟩ := Coordinator.moves_fenced hm
      cases hsome.symm.trans hplayback
  | begun hplayback hrec hquiet hbelow hsilent hpipe =>
    obtain ⟨hplayback', rec', hrec', hg⟩ := htold.current hc hc' hplayback hrec (hnext _ _ · hrec)
    refine .begun hplayback' hrec' hquiet ?_ (hg.started.trans hsilent) ?_
    · rw [(playbackTarget_eq hg.target).2]
      exact hbelow
    · rw [hpipe, hg.target, hg.due none (fun _ hn => by cases hn)]
      rfl
  | playing hplayback hrec hactive htarget hspans hfinal hpipe hannounced =>
    obtain ⟨hplayback', rec', hrec', hg⟩ := htold.current hc hc' hplayback hrec (hnext _ _ · hrec)
    refine .playing hplayback' hrec' hactive (htarget.trans hg.target.symm) (fun n hn => hg.spans n (hspans n hn)) ?_ ?_
      (hannounced.grown hg)
    · intro n hn
      obtain ⟨hdone, hlast⟩ := hfinal n hn
      obtain ⟨hdone', hlast'⟩ := hg.completed hdone
      exact ⟨hdone', hlast'.trans hlast⟩
    · rw [hpipe, hg.due _ fun n hn => (hfinal n hn).1]
  | ended hplayback hrec hquiet hrecord hannounced hreport =>
    obtain ⟨hplayback', rec', hrec', hg⟩ := htold.current hc hc' hplayback hrec (hnext _ _ · hrec)
    exact .ended hplayback' hrec' hquiet hrecord (hannounced.grown hg) (hreport.grown hg)

end Serving

section Playing

open RealtimeVoice.Firmware.PlaybackState (Coherent StopRecord Ends PlaybackEndedOutcome «end»)

variable {c : Coordinator} {q q' : State} {pipe : List QueuedCommand} {flight : List PlaybackFact} {r : Ref}
  {rec : ResponseRecord} {call : PlaybackState.Call} {outcome : PlaybackEndedOutcome} 

/-- The terminal fact of a playback is one for the server. -/
theorem endReport (hco : Coherent q) (hends : Ends q call q' outcome) (htarget : q.target = rec.playbackTarget)
    (hspans : ∀ n, q.lastSampleSequence = some n → rec.Spans n)
    (hcompleted : outcome = .completed → ∃ n, q.lastSampleSequence = some n ∧ rec.lastMediaSequence = some n)
    (hstopped : outcome = .stopped → rec.stopSent = true ∧ pipe = [])
    (hfinished : outcome ≠ .stopped → rec.outcome = some .completed ∧ pipe = stopDue c rec) :
    EndReport c rec pipe («end» q' outcome).2 := by
  obtain ⟨hsamples, hstarted, hlast, htarget'⟩ := PlaybackState.ends_frame hends
  have hreported : ∀ n, q.lastSampleSequence = some n → («end» q' outcome).2.lastMediaSequence = some n := by
    intro n hn
    change (if q'.started = true then q'.lastSampleSequence else none) = some n
    rw [hstarted, if_pos (hco.sampled.mpr ⟨n, hn⟩), hlast, hn]
  refine ⟨rfl, htarget'.trans htarget, fun n hn => ?_, fun hdone => ?_, hstopped, hfinished⟩
  · change (if q'.started = true then q'.lastSampleSequence else none) = some n at hn
    rw [hstarted, hlast] at hn
    split at hn
    · rename_i hplayed
      refine ⟨?_, hspans n hn⟩
      change q'.playedSamples ≠ 0
      rw [hsamples]
      exact (hco.counted.mp hplayed).ne'
    · cases hn
  · obtain ⟨n, hn, hlast'⟩ := hcompleted hdone
    exact ⟨n, hreported n hn, hlast'⟩

theorem expireDrain_final {now : Int} {out : Bool} (h : (PlaybackState.expireDrain q now out).2.ok = true) :
    ∃ n, q.finalMediaSequence = some n := by
  rw [PlaybackState.expireDrain] at h
  split at h
  · cases h
  rename_i hguard
  simp only [Bool.or_eq_true, not_or, Bool.not_eq_true', Bool.not_eq_false] at hguard
  exact Option.isSome_iff_exists.mp hguard.1.1.2

/-- The playback task on its own: it writes samples of frames that were sent, and ends a playback that is complete. -/
theorem Tracks.played (h : Tracks c q pipe flight) (hco : Coherent q) (hrecord : StopRecord q) (hown : call.own = true)
    (hwritten : ∀ (n samples : Nat) (out : Bool) (r : Ref) (rec : ResponseRecord),
      call = .recordWritten n samples out → q.active = true → c.playback = some r → c.heap[r]? = some rec →
      q.target = rec.playbackTarget → rec.Spans n) :
    Tracks c (PlaybackState.call q call).1 pipe (flight ++ (PlaybackState.call q call).2.fact.toList) := by
  have heffect := PlaybackState.call_effect q call
  have hbegun : ∀ reply, ¬PlaybackState.Begun (call, reply) := by
    rintro reply ⟨⟨t, ht⟩, -⟩
    dsimp only at ht
    subst ht
    cases hown
  have hquiet : q.active = false →
      (PlaybackState.call q call).1 = q ∧ flight ++ (PlaybackState.call q call).2.fact.toList = flight := by
    intro hinactive
    obtain ⟨hsame, hfact, -⟩ := PlaybackState.effect_quiet hinactive (hbegun _) heffect
    exact ⟨hsame, by rw [hfact]; exact List.append_nil _⟩
  have htracks := h
  cases h with
  | idle _ hinactive | begun _ _ hinactive _ _ _ | ended _ _ hinactive _ _ _ =>
    obtain ⟨hsame, hfacts⟩ := hquiet hinactive
    rw [hsame, hfacts]
    exact htracks
  | @playing r rec _ _ hplayback hrec hactive htarget hspans hfinal hpipe hannounced =>
    have hunrecorded : q.stopRecorded = false := by
      by_contra hnot
      cases hactive.symm.trans (hrecord.inactive (by simpa using hnot))
    have hwrite := fun n samples out hcall => hwritten n samples out r rec hcall hactive hplayback hrec htarget
    generalize hq' : (PlaybackState.call q call).1 = q' at heffect ⊢
    generalize hreply : (PlaybackState.call q call).2 = reply at heffect ⊢
    clear hquiet hbegun
    cases heffect with
    | refused | degraded | plcRequested | frameFinished =>
      rw [Option.toList_none, List.append_nil]
      exact .playing hplayback hrec hactive htarget hspans hfinal hpipe hannounced
    | begun hinactive => cases hactive.symm.trans hinactive
    | stopRepeated | finalKnown => cases hown
    | @started n samples _ hunstarted _ _ _ =>
      rw [hunstarted] at hannounced
      cases hannounced with
      | silent hsilent =>
        refine .playing hplayback hrec hactive htarget (fun m hm => ?_) hfinal hpipe ?_
        · obtain rfl := Option.some.inj hm
          exact hwrite _ _ _ rfl
        · exact .written hsilent rfl htarget (hwrite _ _ _ rfl)
    | @written n samples _ hstarted _ _ _ =>
      rw [hstarted] at hannounced
      rw [Option.toList_none, List.append_nil]
      refine .playing hplayback hrec hactive htarget (fun m hm => ?_) hfinal hpipe hannounced
      obtain rfl := Option.some.inj hm
      exact hwrite _ _ _ rfl
    | @ended _ q'' outcome _ hends =>
      have hpast : outcome ≠ .stopped ∧ (∃ n, q.finalMediaSequence = some n) ∧ q''.stopRecorded = q.stopRecorded ∧
          (outcome = .completed → ∃ n, q.lastSampleSequence = some n ∧ q.finalMediaSequence = some n) := by
        cases hends with
        | finalSet | stopped | failed => cases hown
        | @framePlayed n _ hlast hfinal' =>
          refine ⟨?_, ⟨n, hfinal'⟩, rfl, fun _ => ⟨n, hlast, hfinal'⟩⟩
          split <;> decide
        | expired =>
          refine ⟨by decide, expireDrain_final (congrArg PlaybackState.Reply.ok hreply), rfl, fun hdone => by cases hdone⟩
      obtain ⟨hnot, ⟨m, hm⟩, hkept, hcomplete⟩ := hpast
      obtain ⟨hdone, hlast⟩ := hfinal m hm
      rw [hm] at hpipe
      refine .ended hplayback hrec rfl (fun _ => hkept.trans hunrecorded) hannounced
        (endReport hco hends htarget hspans ?_ (fun hstop => absurd hstop hnot) fun _ => ⟨hdone, ?_⟩)
      · intro houtcome
        obtain ⟨n, hn, hn'⟩ := hcomplete houtcome
        exact ⟨n, hn, (hfinal n hn').2⟩
      · rw [hpipe, due, if_neg (by simp)]
        rfl

/-- A stop of the playback in progress. -/
theorem stop_current (hco : Coherent q) (hrecord : StopRecord q) (hactive : q.active = true) {g : Nat}
    (hg : q.target.generation < g) :
    PlaybackState.stop q q.target g true =
      ((«end» { q with lastStopFenceGeneration := g, stopRecorded := true, fenceGeneration := g } .stopped).1,
        { ok := true
          fact := some
            («end» { q with lastStopFenceGeneration := g, stopRecorded := true, fenceGeneration := g } .stopped).2 }) := by
  have hfence := hco.fenced hactive
  have hfresh : q.stopRecorded = false := by
    by_contra hnot
    cases hactive.symm.trans (hrecord.inactive (by simpa using hnot))
  have hmatch : PlaybackState.targetMatches q q.target = true := (PlaybackState.targetMatches_iff q q.target).mpr rfl
  rw [PlaybackState.stop, if_neg (by simp), if_neg (by simp [hfresh]), if_neg (by simp [hactive, hmatch]; omega)]

/-- The final number of the playback in progress. -/
theorem setFinal_current {n : Nat} {now : Int} (hco : Coherent q) (hactive : q.active = true)
    (hfinal : q.finalMediaSequence = none) (hlast : ∀ l, q.lastSampleSequence = some l → l ≤ n) (hnow : 0 ≤ now) :
    (PlaybackState.setFinalMediaSequence q q.target n now true).2.ok = true := by
  have hmatch : PlaybackState.targetMatches q q.target = true := (PlaybackState.targetMatches_iff q q.target).mpr rfl
  have hsample : q.lastSampleSequence.any (n < ·) = false := by
    rw [Option.any_eq_false_iff_get]
    intro hsome
    simpa using hlast _ (Option.some_get hsome).symm
  have hcompleted : q.lastCompletedSequence.any (n < ·) = false := by
    rw [Option.any_eq_false_iff_get]
    intro hsome
    obtain ⟨l, hl, hle⟩ := hco.completed _ (Option.some_get hsome).symm
    simpa using hle.trans (hlast l hl)
  rw [PlaybackState.setFinalMediaSequence, if_neg]
  · dsimp only
    split <;> rfl
  · rw [hfinal, hactive, hmatch, hsample, hcompleted]
    simpa using hnow

/-- The next command is taken, except for a stop that finds the playback over. -/
theorem Tracks.commanded {command : QueuedCommand} {now : Int} (h : Tracks c q (command :: pipe) flight)
    (hco : Coherent q) (hrecord : StopRecord q) (hv : c.Valid) (hnow : 0 ≤ now)
    (hstopped : ∀ (r : Ref) (rec : ResponseRecord), c.heap[r]? = some rec → rec.stopSent = true →
      rec.target.generation < c.session.generation) :
    ((PlaybackState.call q (command.call now)).2.ok = true ↔ (command.isStop = true → q.active = true)) ∧
      ((PlaybackState.call q (command.call now)).2.ok = true →
        Tracks c (PlaybackState.call q (command.call now)).1 pipe
          (flight ++ (PlaybackState.call q (command.call now)).2.fact.toList)) := by
  generalize hall : command :: pipe = all at h
  cases h with
  | idle => cases hall
  | @begun r rec _ hplayback hrec hinactive hfence hsilent hpipe =>
    obtain ⟨rfl, rfl⟩ := List.cons.inj (hall.trans hpipe)
    obtain ⟨hid, hmin, -⟩ := hv r rec hrec
    have hne : rec.responseId ≠ "" := by
      intro hempty
      rw [hempty] at hid
      revert hid
      decide
    have hbegin : PlaybackState.begin q rec.playbackTarget =
        ({ fenceGeneration := q.fenceGeneration, target := rec.playbackTarget, active := true }, { ok := true }) := by
      rw [PlaybackState.begin, if_neg]
      change ¬(q.active || rec.responseId == "" || rec.target.generation == 0 ||
        decide (rec.target.generation ≤ q.fenceGeneration)) = true
      rw [hinactive, beq_eq_false_iff_ne.mpr hne, beq_eq_false_iff_ne.mpr (Nat.one_le_iff_ne_zero.mp hmin),
        decide_eq_false (Nat.not_le.mpr hfence)]
      exact Bool.false_ne_true
    change ((PlaybackState.begin q rec.playbackTarget).2.ok = true ↔ _) ∧ _
    change _ ∧ ((PlaybackState.begin q rec.playbackTarget).2.ok = true →
      Tracks c (PlaybackState.begin q rec.playbackTarget).1 _ ([] ++ (PlaybackState.begin q rec.playbackTarget).2.fact.toList))
    rw [hbegin]
    refine ⟨⟨fun _ hstop => (by cases hstop), fun _ => rfl⟩, fun _ => ?_⟩
    exact .playing hplayback hrec rfl rfl (fun n hn => by cases hn) (fun n hn => by cases hn) rfl (.silent hsilent)
  | @playing r rec _ _ hplayback hrec hactive htarget hspans hfinal hpipe hannounced =>
    have heffect := PlaybackState.call_effect q (command.call now)
    have hunrecorded : q.stopRecorded = false := by
      by_contra hnot
      cases hactive.symm.trans (hrecord.inactive (by simpa using hnot))
    suffices hok : (PlaybackState.call q (command.call now)).2.ok = true from
      ⟨⟨fun _ _ => hactive, fun _ => hok⟩, fun _ => by
        generalize hq' : (PlaybackState.call q (command.call now)).1 = q' at heffect ⊢
        generalize hreply : (PlaybackState.call q (command.call now)).2 = reply at heffect hok ⊢
        obtain ⟨n, rfl, hdone, hunknown, hlast, hrest⟩ | ⟨rfl, hrest, hsent⟩ := due_cons (hpipe.symm.trans hall.symm)
        · cases heffect with
          | refused => cases hok
          | finalKnown _ _ _ _ _ =>
            rw [Option.toList_none, List.append_nil]
            refine .playing hplayback hrec hactive htarget hspans (fun m hm => ?_) ?_ hannounced
            · obtain rfl := Option.some.inj hm
              exact ⟨hdone, hlast⟩
            · rw [hrest, due, if_neg (by simp)]
              rfl
          | ended _ hends =>
            have hends' := hends
            cases hends with
            | @finalSet _ _ _ q'' _ _ hle hcompleted hsame =>
              refine .ended hplayback hrec rfl (fun _ => ?_) hannounced
                (endReport hco hends' htarget hspans (fun _ => ?_) ?_ fun _ => ⟨hdone, hrest⟩)
              · rw [hsame]
                exact hunrecorded
              · obtain ⟨l, hl, hnl⟩ := hco.completed _ hcompleted
                obtain rfl := Nat.le_antisymm (hle l hl) hnl
                exact ⟨l, hl, hlast⟩
              · intro hstop
                split at hstop <;> cases hstop
        · clear hq' hreply
          generalize c.session.generation = g at heffect
          cases heffect with
          | refused => cases hok
          | stopRepeated hrepeated => cases hunrecorded.symm.trans hrepeated
          | ended _ hends =>
            have hends' := hends
            cases hends with
            | stopped _ _ _ =>
              exact .ended hplayback hrec rfl (fun hnot => absurd rfl hnot) hannounced
                (endReport hco hends' htarget hspans (fun hdone => by cases hdone) (fun _ => ⟨hsent, hrest⟩)
                  fun hnot => absurd rfl hnot)⟩
    obtain ⟨n, rfl, hdone, hunknown, hlast, -⟩ | ⟨rfl, -, hsent⟩ := due_cons (hpipe.symm.trans hall.symm)
    · change (PlaybackState.setFinalMediaSequence q rec.playbackTarget n now true).2.ok = true
      rw [← htarget]
      refine setFinal_current hco hactive hunknown (fun l hl => ?_) hnow
      have hle := (hspans l hl).2
      rw [hlast] at hle
      simpa using hle
    · change (PlaybackState.stop q rec.playbackTarget c.session.generation true).2.ok = true
      rw [← htarget, stop_current hco hrecord hactive]
      rw [htarget]
      exact hstopped r rec hrec hsent
  | @ended r rec started _ before f hplayback hrec hinactive hunrecorded hannounced hreport =>
    subst hall
    have hnot : f.outcome ≠ .stopped := by
      intro hstop
      cases (hreport.stopped hstop).2
    obtain ⟨rfl, rfl, -⟩ := stopDue_cons (hreport.finished hnot).2.symm
    have hrefused : (PlaybackState.call q (.stop rec.playbackTarget c.session.generation true)).2.ok = false := by
      change (PlaybackState.stop q rec.playbackTarget c.session.generation true).2.ok = false
      rw [PlaybackState.stop, if_neg (by simp), if_neg (by simp [hunrecorded hnot]), if_pos (by simp [hinactive])]
    change ((PlaybackState.call q (.stop rec.playbackTarget c.session.generation true)).2.ok = true ↔ _) ∧
      ((PlaybackState.call q (.stop rec.playbackTarget c.session.generation true)).2.ok = true → _)
    rw [hrefused]
    refine ⟨⟨fun hok => (by cases hok), fun hactive => ?_⟩, fun hok => (by cases hok)⟩
    cases hinactive.symm.trans (hactive rfl)

end Playing

/-- The counts of the server: how many media frames it has sent, and which ones. -/
structure Ledger (c : Coordinator) (next : Nat) (packets : List (Nat × Nat)) : Prop where
  first : ∀ (r : Ref) (rec : ResponseRecord) (n : Nat), c.heap[r]? = some rec → rec.firstMediaSequence = some n →
    n < next
  last : ∀ (r : Ref) (rec : ResponseRecord) (n : Nat), c.heap[r]? = some rec → rec.lastMediaSequence = some n →
    n < next ∧ rec.Spans n
  stopped : ∀ (r : Ref) (rec : ResponseRecord), c.heap[r]? = some rec → rec.stopSent = true →
    rec.target.generation < c.session.generation
  sent : ∀ n g, (n, g) ∈ packets → g ≤ c.session.generation ∧
    ∀ (r : Ref) (rec : ResponseRecord), c.heap[r]? = some rec → rec.target.generation = g → rec.Spans n

namespace Ledger

variable {c c' : Coordinator} {next next' : Nat} {packets later : List (Nat × Nat)} {commands : List QueuedCommand}
  {r : Ref}

theorem init (v : VoiceSession) : Ledger { session := v } 0 [] where
  first r rec n hrec := by cases hrec
  last r rec n hrec := by cases hrec
  stopped r rec hrec := by cases hrec
  sent n g hmem := by cases hmem

theorem subset (h : Ledger c next packets) (hsub : later ⊆ packets) : Ledger c next later :=
  { h with sent := fun n g hmem => h.sent n g (hsub hmem) }

/-- A change of one record that leaves its media alone. -/
theorem retouch (h : Ledger c next packets) (r : Ref) {f : ResponseRecord → ResponseRecord}
    (hheap : c'.heap = (c.update r f).heap)
    (hf : ∀ rec, (f rec).target = rec.target ∧ (f rec).firstMediaSequence = rec.firstMediaSequence ∧
      (f rec).lastMediaSequence = rec.lastMediaSequence)
    (hstop : ∀ rec, c.heap[r]? = some rec → (f rec).stopSent = true →
      rec.stopSent = true ∨ rec.target.generation < c'.session.generation)
    (hgeneration : c.session.generation ≤ c'.session.generation) : Ledger c' next packets := by
  have hsame : ∀ (r' : Ref) (rec' : ResponseRecord), c'.heap[r']? = some rec' → ∃ rec, c.heap[r']? = some rec ∧
      rec'.target = rec.target ∧ rec'.firstMediaSequence = rec.firstMediaSequence ∧
      rec'.lastMediaSequence = rec.lastMediaSequence ∧ (∀ n, rec.Spans n → rec'.Spans n) ∧
      (rec'.stopSent = true → rec.stopSent = true ∨ rec.target.generation < c'.session.generation) := by
    intro r' rec' hrec'
    rw [hheap] at hrec'
    obtain ⟨rec, hrec, rfl⟩ := Coordinator.update_back hrec'
    refine ⟨rec, hrec, ?_⟩
    split
    · rename_i heq
      subst heq
      obtain ⟨htarget, hfirst, hlast⟩ := hf rec
      refine ⟨htarget, hfirst, hlast, fun n hn => ?_, hstop rec hrec⟩
      rw [ResponseRecord.Spans, hfirst, hlast]
      exact hn
    · exact ⟨rfl, rfl, rfl, fun _ => id, .inl⟩
  constructor
  · intro r' rec' n hrec' hn
    obtain ⟨rec, hrec, -, hfirst, -⟩ := hsame r' rec' hrec'
    exact h.first r' rec n hrec (hfirst.symm.trans hn)
  · intro r' rec' n hrec' hn
    obtain ⟨rec, hrec, -, -, hlast, hspans, -⟩ := hsame r' rec' hrec'
    obtain ⟨hlt, hspan⟩ := h.last r' rec n hrec (hlast.symm.trans hn)
    exact ⟨hlt, hspans n hspan⟩
  · intro r' rec' hrec' hsent
    obtain ⟨rec, hrec, htarget, -, -, -, hstopped⟩ := hsame r' rec' hrec'
    rw [htarget]
    obtain hbefore | hlt := hstopped hsent
    · exact (h.stopped r' rec hrec hbefore).trans_le hgeneration
    · exact hlt
  · intro n g hmem
    obtain ⟨hle, hspans⟩ := h.sent n g hmem
    refine ⟨hle.trans hgeneration, fun r' rec' hrec' hg => ?_⟩
    obtain ⟨rec, hrec, htarget, -, -, hspans', -⟩ := hsame r' rec' hrec'
    rw [htarget] at hg
    exact hspans' n (hspans r' rec hrec hg)

/-- The record of the next frame. -/
theorem media (h : Ledger c next packets) (hc : c.Consistent) {rec : ResponseRecord} (hrec : c.heap[r]? = some rec) :
    Ledger (c.update r (Coordinator.noted next)) (next + 1) (packets ++ [(next, rec.target.generation)]) := by
  have hspans : (Coordinator.noted next rec).Spans next := by
    refine ⟨?_, decide_eq_true le_rfl⟩
    cases hfirst : rec.firstMediaSequence with
    | none => simp [Coordinator.noted, hfirst]
    | some first => simpa [Coordinator.noted, hfirst] using (h.first r rec first hrec hfirst).le
  have hself := Coordinator.update_self c (Coordinator.noted next) rfl hrec
  constructor
  · intro r' rec' n hrec' hn
    obtain ⟨rec₀, hrec₀, rfl⟩ := Coordinator.update_back hrec'
    split at hn
    · obtain rfl := Option.some.inj hn
      cases hfirst : rec₀.firstMediaSequence with
      | none => exact Nat.lt_succ_self _
      | some first => exact (h.first r' rec₀ first hrec₀ hfirst).trans (Nat.lt_succ_self _)
    · exact (h.first r' rec₀ n hrec₀ hn).trans (Nat.lt_succ_self _)
  · intro r' rec' n hrec' hn
    obtain ⟨rec₀, hrec₀, rfl⟩ := Coordinator.update_back hrec'
    split at hn
    · rename_i heq
      subst heq
      obtain rfl := Option.some.inj hn
      obtain rfl := Option.some.inj (hrec.symm.trans hrec₀)
      rw [if_pos rfl]
      exact ⟨Nat.lt_succ_self _, hspans⟩
    · rename_i hne
      rw [if_neg hne]
      obtain ⟨hlt, hspan⟩ := h.last r' rec₀ n hrec₀ hn
      exact ⟨hlt.trans (Nat.lt_succ_self _), hspan⟩
  · intro r' rec' hrec' hsent
    obtain ⟨rec₀, hrec₀, rfl⟩ := Coordinator.update_back hrec'
    split at hsent
    · rename_i heq
      rw [if_pos heq]
      exact h.stopped r' rec₀ hrec₀ hsent
    · rename_i hne
      rw [if_neg hne]
      exact h.stopped r' rec₀ hrec₀ hsent
  · intro n g hmem
    obtain hmem | hmem := List.mem_append.mp hmem
    · obtain ⟨hle, hsent⟩ := h.sent n g hmem
      refine ⟨hle, fun r' rec' hrec' hg => ?_⟩
      obtain ⟨rec₀, hrec₀, rfl⟩ := Coordinator.update_back hrec'
      split at hg
      · rename_i heq
        rw [if_pos heq]
        exact (hsent r' rec₀ hrec₀ hg).noted fun m hm => (h.last r' rec₀ m hrec₀ hm).1
      · rename_i hne
        rw [if_neg hne]
        exact hsent r' rec₀ hrec₀ hg
    · obtain ⟨rfl, rfl⟩ := Prod.mk.inj (List.mem_singleton.mp hmem)
      refine ⟨hc.generation_le r rec hrec, fun r' rec' hrec' hg => ?_⟩
      obtain ⟨rec₀, hrec₀, rfl⟩ := Coordinator.update_back hrec'
      -- the generation identifies the record
      have hsame : r' = r := by
        refine hc.distinct r' r rec₀ rec hrec₀ hrec ?_
        split at hg <;> exact hg
      subst hsame
      obtain rfl := Option.some.inj (hrec.symm.trans hrec₀)
      rw [if_pos rfl]
      exact hspans

theorem getElem?_snoc {α : Type} {l : List α} {a x : α} {i : Nat} (h : (l ++ [a])[i]? = some x) :
    l[i]? = some x ∨ x = a := by
  by_cases hlt : i < l.length
  · rw [List.getElem?_append_left hlt] at h
    exact .inl h
  · rw [List.getElem?_append_right (Nat.le_of_not_lt hlt), List.getElem?_singleton] at h
    split at h
    · exact .inr (Option.some.inj h).symm
    · cases h

theorem begun (h : Ledger c next packets) (hm : Moves c (.begun r) c') : Ledger c' next packets := by
  cases hm with
  | @begun responseId producerEpoch target _ _ _ htarget =>
    have hgeneration := congrArg PlaybackRef.generation htarget
    constructor
    · intro r' rec' n hrec' hn
      obtain hrec | rfl := getElem?_snoc hrec'
      · exact h.first r' rec' n hrec hn
      · cases hn
    · intro r' rec' n hrec' hn
      obtain hrec | rfl := getElem?_snoc hrec'
      · exact h.last r' rec' n hrec hn
      · cases hn
    · intro r' rec' hrec' hsent
      obtain hrec | rfl := getElem?_snoc hrec'
      · exact (h.stopped r' rec' hrec hsent).trans (Nat.lt_succ_self _)
      · cases hsent
    · intro n g hmem
      obtain ⟨hle, hspans⟩ := h.sent n g hmem
      refine ⟨hle.trans (Nat.le_succ _), fun r' rec' hrec' hg => ?_⟩
      obtain hrec | rfl := getElem?_snoc hrec'
      · exact hspans r' rec' hrec hg
      · -- nothing of a response that begins has been sent
        exact absurd (hgeneration.symm.trans hg) (Nat.lt_succ_of_le hle).ne'

/-- What is told keeps the counts. -/
theorem told (h : Ledger c next packets) (htold : Told c next c' next' commands later) (hc : c.Consistent) :
    Ledger c' next' (packets ++ later) := by
  cases htold with
  | quiet =>
    rw [List.append_nil]
    exact h
  | begun hm _ =>
    rw [List.append_nil]
    exact h.begun hm
  | @media r _ rec hm hrec =>
    cases hm with
    | @media _ rec₀ _ _ hrec₀ _ =>
      obtain rfl := Option.some.inj (hrec.symm.trans (Coordinator.update_self c (Coordinator.noted next) rfl hrec₀))
      have hmedia := h.media hc hrec₀
      exact hmedia
  | completed hm _ =>
    rw [List.append_nil]
    cases hm with
    | completed hrec _ _ _ =>
      rw [Coordinator.rememberTerminal_eq]
      exact h.retouch _ rfl (fun _ => ⟨rfl, rfl, rfl⟩) (fun _ _ => .inl) le_rfl
  | @fenced r g _ _ hm _ =>
    rw [List.append_nil]
    cases hm with
    | @fenced _ rec outcome code hrec _ _ _ _ _ =>
      rw [Coordinator.rememberTerminal_eq]
      exact h.retouch r rfl (fun _ => ⟨rfl, rfl, rfl⟩)
        (fun rec hrec _ => .inr (Nat.lt_succ_of_le (hc.generation_le r rec hrec))) (Nat.le_succ _)

/-- So does a report of the playback. -/
theorem started (h : Ledger c next packets) (hm : Moves c (.started r) c') : Ledger c' next packets := by
  cases hm with
  | started _ _ => exact h.retouch _ rfl (fun _ => ⟨rfl, rfl, rfl⟩) (fun _ _ => .inl) le_rfl

theorem ended (h : Ledger c next packets) (hm : Moves c (.ended r) c') : Ledger c' next packets := by
  cases hm with
  | @ended _ rec _ _ _ _ =>
    refine h.retouch _ rfl (fun _ => ⟨rfl, rfl, rfl⟩) (fun _ _ => .inl) ?_
    dsimp only
    split <;> exact le_rfl

end Ledger

section Bounds

variable {c c' : Coordinator} {q : State} {next next' : Nat} {pipe commands : List QueuedCommand}
  {packets : List (Nat × Nat)} {flight : List PlaybackFact} {f : PlaybackFact}

theorem Told.frame (h : Told c next c' next' commands packets) :
    c'.session.closed = c.session.closed ∧ c.session.generation ≤ c'.session.generation := by
  cases h with
  | quiet => exact ⟨rfl, le_rfl⟩
  | begun hm _ =>
    refine ⟨?_, Coordinator.moves_generation hm⟩
    cases hm with
    | begun _ _ _ _ => rfl
  | media hm _ =>
    refine ⟨?_, Coordinator.moves_generation hm⟩
    cases hm with
    | media _ _ _ => rfl
  | completed hm _ =>
    refine ⟨?_, Coordinator.moves_generation hm⟩
    cases hm with
    | completed _ _ _ _ => rfl
  | fenced hm _ =>
    refine ⟨?_, Coordinator.moves_generation hm⟩
    cases hm with
    | fenced _ _ _ _ _ _ => rfl

theorem Announced.cons {rec : ResponseRecord} {started : Bool} (h : Announced rec started (f :: flight)) :
    started = true ∧ rec.playbackStarted = false ∧ f.type = .started ∧ f.target = rec.playbackTarget ∧
      rec.Spans f.firstMediaSequence ∧ flight = [] := by
  cases h with
  | written hsilent htype htarget hspans => exact ⟨rfl, hsilent, htype, htarget, hspans, rfl⟩

/-- The playback in progress is one of the server's. -/
theorem Tracks.target_le (h : Tracks c q pipe flight) (hc : c.Consistent) (hactive : q.active = true) :
    q.target.generation ≤ c.session.generation := by
  cases h with
  | idle _ hinactive | begun _ _ hinactive _ _ _ | ended _ _ hinactive _ _ _ => cases hactive.symm.trans hinactive
  | playing _ hrec _ htarget _ _ _ _ =>
    rw [htarget]
    exact hc.generation_le _ _ hrec

/-- The final number of a playback is that of a frame that was sent. -/
theorem Tracks.final_spans {r : Ref} {rec : ResponseRecord} {n : Nat} (h : Tracks c q pipe flight)
    (hledger : Ledger c next packets) (hfinal : q.finalMediaSequence = some n) (hactive : q.active = true)
    (hplayback : c.playback = some r) (hrec : c.heap[r]? = some rec) : rec.Spans n := by
  cases h with
  | idle _ hinactive | begun _ _ hinactive _ _ _ | ended _ _ hinactive _ _ _ => cases hactive.symm.trans hinactive
  | playing hplayback' hrec' _ _ _ hlast _ _ =>
    obtain rfl := Option.some.inj (hplayback.symm.trans hplayback')
    obtain rfl := Option.some.inj (hrec.symm.trans hrec')
    exact (hledger.last _ _ n hrec (hlast n hfinal).2).2

/-- A stop on its way carries the fence that the server has now. -/
theorem Tracks.stop_fence {target : ResponseTarget} {g : Nat} (h : Tracks c q (.stop target g :: pipe) flight) :
    g = c.session.generation := by
  generalize hall : QueuedCommand.stop target g :: pipe = all at h
  cases h with
  | idle => cases hall
  | begun _ _ _ _ _ hpipe => cases hall.trans hpipe
  | playing _ _ _ _ _ _ hpipe _ =>
    obtain ⟨n, hcommand, -⟩ | ⟨hcommand, -⟩ := due_cons (hpipe.symm.trans hall.symm)
    · cases hcommand
    · cases hcommand
      rfl
  | @ended _ _ _ _ _ f _ _ _ _ _ hreport =>
    subst hall
    have hnot : f.outcome ≠ .stopped := by
      intro hstop
      cases (hreport.stopped hstop).2
    obtain ⟨hcommand, -⟩ := stopDue_cons (hreport.finished hnot).2.symm
    cases hcommand
    rfl

/-- The next fact of the playback names its record, and frames that were sent for it. -/
theorem Tracks.reporting (h : Tracks c q pipe (f :: flight)) :
    ∃ r rec, c.playback = some r ∧ c.heap[r]? = some rec ∧ f.target = rec.playbackTarget ∧
      (f.type = .started → rec.Spans f.firstMediaSequence) ∧
      (f.type = .ended → ∀ n, f.lastMediaSequence = some n → rec.Spans n) := by
  generalize hall : f :: flight = all at h
  cases h with
  | idle | begun => cases hall
  | @playing r rec _ _ hplayback hrec _ _ _ _ _ hannounced =>
    subst hall
    obtain ⟨-, -, htype, htarget, hspans, -⟩ := hannounced.cons
    refine ⟨r, rec, hplayback, hrec, htarget, fun _ => hspans, fun hended => ?_⟩
    cases htype.symm.trans hended
  | @ended r rec _ _ before g hplayback hrec _ _ hannounced hreport =>
    cases before with
    | nil =>
      obtain ⟨rfl, rfl⟩ := List.cons.inj hall
      refine ⟨r, rec, hplayback, hrec, hreport.target, fun hstarted => ?_, fun _ n hn => (hreport.played n hn).2⟩
      cases hreport.type.symm.trans hstarted
    | cons e before =>
      obtain ⟨rfl, rfl⟩ := List.cons.inj hall
      obtain ⟨-, -, htype, htarget, hspans, -⟩ := hannounced.cons
      refine ⟨r, rec, hplayback, hrec, htarget, fun _ => hspans, fun hended => ?_⟩
      cases htype.symm.trans hended

/-- The fence of the playback task comes from the server. -/
theorem fence_bounded {call : PlaybackState.Call} {q' : State} {reply : PlaybackState.Reply} {bound : Nat}
    (h : PlaybackState.Effect q call q' reply) (hfence : q.fenceGeneration ≤ bound)
    (htarget : q.active = true → q.target.generation ≤ bound)
    (hstop : ∀ target g out, call = .stop target g out → g ≤ bound) : q'.fenceGeneration ≤ bound := by
  cases h with
  | begun _ _ _ hq' =>
    rw [hq']
    exact hfence
  | @ended _ q'' outcome hactive hends =>
    obtain ⟨-, -, -, hsame⟩ := PlaybackState.ends_frame hends
    change (if outcome = .stopped then q''.fenceGeneration else q''.target.generation) ≤ bound
    split
    · rename_i hstopped
      cases hends with
      | stopped => exact hstop _ _ _ rfl
      | finalSet | framePlayed => split at hstopped <;> cases hstopped
      | failed | expired => cases hstopped
    · rw [hsame]
      exact htarget hactive
  | _ => exact hfence

end Bounds

section Reporting

variable {c c' : Coordinator} {q : State} {pipe : List QueuedCommand} {flight : List PlaybackFact} {r : Ref}
  {rec : ResponseRecord} {f : PlaybackFact}

theorem record_current (hc : c.Consistent) (hplayback : c.playback = some r) (hrec : c.heap[r]? = some rec) :
    c.record rec.responseId rec.target.generation = .ok (r, rec) := by
  obtain ⟨rec', hrec', hcurrent⟩ := hc.current r hplayback
  obtain rfl := Option.some.inj (hrec.symm.trans hrec')
  rw [Coordinator.record, show c.records.get? (rec.responseId, rec.target.generation) = some r from hcurrent.known]
  dsimp only
  rw [hrec]

/-- A record of which the server knows that the playback has started. -/
def ResponseRecord.heard (rec : ResponseRecord) : ResponseRecord := { rec with playbackStarted := true }

/-- The server takes every `playback.started`. -/
theorem Tracks.reported_started (h : Tracks c q pipe (f :: flight)) (hc : c.Consistent) (htype : f.type = .started) :
    ∃ c' r, c.playbackStarted f.target.responseId f.target.generation f.firstMediaSequence = .ok (c', r) ∧
      Tracks c' q pipe flight := by
  have htaken : ∀ (r : Ref) (rec : ResponseRecord), c.playback = some r → c.heap[r]? = some rec →
      rec.playbackStarted = false → f.target = rec.playbackTarget → rec.Spans f.firstMediaSequence →
      c.playbackStarted f.target.responseId f.target.generation f.firstMediaSequence =
        .ok (c.update r ResponseRecord.heard, r) := by
    intro r rec hplayback hrec hsilent htarget hspans
    obtain ⟨rec', hrec', hcurrent⟩ := hc.current r hplayback
    obtain rfl := Option.some.inj (hrec.symm.trans hrec')
    rw [htarget, Coordinator.playbackStarted,
      show c.record rec.playbackTarget.responseId rec.playbackTarget.generation = .ok (r, rec) from
        record_current hc hplayback hrec]
    dsimp only
    rw [hsilent, hcurrent.unended, if_neg (by simp), hspans.1, hspans.2, if_neg (by simp)]
    rfl
  generalize hall : f :: flight = all at h
  cases h with
  | idle | begun => cases hall
  | @playing r rec _ _ hplayback hrec hactive htarget hspans hfinal hpipe hannounced =>
    subst hall
    obtain ⟨hstarted, hsilent, -, htarget', hfirst, rfl⟩ := hannounced.cons
    refine ⟨_, r, htaken r rec hplayback hrec hsilent htarget' hfirst, ?_⟩
    have hrec' := Coordinator.update_self c ResponseRecord.heard rfl hrec
    have htaken' : Announced rec.heard q.started [] := by
      rw [hstarted]
      exact .taken rfl
    exact @Tracks.playing _ _ r rec.heard _ _ hplayback hrec' hactive htarget hspans hfinal hpipe htaken'
  | @ended r rec started _ before g hplayback hrec hinactive hunrecorded hannounced hreport =>
    cases before with
    | nil =>
      obtain ⟨rfl, rfl⟩ := List.cons.inj hall
      cases htype.symm.trans hreport.type
    | cons e before =>
      obtain ⟨rfl, rfl⟩ := List.cons.inj hall
      obtain ⟨rfl, hsilent, -, htarget', hfirst, rfl⟩ := hannounced.cons
      refine ⟨_, r, htaken r rec hplayback hrec hsilent htarget' hfirst, ?_⟩
      have hrec' := Coordinator.update_self c ResponseRecord.heard rfl hrec
      exact @Tracks.ended _ _ r rec.heard _ _ [] _ hplayback hrec' hinactive hunrecorded (.taken rfl)
        ⟨hreport.type, hreport.target, hreport.played, hreport.completed, hreport.stopped, hreport.finished⟩

/-- An end that the server takes in the state of its record. -/
def TakesEnd (rec : ResponseRecord) : PlaybackState.PlaybackEndedOutcome → Prop
  | .stopped => rec.outcome ≠ some .failed
  | .completed | .failed => rec.stopSent = false

/-- For a response that is complete, the server's table accepts a played or broken end until it is stopped. -/
theorem accepts_finished (hc : c.Consistent) (hopen : c.session.closed = false) (hplayback : c.playback = some r)
    (hrec : c.heap[r]? = some rec) (hdone : rec.outcome = some .completed) {outcome : PlaybackOutcome}
    (hnot : outcome ≠ .stopped) {playedSamples : Nat} {last : Option Nat}
    (hplayed : ∀ n, last = some n → playedSamples ≠ 0) (hnoted : Coordinator.Noted rec last)
    (hcompleted : outcome = .completed → ∃ n, last = some n ∧ rec.lastMediaSequence = some n) :
    c.Accepts rec.key outcome playedSamples last ↔ rec.stopSent = false := by
  obtain ⟨rec', hrec', hcurrent⟩ := hc.current r hplayback
  obtain rfl := Option.some.inj (hrec.symm.trans hrec')
  have hexpected : outcome ∈ Coordinator.expectedOutcomes rec ↔ rec.stopSent = false := by
    rw [Coordinator.expectedOutcomes, hdone]
    cases hsent : rec.stopSent with
    | true => simpa using hnot
    | false => cases outcome <;> simp at hnot ⊢
  constructor
  · rintro ⟨c', fact, hended⟩
    rw [Coordinator.playbackEnded] at hended
    split at hended
    · cases (Prod.mk.inj hended).2
    · rename_i r' rec' hfound
      obtain ⟨hheap, hcur, -, hmem⟩ := Coordinator.endedRecord_ok hfound
      obtain rfl := Option.some.inj (hcur.symm.trans hplayback)
      obtain rfl := Option.some.inj (hheap.symm.trans hrec)
      exact hexpected.mp hmem
  · intro hunsent
    have hfound : c.endedRecord rec.key.1 rec.key.2 outcome playedSamples last = .ok (r, rec) := by
      rw [Coordinator.endedRecord,
        show c.record rec.key.1 rec.key.2 = .ok (r, rec) from record_current hc hplayback hrec]
      dsimp only
      rw [hcurrent.unended, if_neg Bool.false_ne_true, if_neg (not_not.mpr hplayback),
        if_neg (not_not.mpr (hexpected.mpr hunsent)), if_neg, if_neg, if_neg]
      · rintro ⟨-, hany⟩
        cases ((Coordinator.any_noted rec last hplayed).mpr hnoted).symm.trans hany
      · rintro ⟨hword, hdiffers⟩
        obtain ⟨n, hn, hlast⟩ := hcompleted hword
        exact hdiffers (hn.trans hlast.symm)
      · rintro ⟨hword, hzero⟩
        obtain ⟨n, hn, -⟩ := hcompleted hword
        exact hplayed n hn hzero
    have hfinish : Coordinator.needsFinish rec = true := by simp [Coordinator.needsFinish, hdone, hunsent]
    have hholds := hc.finishes hrec hplayback hopen hfinish
    rw [Coordinator.Accepts, Coordinator.playbackEnded, hfound]
    dsimp only
    rw [if_pos hfinish, VoiceSession.finishPlayback]
    simp [Coordinator.update, hopen, hholds]

/-- The server takes the end of its playback unless the stop of the server and a failed end have crossed, or a played
end, and then it waits for no other. -/
theorem Tracks.reported_ended (h : Tracks c q pipe (f :: flight)) (hc : c.Consistent)
    (hopen : c.session.closed = false) (htype : f.type = .ended) :
    ∃ r rec, c.playback = some r ∧ c.heap[r]? = some rec ∧ f.target = rec.playbackTarget ∧
      (c.Accepts (f.target.responseId, f.target.generation) (Binding.outcomeWord f.outcome) f.playedSamples
        f.lastMediaSequence ↔ TakesEnd rec f.outcome) ∧
      ∀ c' fact, c.playbackEnded f.target.responseId f.target.generation (Binding.outcomeWord f.outcome) f.playedSamples
        f.lastMediaSequence = (c', .ok fact) → Tracks c' q pipe flight := by
  generalize hall : f :: flight = all at h
  cases h with
  | idle | begun => cases hall
  | playing _ _ _ _ _ _ _ hannounced =>
    subst hall
    obtain ⟨-, -, hstarted, -⟩ := hannounced.cons
    cases htype.symm.trans hstarted
  | @ended r rec started _ before g hplayback hrec hinactive hunrecorded hannounced hreport =>
    cases before with
    | cons e before =>
      obtain ⟨rfl, rfl⟩ := List.cons.inj hall
      obtain ⟨-, -, hstarted, -⟩ := hannounced.cons
      cases htype.symm.trans hstarted
    | nil =>
      obtain ⟨rfl, rfl⟩ := List.cons.inj hall
      have hplayed : ∀ n, f.lastMediaSequence = some n → f.playedSamples ≠ 0 := fun n hn => (hreport.played n hn).1
      have hnoted : Coordinator.Noted rec f.lastMediaSequence := by
        intro n hn
        obtain ⟨m, hm, hle⟩ := (Option.any_eq_true _ _).mp (hreport.played n hn).2.2
        exact ⟨m, hm, of_decide_eq_true hle⟩
      have hiff : c.Accepts rec.key (Binding.outcomeWord f.outcome) f.playedSamples f.lastMediaSequence ↔
          TakesEnd rec f.outcome := by
        have hfinished : f.outcome ≠ .stopped → Binding.outcomeWord f.outcome ≠ .stopped →
            (c.Accepts rec.key (Binding.outcomeWord f.outcome) f.playedSamples f.lastMediaSequence ↔
              rec.stopSent = false) := by
          intro hnot hword
          refine accepts_finished hc hopen hplayback hrec (hreport.finished hnot).1 hword hplayed hnoted fun hdone => ?_
          apply hreport.completed
          revert hdone
          cases f.outcome <;> simp [Binding.outcomeWord]
        cases houtcome : f.outcome with
        | stopped =>
          rw [show Binding.outcomeWord .stopped = .stopped from rfl,
            hc.accepts_stopped hplayback hrec (hreport.stopped houtcome).1 hplayed]
          exact and_iff_left hnoted
        | completed | failed =>
          rw [houtcome] at hfinished
          exact hfinished (by decide) (by decide)
      refine ⟨r, rec, hplayback, hrec, hreport.target, ?_, ?_⟩
      · rw [hreport.target]
        exact hiff
      · intro c' fact hended
        have haccepts := hiff.mp (by
          rw [hreport.target] at hended
          exact ⟨c', fact, hended⟩)
        have hpipe : pipe = [] := by
          cases houtcome : f.outcome with
          | stopped => exact (hreport.stopped houtcome).2
          | completed | failed =>
            rw [(hreport.finished (by rw [houtcome]; decide)).2]
            rw [houtcome] at haccepts
            exact stopDue_unsent haccepts
        have hnone : c'.playback = none := by
          obtain ⟨e, he⟩ | ⟨d, fact', he, hm⟩ | ⟨d, e, r', he, -⟩ :=
            c.playbackEnded_moves f.target.responseId f.target.generation f.playedSamples
              (Binding.outcomeWord f.outcome) f.lastMediaSequence hopen
          · cases (Prod.mk.inj (he.symm.trans hended)).2
          · obtain ⟨rfl, -⟩ := Prod.mk.inj (he.symm.trans hended)
            cases hm with
            | ended _ _ _ _ => rfl
          · cases (Prod.mk.inj (he.symm.trans hended)).2
        rw [hpipe]
        exact .idle hnone hinactive

end Reporting

end RealtimeVoice.Rva
