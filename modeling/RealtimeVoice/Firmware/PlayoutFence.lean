import RealtimeVoice.Firmware.PlayoutQueue
import RealtimeVoice.Firmware.UdpSession

namespace RealtimeVoice.Firmware

open RealtimeVoice.Base RealtimeVoice.Base.Runs RealtimeVoice.Firmware.Wire

/-- Where the UDP task stands in its loop; it holds the frame of `PopPlayout` until it pushes it. -/
inductive UdpTask
  | looping
  | receiving
  | popping (count : Nat)
  | holding (count : Nat) (frame : PlayoutFrame)
  | exited
deriving DecidableEq

inductive GenerationChange
  | fence | advance
deriving DecidableEq

/-- Where the control path stands, in whoever has the control mutex. -/
inductive ControlPath
  | idle
  | checked (change : GenerationChange) (generation : UInt32)
  | advanced (change : GenerationChange) (generation : UInt32)
  | stopping
  | revoked
deriving DecidableEq

structure UdpRuntime where
  session : UdpSession
  queue : PlayoutQueue := {}
  stopRequested : Bool := false
  udp : UdpTask := .looping
  control : ControlPath := .idle
  queueDropped : UInt32 := 0
  mediaAgeDropped : UInt32 := 0

namespace UdpRuntime

def maximumMediaAgeUs : Int := 360000

/-- The runtime after `Start`. -/
def started (session : UdpSession) : UdpRuntime :=
  { session := session, queue := PlayoutQueue.openAt {} session.downlinkGeneration }

/-- The session's part of `FenceGeneration` and `AdvanceGeneration`. -/
def changeSession (session : UdpSession) (generation : UInt32) : GenerationChange → UdpSession × Bool
  | .fence => session.fenceGeneration generation
  | .advance => session.advanceGeneration generation

inductive Event
  | looped
  | received (datagram : Option (Endpoint × Bytes)) (nowUs : Int)
  | popped (nowUs : Int)
  | pushed (result : PlayoutPushResult)
  | checked (change : GenerationChange) (generation : UInt32)
  | advanced
  | returned (change : GenerationChange) (generation : UInt32) (ok : Bool)
  | polled (nowUs : Int) (frame : Option PlayoutFrame)
  | stopRequested
  | revoked
  | closed
deriving DecidableEq

/-- One step of one task, between two locks. -/
inductive Step (aead : AeadPort) (s : UdpRuntime) : Event → UdpRuntime → Prop
  | loop (h : s.udp = .looping) :
      Step aead s .looped { s with udp := if s.stopRequested then .exited else .receiving }
  | receive (h : s.udp = .receiving) (source : Endpoint) (datagram : Bytes) (nowUs : Int) :
      Step aead s (.received (some (source, datagram)) nowUs)
        { s with session := (s.session.receive aead source datagram nowUs).1, udp := .popping 0 }
  | receiveNothing (h : s.udp = .receiving) (nowUs : Int) :
      Step aead s (.received none nowUs) { s with udp := .popping 0 }
  | pop {count : Nat} (h : s.udp = .popping count) (hcount : count < 2) (nowUs : Int) :
      Step aead s (.popped nowUs)
        { s with
          session := (s.session.popPlayout nowUs).1
          udp := if (s.session.popPlayout nowUs).2.kind = .none then .looping
            else .holding count (s.session.popPlayout nowUs).2 }
  | popDone {count : Nat} (h : s.udp = .popping count) (hcount : ¬count < 2) :
      Step aead s .looped { s with udp := .looping }
  | push {count : Nat} {frame : PlayoutFrame} (h : s.udp = .holding count frame) :
      Step aead s (.pushed (s.queue.push frame).2)
        { s with
          queue := (s.queue.push frame).1
          udp := .popping (count + 1)
          queueDropped := if (s.queue.push frame).2 = .replacedOldest then s.queueDropped + 1 else s.queueDropped }
  | refuse (h : s.control = .idle) (change : GenerationChange) (generation : UInt32)
      (hrefused : s.stopRequested = true ∨ generation < s.session.downlinkGeneration) :
      Step aead s (.returned change generation false) s
  | check (h : s.control = .idle) (change : GenerationChange) (generation : UInt32)
      (haccepted : ¬(s.stopRequested = true ∨ generation < s.session.downlinkGeneration)) :
      Step aead s (.checked change generation) { s with control := .checked change generation }
  | advanceQueue {change : GenerationChange} {generation : UInt32} (h : s.control = .checked change generation) :
      Step aead s .advanced
        { s with queue := s.queue.advanceGeneration generation, control := .advanced change generation }
  | changeSession {change : GenerationChange} {generation : UInt32} (h : s.control = .advanced change generation) :
      Step aead s (.returned change generation (changeSession s.session generation change).2)
        { s with session := (UdpRuntime.changeSession s.session generation change).1, control := .idle }
  | poll (frame : PlayoutFrame) (nowUs : Int) :
      Step aead s (.polled nowUs (if (s.queue.popFresh frame nowUs maximumMediaAgeUs).ready
          then some (s.queue.popFresh frame nowUs maximumMediaAgeUs).frame else none))
        { s with
          queue := (s.queue.popFresh frame nowUs maximumMediaAgeUs).queue
          mediaAgeDropped :=
            s.mediaAgeDropped + (s.queue.popFresh frame nowUs maximumMediaAgeUs).expired.toUInt32 }
  | requestStop (h : s.control = .idle) :
      Step aead s .stopRequested { s with stopRequested := true, control := .stopping }
  | revokeSession (h : s.control = .stopping) :
      Step aead s .revoked { s with session := s.session.revokeLocked, control := .revoked }
  | closeQueue (h : s.control = .revoked) :
      Step aead s .closed { s with queue := s.queue.close, control := .idle }
  | joinAndClose (h : s.udp = .exited) : Step aead s .closed { s with queue := s.queue.close }

/-- After a change of generation that returned true no frame below it is polled. -/
def NotBelow (e f : Event) : Prop :=
  ∀ change generation, e = .returned change generation true → ∀ nowUs frame, f = .polled nowUs (some frame) →
    generation ≤ frame.generation

/-- The queue is at every generation that was set, also at that of a change on its way. -/
structure Fenced (es : List Event) (s : UdpRuntime) : Prop where
  coupled : s.queue.Coupled
  set : ∀ change generation, .returned change generation true ∈ es → s.queue.Fenced generation
  onItsWay : ∀ change generation, s.control = .advanced change generation → s.queue.Fenced generation

variable {aead : AeadPort} {s t : UdpRuntime} {es : List Event} {e : Event}

/-- A step that leaves the queue's generation and the control path alone. -/
theorem Fenced.kept (h : Fenced es s) (hcoupled : t.queue.Coupled)
    (hkeeps : t.queue.generation = s.queue.generation ∧ t.queue.isOpen = s.queue.isOpen)
    (he : ∀ change generation, e ≠ .returned change generation true)
    (hcontrol : ∀ change generation, t.control = .advanced change generation → s.control = .advanced change generation) :
    Fenced (es ++ [e]) t := by
  refine ⟨hcoupled, ?_, ?_⟩
  · intro change generation hmem
    obtain hmem | hmem := List.mem_append.mp hmem
    · exact (h.set change generation hmem).of_eq hkeeps
    · exact absurd (List.mem_singleton.mp hmem).symm (he change generation)
  · intro change generation hadvanced
    exact (h.onItsWay change generation (hcontrol change generation hadvanced)).of_eq hkeeps

theorem Fenced.closed (h : t.queue = {}) : Fenced es t := by
  have hclosed : t.queue.isOpen = false := by rw [h]
  refine ⟨?_, fun _ _ _ => .inl hclosed, fun _ _ _ => .inl hclosed⟩
  rw [h]
  exact .empty _ _

theorem fenced_step (h : Fenced es s) (hstep : Step aead s e t) : Fenced (es ++ [e]) t := by
  cases hstep with
  | loop | receive | receiveNothing | pop | popDone | refuse =>
    exact h.kept h.coupled ⟨rfl, rfl⟩ (fun _ _ => by simp) (fun _ _ hcontrol => hcontrol)
  | push hudp =>
    exact h.kept (PlayoutQueue.push_refines h.coupled _).1 (PlayoutQueue.push_keeps _) (fun _ _ => by simp)
      (fun _ _ hcontrol => hcontrol)
  | check hcontrol change generation haccepted =>
    exact h.kept h.coupled ⟨rfl, rfl⟩ (fun _ _ => by simp) (fun _ _ hcontrol => by cases hcontrol)
  | @advanceQueue change generation hcontrol =>
    refine ⟨(PlayoutQueue.advanceGeneration_refines h.coupled generation).1, ?_, ?_⟩
    · intro earlier past hmem
      obtain hmem | hmem := List.mem_append.mp hmem
      · exact (h.set earlier past hmem).advanceGeneration generation
      · cases List.mem_singleton.mp hmem
    · rintro change generation ⟨⟩
      exact PlayoutQueue.advanceGeneration_reaches generation
  | @changeSession change generation hcontrol =>
    refine ⟨h.coupled, ?_, fun _ _ hcontrol => by cases hcontrol⟩
    intro earlier past hmem
    obtain hmem | hmem := List.mem_append.mp hmem
    · exact h.set earlier past hmem
    · obtain ⟨-, rfl, -⟩ := Event.returned.inj (List.mem_singleton.mp hmem)
      exact h.onItsWay change _ hcontrol
  | poll frame nowUs =>
    exact h.kept (PlayoutQueue.popFresh_refines h.coupled _ _ _).1 (PlayoutQueue.popLoop_keeps _ _ _ _ _)
      (fun _ _ => by simp) (fun _ _ hcontrol => hcontrol)
  | requestStop | revokeSession =>
    exact h.kept h.coupled ⟨rfl, rfl⟩ (fun _ _ => by simp) (fun _ _ hcontrol => by cases hcontrol)
  | closeQueue | joinAndClose => exact .closed rfl

theorem notBelow_step (h : Fenced es s) (hstep : Step aead s e t) : ∀ f ∈ es, NotBelow f e := by
  rintro f hf change generation rfl nowUs frame rfl
  generalize hevent : Event.polled nowUs (some frame) = polled at hstep
  cases hstep with
  | poll given time =>
    have hready : (s.queue.popFresh given time maximumMediaAgeUs).ready = true := by
      by_contra hnot
      rw [if_neg hnot] at hevent
      cases (Event.polled.inj hevent).2
    rw [if_pos hready] at hevent
    obtain ⟨rfl, hframe⟩ := Event.polled.inj hevent
    obtain ⟨hopen, hgeneration⟩ := PlayoutQueue.popFresh_current h.coupled hready
    rw [Option.some.inj hframe, hgeneration]
    obtain hclosed | hle := h.set change generation hf
    · exact absurd (hopen.symm.trans hclosed) (by decide)
    · exact hle
  | _ => cases hevent

theorem run_fenced {session : UdpSession} (h : Run (Step aead) (started session) es s) :
    Fenced es s ∧ es.Pairwise NotBelow := by
  refine h.invariant (R := fun es s => Fenced es s ∧ es.Pairwise NotBelow) ?_ ?_
  · refine ⟨⟨(PlayoutQueue.openAt_refines (q := {}) _).1, ?_, ?_⟩, .nil⟩
    · intro change generation hmem
      cases hmem
    · rintro change generation ⟨⟩
  · rintro es s e t - ⟨hfenced, hpairs⟩ hstep
    refine ⟨fenced_step hfenced hstep, ?_⟩
    rw [List.pairwise_append]
    refine ⟨hpairs, List.pairwise_singleton _ _, ?_⟩
    intro f hf g hg
    rw [List.mem_singleton.mp hg]
    exact notBelow_step hfenced hstep f hf

/-- In no interleaving of the UDP task, the playback task and the control path is a frame polled
below a generation that was fenced or advanced to, and the queue answers as the newest frames
of its generation do. -/
theorem playout_fenced {session : UdpSession} (h : Run (Step aead) (started session) es s) :
    es.Pairwise NotBelow ∧ ∀ ops queue, Run (Answers PlayoutQueue.call) {} ops queue →
      Run (Answers Fifo.call) {} ops queue.view := by
  refine ⟨(run_fenced h).2, ?_⟩
  intro ops queue hops
  exact (PlayoutQueue.run_refines (.empty 0 false) hops).2

def demoFrame : PlayoutFrame := { kind := .audio, sequence := 7, generation := 2, payload := [1] }

/-- A session with one frame of generation 2 to play. -/
def demoSession : UdpSession :=
  { downlinkGeneration := 2, playbackActive := true, configured := true, ready := true, revoked := false,
    jitter := (JitterBuffer.insertAudio { generation := 2 } 7 0 2 [1] 0).1 }

/-- The frame is popped before its generation is fenced, and pushed and polled after it. -/
def demoEvents : List Event :=
  [.looped, .received none 0, .popped 0, .checked .fence 2, .advanced, .returned .fence 2 true, .pushed .accepted,
    .polled 0 (some demoFrame)]

theorem Step.of_eq (e' : Event) (h : Step aead s e t) (he : e = e') : Step aead s e' t := he ▸ h

theorem playout_fenced_demo : demoEvents.Pairwise NotBelow := by
  let aead : AeadPort := ⟨fun _ _ _ _ _ => none, by simp⟩
  have hnil : Run (Step aead) (started demoSession) [] (started demoSession) := .nil
  have hrun := hnil.snoc (.loop rfl)
  have hrun := hrun.snoc (.receiveNothing (by decide +kernel) 0)
  have hrun := hrun.snoc (@Step.pop _ _ 0 (by decide +kernel) (by decide) 0)
  have hrun := hrun.snoc (.check (by decide +kernel) .fence 2 (by decide +kernel))
  have hrun := hrun.snoc (.advanceQueue rfl)
  have hrun := hrun.snoc ((Step.changeSession rfl).of_eq (.returned .fence 2 true) (by decide +kernel))
  have hrun := hrun.snoc ((@Step.push _ _ 0 demoFrame (by decide +kernel)).of_eq (.pushed .accepted)
    (by decide +kernel))
  have hrun := hrun.snoc ((Step.poll {} 0).of_eq (.polled 0 (some demoFrame)) (by decide +kernel))
  exact (playout_fenced hrun).1

end UdpRuntime

end RealtimeVoice.Firmware
