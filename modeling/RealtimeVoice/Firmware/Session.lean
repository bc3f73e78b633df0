import RealtimeVoice.Base.Runs
import RealtimeVoice.Contracts.Models

namespace RealtimeVoice.Firmware.Session

open RealtimeVoice.Base.Runs RealtimeVoice.Contracts

inductive SessionPhase
  | idle | opening | active | closing
deriving DecidableEq

inductive MediaOwner
  | none | wss | udp
deriving DecidableEq

structure SessionGate where
  phase : SessionPhase := .idle
  mediaOwner : MediaOwner := .none
  transportProfile : Option TransportProfile := none
  lastSessionGeneration : Nat := 0
  sessionGeneration : Nat := 0
  playbackGeneration : Nat := 0
deriving DecidableEq

namespace SessionGate

def ownerMatchesProfile : TransportProfile → MediaOwner → Bool
  | .wssOpus, owner => owner = .wss
  | .udpOpusGcm, owner => owner = .udp

/-- `none` is the answer false, with the gate as it was; so also below. -/
def beginFreshSession (g : SessionGate) (sessionGeneration : Nat) : Option SessionGate :=
  if g.phase ≠ .idle ∨ sessionGeneration = 0 ∨ sessionGeneration ≤ g.lastSessionGeneration then none
  else
    some { g with phase := .opening, sessionGeneration := sessionGeneration, playbackGeneration := 0,
                  mediaOwner := .none, transportProfile := none }

def commitMedia (g : SessionGate) (profile : TransportProfile) (owner : MediaOwner) : Option SessionGate :=
  if g.phase ≠ .opening ∨ ownerMatchesProfile profile owner = false then none
  else some { g with transportProfile := some profile, mediaOwner := owner, phase := .active }

def advancePlaybackGeneration (g : SessionGate) (generation : Nat) : Option SessionGate :=
  if g.phase ≠ .active ∨ generation ≤ g.playbackGeneration then none
  else some { g with playbackGeneration := generation }

def beginClose (g : SessionGate) : Option SessionGate :=
  if g.phase ≠ .opening ∧ g.phase ≠ .active then none
  else some { g with phase := .closing, mediaOwner := .none, transportProfile := none }

def finishClose (g : SessionGate) : Option SessionGate :=
  if g.phase ≠ .closing then none
  else
    some { g with lastSessionGeneration := g.sessionGeneration, sessionGeneration := 0, playbackGeneration := 0,
                  phase := .idle }

end SessionGate

structure SessionSnapshot where
  connectionGeneration : Nat
  playbackGeneration : Nat
  transportProfile : TransportProfile
  mediaOwner : MediaOwner
deriving DecidableEq

inductive SessionEvent
  | committed | playbackGenerationAdvanced | revoked
deriving DecidableEq

/-- A call that waits for one of its callbacks to return. -/
inductive Frame
  | committing (committed : SessionSnapshot)
  | settingGeneration (advanced : SessionSnapshot)
  | announcing (advanced : SessionSnapshot)
  | revokingTransport (revoked : SessionSnapshot)
  | revokingAudio (revoked : SessionSnapshot)
  | revoking (revoked : SessionSnapshot)
deriving DecidableEq

namespace Frame

/-- The frame belongs to `NotifyRevoked`. -/
def revokes : Frame → Bool
  | .revokingTransport _ | .revokingAudio _ | .revoking _ => true
  | .committing _ | .settingGeneration _ | .announcing _ => false

/-- The revocation that the frame still has to announce. -/
def unannounced : Frame → Option SessionSnapshot
  | .revokingTransport p | .revokingAudio p => some p
  | _ => none

/-- The playback generation that the frame may still announce. -/
def advancing : Frame → Option SessionSnapshot
  | .settingGeneration p => some p
  | _ => none

end Frame

/-- The session with the calls that hold its transition mutex, the innermost first. -/
structure State where
  gate : SessionGate := {}
  snapshot : Option SessionSnapshot := none
  closingSnapshot : Option SessionSnapshot := none
  revocationInProgress : Bool := false
  frames : List Frame := []
deriving DecidableEq

inductive Result
  | done (ok : Bool)
  | snapshot (s : Option SessionSnapshot)
deriving DecidableEq

/-- What a step shows: the call of `OnSessionEvent` that it makes and the result of the
call that it ends. -/
structure Reply where
  observed : Option (SessionEvent × SessionSnapshot) := none
  result : Option Result := none
deriving DecidableEq

/-- The calls that take the transition mutex. `SendControl` and the readers change nothing
and hold no lock in a callback, so what is called from there is a call like any other. -/
inductive Operation
  | beginFreshSession (connectionGeneration : Nat)
  | commitHello (connectionGeneration : Nat) (profile : TransportProfile) (owner : MediaOwner)
  | advancePlaybackGeneration (owner : SessionSnapshot) (playbackGeneration : Nat)
  | onTransportClosed (owner : SessionSnapshot)
  | requestClose (owner : SessionSnapshot)
  | requestCloseGeneration (connectionGeneration : Nat)
  | finishClose (connectionGeneration : Nat)
deriving DecidableEq

/-- A call comes from a thread that finds the mutex free or from the innermost callback. -/
inductive Action
  | call (operation : Operation)
  | callbackReturns
deriving DecidableEq

namespace State

def refuse (s : State) (result : Result) : State × Reply := (s, { result := some result })

def isCurrentOwner (s : State) (snapshot : SessionSnapshot) : Bool :=
  s.gate.phase = .active && s.snapshot.any fun current =>
    current.connectionGeneration = snapshot.connectionGeneration &&
      current.transportProfile = snapshot.transportProfile && current.mediaOwner = snapshot.mediaOwner

def isCurrentPlayback (s : State) (snapshot : SessionSnapshot) : Bool :=
  s.isCurrentOwner snapshot && s.snapshot.any fun current =>
    current.playbackGeneration = snapshot.playbackGeneration

def beginFreshSession (s : State) (connectionGeneration : Nat) : State × Reply :=
  match s.gate.beginFreshSession connectionGeneration with
  | none => s.refuse (.done false)
  | some gate => ({ s with gate := gate }, { result := some (.done true) })

def commitHello (s : State) (connectionGeneration : Nat) (profile : TransportProfile) (owner : MediaOwner) :
    State × Reply :=
  if s.gate.sessionGeneration ≠ connectionGeneration then s.refuse (.snapshot none)
  else
    match s.gate.commitMedia profile owner with
    | none => s.refuse (.snapshot none)
    | some gate =>
      let committed : SessionSnapshot :=
        { connectionGeneration := connectionGeneration, playbackGeneration := gate.playbackGeneration,
          transportProfile := profile, mediaOwner := owner }
      ({ s with gate := gate, snapshot := some committed, frames := .committing committed :: s.frames },
        { observed := some (.committed, committed) })

def advancePlaybackGeneration (s : State) (owner : SessionSnapshot) (playbackGeneration : Nat) : State × Reply :=
  if s.isCurrentOwner owner = false then s.refuse (.snapshot none)
  else
    match s.gate.advancePlaybackGeneration playbackGeneration with
    | none => s.refuse (.snapshot none)
    | some gate =>
      let advanced := { owner with playbackGeneration := playbackGeneration }
      ({ s with gate := gate, snapshot := some advanced, frames := .settingGeneration advanced :: s.frames }, {})

/-- Both forms of `RequestClose` from `BeginClose` on, with the snapshot of that moment. -/
def close (s : State) (gate : SessionGate) : State × Reply :=
  match s.snapshot with
  | none =>
    ({ s with gate := gate, closingSnapshot := none, snapshot := none }, { result := some (.done true) })
  | some revoked =>
    ({ s with gate := gate, closingSnapshot := some revoked, snapshot := none, revocationInProgress := true,
              frames := .revokingTransport revoked :: s.frames }, {})

def requestClose (s : State) (owner : SessionSnapshot) : State × Reply :=
  if s.gate.phase = .closing then
    s.refuse (.done (s.closingSnapshot.any fun closing =>
      closing.connectionGeneration = owner.connectionGeneration &&
        closing.transportProfile = owner.transportProfile && closing.mediaOwner = owner.mediaOwner))
  else if s.isCurrentOwner owner = false then s.refuse (.done false)
  else
    match s.gate.beginClose with
    | none => s.refuse (.done false)
    | some gate => s.close gate

def requestCloseGeneration (s : State) (connectionGeneration : Nat) : State × Reply :=
  if s.gate.sessionGeneration ≠ connectionGeneration then s.refuse (.done false)
  else if s.gate.phase = .closing then s.refuse (.done true)
  else if s.gate.phase ≠ .opening ∧ s.gate.phase ≠ .active then s.refuse (.done false)
  else
    match s.gate.beginClose with
    | none => s.refuse (.done false)
    | some gate => s.close gate

def finishClose (s : State) (connectionGeneration : Nat) : State × Reply :=
  if s.revocationInProgress = true ∨ s.gate.sessionGeneration ≠ connectionGeneration then s.refuse (.done false)
  else
    match s.gate.finishClose with
    | none => s.refuse (.done false)
    | some gate => ({ s with gate := gate, closingSnapshot := none }, { result := some (.done true) })

/-- The innermost call goes on after its callback. -/
def resume (s : State) : State × Reply :=
  match s.frames with
  | [] => (s, {})
  | .committing committed :: rest =>
    ({ s with frames := rest },
      { result := some (.snapshot (if s.isCurrentOwner committed then some committed else none)) })
  | .settingGeneration advanced :: rest =>
    if s.isCurrentPlayback advanced = false then ({ s with frames := rest }, { result := some (.snapshot none) })
    else
      ({ s with frames := .announcing advanced :: rest }, { observed := some (.playbackGenerationAdvanced, advanced) })
  | .announcing advanced :: rest =>
    ({ s with frames := rest },
      { result := some (.snapshot (if s.isCurrentPlayback advanced then some advanced else none)) })
  | .revokingTransport revoked :: rest => ({ s with frames := .revokingAudio revoked :: rest }, {})
  | .revokingAudio revoked :: rest =>
    ({ s with frames := .revoking revoked :: rest }, { observed := some (.revoked, revoked) })
  | .revoking _ :: rest =>
    ({ s with revocationInProgress := false, frames := rest }, { result := some (.done true) })

def call (s : State) : Action → State × Reply
  | .call (.beginFreshSession connectionGeneration) => s.beginFreshSession connectionGeneration
  | .call (.commitHello connectionGeneration profile owner) => s.commitHello connectionGeneration profile owner
  | .call (.advancePlaybackGeneration owner playbackGeneration) =>
    s.advancePlaybackGeneration owner playbackGeneration
  | .call (.onTransportClosed owner) => s.requestClose owner
  | .call (.requestClose owner) => s.requestClose owner
  | .call (.requestCloseGeneration connectionGeneration) => s.requestCloseGeneration connectionGeneration
  | .call (.finishClose connectionGeneration) => s.finishClose connectionGeneration
  | .callbackReturns => s.resume

end State

/-- What a step can do, and the event that it shows. -/
inductive Moves (s : State) : Option (SessionEvent × SessionSnapshot) → State → Prop
  | idle : Moves s none s
  | begun {gate : SessionGate} {n : Nat} (hgate : s.gate.beginFreshSession n = some gate) :
    Moves s none { s with gate := gate }
  | committed {gate : SessionGate} {p : SessionSnapshot}
    (hgate : s.gate.commitMedia p.transportProfile p.mediaOwner = some gate)
    (hgeneration : p.connectionGeneration = s.gate.sessionGeneration)
    (hplayback : p.playbackGeneration = gate.playbackGeneration) :
    Moves s (some (.committed, p)) { s with gate := gate, snapshot := some p, frames := .committing p :: s.frames }
  | advancing {gate : SessionGate} {p : SessionSnapshot} (howner : s.isCurrentOwner p = true)
    (hgate : s.gate.advancePlaybackGeneration p.playbackGeneration = some gate) :
    Moves s none { s with gate := gate, snapshot := some p, frames := .settingGeneration p :: s.frames }
  | advanced {p : SessionSnapshot} {rest : List Frame} (hframes : s.frames = .settingGeneration p :: rest)
    (hcurrent : s.isCurrentPlayback p = true) :
    Moves s (some (.playbackGenerationAdvanced, p)) { s with frames := .announcing p :: rest }
  | abandoned {gate : SessionGate} (hgate : s.gate.beginClose = some gate) (hsnapshot : s.snapshot = none) :
    Moves s none { s with gate := gate, closingSnapshot := none, snapshot := none }
  | revoking {gate : SessionGate} {p : SessionSnapshot} (hgate : s.gate.beginClose = some gate)
    (hsnapshot : s.snapshot = some p) :
    Moves s none
      { s with gate := gate, closingSnapshot := some p, snapshot := none, revocationInProgress := true,
               frames := .revokingTransport p :: s.frames }
  | audio {p : SessionSnapshot} {rest : List Frame} (hframes : s.frames = .revokingTransport p :: rest) :
    Moves s none { s with frames := .revokingAudio p :: rest }
  | revoked {p : SessionSnapshot} {rest : List Frame} (hframes : s.frames = .revokingAudio p :: rest) :
    Moves s (some (.revoked, p)) { s with frames := .revoking p :: rest }
  | released {p : SessionSnapshot} {rest : List Frame} (hframes : s.frames = .revoking p :: rest) :
    Moves s none { s with revocationInProgress := false, frames := rest }
  | returned {f : Frame} {rest : List Frame} (hframes : s.frames = f :: rest) (hrevokes : f.revokes = false) :
    Moves s none { s with frames := rest }
  | finished {gate : SessionGate} (hgate : s.gate.finishClose = some gate) (hfree : s.revocationInProgress = false) :
    Moves s none { s with gate := gate, closingSnapshot := none }

section
variable {s : State}

theorem moves_close {gate : SessionGate} (hgate : s.gate.beginClose = some gate) :
    Moves s (s.close gate).2.observed (s.close gate).1 := by
  rw [State.close]
  cases hsnapshot : s.snapshot with
  | none => exact .abandoned hgate hsnapshot
  | some p => exact .revoking hgate hsnapshot

theorem moves_requestClose (owner : SessionSnapshot) :
    Moves s (s.requestClose owner).2.observed (s.requestClose owner).1 := by
  rw [State.requestClose]
  split_ifs
  · exact .idle
  · exact .idle
  · split
    · exact .idle
    · exact moves_close (by assumption)

theorem moves_resume (s : State) : Moves s s.resume.2.observed s.resume.1 := by
  rw [State.resume.eq_def]
  split
  · exact .idle
  · rename_i hframes
    exact .returned hframes rfl
  · rename_i advanced rest hframes
    split_ifs with hcurrent
    · exact .returned hframes rfl
    · exact .advanced hframes (by simpa using hcurrent)
  · rename_i hframes
    exact .returned hframes rfl
  · rename_i hframes
    exact .audio hframes
  · rename_i hframes
    exact .revoked hframes
  · rename_i hframes
    exact .released hframes

theorem moves_call (s : State) (a : Action) : Moves s (s.call a).2.observed (s.call a).1 := by
  cases a with
  | callbackReturns => exact moves_resume s
  | call operation =>
    cases operation with
    | beginFreshSession n =>
      simp only [State.call, State.beginFreshSession]
      split
      · exact .idle
      · exact .begun (by assumption)
    | commitHello n profile owner =>
      simp only [State.call, State.commitHello]
      split_ifs with hn
      · exact .idle
      · split
        · exact .idle
        · rename_i gate hgate
          exact .committed hgate (not_not.mp hn).symm rfl
    | advancePlaybackGeneration owner n =>
      simp only [State.call, State.advancePlaybackGeneration]
      split_ifs with howner
      · exact .idle
      · split
        · exact .idle
        · rename_i gate hgate
          have hcurrent : s.isCurrentOwner owner = true := by simpa using howner
          exact .advancing (p := { owner with playbackGeneration := n }) hcurrent hgate
    | onTransportClosed owner => exact moves_requestClose owner
    | requestClose owner => exact moves_requestClose owner
    | requestCloseGeneration n =>
      simp only [State.call, State.requestCloseGeneration]
      split_ifs
      · exact .idle
      · exact .idle
      · exact .idle
      · split
        · exact .idle
        · exact moves_close (by assumption)
    | finishClose n =>
      simp only [State.call, State.finishClose]
      split_ifs with hblocked
      · exact .idle
      · split
        · exact .idle
        · rename_i gate hgate
          exact .finished hgate (by simpa using (not_or.mp hblocked).1)

end

end RealtimeVoice.Firmware.Session
