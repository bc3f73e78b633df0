import RealtimeVoice.Firmware.WssSession

namespace RealtimeVoice.Firmware.WssSession

open RealtimeVoice.Base RealtimeVoice.Base.Runs RealtimeVoice.Udp
open RealtimeVoice.Firmware.Control hiding fields valid

/-- What a session has accepted, by the message or by the header of the frame. -/
inductive Admitted
  | control (message : ServerMessage)
  | media (header : MediaHeader)
deriving DecidableEq

def admitted : Event → List Admitted
  | (.control message, .accepted, _) => [.control message]
  | (.media _, .accepted, some header) => [.media header]
  | _ => []

def conversation (es : List Event) : List Admitted := es.flatMap admitted

namespace Admitted

def isBegin : Admitted → Bool
  | .control (.response response) => response.type == .responseBegin
  | _ => false

def isText : Admitted → Bool
  | .control (.response response) => response.type == .responseText
  | _ => false

def isEnd : Admitted → Bool
  | .control (.response response) => response.type == .responseEnd
  | _ => false

def isClose : Admitted → Bool
  | .control (.sessionClose _) => true
  | _ => false

def isMedia : Admitted → Bool
  | .media _ => true
  | _ => false

def isFinal : Admitted → Bool
  | .control (.transcript transcript) => transcript.final
  | _ => false

def stop? : Admitted → Option PlaybackStop
  | .control (.playbackStop stop) => some stop
  | _ => none

def transcript? : Admitted → Option Transcript
  | .control (.transcript transcript) => some transcript
  | _ => none

def opened? : Admitted → Option SessionOpened
  | .control (.sessionOpened opened) => some opened
  | _ => none

/-- The response that a message makes the current one. -/
def target? : Admitted → Option ResponseTarget
  | .control (.response response) =>
    if response.type = .responseBegin then
      some { responseId := response.responseId, generation := response.generation }
    else none
  | _ => none

/-- The generation below which a message lets nothing play. -/
def raises : Admitted → Nat
  | .control (.response response) => if response.type = .responseBegin then response.generation else 0
  | .control (.playbackStop stop) => stop.fenceGeneration
  | _ => 0

end Admitted

section History

variable (h : List Admitted)

def fence : Nat := h.foldl (fun g a => max g a.raises) 0

/-- The latest response; the empty one before the first. -/
def current : ResponseTarget := h.foldl (fun target a => a.target?.getD target) { responseId := "", generation := 0 }

/-- What came since the latest response began. -/
def turn : List Admitted := since Admitted.isBegin h

/-- The transcripts of the utterance that is not final yet. -/
def utterance : List Transcript := (since Admitted.isFinal h).filterMap Admitted.transcript?

def responding : Bool := h.any Admitted.isBegin && (turn h).all (!·.isEnd)

/-- The stop of the latest response. -/
def stopOf : Option PlaybackStop := (turn h).findSome? Admitted.stop?

/-- The session has been opened with this identity, and not closed. -/
def Live (session : SessionIdentity) : Prop :=
  (∃ opened, h.head?.bind Admitted.opened? = some opened ∧ opened.session = session) ∧ h.all (!·.isClose) = true

/-- The messages that may follow a history. -/
def Allowed (requestId : String) : Admitted → Prop
  | .control (.sessionOpened opened) => h = [] ∧ opened.requestId = requestId
  | .control (.transcript transcript) =>
    Live h transcript.session ∧
      match utterance h with
      | [] => transcript.sequence = 0
      | first :: rest =>
        transcript.utteranceId = first.utteranceId ∧ transcript.sequence = (rest.length + 1) % 2 ^ 32
  | .control (.response response) =>
    Live h response.session ∧
      match response.type with
      | .responseBegin => responding h = false ∧ fence h < response.generation
      | .responseText =>
        responding h = true ∧ current h = { responseId := response.responseId, generation := response.generation } ∧
          response.sequence = (turn h).countP Admitted.isText % 2 ^ 32
      | .responseEnd =>
        responding h = true ∧ current h = { responseId := response.responseId, generation := response.generation }
  | .control (.playbackStop stop) =>
    Live h stop.session ∧ current h = stop.target ∧ parsePlaybackStopCause stop.cause ≠ .none ∧
      match stopOf h with
      | none => fence h < stop.fenceGeneration
      | some first => stop.fenceGeneration = first.fenceGeneration ∧ stop.cause = first.cause
  | .control (.sessionError error) => Live h error.session
  | .control (.sessionClose close) => Live h close.session
  | .media header =>
    (∃ opened, h.head?.bind Admitted.opened? = some opened ∧ header.mediaId = opened.mediaId ∧
      header.mediaEpoch.toNat = opened.mediaEpoch) ∧
      h.all (!·.isClose) = true ∧ responding h = true ∧ stopOf h = none ∧
      header.generation.toNat = (current h).generation ∧ header.sequence.toNat = h.countP Admitted.isMedia % 2 ^ 32

end History

section Snoc

variable (h : List Admitted) (a : Admitted)

theorem fence_snoc : fence (h ++ [a]) = max (fence h) a.raises := by
  rw [fence, List.foldl_append]
  rfl

theorem current_snoc : current (h ++ [a]) = a.target?.getD (current h) := by
  rw [current, List.foldl_append]
  rfl

theorem turn_snoc : turn (h ++ [a]) = if a.isBegin then [] else turn h ++ [a] := since_snoc _ h a

theorem utterance_snoc :
    utterance (h ++ [a]) = if a.isFinal then [] else utterance h ++ a.transcript?.toList := by
  rw [utterance, since_snoc]
  split
  · rfl
  · rw [List.filterMap_append, utterance, List.filterMap_cons]
    cases a.transcript? <;> rfl

theorem responding_snoc :
    responding (h ++ [a]) = (a.isBegin || (responding h && !a.isEnd)) := by
  rw [responding, turn_snoc, List.any_append, responding, List.any_cons, List.any_nil]
  cases a.isBegin with
  | true => simp
  | false => simp [Bool.and_assoc]

theorem stopOf_snoc : stopOf (h ++ [a]) = if a.isBegin then none else (stopOf h).or a.stop? := by
  rw [stopOf, turn_snoc]
  split
  · rfl
  · rw [List.findSome?_append, stopOf, List.findSome?_cons]
    cases a.stop? <;> rfl

theorem opening_snoc (hne : h ≠ []) : (h ++ [a]).head?.bind Admitted.opened? = h.head?.bind Admitted.opened? := by
  rw [List.head?_append_of_ne_nil _ hne]

end Snoc

/-- What a session knows of its opening, its closing and its media. -/
structure Identity (requestId : String) (h : List Admitted) (s : WssSession) : Prop where
  request : s.openRequestId = requestId
  opened : s.opened = !h.isEmpty
  opening : h ≠ [] → ∃ o, h.head?.bind Admitted.opened? = some o ∧ o.session = s.session ∧ o.mediaId = s.mediaId ∧
    o.mediaEpoch = s.mediaEpoch
  closed : s.closed = h.any Admitted.isClose
  media : s.nextMediaSequence = h.countP Admitted.isMedia % 2 ^ 32

/-- What a session knows of the latest response. -/
structure Turn (h : List Admitted) (s : WssSession) : Prop where
  fence : s.playbackFence = fence h
  target : current h = { responseId := s.responseId, generation := s.responseGeneration }
  texts : s.responseActive = true → s.nextResponseTextSequence = (turn h).countP Admitted.isText % 2 ^ 32
  responding : s.closed = false → s.responseActive = responding h
  playing : s.closed = false → s.mediaActive = (s.responseActive && !s.stopRecorded)
  stop : match stopOf h with
    | none => s.stopRecorded = false
    | some stop => s.stopRecorded = true ∧ s.lastStopFenceGeneration = stop.fenceGeneration ∧
      s.lastStopCause = parsePlaybackStopCause stop.cause ∧ s.lastStopFenceGeneration ≤ s.playbackFence
  level : s.responseActive = true → s.stopRecorded = false → s.playbackFence = s.responseGeneration

/-- What a session knows of the utterance that is not final. -/
def Hears (transcripts : List Transcript) (active : Bool) (utteranceId : String) (next : Nat) : Prop :=
  match transcripts with
  | [] => active = false
  | first :: rest => active = true ∧ utteranceId = first.utteranceId ∧ next = (rest.length + 1) % 2 ^ 32

theorem Hears.snoc {transcripts : List Transcript} {utteranceId : String} {next : Nat}
    (h : Hears transcripts true utteranceId next) (transcript : Transcript) :
    Hears (transcripts ++ [transcript]) true utteranceId (increment next) := by
  cases transcripts with
  | nil => cases h
  | cons first rest =>
    obtain ⟨-, hid, rfl⟩ := h
    refine ⟨rfl, hid, ?_⟩
    change _ = ((rest ++ [transcript]).length + 1) % 2 ^ 32
    rw [increment_mod, List.length_append]
    rfl

/-- A session stands where its history has brought it. -/
structure Tracks (requestId : String) (h : List Admitted) (s : WssSession) : Prop where
  identity : Identity requestId h s
  turn : Turn h s
  utterance : s.closed = false → Hears (utterance h) s.utteranceActive s.utteranceId s.nextTranscriptSequence

theorem tracks_init (requestId : String) : Tracks requestId [] { openRequestId := requestId } where
  identity := by constructor <;> simp
  turn := by constructor <;> simp [WssSession.fence, current, WssSession.turn, responding, stopOf, since]
  utterance _ := rfl

section Aside

variable {h : List Admitted} {s : WssSession} {a : Admitted}

/-- What is neither a response's message nor a stop. -/
structure Admitted.Aside (a : Admitted) : Prop where
  begin : a.isBegin = false
  text : a.isText = false
  «end» : a.isEnd = false
  stop : a.stop? = none
  target : a.target? = none
  raises : a.raises = 0

theorem Turn.aside (ht : Turn h s) (ha : a.Aside) (media transcript : Nat) (utteranceId : String) (active : Bool) :
    Turn (h ++ [a]) { s with
      nextMediaSequence := media, nextTranscriptSequence := transcript, utteranceId, utteranceActive := active } where
  fence := by
    rw [fence_snoc, ha.raises, Nat.max_zero]
    exact ht.fence
  target := by
    rw [current_snoc, ha.target]
    exact ht.target
  texts hactive := by
    rw [turn_snoc, if_neg (by simp [ha.begin]), List.countP_append, List.countP_singleton, if_neg (by simp [ha.text])]
    exact ht.texts hactive
  responding hclosed := by
    rw [responding_snoc, ha.begin, ha.end, Bool.false_or, Bool.not_false, Bool.and_true]
    exact ht.responding hclosed
  playing := ht.playing
  stop := by
    rw [stopOf_snoc, if_neg (by simp [ha.begin]), ha.stop, Option.or_none]
    exact ht.stop
  level := ht.level

theorem Identity.snoc {requestId : String} {s' : WssSession} (ht : Identity requestId h s) (hne : h ≠ [])
    (hsame : s'.openRequestId = s.openRequestId ∧ s'.opened = s.opened ∧ s'.session = s.session ∧
      s'.mediaId = s.mediaId ∧ s'.mediaEpoch = s.mediaEpoch)
    (hclosed : s'.closed = (s.closed || a.isClose))
    (hmedia : s'.nextMediaSequence = if a.isMedia then increment s.nextMediaSequence else s.nextMediaSequence) :
    Identity requestId (h ++ [a]) s' := by
  obtain ⟨hrequest, hopened, hsession, hid, hepoch⟩ := hsame
  constructor
  · exact hrequest.trans ht.request
  · rw [hopened, ht.opened]
    simp [List.isEmpty_eq_false_iff.mpr hne]
  · intro _
    rw [opening_snoc _ _ hne, hsession, hid, hepoch]
    exact ht.opening hne
  · rw [hclosed, ht.closed]
    simp
  · rw [hmedia, ht.media, List.countP_append, List.countP_singleton]
    split
    · exact increment_mod _
    · rfl

theorem hears_aside (hfinal : a.isFinal = false) (htranscript : a.transcript? = none) :
    utterance (h ++ [a]) = utterance h := by
  rw [utterance_snoc, if_neg (by simp [hfinal]), htranscript, Option.toList_none, List.append_nil]

end Aside

section Step

variable {requestId : String} {h : List Admitted} {s : WssSession} (ht : Tracks requestId h s)

include ht

theorem live_iff (session : SessionIdentity) :
    Live h session ↔ s.opened = true ∧ s.session = session ∧ s.closed = false := by
  have hall : h.all (!·.isClose) = true ↔ s.closed = false := by
    rw [ht.identity.closed, List.all_eq_true, List.any_eq_false]
    simp
  rw [Live, hall, ht.identity.opened]
  by_cases hne : h = []
  · simp [hne]
  · obtain ⟨o, ho, hsession, -⟩ := ht.identity.opening hne
    simp [ho, hsession, hne]

omit ht in
theorem sessionMatches_iff (session : SessionIdentity) :
    s.sessionMatches session = true ↔ s.opened = true ∧ s.session = session := by
  rw [sessionMatches, Bool.and_eq_true, Bool.and_eq_true, beq_iff_eq, beq_iff_eq]
  constructor
  · rintro ⟨⟨ho, hid⟩, hepoch⟩
    refine ⟨ho, ?_⟩
    cases session
    cases hs : s.session
    simp_all
  · rintro ⟨ho, rfl⟩
    exact ⟨⟨ho, rfl⟩, rfl⟩

/-- How a session that stands at the end of a history takes the next message. -/
inductive Verdict (requestId : String) (h : List Admitted) (s : WssSession) (a : Admitted) :
    WssSession × AdmissionResult → Prop
  | accepted {s' : WssSession} : Allowed h requestId a → Tracks requestId (h ++ [a]) s' →
      Verdict requestId h s a (s', .accepted)
  | refused {result : AdmissionResult} : ¬Allowed h requestId a → result ≠ .accepted →
      Verdict requestId h s a (s, result)

theorem acceptOpened_verdict (opened : SessionOpened) (hclosed : s.closed = false) :
    Verdict requestId h s (.control (.sessionOpened opened)) (s.acceptOpened opened) := by
  have hopen := ht.identity.opened
  rw [acceptOpened]
  split
  · rename_i hopened
    refine .refused ?_ (by simp)
    rintro ⟨rfl, -⟩
    simp [hopen] at hopened
  rename_i hopened
  obtain rfl : h = [] := by simpa [hopen] using hopened
  split
  · rename_i hrequest
    refine .refused ?_ (by simp)
    rintro ⟨-, hsame⟩
    exact hrequest (hsame.trans ht.identity.request.symm)
  · rename_i hrequest
    refine .accepted ⟨rfl, (not_not.mp hrequest).trans ht.identity.request⟩ ⟨?_, ?_, fun _ => ht.utterance hclosed⟩
    · exact ⟨ht.identity.request, rfl, fun _ => ⟨opened, rfl, rfl, rfl, rfl⟩, hclosed, ht.identity.media⟩
    · exact ⟨ht.turn.fence, ht.turn.target, ht.turn.texts, fun _ => ht.turn.responding hclosed,
        fun _ => ht.turn.playing hclosed, ht.turn.stop, ht.turn.level⟩

/-- The checks that every message but the first goes through. -/
theorem verdict_of_session {a : Admitted} {session : SessionIdentity} {x : WssSession × AdmissionResult}
    (hallowed : Allowed h requestId a → Live h session)
    (hx : h ≠ [] → (s.closed = false → Live h session) → Verdict requestId h s a x) :
    Verdict requestId h s a (if !s.opened then (s, .sessionNotOpen)
      else if !s.sessionMatches session then (s, .staleSession)
      else x) := by
  have hlive := live_iff ht session
  split
  · rename_i hopened
    refine .refused (fun ha => ?_) (by simp)
    simp [(hlive.mp (hallowed ha)).1] at hopened
  rename_i hopened
  rw [Bool.not_eq_true, Bool.not_eq_false'] at hopened
  split
  · rename_i hmatch
    refine .refused (fun ha => ?_) (by simp)
    simp [(sessionMatches_iff session).mpr ⟨hopened, (hlive.mp (hallowed ha)).2.1⟩] at hmatch
  · rename_i hmatch
    rw [Bool.not_eq_true, Bool.not_eq_false', sessionMatches_iff] at hmatch
    refine hx ?_ fun hclosed => hlive.mpr ⟨hopened, hmatch.2, hclosed⟩
    simpa [ht.identity.opened] using hopened

theorem acceptError_verdict (error : SessionError) (hclosed : s.closed = false) :
    Verdict requestId h s (.control (.sessionError error)) (s.acceptError error) := by
  refine verdict_of_session ht id fun hne hlive => .accepted (hlive hclosed) ⟨?_, ?_, fun _ => ?_⟩
  · exact ht.identity.snoc hne ⟨rfl, rfl, rfl, rfl, rfl⟩ (Bool.or_false _).symm rfl
  · exact ht.turn.aside (by constructor <;> rfl) _ _ _ _
  · rw [hears_aside rfl rfl]
    exact ht.utterance hclosed

theorem acceptClose_verdict (close : SessionClose) (hclosed : s.closed = false) :
    Verdict requestId h s (.control (.sessionClose close)) (s.acceptClose close) := by
  refine verdict_of_session ht id fun hne hlive => .accepted (hlive hclosed) ⟨?_, ?_, fun h => by cases h⟩
  · exact ht.identity.snoc hne ⟨rfl, rfl, rfl, rfl, rfl⟩ (Bool.or_true _).symm rfl
  · have haside := ht.turn.aside (a := .control (.sessionClose close)) (by constructor <;> rfl) 0 0 "" false
    have hno : ∀ {p : Prop}, false = true → p := fun h => by cases h
    exact ⟨haside.fence, haside.target, hno, fun h => (by cases h), fun h => (by cases h), haside.stop, hno⟩

theorem tracks_transcript {transcript : Transcript} (hne : h ≠ []) {next : Nat} {utteranceId : String} {active : Bool}
    (hactive : active = !transcript.final)
    (hhears : transcript.final = false → Hears (utterance h ++ [transcript]) active utteranceId next) :
    Tracks requestId (h ++ [.control (.transcript transcript)])
      { s with nextTranscriptSequence := next, utteranceId, utteranceActive := active } := by
  refine ⟨ht.identity.snoc hne ⟨rfl, rfl, rfl, rfl, rfl⟩ (Bool.or_false _).symm rfl,
    ht.turn.aside (by constructor <;> rfl) _ _ _ _, fun _ => ?_⟩
  rw [utterance_snoc]
  split
  · rename_i hfinal
    exact hactive.trans (by rw [show transcript.final = true from hfinal]; rfl)
  · rename_i hfinal
    exact hhears ((Bool.not_eq_true _).mp hfinal)

theorem acceptTranscript_verdict (transcript : Transcript) (hclosed : s.closed = false) :
    Verdict requestId h s (.control (.transcript transcript)) (s.acceptTranscript transcript) := by
  refine verdict_of_session ht And.left fun hne hlive => ?_
  have hears := ht.utterance hclosed
  cases hu : utterance h with
  | nil =>
    rw [hu] at hears
    obtain hears : s.utteranceActive = false := hears
    simp only [hears, Bool.not_false, Bool.true_and, bne_iff_ne, ne_eq, Bool.false_eq_true, if_false, not_true,
      false_or]
    by_cases hzero : transcript.sequence = 0
    · rw [if_neg (not_not.mpr hzero), if_neg (not_not.mpr hzero)]
      refine .accepted ⟨hlive hclosed, by rw [hu]; exact hzero⟩ ?_
      have hfirst : Hears (utterance h ++ [transcript]) true transcript.utteranceId (increment 0) := by
        rw [hu]
        exact ⟨rfl, rfl, rfl⟩
      split
      · rename_i hfinal
        exact tracks_transcript ht hne (by rw [hfinal]; rfl) (fun hnot => absurd (hfinal.symm.trans hnot) (by simp))
      · rename_i hfinal
        rw [Bool.not_eq_true] at hfinal
        exact tracks_transcript ht hne (by rw [hfinal]; rfl) (fun _ => hfirst)
    · rw [if_pos hzero]
      refine .refused (fun ha => hzero ?_) (by simp)
      simpa only [Allowed, hu] using ha.2
  | cons first rest =>
    rw [hu] at hears
    obtain ⟨hactive, hid, hnext⟩ := hears
    simp only [hactive, Bool.not_true, Bool.false_and, Bool.false_eq_true, if_false, if_true]
    by_cases hsame : transcript.utteranceId = s.utteranceId ∧ transcript.sequence = s.nextTranscriptSequence
    · rw [if_neg (by simp [hsame.1, hsame.2])]
      refine .accepted ⟨hlive hclosed, ?_⟩ ?_
      · rw [hu]
        exact ⟨hsame.1.trans hid, hsame.2.trans hnext⟩
      · have hnow : Hears (utterance h) true s.utteranceId s.nextTranscriptSequence := by
          rw [hu]
          exact ⟨rfl, hid, hnext⟩
        split
        · rename_i hfinal
          exact tracks_transcript ht hne (by rw [hfinal]; rfl)
            (fun hnot => absurd (hfinal.symm.trans hnot) (by simp))
        · rename_i hfinal
          rw [Bool.not_eq_true] at hfinal
          exact tracks_transcript ht hne (by rw [hfinal]; rfl) (fun _ => hnow.snoc transcript)
    · rw [if_pos (by rw [not_and_or] at hsame; exact hsame)]
      refine .refused (fun ha => hsame ?_) (by simp)
      have hmatch := ha.2
      rw [hu] at hmatch
      exact ⟨hmatch.1.trans hid.symm, hmatch.2.trans hnext.symm⟩

theorem tracks_response {response : ResponseEvent} {s' : WssSession} (hclosed : s.closed = false)
    (hne : h ≠ []) (hturn : Turn (h ++ [.control (.response response)]) s')
    (hs : s' = { s with
      playbackFence := s'.playbackFence
      nextResponseTextSequence := s'.nextResponseTextSequence
      responseId := s'.responseId
      responseGeneration := s'.responseGeneration
      lastStopFenceGeneration := s'.lastStopFenceGeneration
      lastStopCause := s'.lastStopCause
      responseActive := s'.responseActive
      mediaActive := s'.mediaActive
      stopRecorded := s'.stopRecorded }) :
    Tracks requestId (h ++ [.control (.response response)]) s' := by
  refine ⟨?_, hturn, fun _ => ?_⟩
  · rw [hs]
    exact ht.identity.snoc hne ⟨rfl, rfl, rfl, rfl, rfl⟩ (Bool.or_false _).symm rfl
  · rw [hears_aside rfl rfl, hs]
    exact ht.utterance hclosed

omit ht in
theorem Turn.begin (ht : Turn h s) {response : ResponseEvent} (htype : response.type = .responseBegin)
    (hfence : s.playbackFence < response.generation) :
    Turn (h ++ [.control (.response response)]) { s with
      playbackFence := response.generation
      responseGeneration := response.generation
      responseId := response.responseId
      nextResponseTextSequence := 0
      responseActive := true
      mediaActive := true
      stopRecorded := false
      lastStopFenceGeneration := 0
      lastStopCause := .none } := by
  have hbegin : Admitted.isBegin (.control (.response response)) = true := beq_iff_eq.mpr htype
  constructor
  · rw [fence_snoc, Admitted.raises, if_pos htype, ← ht.fence, Nat.max_eq_right hfence.le]
  · rw [current_snoc, Admitted.target?, if_pos htype]
    rfl
  · intro _
    rw [turn_snoc, if_pos hbegin]
    rfl
  · intro _
    rw [responding_snoc, hbegin]
    rfl
  · exact fun _ => rfl
  · rw [stopOf_snoc, if_pos hbegin]
  · exact fun _ _ => rfl

omit ht in
theorem Turn.text (ht : Turn h s) {response : ResponseEvent} (htype : response.type = .responseText)
    (hactive : s.responseActive = true) :
    Turn (h ++ [.control (.response response)])
      { s with nextResponseTextSequence := increment s.nextResponseTextSequence } := by
  have hbegin : Admitted.isBegin (.control (.response response)) = false := by rw [Admitted.isBegin, htype]; rfl
  have hend : Admitted.isEnd (.control (.response response)) = false := by rw [Admitted.isEnd, htype]; rfl
  have htext : Admitted.isText (.control (.response response)) = true := beq_iff_eq.mpr htype
  have hstop : Admitted.stop? (.control (.response response)) = none := rfl
  constructor
  · rw [fence_snoc, Admitted.raises, if_neg (by rw [htype]; simp), Nat.max_zero]
    exact ht.fence
  · rw [current_snoc, Admitted.target?, if_neg (by rw [htype]; simp)]
    exact ht.target
  · intro _
    rw [turn_snoc, if_neg (by simp [hbegin]), List.countP_append, List.countP_singleton, if_pos htext, ht.texts hactive,
      increment_mod]
  · intro hclosed
    rw [responding_snoc, hbegin, hend, Bool.false_or, Bool.not_false, Bool.and_true]
    exact ht.responding hclosed
  · exact ht.playing
  · rw [stopOf_snoc, if_neg (by simp [hbegin]), hstop, Option.or_none]
    exact ht.stop
  · exact ht.level

omit ht in
theorem Turn.end (ht : Turn h s) {response : ResponseEvent} (htype : response.type = .responseEnd) :
    Turn (h ++ [.control (.response response)]) { s with responseActive := false, mediaActive := false } := by
  have hbegin : Admitted.isBegin (.control (.response response)) = false := by rw [Admitted.isBegin, htype]; rfl
  have hend : Admitted.isEnd (.control (.response response)) = true := beq_iff_eq.mpr htype
  have hstop : Admitted.stop? (.control (.response response)) = none := rfl
  constructor
  · rw [fence_snoc, Admitted.raises, if_neg (by rw [htype]; simp), Nat.max_zero]
    exact ht.fence
  · rw [current_snoc, Admitted.target?, if_neg (by rw [htype]; simp)]
    exact ht.target
  · exact fun h => by cases h
  · intro _
    rw [responding_snoc, hbegin, hend, Bool.false_or, Bool.not_true, Bool.and_false]
  · exact fun _ => rfl
  · rw [stopOf_snoc, if_neg (by simp [hbegin]), hstop, Option.or_none]
    exact ht.stop
  · exact fun h => by cases h

/-- The checks that every message of a response but its first goes through. -/
theorem verdict_of_target {response : ResponseEvent} {x : WssSession × AdmissionResult} (hclosed : s.closed = false)
    (hallowed : Allowed h requestId (.control (.response response)) → responding h = true ∧
      current h = { responseId := response.responseId, generation := response.generation })
    (hx : s.responseActive = true → responding h = true →
      current h = { responseId := response.responseId, generation := response.generation } →
      Verdict requestId h s (.control (.response response)) x) :
    Verdict requestId h s (.control (.response response)) (if !s.responseActive then (s, .responseAlreadyTerminal)
      else if response.responseId ≠ s.responseId ∨ response.generation ≠ s.responseGeneration then
        (s, if response.generation < s.playbackFence then .staleGeneration else .cancelTargetMismatch)
      else x) := by
  have hresponding := ht.turn.responding hclosed
  have htarget := ht.turn.target
  split
  · rename_i hactive
    refine .refused (fun ha => ?_) (by simp)
    simp [hresponding, (hallowed ha).1] at hactive
  rename_i hactive
  rw [Bool.not_eq_true, Bool.not_eq_false'] at hactive
  split
  · rename_i hother
    refine .refused (fun ha => ?_) (by split <;> simp)
    have hsame := htarget.symm.trans (hallowed ha).2
    simp only [ResponseTarget.mk.injEq] at hsame
    exact hother.elim (fun hne => hne hsame.1.symm) fun hne => hne hsame.2.symm
  · rename_i hother
    rw [not_or, not_not, not_not] at hother
    refine hx hactive (hresponding.symm.trans hactive) ?_
    rw [htarget, hother.1, hother.2]

theorem acceptResponse_verdict (response : ResponseEvent) (hclosed : s.closed = false) :
    Verdict requestId h s (.control (.response response)) (s.acceptResponse response) := by
  refine verdict_of_session ht And.left fun hne hlive => ?_
  have hresponding := ht.turn.responding hclosed
  cases htype : response.type with
  | responseBegin =>
    rw [if_pos rfl]
    split
    · rename_i hactive
      refine .refused (fun ha => ?_) (by simp)
      simp only [Allowed, htype] at ha
      simp [hresponding, ha.2.1] at hactive
    rename_i hactive
    split
    · rename_i hstale
      refine .refused (fun ha => ?_) (by simp)
      simp only [Allowed, htype] at ha
      rw [ht.turn.fence] at hstale
      omega
    · rename_i hstale
      refine .accepted ?_ (tracks_response ht hclosed hne ?_ rfl)
      · simp only [Allowed, htype]
        refine ⟨hlive hclosed, ?_, ?_⟩
        · rw [← hresponding]
          simpa using hactive
        · rw [ht.turn.fence] at hstale
          omega
      · exact ht.turn.begin htype (not_le.mp hstale)
  | responseText =>
    rw [if_neg (by simp)]
    refine verdict_of_target ht hclosed (fun ha => ?_) fun hactive hanswers htarget => ?_
    · simp only [Allowed, htype] at ha
      exact ⟨ha.2.1, ha.2.2.1⟩
    rw [if_pos rfl]
    have htexts := ht.turn.texts hactive
    split
    · rename_i hsequence
      refine .refused (fun ha => hsequence ?_) (by simp)
      simp only [Allowed, htype] at ha
      exact ha.2.2.2.trans htexts.symm
    · rename_i hsequence
      refine .accepted ?_ (tracks_response ht hclosed hne (ht.turn.text htype hactive) rfl)
      simp only [Allowed, htype]
      exact ⟨hlive hclosed, hanswers, htarget, (not_not.mp hsequence).trans htexts⟩
  | responseEnd =>
    rw [if_neg (by simp)]
    refine verdict_of_target ht hclosed (fun ha => ?_) fun hactive hanswers htarget => ?_
    · simp only [Allowed, htype] at ha
      exact ⟨ha.2.1, ha.2.2⟩
    rw [if_neg (by simp)]
    refine .accepted ?_ (tracks_response ht hclosed hne (ht.turn.end htype) rfl)
    simp only [Allowed, htype]
    exact ⟨hlive hclosed, hanswers, htarget⟩

omit ht in
theorem parsePlaybackStopCause_inj {cause other : String} (h : parsePlaybackStopCause cause = parsePlaybackStopCause other)
    (hne : parsePlaybackStopCause cause ≠ .none) : cause = other := by
  have hcause : ∀ c, parsePlaybackStopCause c ≠ .none → c = match parsePlaybackStopCause c with
      | .explicitUserRequest => "explicit_user_request"
      | .recognizedInterrupt => "recognized_interrupt"
      | .sessionClose => "session_close"
      | .responseFailed => "response_failed"
      | .none => "" := by
    intro c hc
    rw [parsePlaybackStopCause] at hc ⊢
    split_ifs at hc ⊢ with h1 h2 h3 h4
    · exact h1
    · exact h2
    · exact h3
    · exact h4
    · exact absurd rfl hc
  rw [hcause cause hne, hcause other (h ▸ hne), h]

omit ht in
/-- A stop that is repeated. -/
theorem Turn.stopAgain (ht : Turn h s) {stop first : PlaybackStop} (hfirst : stopOf h = some first)
    (hfence : stop.fenceGeneration = s.lastStopFenceGeneration) : Turn (h ++ [.control (.playbackStop stop)]) s := by
  have hstop := ht.stop
  rw [hfirst] at hstop
  obtain ⟨hrecorded, hlast, hcause, hle⟩ := hstop
  constructor
  · rw [fence_snoc, ← ht.fence, Admitted.raises, hfence, Nat.max_eq_left hle]
  · rw [current_snoc]
    exact ht.target
  · intro hactive
    rw [turn_snoc, if_neg (by simp [Admitted.isBegin]), List.countP_append, List.countP_singleton,
      if_neg (by simp [Admitted.isText])]
    exact ht.texts hactive
  · intro hclosed
    rw [responding_snoc]
    simpa [Admitted.isBegin, Admitted.isEnd] using ht.responding hclosed
  · exact ht.playing
  · rw [stopOf_snoc, if_neg (by simp [Admitted.isBegin]), hfirst]
    exact ⟨hrecorded, hlast, hcause, hle⟩
  · exact ht.level

omit ht in
/-- The first stop of a response. -/
theorem Turn.stopFirst (ht : Turn h s) {stop : PlaybackStop} (hfirst : stopOf h = none)
    (hfence : s.playbackFence < stop.fenceGeneration) :
    Turn (h ++ [.control (.playbackStop stop)]) { s with
      playbackFence := stop.fenceGeneration
      lastStopFenceGeneration := stop.fenceGeneration
      lastStopCause := parsePlaybackStopCause stop.cause
      stopRecorded := true
      mediaActive := false } := by
  constructor
  · rw [fence_snoc, ← ht.fence, Admitted.raises, Nat.max_eq_right hfence.le]
  · rw [current_snoc]
    exact ht.target
  · intro hactive
    rw [turn_snoc, if_neg (by simp [Admitted.isBegin]), List.countP_append, List.countP_singleton,
      if_neg (by simp [Admitted.isText])]
    exact ht.texts hactive
  · intro hclosed
    rw [responding_snoc]
    simpa [Admitted.isBegin, Admitted.isEnd] using ht.responding hclosed
  · exact fun _ => (Bool.and_false _).symm
  · rw [stopOf_snoc, if_neg (by simp [Admitted.isBegin]), hfirst]
    exact ⟨rfl, rfl, rfl, le_rfl⟩
  · exact fun _ h => by cases h

theorem tracks_stop {stop : PlaybackStop} {s' : WssSession} (hclosed : s.closed = false)
    (hne : h ≠ []) (hturn : Turn (h ++ [.control (.playbackStop stop)]) s')
    (hs : s' = { s with
      playbackFence := s'.playbackFence
      lastStopFenceGeneration := s'.lastStopFenceGeneration
      lastStopCause := s'.lastStopCause
      mediaActive := s'.mediaActive
      stopRecorded := s'.stopRecorded }) :
    Tracks requestId (h ++ [.control (.playbackStop stop)]) s' := by
  refine ⟨?_, hturn, fun _ => ?_⟩
  · rw [hs]
    exact ht.identity.snoc hne ⟨rfl, rfl, rfl, rfl, rfl⟩ (Bool.or_false _).symm rfl
  · rw [hears_aside rfl rfl, hs]
    exact ht.utterance hclosed

theorem acceptPlaybackStop_verdict (stop : PlaybackStop) (hclosed : s.closed = false) :
    Verdict requestId h s (.control (.playbackStop stop)) (s.acceptPlaybackStop stop) := by
  refine verdict_of_session ht And.left fun hne hlive => ?_
  have htarget := ht.turn.target
  split
  · rename_i hother
    refine .refused (fun ha => ?_) (by split <;> simp)
    have hsame := htarget.symm.trans ha.2.1
    rw [← hsame] at hother
    exact hother.elim (fun hne => hne rfl) fun hne => hne rfl
  rename_i hother
  rw [not_or, not_not, not_not] at hother
  have hcurrent : current h = stop.target := by rw [htarget, ← hother.1, ← hother.2]
  dsimp only
  split
  · rename_i hcause
    exact .refused (fun ha => ha.2.2.1 hcause) (by simp)
  rename_i hcause
  have hstop := ht.turn.stop
  cases hfirst : stopOf h with
  | some first =>
    rw [hfirst] at hstop
    obtain ⟨hrecorded, hlast, hlastCause, hle⟩ := hstop
    rw [if_pos hrecorded]
    split
    · rename_i hsame
      refine .accepted ⟨hlive hclosed, hcurrent, hcause, ?_⟩
        (tracks_stop ht hclosed hne (ht.turn.stopAgain hfirst hsame.1) rfl)
      rw [hfirst]
      exact ⟨hsame.1.trans hlast, parsePlaybackStopCause_inj (hsame.2.trans hlastCause) hcause⟩
    · rename_i hsame
      refine .refused (fun ha => hsame ?_) (by simp)
      have hmatch := ha.2.2.2
      rw [hfirst] at hmatch
      exact ⟨hmatch.1.trans hlast.symm, by rw [hlastCause, hmatch.2]⟩
  | none =>
    rw [hfirst] at hstop
    obtain hstop : s.stopRecorded = false := hstop
    rw [if_neg (by simp [hstop])]
    split
    · rename_i hstale
      refine .refused (fun ha => ?_) (by simp)
      have hmatch := ha.2.2.2
      rw [hfirst, ← ht.turn.fence] at hmatch
      exact absurd hmatch (not_lt.mpr hstale)
    · rename_i hstale
      refine .accepted ⟨hlive hclosed, hcurrent, hcause, ?_⟩
        (tracks_stop ht hclosed hne (ht.turn.stopFirst hfirst (not_le.mp hstale)) rfl)
      rw [hfirst, ← ht.turn.fence]
      exact not_le.mp hstale

/-- What an input carries for a session to accept. -/
def Carries : Input → Admitted → Prop
  | .control message, a => a = .control message
  | .media frame, a =>
    ∃ header, MediaHeader.parse frame .downlink = .ok header ∧ header.flags = 0x01 ∧ a = .media header

/-- The reply to an input, after a history. -/
inductive Outcome (requestId : String) (h : List Admitted) (s : WssSession) (input : Input) : WssSession × Reply → Prop
  | accepted {a : Admitted} {s' : WssSession} {header : Option MediaHeader} : Carries input a → Allowed h requestId a →
      Tracks requestId (h ++ [a]) s' → admitted (input, .accepted, header) = [a] →
      Outcome requestId h s input (s', .accepted, header)
  | refused {result : AdmissionResult} : (∀ a, Carries input a → ¬Allowed h requestId a) → result ≠ .accepted →
      Outcome requestId h s input (s, result, none)

/-- Nothing may follow the end of a session. -/
theorem not_allowed_closed (hclosed : s.closed = true) (a : Admitted) : ¬Allowed h requestId a := by
  have hdead : ∀ session, ¬Live h session := by
    intro session hlive
    obtain ⟨-, -, hopen⟩ := (live_iff ht session).mp hlive
    exact absurd (hclosed.symm.trans hopen) (by simp)
  have hany : h.any Admitted.isClose = true := ht.identity.closed.symm.trans hclosed
  intro ha
  cases a with
  | media header =>
    obtain ⟨-, hall, -⟩ := ha
    rw [List.all_eq_true] at hall
    obtain ⟨m, hm, hclose⟩ := List.any_eq_true.mp hany
    simpa [hclose] using hall m hm
  | control message =>
    cases message with
    | sessionOpened opened =>
      rw [ha.1] at hany
      simp at hany
    | transcript transcript => exact hdead _ ha.1
    | response response => exact hdead _ ha.1
    | playbackStop stop => exact hdead _ ha.1
    | sessionError error => exact hdead _ ha
    | sessionClose close => exact hdead _ ha

theorem accept_verdict (message : ServerMessage) : Verdict requestId h s (.control message) (s.accept message) := by
  rw [accept.eq_def]
  split
  · rename_i hclosed
    exact .refused (not_allowed_closed ht hclosed _) (by simp)
  rename_i hclosed
  rw [Bool.not_eq_true] at hclosed
  cases message with
  | sessionOpened opened => exact acceptOpened_verdict ht opened hclosed
  | transcript transcript => exact acceptTranscript_verdict ht transcript hclosed
  | response response => exact acceptResponse_verdict ht response hclosed
  | playbackStop stop => exact acceptPlaybackStop_verdict ht stop hclosed
  | sessionError error => exact acceptError_verdict ht error hclosed
  | sessionClose close => exact acceptClose_verdict ht close hclosed

theorem acceptMedia_outcome (frame : Bytes) : Outcome requestId h s (.media frame) (s.acceptMedia frame) := by
  rw [acceptMedia]
  split
  · rename_i hclosed
    exact .refused (fun a _ => not_allowed_closed ht hclosed a) (by simp)
  rename_i hclosed
  rw [Bool.not_eq_true] at hclosed
  split
  · rename_i hopened
    refine .refused ?_ (by simp)
    rintro _ ⟨header, -, -, rfl⟩ ⟨⟨opened, hopening, -⟩, -⟩
    have hempty : h = [] := by simpa [ht.identity.opened] using hopened
    rw [hempty] at hopening
    cases hopening
  rename_i hopened
  rw [Bool.not_eq_true, Bool.not_eq_false'] at hopened
  have hne : h ≠ [] := by simpa [ht.identity.opened] using hopened
  obtain ⟨opened, hopening, -, hmediaId, hmediaEpoch⟩ := ht.identity.opening hne
  cases hparse : MediaHeader.parse frame .downlink with
  | error e =>
    refine .refused ?_ (by simp)
    rintro _ ⟨header, hheader, -⟩
    cases hparse.symm.trans hheader
  | ok parsed =>
    dsimp only
    split
    · rename_i hflags
      refine .refused ?_ (by simp)
      rintro _ ⟨header, hheader, hflag, -⟩
      obtain rfl := Except.ok.inj (hparse.symm.trans hheader)
      exact absurd hflag hflags
    rename_i hflags
    have hcarries : ∀ a, Carries (.media frame) a → a = .media parsed := by
      rintro _ ⟨header, hheader, -, rfl⟩
      rw [Except.ok.inj (hparse.symm.trans hheader)]
    split
    · rename_i hother
      refine .refused (fun a ha hallowed => ?_) (by simp)
      rw [hcarries a ha] at hallowed
      obtain ⟨⟨o, ho, hid, hepoch⟩, -⟩ := hallowed
      obtain rfl := Option.some.inj (hopening.symm.trans ho)
      exact hother.elim (fun hne => hne (hid.trans hmediaId)) fun hne => hne (hepoch.trans hmediaEpoch)
    rename_i hsame
    rw [not_or, not_not, not_not] at hsame
    have hplaying := ht.turn.playing hclosed
    have hresponding := ht.turn.responding hclosed
    have htarget := ht.turn.target
    have hstop := ht.turn.stop
    have hactive : s.mediaActive = true ↔ responding h = true ∧ stopOf h = none := by
      rw [hplaying, Bool.and_eq_true, hresponding, Bool.not_eq_true']
      refine and_congr_right fun _ => ?_
      cases hfirst : stopOf h with
      | none =>
        rw [hfirst] at hstop
        exact iff_of_true hstop rfl
      | some first =>
        rw [hfirst] at hstop
        simp [hstop.1]
    split
    · rename_i hstale
      refine .refused (fun a ha hallowed => ?_) (by simp)
      rw [hcarries a ha] at hallowed
      obtain ⟨-, -, hanswers, hfirst, hgeneration, -⟩ := hallowed
      have hmedia := hactive.mpr ⟨hanswers, hfirst⟩
      rw [hfirst] at hstop
      have hlevel := ht.turn.level (hresponding.trans hanswers) hstop
      rw [htarget] at hgeneration
      dsimp only at hgeneration
      rw [hmedia] at hstale
      simp [hgeneration, hlevel] at hstale
    rename_i hcurrent
    rw [not_or, not_or, Bool.not_eq_false, not_not] at hcurrent
    obtain ⟨-, hmedia, hgeneration⟩ := hcurrent
    obtain ⟨hanswers, hfirst⟩ := hactive.mp hmedia
    split
    · rename_i hsequence
      refine .refused (fun a ha hallowed => hsequence ?_) (by simp)
      rw [hcarries a ha] at hallowed
      exact hallowed.2.2.2.2.2.trans ht.identity.media.symm
    · rename_i hsequence
      refine .accepted ⟨parsed, hparse, not_not.mp hflags, rfl⟩ ⟨⟨opened, hopening, hsame.1.trans hmediaId.symm,
        hsame.2.trans hmediaEpoch.symm⟩, ?_, hanswers, hfirst, ?_, ?_⟩ ⟨?_, ?_, ?_⟩ rfl
      · have hany := ht.identity.closed.symm.trans hclosed
        rw [List.all_eq_true]
        rw [List.any_eq_false] at hany
        intro m hm
        simpa using hany m hm
      · rw [htarget]
        exact hgeneration
      · exact (not_not.mp hsequence).trans ht.identity.media
      · exact ht.identity.snoc hne ⟨rfl, rfl, rfl, rfl, rfl⟩ (Bool.or_false _).symm rfl
      · exact ht.turn.aside (by constructor <;> rfl) _ _ _ _
      · intro _
        rw [hears_aside rfl rfl]
        exact ht.utterance hclosed

theorem call_outcome (input : Input) : Outcome requestId h s input (s.call input) := by
  cases input with
  | media frame => exact acceptMedia_outcome ht frame
  | control message =>
    have hverdict := accept_verdict ht message
    rw [call]
    generalize s.accept message = x at hverdict
    cases hverdict with
    | accepted hallowed htracks => exact .accepted rfl hallowed htracks rfl
    | refused hallowed hresult =>
      refine .refused ?_ hresult
      rintro _ rfl
      exact hallowed

end Step

/-- A conversation grows by what may follow it. -/
def Converse (requestId : String) (h : List Admitted) (a : Admitted) (h' : List Admitted) : Prop :=
  Allowed h requestId a ∧ h' = h ++ [a]

theorem conversation_snoc (es : List Event) (e : Event) : conversation (es ++ [e]) = conversation es ++ admitted e := by
  rw [conversation, List.flatMap_append, List.flatMap_singleton]
  rfl

theorem admitted_refused (input : Input) {result : AdmissionResult} {header : Option MediaHeader}
    (hresult : result ≠ .accepted) : admitted (input, result, header) = [] := by
  cases input <;> cases result <;> first | rfl | exact absurd rfl hresult

theorem converse_history {requestId : String} {h as h' : List Admitted} (hr : Run (Converse requestId) h as h') :
    h' = h ++ as := by
  induction hr with
  | nil => rw [List.append_nil]
  | snoc _ ha ih => rw [ha.2, ih, List.append_assoc]

/-- Each part of a conversation is one, and what comes next may follow it. -/
theorem converse_split {requestId : String} {h before after : List Admitted} {a : Admitted}
    (hr : Run (Converse requestId) [] h h) (hsplit : h = before ++ a :: after) :
    Run (Converse requestId) [] before before ∧ Allowed before requestId a := by
  rw [hsplit] at hr
  obtain ⟨t, hbefore, hafter⟩ := hr.split
  obtain rfl : t = before := converse_history hbefore
  obtain ⟨u, ⟨hallowed, -⟩, -⟩ := Run.cons_iff.mp hafter
  exact ⟨hbefore, hallowed⟩

/-- What a session accepts is a conversation, and the session stands at its end. -/
theorem run_conversation {requestId : String} {es : List Event} {s : WssSession}
    (hr : Run Step { openRequestId := requestId } es s) :
    Tracks requestId (conversation es) s ∧
      Run (Converse requestId) [] (conversation es) (conversation es) := by
  induction hr with
  | nil => exact ⟨tracks_init requestId, .nil⟩
  | @snoc es t u e _ he ih =>
    obtain ⟨ht, hconverse⟩ := ih
    obtain ⟨input, reply⟩ := e
    have houtcome := call_outcome ht input
    rw [show t.call input = (u, reply) from he] at houtcome
    rw [conversation_snoc]
    cases houtcome with
    | accepted _ hallowed htracks hadmitted =>
      rw [hadmitted]
      exact ⟨htracks, hconverse.snoc ⟨hallowed, rfl⟩⟩
    | refused _ hresult =>
      rw [admitted_refused input hresult, List.append_nil]
      exact ⟨ht, hconverse⟩

/-- In every run the session accepts exactly what may follow the messages and the frames that it has accepted so far,
each of which could follow those before it; whatever it refuses leaves it as it was. -/
theorem conversation_kept {requestId : String} {es : List Event} {s : WssSession}
    (hr : Run Step { openRequestId := requestId } es s) :
    (∀ before a after, conversation es = before ++ a :: after → Allowed before requestId a) ∧
      ∀ input, ((s.call input).2.1 = .accepted ↔ ∃ a, Carries input a ∧ Allowed (conversation es) requestId a) ∧
        ((s.call input).2.1 ≠ .accepted → (s.call input).1 = s) := by
  obtain ⟨ht, hconverse⟩ := run_conversation hr
  constructor
  · intro before a after hsplit
    exact (converse_split hconverse hsplit).2
  · intro input
    have houtcome := call_outcome ht input
    generalize s.call input = x at houtcome
    cases houtcome with
    | accepted hcarries hallowed => exact ⟨iff_of_true rfl ⟨_, hcarries, hallowed⟩, fun h => absurd rfl h⟩
    | refused hallowed hresult =>
      refine ⟨iff_of_false hresult ?_, fun _ => rfl⟩
      rintro ⟨a, hcarries, ha⟩
      exact hallowed a hcarries ha

section Fence

variable {requestId : String} {h : List Admitted} {a : Admitted}

theorem raises_le_fence (ha : a ∈ h) : a.raises ≤ fence h := by
  induction h using List.reverseRecOn with
  | nil => cases ha
  | append_singleton h b ih =>
    rw [fence_snoc]
    rcases List.mem_append.mp ha with hmem | hlast
    · exact (ih hmem).trans (Nat.le_max_left _ _)
    · rw [List.mem_singleton.mp hlast]
      exact Nat.le_max_right _ _

theorem quiet_of_aside (hbegin : a.isBegin = false) (hstop : a.stop? = none) : a.raises = 0 ∧ a.target? = none := by
  cases a with
  | media header => exact ⟨rfl, rfl⟩
  | control message =>
    cases message with
    | response response =>
      have htype : response.type ≠ .responseBegin := by simpa [Admitted.isBegin] using hbegin
      exact ⟨if_neg htype, if_neg htype⟩
    | playbackStop stop => cases hstop
    | _ => exact ⟨rfl, rfl⟩

theorem begin_of_isBegin (hbegin : a.isBegin = true) :
    ∃ response, a = .control (.response response) ∧ response.type = .responseBegin := by
  cases a with
  | media header => cases hbegin
  | control message =>
    cases message with
    | response response => exact ⟨response, rfl, beq_iff_eq.mp hbegin⟩
    | _ => cases hbegin

/-- A response begins above everything that played before it. -/
theorem fence_lt_of_begin (hbegin : a.isBegin = true) (ha : Allowed h requestId a) :
    fence h < a.raises ∧ a.target?.map (·.generation) = some a.raises := by
  obtain ⟨response, rfl, htype⟩ := begin_of_isBegin hbegin
  simp only [Allowed, htype] at ha
  rw [Admitted.raises, Admitted.target?, if_pos htype, if_pos htype]
  exact ⟨ha.2.2, rfl⟩

theorem fence_mono (h l : List Admitted) : fence h ≤ fence (h ++ l) := by
  induction l using List.reverseRecOn with
  | nil => rw [List.append_nil]
  | append_singleton l b ih =>
    rw [← List.append_assoc, fence_snoc]
    exact ih.trans (Nat.le_max_left _ _)

/-- While a response may send media, its generation is the highest of all. -/
theorem converse_level (hr : Run (Converse requestId) [] h h) (hresponding : responding h = true)
    (hstop : stopOf h = none) : fence h = (current h).generation := by
  have hinv : responding h = true → stopOf h = none → fence h = (current h).generation := by
    refine hr.state_invariant (P := fun h => responding h = true → stopOf h = none → fence h = (current h).generation)
      (fun h => by cases h) ?_
    rintro h a _ ih ⟨hallowed, rfl⟩ hresponding hstop
    rw [fence_snoc, current_snoc]
    cases hbegin : a.isBegin with
    | true =>
      obtain ⟨hlt, htarget⟩ := fence_lt_of_begin hbegin hallowed
      obtain ⟨target, htarget, hgeneration⟩ := Option.map_eq_some_iff.mp htarget
      rw [htarget, Option.getD_some, hgeneration, Nat.max_eq_right hlt.le]
    | false =>
      rw [stopOf_snoc, if_neg (by simp [hbegin]), Option.or_eq_none_iff] at hstop
      rw [responding_snoc, hbegin, Bool.false_or, Bool.and_eq_true] at hresponding
      obtain ⟨hraises, htarget⟩ := quiet_of_aside hbegin hstop.2
      rw [hraises, htarget, Nat.max_zero]
      exact ih hresponding.1 hstop.1
  exact hinv hresponding hstop

/-- Where no response has begun since a stop, it is still the stop of the latest response. -/
theorem stopOf_ne_none (hstop : a.stop? ≠ none) {before mid : List Admitted}
    (hmid : ∀ b ∈ mid, b.isBegin = false) : stopOf (before ++ a :: mid) ≠ none := by
  induction mid using List.reverseRecOn with
  | nil =>
    have hbegin : a.isBegin = false := by
      cases hb : a.isBegin with
      | false => rfl
      | true =>
        obtain ⟨response, rfl, -⟩ := begin_of_isBegin hb
        exact absurd rfl hstop
    rw [stopOf_snoc, if_neg (by simp [hbegin])]
    intro hnone
    exact hstop (Option.or_eq_none_iff.mp hnone).2
  | append_singleton mid b ih =>
    rw [← List.cons_append, ← List.append_assoc, stopOf_snoc,
      if_neg (by simp [hmid b (List.mem_append_right _ List.mem_cons_self)])]
    intro hnone
    exact ih (fun c hc => hmid c (List.mem_append_left _ hc)) (Option.or_eq_none_iff.mp hnone).1

end Fence

/-- Accepted media is numbered without a gap and never goes back to an earlier generation; what a session accepts
after a stop is of a response that began above the stop's fence. -/
theorem playback_fenced {requestId : String} {es : List Event} {s : WssSession}
    (hr : Run Step { openRequestId := requestId } es s) {before mid after : List Admitted} {a : Admitted}
    {header : MediaHeader} (hsplit : conversation es = before ++ a :: mid ++ .media header :: after) :
    header.sequence.toNat = (before ++ a :: mid).countP Admitted.isMedia % 2 ^ 32 ∧
      (∀ earlier, a = .media earlier → earlier.generation ≤ header.generation) ∧
      ∀ stop, a = .control (.playbackStop stop) → stop.fenceGeneration < header.generation.toNat := by
  obtain ⟨-, hconverse⟩ := run_conversation hr
  obtain ⟨hh, hallowed⟩ := converse_split hconverse hsplit
  have hlevel : ∀ {h : List Admitted} {header : MediaHeader}, Run (Converse requestId) [] h h →
      Allowed h requestId (.media header) → header.generation.toNat = fence h := fun hh ha =>
    ha.2.2.2.2.1.trans (converse_level hh ha.2.2.1 ha.2.2.2.1).symm
  refine ⟨hallowed.2.2.2.2.2, ?_, ?_⟩
  · rintro earlier rfl
    obtain ⟨hbefore, hearlier⟩ := converse_split hh rfl
    rw [UInt32.le_iff_toNat_le, hlevel hbefore hearlier, hlevel hh hallowed]
    exact fence_mono _ _
  · rintro stop rfl
    have hbegun : ∃ b ∈ mid, b.isBegin = true := by
      by_contra hnone
      have hstopped : stopOf (before ++ .control (.playbackStop stop) :: mid) ≠ none :=
        stopOf_ne_none (by simp [Admitted.stop?]) fun b hb => (Bool.not_eq_true _).mp fun hbegin => hnone ⟨b, hb, hbegin⟩
      exact hstopped hallowed.2.2.2.1
    obtain ⟨b, hb, hbegin⟩ := hbegun
    obtain ⟨first, last, rfl⟩ := List.append_of_mem hb
    have hsplit' : before ++ .control (.playbackStop stop) :: (first ++ b :: last) =
        (before ++ .control (.playbackStop stop) :: first) ++ b :: last := by simp
    obtain ⟨-, hb⟩ := converse_split hh hsplit'
    calc stop.fenceGeneration
        ≤ fence (before ++ .control (.playbackStop stop) :: first) :=
          raises_le_fence (a := .control (.playbackStop stop)) (by simp)
      _ < b.raises := (fence_lt_of_begin hbegin hb).1
      _ ≤ fence (before ++ .control (.playbackStop stop) :: (first ++ b :: last)) := raises_le_fence (by simp)
      _ = header.generation.toNat := (hlevel hh hallowed).symm

def demoSession : SessionIdentity := { sessionId := "s1", sessionEpoch := "e1" }

def demoOpened : SessionOpened where
  requestId := "open-1"
  session := demoSession
  mediaId := List.replicate 8 1
  mediaEpoch := 1
  selectedMediaProfile := wssProfile
  udpGrant := none
  heartbeatIntervalMs := 15000
  idleTimeoutMs := 45000

def demoBegin (generation : Nat) : Input :=
  .control (.response { type := .responseBegin, session := demoSession, responseId := "r1", generation })

/-- The end of a response, by its type alone. -/
def demoEnd (generation : Nat) : Input :=
  .control (.response { type := .responseEnd, session := demoSession, responseId := "r1", generation })

def demoStop : PlaybackStop where
  session := demoSession
  target := { responseId := "r1", generation := 1 }
  fenceGeneration := 2
  cause := "explicit_user_request"

def demoHeader (sequence generation : UInt32) : MediaHeader :=
  { flags := 1, mediaId := List.replicate 8 1, mediaEpoch := 1, sequence, timestamp := 0, generation, payloadLength := 1 }

def demoMedia (sequence generation : UInt32) : Input := .media ((demoHeader sequence generation).bytes ++ [7])

/-- A response, its first frame and a stop. -/
def demoStopped : List Input := [.control (.sessionOpened demoOpened), demoBegin 1, demoMedia 0 1, .control (.playbackStop demoStop)]

def demoInputs : List Input := demoStopped ++ [demoMedia 1 1, demoEnd 1, demoBegin 3, demoMedia 1 3]

/-- A frame that the stop has overtaken may not follow it. -/
theorem conversation_kept_stopped :
    ¬∃ a, Carries (demoMedia 1 1) a ∧
      Allowed (conversation (Runs.history call { openRequestId := "open-1" } demoStopped)) "open-1" a := by
  refine mt ((conversation_kept (run_history call { openRequestId := "open-1" } demoStopped)).2 (demoMedia 1 1)).1.mpr ?_
  decide +kernel

/-- The stale frame is refused and its number taken by the next response. -/
theorem playback_fenced_restarted :
    (demoHeader 1 3).sequence.toNat = 1 ∧ 2 < (demoHeader 1 3).generation.toNat := by
  have hsplit : conversation (Runs.history call { openRequestId := "open-1" } demoInputs) =
      (conversation (Runs.history call { openRequestId := "open-1" } demoInputs)).take 3 ++
        .control (.playbackStop demoStop) ::
        ((conversation (Runs.history call { openRequestId := "open-1" } demoInputs)).drop 4).take 2 ++
        .media (demoHeader 1 3) :: [] := by
    decide +kernel
  obtain ⟨hsequence, -, hstop⟩ := playback_fenced (run_history call { openRequestId := "open-1" } demoInputs) hsplit
  refine ⟨hsequence.trans ?_, hstop _ rfl⟩
  decide +kernel

end RealtimeVoice.Firmware.WssSession
