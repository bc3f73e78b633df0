import RealtimeVoice.Base.Runs

namespace RealtimeVoice.Worker.Interruption

open RealtimeVoice.Base.Runs

inductive InterruptionDecision
  | interrupt
  | backchannel
  | echoOrNoise
  | ignore
  | defer
  deriving DecidableEq, Repr

structure InterruptionContext where
  transcript : String
  isFinal : Bool
  playbackAgeSeconds : Rat
  candidateAgeSeconds : Rat
  assistantText : String
  responseId : String := ""
  generation : Nat := 0
  deriving DecidableEq

structure InterruptionResult where
  decision : InterruptionDecision
  reason : String
  confidence : Rat := 1
  deriving DecidableEq

def InterruptionResult.shouldInterrupt (r : InterruptionResult) : Bool := r.decision = .interrupt

/-- The characters that Python's `\s` matches in a text. -/
def isSpace (c : Char) : Bool :=
  (9 ≤ c.toNat && c.toNat ≤ 13) || (28 ≤ c.toNat && c.toNat ≤ 32) || c.toNat == 0x85 || c.toNat == 0xA0 ||
    c.toNat == 0x1680 || (0x2000 ≤ c.toNat && c.toNat ≤ 0x200A) || c.toNat == 0x2028 || c.toNat == 0x2029 ||
    c.toNat == 0x202F || c.toNat == 0x205F || c.toNat == 0x3000

def isPunctuation (c : Char) : Bool := isSpace c || "，。！？、,.!?；;：:（）()【】[]\"'“”‘’".toList.contains c

def backchannels : List String := ["嗯", "嗯嗯", "哦", "噢", "啊", "好", "好的", "对", "是", "可以", "行", "知道了", "继续"]

def interruptCommands : List String :=
  ["停", "停止", "停一下", "暂停", "等一下", "等等", "先停一下", "请停止", "请停一下", "别说了", "先别说了", "不要说了",
    "取消", "取消回答", "打断一下", "不对", "不是", "我问的是", "换一个", "滚开", "别吵", "不要吵", "重新说", "重来"]

/-- `lower` is the language's lower case of a text. No white space is left to strip. -/
def normalizeTranscript (lower : String → String) (text : String) : String :=
  lower (String.ofList (text.toList.filter (fun c => !isPunctuation c)))

def textSimilarity (lower : String → String) (left right : String) : Rat :=
  let leftChars := (normalizeTranscript lower left).toList.dedup
  let rightChars := (normalizeTranscript lower right).toList.dedup
  if leftChars = [] ∨ rightChars = [] then 0
  else (leftChars.filter (fun c => rightChars.contains c)).length / max 1 (min leftChars.length rightChars.length)

structure InterruptionPolicyConfig where
  enabled : Bool := true

structure LayeredInterruptionPolicy where
  config : InterruptionPolicyConfig
  lower : String → String

def LayeredInterruptionPolicy.evaluate (policy : LayeredInterruptionPolicy) (context : InterruptionContext) :
    InterruptionResult :=
  if !policy.config.enabled then { decision := .ignore, reason := "policy_disabled" }
  else
    let normalized := normalizeTranscript policy.lower context.transcript
    if normalized = "" then { decision := .ignore, reason := "empty_transcript" }
    else if normalized ∈ backchannels then
      { decision := .backchannel, reason := "backchannel_phrase", confidence := 95 / 100 }
    else if normalized ∈ interruptCommands then
      if !context.isFinal then { decision := .defer, reason := "await_final_command", confidence := 9 / 10 }
      else { decision := .interrupt, reason := "explicit_interrupt_phrase", confidence := 1 }
    else if !context.isFinal then { decision := .defer, reason := "await_final", confidence := 5 / 10 }
    else if context.assistantText ≠ "" ∧ 8 / 10 ≤ textSimilarity policy.lower normalized context.assistantText then
      { decision := .echoOrNoise, reason := "similar_to_assistant_text", confidence := 8 / 10 }
    else { decision := .ignore, reason := "no_command_match", confidence := 1 }

theorem interruptCommands_not_backchannel : ∀ command ∈ interruptCommands, command ≠ "" ∧ command ∉ backchannels := by
  decide

/-- Only a final transcript that is one of the commands interrupts. -/
theorem evaluate_interrupt_iff (policy : LayeredInterruptionPolicy) (context : InterruptionContext) :
    (policy.evaluate context).shouldInterrupt ↔ policy.config.enabled ∧ context.isFinal ∧
      normalizeTranscript policy.lower context.transcript ∈ interruptCommands := by
  rw [LayeredInterruptionPolicy.evaluate]
  by_cases hcommand : normalizeTranscript policy.lower context.transcript ∈ interruptCommands
  · obtain ⟨hempty, hback⟩ := interruptCommands_not_backchannel _ hcommand
    cases policy.config.enabled <;> cases context.isFinal <;>
      simp [InterruptionResult.shouldInterrupt, hcommand, hempty, hback]
  · simp only [InterruptionResult.shouldInterrupt, hcommand, and_false, iff_false, decide_eq_true_eq]
    split
    · simp
    · simp only [if_false]
      split_ifs <;> simp

/-- Where the task that evaluates candidates stands. -/
inductive Task
  | created
  | evaluating (revision : Nat) (context : InterruptionContext)
  | interrupting (revision : Nat) (context : InterruptionContext)
  | done
  deriving DecidableEq

structure InterruptionCoordinator where
  revision : Nat := 0
  latest : Option (Nat × InterruptionContext) := none
  task : Option Task := none
  closed : Bool := false
  /-- The response that is playing, by its id and generation, which the coordinator does not see. -/
  currentPlayback : Option (String × Nat) := none
  deriving DecidableEq

/-- The steps of the callers, of the event loop that runs the task, and of playback. -/
inductive Call
  | submit (context : InterruptionContext)
  | begin
  | evaluated
  | interrupted (raises : Bool)
  | waitedIdle
  | close
  | playback (current : Option (String × Nat))
  deriving DecidableEq

structure Reply where
  submitted : Option Nat := none
  /-- The revision whose evaluation has ended. -/
  verdict : Option Nat := none
  /-- The context that the interrupt sink is called with. -/
  invoked : Option InterruptionContext := none
  /-- The sink raised, and the task ended with it. -/
  raised : Bool := false
  deriving DecidableEq

namespace InterruptionCoordinator

variable (policy : InterruptionContext → InterruptionResult)

def running (s : InterruptionCoordinator) : Bool := s.task.any (· ≠ .done)

def submit (s : InterruptionCoordinator) (context : InterruptionContext) : InterruptionCoordinator × Reply :=
  if s.closed then (s, {})
  else
    ({ s with
        revision := s.revision + 1
        latest := some (s.revision + 1, context)
        task := if s.running then s.task else some .created },
      { submitted := some (s.revision + 1) })

/-- The head of the loop: take the newest candidate and start its evaluation, or end. -/
def loopHead (s : InterruptionCoordinator) : InterruptionCoordinator :=
  match s.latest with
  | some (revision, context) => { s with latest := none, task := some (.evaluating revision context) }
  | none => { s with task := some .done }

def close (s : InterruptionCoordinator) : InterruptionCoordinator :=
  { s with closed := true, latest := none, task := none }

def call (s : InterruptionCoordinator) : Call → InterruptionCoordinator × Reply
  | .submit context => s.submit context
  | .begin => if s.task = some .created then (s.loopHead, {}) else (s, {})
  | .evaluated =>
    match s.task with
    | some (.evaluating revision context) =>
      if s.latest.any (fun latest => revision < latest.1) then (s.loopHead, { verdict := some revision })
      else if (policy context).shouldInterrupt then
        ({ s with task := some (.interrupting revision context) }, { verdict := some revision, invoked := some context })
      else (s.loopHead, { verdict := some revision })
    | _ => (s, {})
  | .interrupted raises =>
    match s.task with
    | some (.interrupting _ _) => if raises then ({ s with task := some .done }, { raised := true }) else (s.loopHead, {})
    | _ => (s, {})
  | .waitedIdle => if s.task = some .done then ({ s with task := none }, {}) else (s, {})
  | .close => (s.close, {})
  | .playback current => ({ s with currentPlayback := current }, {})

end InterruptionCoordinator

abbrev Step := Call × Reply

def InterruptionContext.target (context : InterruptionContext) : String × Nat := (context.responseId, context.generation)

/-- Whenever the coordinator is idle and not closed, the sink was called for the target of every
context that the policy interrupts for and whose target has been playing since. -/
def NoStopLost (policy : InterruptionContext → InterruptionResult) : Prop :=
  ∀ (es : List Step) (s : InterruptionCoordinator), Run (Answers (InterruptionCoordinator.call policy)) {} es s →
    s.running = false → s.closed = false → ∀ before m context revision later,
      es = before ++ (.submit context, { submitted := some revision }) :: later →
      Run (Answers (InterruptionCoordinator.call policy)) {} before m → (policy context).shouldInterrupt →
      m.currentPlayback = some context.target →
      (∀ e ∈ later, ∀ current, e.1 = .playback current → current = some context.target) →
      ∃ e ∈ es, ∃ invoked, e.2.invoked = some invoked ∧ invoked.target = context.target

/-- The steps until the evaluation of a revision has ended. -/
def untilVerdict (revision : Nat) (es : List Step) : List Step := es.takeWhile (fun e => e.2.verdict ≠ some revision)

section
variable {policy : InterruptionContext → InterruptionResult} {s t : InterruptionCoordinator} {e : Step} {r : Reply}
  {context : InterruptionContext} {revision : Nat} {es later : List Step}

/-- What a step can do, with its reply. -/
inductive Moves (policy : InterruptionContext → InterruptionResult) (s : InterruptionCoordinator) :
    Reply → InterruptionCoordinator → Prop
  | quiet (current : Option (String × Nat)) : Moves policy s {} { s with currentPlayback := current }
  | submitted (context : InterruptionContext) (hopen : s.closed = false) :
    Moves policy s { submitted := some (s.revision + 1) }
      { s with
        revision := s.revision + 1
        latest := some (s.revision + 1, context)
        task := if s.running then s.task else some .created }
  | begun (htask : s.task = some .created) : Moves policy s {} s.loopHead
  | discarded (revision : Nat) (context : InterruptionContext) (candidate : Nat × InterruptionContext)
    (htask : s.task = some (.evaluating revision context)) (hlatest : s.latest = some candidate)
    (hnewer : revision < candidate.1) : Moves policy s { verdict := some revision } s.loopHead
  | spared (revision : Nat) (context : InterruptionContext) (htask : s.task = some (.evaluating revision context))
    (hnewest : ∀ candidate, s.latest = some candidate → ¬revision < candidate.1)
    (hignore : ¬(policy context).shouldInterrupt) : Moves policy s { verdict := some revision } s.loopHead
  | invoked (revision : Nat) (context : InterruptionContext) (htask : s.task = some (.evaluating revision context))
    (hnewest : ∀ candidate, s.latest = some candidate → ¬revision < candidate.1)
    (hinterrupt : (policy context).shouldInterrupt) :
    Moves policy s { verdict := some revision, invoked := some context }
      { s with task := some (.interrupting revision context) }
  | returned (revision : Nat) (context : InterruptionContext) (htask : s.task = some (.interrupting revision context)) :
    Moves policy s {} s.loopHead
  | raised (revision : Nat) (context : InterruptionContext) (htask : s.task = some (.interrupting revision context)) :
    Moves policy s { raised := true } { s with task := some .done }
  | awaited (htask : s.task = some .done) : Moves policy s {} { s with task := none }
  | closed : Moves policy s {} s.close

theorem moves_of_call (he : Answers (InterruptionCoordinator.call policy) s e t) : Moves policy s e.2 t := by
  obtain ⟨c, r⟩ := e
  cases c with
  | submit context =>
    simp only [Answers, InterruptionCoordinator.call, InterruptionCoordinator.submit] at he
    split at he
    · obtain ⟨rfl, rfl⟩ := Prod.mk.inj he
      exact .quiet s.currentPlayback
    · rename_i hclosed
      obtain ⟨rfl, rfl⟩ := Prod.mk.inj he
      exact .submitted context (by simpa using hclosed)
  | begin =>
    simp only [Answers, InterruptionCoordinator.call] at he
    split at he
    · rename_i htask
      obtain ⟨rfl, rfl⟩ := Prod.mk.inj he
      exact .begun htask
    · obtain ⟨rfl, rfl⟩ := Prod.mk.inj he
      exact .quiet s.currentPlayback
  | evaluated =>
    simp only [Answers, InterruptionCoordinator.call] at he
    split at he
    · rename_i revision context htask
      split at he
      · rename_i hany
        obtain ⟨rfl, rfl⟩ := Prod.mk.inj he
        obtain ⟨candidate, hlatest, hnewer⟩ := (Option.any_eq_true _ _).mp hany
        exact .discarded revision context candidate htask hlatest (by simpa using hnewer)
      · rename_i hany
        have hnewest : ∀ candidate, s.latest = some candidate → ¬revision < candidate.1 := by
          intro candidate hlatest hnewer
          exact hany (by simp [hlatest, hnewer])
        split at he
        · rename_i hinterrupt
          obtain ⟨rfl, rfl⟩ := Prod.mk.inj he
          exact .invoked revision context htask hnewest hinterrupt
        · rename_i hignore
          obtain ⟨rfl, rfl⟩ := Prod.mk.inj he
          exact .spared revision context htask hnewest hignore
    · obtain ⟨rfl, rfl⟩ := Prod.mk.inj he
      exact .quiet s.currentPlayback
  | interrupted raises =>
    simp only [Answers, InterruptionCoordinator.call] at he
    split at he
    · rename_i revision context htask
      split at he
      · obtain ⟨rfl, rfl⟩ := Prod.mk.inj he
        exact .raised revision context htask
      · obtain ⟨rfl, rfl⟩ := Prod.mk.inj he
        exact .returned revision context htask
    · obtain ⟨rfl, rfl⟩ := Prod.mk.inj he
      exact .quiet s.currentPlayback
  | waitedIdle =>
    simp only [Answers, InterruptionCoordinator.call] at he
    split at he
    · rename_i htask
      obtain ⟨rfl, rfl⟩ := Prod.mk.inj he
      exact .awaited htask
    · obtain ⟨rfl, rfl⟩ := Prod.mk.inj he
      exact .quiet s.currentPlayback
  | close =>
    obtain ⟨rfl, rfl⟩ := Prod.mk.inj he
    exact .closed
  | playback current =>
    obtain ⟨rfl, rfl⟩ := Prod.mk.inj he
    exact .quiet current

theorem loopHead_some (h : s.latest = some (revision, context)) :
    s.loopHead = { s with latest := none, task := some (.evaluating revision context) } := by
  rw [InterruptionCoordinator.loopHead, h]

theorem loopHead_none (h : s.latest = none) : s.loopHead = { s with task := some .done } := by
  rw [InterruptionCoordinator.loopHead, h]

theorem loopHead_closed (s : InterruptionCoordinator) : s.loopHead.closed = s.closed := by
  rw [InterruptionCoordinator.loopHead]
  split <;> rfl

/-- Candidates are numbered in the order they came, and the one under evaluation is older than the one that waits. -/
structure Numbered (s : InterruptionCoordinator) : Prop where
  latest : ∀ revision context, s.latest = some (revision, context) → revision ≤ s.revision
  evaluating : ∀ revision context, s.task = some (.evaluating revision context) → revision ≤ s.revision
  older : ∀ revision context revision' context', s.task = some (.evaluating revision context) →
    s.latest = some (revision', context') → revision < revision'

theorem Numbered.loopHead (h : Numbered s) : Numbered s.loopHead := by
  cases hlatest : s.latest with
  | none =>
    rw [loopHead_none hlatest]
    constructor
    · exact h.latest
    · simp
    · simp
  | some candidate =>
    obtain ⟨revision, context⟩ := candidate
    have hle := h.latest revision context hlatest
    rw [loopHead_some hlatest]
    constructor
    · simp
    · rintro revision' context' heq
      obtain ⟨rfl, rfl⟩ := Task.evaluating.inj (Option.some.inj heq)
      exact hle
    · simp

theorem Numbered.withoutTask {task : Option Task} (h : Numbered s)
    (htask : ∀ revision context, task ≠ some (.evaluating revision context)) : Numbered { s with task := task } :=
  ⟨h.latest, fun _ _ heq => absurd heq (htask _ _), fun _ _ _ _ heq => absurd heq (htask _ _)⟩

theorem Numbered.moves (h : Numbered s) (he : Moves policy s r t) : Numbered t := by
  cases he with
  | quiet current => exact ⟨h.latest, h.evaluating, h.older⟩
  | submitted context hopen =>
    have htask : ∀ revision context,
        (if s.running then s.task else some .created) = some (.evaluating revision context) → revision ≤ s.revision := by
      intro revision context heq
      split at heq
      · exact h.evaluating revision context heq
      · cases heq
    constructor
    · rintro revision' context' heq
      obtain ⟨rfl, rfl⟩ := Prod.mk.inj (Option.some.inj heq)
      exact le_rfl
    · intro revision' context' heq
      exact (htask revision' context' heq).trans (Nat.le_succ _)
    · intro revision' context' revision'' context'' heq heq'
      obtain ⟨rfl, rfl⟩ := Prod.mk.inj (Option.some.inj heq')
      exact Nat.lt_succ_of_le (htask revision' context' heq)
  | begun htask => exact h.loopHead
  | discarded revision context candidate htask hlatest hnewer => exact h.loopHead
  | spared revision context htask hnewest hignore => exact h.loopHead
  | invoked revision context htask hnewest hinterrupt => exact h.withoutTask (by simp)
  | returned revision context htask => exact h.loopHead
  | raised revision context htask => exact h.withoutTask (by simp)
  | awaited htask => exact h.withoutTask (by simp)
  | closed => constructor <;> simp [InterruptionCoordinator.close]

theorem numbered_run (h : Run (Answers (InterruptionCoordinator.call policy)) {} es s) : Numbered s := by
  apply h.state_invariant
  · constructor <;> simp
  · exact fun _ _ _ ht he => ht.moves (moves_of_call he)

theorem closed_stays (h : s.closed) (he : Moves policy s r t) : t.closed := by
  cases he with
  | quiet current => exact h
  | submitted context hopen => rw [h] at hopen; cases hopen
  | begun htask => rwa [loopHead_closed]
  | discarded revision context candidate htask hlatest hnewer => rwa [loopHead_closed]
  | spared revision context htask hnewest hignore => rwa [loopHead_closed]
  | invoked revision context htask hnewest hinterrupt => exact h
  | returned revision context htask => rwa [loopHead_closed]
  | raised revision context htask => exact h
  | awaited htask => exact h
  | closed => rfl

theorem untilVerdict_append (h : e ∈ untilVerdict revision es) : e ∈ untilVerdict revision (es ++ later) := by
  rw [untilVerdict, List.takeWhile_append]
  split
  · exact List.mem_append_left _ (List.takeWhile_subset _ h)
  · exact h

theorem untilVerdict_snoc (h : ∀ e ∈ es, e.2.verdict ≠ some revision) (he : e.2.verdict ≠ some revision) :
    e ∈ untilVerdict revision (es ++ [e]) := by
  rw [untilVerdict, List.takeWhile_append_of_pos (by simpa using h)]
  simp [he]

/-- A candidate whose evaluation has not ended: it waits, or it is under evaluation and nothing newer waits. -/
def Waits (revision : Nat) (context : InterruptionContext) (later : List Step) (s : InterruptionCoordinator) : Prop :=
  (∀ e ∈ later, e.2.verdict ≠ some revision) ∧
    (s.latest = some (revision, context) ∧ s.running ∨ s.latest = none ∧ s.task = some (.evaluating revision context))

/-- What can have become of a candidate by the steps after its submission. -/
def Fate (revision : Nat) (context : InterruptionContext) (later : List Step) (s : InterruptionCoordinator) : Prop :=
  s.closed ∨ (∃ e ∈ untilVerdict revision later, e.2.submitted ≠ none ∨ e.2.raised) ∨
    (∃ e ∈ later, e.2.invoked = some context) ∨ Waits revision context later s

theorem Waits.fate_of_stay (h : Waits revision context later s) (hverdict : e.2.verdict ≠ some revision)
    (hstay : t.latest = some (revision, context) ∧ t.running ∨
      t.latest = none ∧ t.task = some (.evaluating revision context)) : Fate revision context (later ++ [e]) t := by
  refine .inr (.inr (.inr ⟨?_, hstay⟩))
  intro e' he'
  rw [List.mem_append, List.mem_singleton] at he'
  obtain he' | rfl := he'
  · exact h.1 e' he'
  · exact hverdict

theorem Waits.step (h : Waits revision context later s) (hnumbered : Numbered s)
    (hinterrupt : (policy context).shouldInterrupt) (he : Moves policy s e.2 t) :
    Fate revision context (later ++ [e]) t := by
  have hwait := h.2
  generalize hr : e.2 = r at he
  -- The loop takes the candidate when it comes round to it.
  have htaken : s.latest = some (revision, context) →
      s.loopHead.latest = none ∧ s.loopHead.task = some (.evaluating revision context) := by
    intro hlatest
    rw [loopHead_some hlatest]
    exact ⟨rfl, rfl⟩
  cases he with
  | quiet current => exact h.fate_of_stay (by simp [hr]) hwait
  | submitted context' hopen =>
    refine .inr (.inl ⟨e, untilVerdict_snoc h.1 (by simp [hr]), .inl (by simp [hr])⟩)
  | begun htask =>
    apply h.fate_of_stay (by simp [hr])
    obtain ⟨hlatest, -⟩ | ⟨-, htask'⟩ := hwait
    · exact .inr (htaken hlatest)
    · rw [htask] at htask'
      cases htask'
  | discarded revision' context' candidate htask hlatest hnewer =>
    obtain ⟨hlatest', -⟩ | ⟨hlatest', -⟩ := hwait
    · apply h.fate_of_stay
      · have hlt := hnumbered.older _ _ _ _ htask hlatest'
        rw [hr]
        simp only [ne_eq, Option.some.injEq]
        omega
      · exact .inr (htaken hlatest')
    · rw [hlatest'] at hlatest
      cases hlatest
  | spared revision' context' htask hnewest hignore =>
    obtain ⟨hlatest, -⟩ | ⟨-, htask'⟩ := hwait
    · apply h.fate_of_stay
      · have hlt := hnumbered.older _ _ _ _ htask hlatest
        rw [hr]
        simp only [ne_eq, Option.some.injEq]
        omega
      · exact .inr (htaken hlatest)
    · rw [htask] at htask'
      obtain ⟨rfl, rfl⟩ := Task.evaluating.inj (Option.some.inj htask')
      exact absurd hinterrupt hignore
  | invoked revision' context' htask hnewest hinterrupt' =>
    obtain ⟨hlatest, -⟩ | ⟨-, htask'⟩ := hwait
    · exact absurd (hnumbered.older _ _ _ _ htask hlatest) (hnewest _ hlatest)
    · rw [htask] at htask'
      obtain ⟨rfl, rfl⟩ := Task.evaluating.inj (Option.some.inj htask')
      exact .inr (.inr (.inl ⟨e, by simp, by rw [hr]⟩))
  | returned revision' context' htask =>
    apply h.fate_of_stay (by simp [hr])
    obtain ⟨hlatest, -⟩ | ⟨-, htask'⟩ := hwait
    · exact .inr (htaken hlatest)
    · rw [htask] at htask'
      cases htask'
  | raised revision' context' htask =>
    exact .inr (.inl ⟨e, untilVerdict_snoc h.1 (by simp [hr]), .inr (by simp [hr])⟩)
  | awaited htask =>
    apply h.fate_of_stay (by simp [hr])
    obtain ⟨-, hrunning⟩ | ⟨-, htask'⟩ := hwait
    · simp [InterruptionCoordinator.running, htask] at hrunning
    · rw [htask] at htask'
      cases htask'
  | closed => exact .inl rfl

theorem Fate.step (h : Fate revision context later s) (hnumbered : Numbered s)
    (hinterrupt : (policy context).shouldInterrupt) (he : Moves policy s e.2 t) :
    Fate revision context (later ++ [e]) t := by
  obtain hclosed | ⟨e', he', hlost⟩ | ⟨e', he', hinvoked⟩ | hwaits := h
  · exact .inl (closed_stays hclosed he)
  · exact .inr (.inl ⟨e', untilVerdict_append he', hlost⟩)
  · exact .inr (.inr (.inl ⟨e', List.mem_append_left _ he', hinvoked⟩))
  · exact hwaits.step hnumbered hinterrupt he

theorem waits_of_submit
    (he : Answers (InterruptionCoordinator.call policy) s (.submit context, { submitted := some revision }) t) :
    Waits revision context [] t := by
  simp only [Answers, InterruptionCoordinator.call, InterruptionCoordinator.submit] at he
  split at he
  · simp at he
  · obtain ⟨rfl, hr⟩ := Prod.mk.inj he
    obtain rfl : s.revision + 1 = revision := by simpa using hr
    refine ⟨by simp, .inl ⟨rfl, ?_⟩⟩
    cases hrunning : s.running with
    | true =>
      rw [InterruptionCoordinator.running] at hrunning ⊢
      simpa using hrunning
    | false => simp [InterruptionCoordinator.running]

/-- Whenever the coordinator is idle and not closed, the sink was called with every context
that the policy interrupts for, unless a later submission overtook it or an earlier call of
the sink raised before its own evaluation had ended. -/
theorem latest_stop_invoked (policy : InterruptionContext → InterruptionResult) (before later : List Step)
    (context : InterruptionContext) (revision : Nat) (s : InterruptionCoordinator)
    (h : Run (Answers (InterruptionCoordinator.call policy)) {}
      (before ++ (.submit context, { submitted := some revision }) :: later) s)
    (hidle : s.running = false) (hopen : s.closed = false) (hinterrupt : (policy context).shouldInterrupt)
    (hkept : ∀ e ∈ untilVerdict revision later, e.2.submitted = none ∧ e.2.raised = false) :
    ∃ e ∈ later, e.2.invoked = some context := by
  obtain ⟨m, hm, hrest⟩ := h.split
  obtain ⟨u, hu, hlater⟩ := Run.cons_iff.mp hrest
  have hstart : Fate revision context [] u := .inr (.inr (.inr (waits_of_submit hu)))
  have hfate : Numbered s ∧ Fate revision context later s := by
    apply hlater.invariant (R := fun later t => Numbered t ∧ Fate revision context later t)
    · exact ⟨(numbered_run hm).moves (moves_of_call hu), hstart⟩
    · rintro later t e v - ⟨hnumbered, ht⟩ he
      exact ⟨hnumbered.moves (moves_of_call he), ht.step hnumbered hinterrupt (moves_of_call he)⟩
  obtain hclosed | ⟨e, he, hlost⟩ | hinvoked | ⟨-, hwaits⟩ := hfate.2
  · rw [hopen] at hclosed
    cases hclosed
  · obtain ⟨hsubmitted, hraised⟩ := hkept e he
    rw [hraised] at hlost
    exact absurd hsubmitted (hlost.resolve_right (by simp))
  · exact hinvoked
  · obtain ⟨-, hrunning⟩ | ⟨-, htask⟩ := hwaits
    · rw [hidle] at hrunning
      cases hrunning
    · simp [InterruptionCoordinator.running, htask] at hidle

end

def demoPolicy : LayeredInterruptionPolicy := ⟨{}, id⟩

def demoContext (transcript : String) (isFinal : Bool) : InterruptionContext :=
  { transcript, isFinal, playbackAgeSeconds := 1, candidateAgeSeconds := 0, assistantText := "",
    responseId := "rsp-1", generation := 1 }

/-- A stop that is submitted while another candidate is under evaluation, and runs to its end. -/
def demoStopped : List Call :=
  [.playback (some ("rsp-1", 1)), .submit (demoContext "嗯" true), .begin, .submit (demoContext "停一下" true),
    .evaluated, .evaluated, .interrupted false]

theorem latest_stop_invoked_demo : ∃ e ∈ (history (InterruptionCoordinator.call demoPolicy.evaluate) {} demoStopped).drop 4,
    e.2.invoked = some (demoContext "停一下" true) := by
  apply latest_stop_invoked demoPolicy.evaluate
    ((history (InterruptionCoordinator.call demoPolicy.evaluate) {} demoStopped).take 3) _ (demoContext "停一下" true) 2 _
    (run_of_history _ demoStopped (by decide +kernel))
  · decide +kernel
  · decide +kernel
  · decide +kernel
  · decide +kernel

/-- A stop, and a first word of the next sentence before the task has run. -/
def demoOvertaken : List Call :=
  [.playback (some ("rsp-1", 1)), .submit (demoContext "停一下" true), .submit (demoContext "那" false), .begin, .evaluated]

/-- The stop is never acted on, though its response is still playing. -/
theorem stop_overtaken : ¬NoStopLost demoPolicy.evaluate := by
  intro h
  have hsilent : ∀ e ∈ history (InterruptionCoordinator.call demoPolicy.evaluate) {} demoOvertaken,
      e.2.invoked = none := by decide +kernel
  have hsteps : ∀ e ∈ (history (InterruptionCoordinator.call demoPolicy.evaluate) {} demoOvertaken).drop 2,
      e.1 ∈ [Call.submit (demoContext "那" false), .begin, .evaluated] := by decide +kernel
  have hplaying : ∀ e ∈ (history (InterruptionCoordinator.call demoPolicy.evaluate) {} demoOvertaken).drop 2,
      ∀ current, e.1 = .playback current → current = some (demoContext "停一下" true).target := by
    intro e he current hcurrent
    have hmem := hsteps e he
    rw [hcurrent] at hmem
    simp at hmem
  obtain ⟨e, he, invoked, hinvoked, -⟩ := h _ _ (run_history _ _ demoOvertaken) (by decide +kernel) (by decide +kernel)
    (history (InterruptionCoordinator.call demoPolicy.evaluate) {} (demoOvertaken.take 1)) _ (demoContext "停一下" true) 1
    ((history (InterruptionCoordinator.call demoPolicy.evaluate) {} demoOvertaken).drop 2)
    (by decide +kernel) (run_history _ _ _) (by decide +kernel) (by decide +kernel) hplaying
  rw [hsilent e he] at hinvoked
  cases hinvoked

end RealtimeVoice.Worker.Interruption
