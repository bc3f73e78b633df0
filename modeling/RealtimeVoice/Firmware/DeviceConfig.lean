import RealtimeVoice.Base.FaultyStore
import RealtimeVoice.Base.Runs
import RealtimeVoice.Firmware.Endpoint

namespace RealtimeVoice.Firmware.DeviceConfig

open RealtimeVoice.Base.FaultyStore RealtimeVoice.Base.Runs RealtimeVoice.Firmware.Wire

/-- `kEndpointUrlKey`, `kEndpointTokenKey` and `kEndpointTokenOriginKey` -/
inductive Key
  | url | token | tokenOrigin
deriving DecidableEq

/-- The results of a store that fails. -/
inductive Failure
  | invalidArgument | storageFailure
deriving DecidableEq

def Failure.result : Failure → ConfigResult
  | .invalidArgument => .invalidArgument
  | .storageFailure => .storageFailure

structure EndpointCandidate where
  url : Bytes
  token : Bytes := []
  tokenOrigin : Bytes := []
deriving DecidableEq

abbrev ConfigStore := Store Key Bytes

abbrev Program := Prog Key Bytes Failure

/-- What a `ConfigStorePort` returns. -/
def resultOf : Reply Bytes Failure → ConfigResult
  | .ok => .ok
  | .value _ => .ok
  | .notFound => .notFound
  | .failed failure => failure.result

def readOptional (key : Key) : Program (Except ConfigResult Bytes) := do
  match ← Prog.perform (.read key) with
  | .value value => return .ok value
  | .notFound => return .ok []
  | reply => return .error (resultOf reply)

/-- The result of `ParseEndpoint`, which always has one. -/
def parsed (url : Bytes) : Except ConfigResult EndpointSnapshot :=
  (parseEndpoint url).getD (.error .invalidArgument)

def resolveCandidate (candidate : EndpointCandidate) (source : EndpointSource) :
    Except ConfigResult EndpointSnapshot :=
  match parsed candidate.url with
  | .error result => .error result
  | .ok snapshot =>
    let snapshot := { snapshot with source := source }
    if candidate.token ≠ [] ∧ candidate.tokenOrigin = snapshot.origin then
      .ok { snapshot with token := candidate.token }
    else .ok snapshot

/-- The token of the first provisioned candidate of the snapshot's origin that has one. -/
def fallbackToken (snapshot : EndpointSnapshot) : List EndpointCandidate → Bytes
  | [] => snapshot.token
  | candidate :: provisioned =>
    match resolveCandidate candidate .provisioned with
    | .ok fallback =>
      if fallback.origin = snapshot.origin ∧ fallback.token ≠ [] then fallback.token
      else fallbackToken snapshot provisioned
    | .error _ => fallbackToken snapshot provisioned

def firstProvisioned : List EndpointCandidate → Except ConfigResult EndpointSnapshot
  | [] => .error .notFound
  | candidate :: provisioned =>
    match resolveCandidate candidate .provisioned with
    | .ok snapshot => .ok snapshot
    | .error _ => firstProvisioned provisioned

/-- `ResolveEndpoint`: its result, with the snapshot where it is `kOk`. -/
def resolveEndpoint (provisioned : List EndpointCandidate) : Program (Except ConfigResult EndpointSnapshot) := do
  match ← readOptional .url with
  | .error result => return .error result
  | .ok [] => return firstProvisioned provisioned
  | .ok url =>
    match ← readOptional .token with
    | .error result => return .error result
    | .ok token =>
      match ← readOptional .tokenOrigin with
      | .error result => return .error result
      | .ok tokenOrigin =>
        match resolveCandidate ⟨url, token, tokenOrigin⟩ .saved with
        | .error _ => return firstProvisioned provisioned
        | .ok snapshot =>
          let snapshot :=
            if snapshot.token = [] then { snapshot with token := fallbackToken snapshot provisioned } else snapshot
          if snapshot.token ≠ [] ∨ provisioned = [] then return .ok snapshot
          else return firstProvisioned provisioned

/-- Erasing goes on where the key was not there. -/
def erased (reply : Reply Bytes Failure) : Bool := resultOf reply = .ok || resultOf reply = .notFound

def saveEndpoint (url : Bytes) : Program ConfigResult := do
  match parsed url with
  | .error _ => return .invalidArgument
  | .ok snapshot =>
    match ← readOptional .url with
    | .error result => return result
    | .ok savedUrl =>
      match ← readOptional .tokenOrigin with
      | .error result => return result
      | .ok tokenOrigin =>
        let originChanged := match parsed savedUrl with
          | .ok previous => previous.origin != snapshot.origin
          | .error _ => tokenOrigin != snapshot.origin
        if originChanged then
          let reply ← Prog.perform (.erase .token)
          if !erased reply then return resultOf reply
          else
            let reply ← Prog.perform (.erase .tokenOrigin)
            if !erased reply then return resultOf reply
            else return resultOf (← Prog.perform (.write .url url))
        else return resultOf (← Prog.perform (.write .url url))

def bindToken (url token : Bytes) : Program ConfigResult := do
  if token = [] then return .invalidArgument
  else
    match parsed url with
    | .error _ => return .invalidArgument
    | .ok snapshot =>
      let reply ← Prog.perform (.erase .token)
      if !erased reply then return resultOf reply
      else
        let reply ← Prog.perform (.write .tokenOrigin snapshot.origin)
        if resultOf reply ≠ .ok then return resultOf reply
        else return resultOf (← Prog.perform (.write .token token))

section Programs

variable {s : ConfigStore} {α : Type} {Q : Execution Key Bytes α → Prop}

theorem always_readOptional {key : Key} {f : Except ConfigResult Bytes → Program α} (hstop : Q ⟨s, [], none⟩)
    (hok : Always (f (.ok ((s key).getD []))) s Q) (herror : ∀ result, Always (f (.error result)) s Q) :
    Always (readOptional key >>= f) s Q := by
  apply always_read hstop
  · cases hkey : s key with
    | none => rw [hkey] at hok; exact hok
    | some value => rw [hkey] at hok; exact hok
  · intro failure
    exact herror _

/-- The token is not set. -/
def NoToken (changes : List (Key × Option Bytes)) : Prop := ∀ token, (Key.token, some token) ∉ changes

/-- The token and its origin are as they were, or there is no token. -/
def Kept (s t : ConfigStore) : Prop := t .token = none ∨ t .token = s .token ∧ t .tokenOrigin = s .tokenOrigin

structure Keeps (s : ConfigStore) (e : Execution Key Bytes α) : Prop where
  noToken : NoToken e.changes
  kept : Kept s e.store

/-- The token of a binding was set, with its origin. -/
structure Binds (binding : Bytes × Bytes) (e : Execution Key Bytes α) : Prop where
  token : e.store .token = some binding.1
  origin : e.store .tokenOrigin = some binding.2
  written : (Key.token, some binding.1) ∈ e.changes

/-- A program sets no token but that of the binding it may make. -/
def Settles (binding : Option (Bytes × Bytes)) (s : ConfigStore) (e : Execution Key Bytes α) : Prop :=
  Keeps s e ∨ ∃ b ∈ binding, Binds b e

variable {binding : Option (Bytes × Bytes)} {operation : Operation Key Bytes} {e : Execution Key Bytes α}

theorem settles_stay {result : Option α} : Settles binding s ⟨s, [], result⟩ :=
  .inl ⟨(fun _ h => by cases h), .inr ⟨rfl, rfl⟩⟩

theorem Kept.trans {r t : ConfigStore} (h : Kept s r) (h' : Kept r t) : Kept s t := by
  obtain hnone | ⟨htoken', horigin'⟩ := h'
  · exact .inl hnone
  · obtain hnone | ⟨htoken, horigin⟩ := h
    · exact .inl (htoken'.trans hnone)
    · exact .inr ⟨htoken'.trans htoken, horigin'.trans horigin⟩

theorem Settles.after (h : Settles binding (operation.apply s) e) (hchange : NoToken operation.change.toList)
    (hkept : Kept s (operation.apply s)) : Settles binding s (e.after operation) := by
  obtain ⟨hno, hlater⟩ | ⟨b, hb, hbinds⟩ := h
  · refine .inl ⟨fun token hmem => ?_, hkept.trans hlater⟩
    obtain hmem | hmem := List.mem_append.mp hmem
    · exact hchange token hmem
    · exact hno token hmem
  · exact .inr ⟨b, hb, hbinds.token, hbinds.origin, List.mem_append_right _ hbinds.written⟩

/-- An operation that sets no token and leaves the origin alone while there is one. -/
theorem always_settles {next : Reply Bytes Failure → Program α} (hchange : NoToken operation.change.toList)
    (hkept : Kept s (operation.apply s))
    (hdone : Always (next (operation.reply s)) (operation.apply s) (Settles binding (operation.apply s)))
    (hfailed : ∀ failure t, Always (next (.failed failure)) t (Settles binding t)) :
    Always (.step operation next) s (Settles binding s) :=
  always_step settles_stay (hdone.mono fun _ h => h.after hchange hkept)
    (fun failure => (hfailed failure _).mono fun _ h => h.after hchange hkept) (fun failure => hfailed failure s)

theorem noToken_erase (key : Key) : NoToken (Operation.erase (ν := Bytes) key).change.toList := by
  intro token hmem
  simp [Operation.change] at hmem

theorem noToken_write {key : Key} (hkey : key ≠ .token) (value : Bytes) :
    NoToken (Operation.write key value).change.toList := by
  intro token hmem
  simp only [Operation.change, Option.toList_some, List.mem_singleton, Prod.mk.injEq] at hmem
  exact hkey hmem.1.symm

theorem erased_reply (key : Key) : erased ((Operation.erase key).reply s) = true := by
  rw [Operation.reply]
  split <;> rfl

theorem not_erased (failure : Failure) : erased (.failed failure) = false := by
  cases failure <;> rfl

theorem always_erase {key : Key} {rest : Program ConfigResult} (hkept : Kept s ((Operation.erase key).apply s))
    (hrest : Always rest ((Operation.erase key).apply s) (Settles binding ((Operation.erase key).apply s))) :
    Always (do
      let reply ← Prog.perform (.erase key)
      if !erased reply then return resultOf reply else rest) s (Settles binding s) := by
  apply always_settles (noToken_erase key) hkept
  · change Always (if !erased _ then _ else _) _ _
    rw [erased_reply]
    exact hrest
  · intro failure t
    change Always (if !erased _ then _ else _) _ _
    rw [not_erased]
    exact always_pure settles_stay

theorem always_write_url (url : Bytes) :
    Always (do return resultOf (← Prog.perform (.write .url url))) s (Settles binding s) :=
  always_settles (noToken_write (by decide) url) (.inr ⟨rfl, rfl⟩) (always_pure settles_stay)
    (fun _ _ => always_pure settles_stay)

theorem saveEndpoint_settles (url : Bytes) (s : ConfigStore) : Always (saveEndpoint url) s (Settles none s) := by
  rw [saveEndpoint]
  cases parsed url with
  | error result => exact always_pure settles_stay
  | ok snapshot =>
    apply always_readOptional settles_stay
    · apply always_readOptional settles_stay
      · dsimp only
        split_ifs
        · apply always_erase (.inl rfl)
          apply always_erase (.inl rfl)
          exact always_write_url url
        · exact always_write_url url
      · intro result
        exact always_pure settles_stay
    · intro result
      exact always_pure settles_stay

theorem bindToken_settles (url token : Bytes) (s : ConfigStore) :
    Always (bindToken url token) s
      (Settles ((parsed url).toOption.map fun snapshot => (token, snapshot.origin)) s) := by
  rw [bindToken]
  split_ifs
  · exact always_pure settles_stay
  · cases parsed url with
    | error result => exact always_pure settles_stay
    | ok snapshot =>
      apply always_erase (.inl rfl)
      -- from here on there is no token, and then the new one with its origin
      apply always_settles (noToken_write (by decide) _) (.inl rfl)
      · have hbinds : ∀ result : Option ConfigResult,
            Settles (some (token, snapshot.origin)) ((Operation.write .tokenOrigin snapshot.origin).apply
              ((Operation.erase .token).apply s)) (Execution.after (.write .token token)
                ⟨(Operation.write .token token).apply ((Operation.write .tokenOrigin snapshot.origin).apply
                  ((Operation.erase .token).apply s)), [], result⟩) := by
          intro result
          exact .inr ⟨_, rfl, rfl, rfl, List.mem_cons_self⟩
        apply always_step settles_stay
        · exact always_pure (hbinds _)
        · intro failure
          exact always_pure (hbinds _)
        · intro failure
          exact always_pure settles_stay
      · intro failure t
        cases failure <;> exact always_pure settles_stay

end Programs

section Resolve

variable {snapshot : EndpointSnapshot} {candidate : EndpointCandidate} {source : EndpointSource}
  {provisioned : List EndpointCandidate} {url : Bytes}

theorem parsed_token (h : parsed url = .ok snapshot) : snapshot.token = [] := by
  obtain ⟨hanswer, haccepts, -⟩ := parseEndpoint_exact url
  rw [parsed] at h
  obtain hinvalid | ⟨accepted, haccepted⟩ := hanswer
  · rw [hinvalid] at h
    cases h
  · rw [haccepted, Option.getD_some] at h
    obtain rfl := Except.ok.inj h
    obtain ⟨-, a, -, -, rfl⟩ := (haccepts accepted).mp haccepted
    rfl

theorem resolveCandidate_token (h : resolveCandidate candidate source = .ok snapshot) (htoken : snapshot.token ≠ []) :
    candidate.token = snapshot.token ∧ candidate.tokenOrigin = snapshot.origin := by
  rw [resolveCandidate] at h
  cases hparsed : parsed candidate.url with
  | error result =>
    rw [hparsed] at h
    cases h
  | ok parsed =>
    rw [hparsed] at h
    dsimp only at h
    split_ifs at h with hbound
    · obtain rfl := Except.ok.inj h
      exact ⟨rfl, hbound.2⟩
    · obtain rfl := Except.ok.inj h
      exact absurd (parsed_token hparsed) htoken

/-- The token is that of a provisioned candidate of the snapshot's origin. -/
def Provisioned (provisioned : List EndpointCandidate) (snapshot : EndpointSnapshot) : Prop :=
  ∃ candidate ∈ provisioned, candidate.token = snapshot.token ∧ candidate.tokenOrigin = snapshot.origin

theorem fallbackToken_provisioned (hnone : snapshot.token = []) (h : fallbackToken snapshot provisioned ≠ []) :
    Provisioned provisioned { snapshot with token := fallbackToken snapshot provisioned } := by
  induction provisioned with
  | nil => exact absurd hnone h
  | cons candidate provisioned ih =>
    have hlater : fallbackToken snapshot provisioned ≠ [] →
        Provisioned (candidate :: provisioned) { snapshot with token := fallbackToken snapshot provisioned } := by
      intro hne
      obtain ⟨other, hmem, hother⟩ := ih hne
      exact ⟨other, List.mem_cons_of_mem _ hmem, hother⟩
    rw [fallbackToken] at h ⊢
    cases hcandidate : resolveCandidate candidate .provisioned with
    | error result =>
      rw [hcandidate] at h
      exact hlater h
    | ok fallback =>
      rw [hcandidate] at h
      dsimp only at h ⊢
      split_ifs at h ⊢ with hmatch
      · obtain ⟨htoken, horigin⟩ := resolveCandidate_token hcandidate hmatch.2
        exact ⟨candidate, List.mem_cons_self, htoken, horigin.trans hmatch.1⟩
      · exact hlater h

theorem firstProvisioned_provisioned (h : firstProvisioned provisioned = .ok snapshot) (htoken : snapshot.token ≠ []) :
    Provisioned provisioned snapshot := by
  induction provisioned with
  | nil => cases h
  | cons candidate provisioned ih =>
    rw [firstProvisioned] at h
    cases hcandidate : resolveCandidate candidate .provisioned with
    | error result =>
      rw [hcandidate] at h
      obtain ⟨other, hmem, hother⟩ := ih h
      exact ⟨other, List.mem_cons_of_mem _ hmem, hother⟩
    | ok found =>
      rw [hcandidate] at h
      obtain rfl := Except.ok.inj h
      exact ⟨candidate, List.mem_cons_self, resolveCandidate_token hcandidate htoken⟩

/-- `ResolveEndpoint` changes nothing, and the token it gives is the stored one or a provisioned one. -/
structure Resolves (provisioned : List EndpointCandidate) (s : ConfigStore)
    (e : Execution Key Bytes (Except ConfigResult EndpointSnapshot)) : Prop where
  store : e.store = s
  changes : e.changes = []
  token : ∀ snapshot, e.result = some (.ok snapshot) → snapshot.token ≠ [] →
    (s .token = some snapshot.token ∧ (s .tokenOrigin).getD [] = snapshot.origin) ∨ Provisioned provisioned snapshot

theorem resolves_error {s : ConfigStore} {result : ConfigResult} :
    Resolves provisioned s ⟨s, [], some (.error result)⟩ := ⟨rfl, rfl, fun _ h => by cases h⟩

theorem resolves_stop {s : ConfigStore} : Resolves provisioned s ⟨s, [], none⟩ := ⟨rfl, rfl, fun _ h => by cases h⟩

theorem resolves_first {s : ConfigStore} :
    Always (pure (firstProvisioned provisioned) : Program _) s (Resolves provisioned s) := by
  apply always_pure
  refine ⟨rfl, rfl, fun snapshot h htoken => .inr ?_⟩
  exact firstProvisioned_provisioned (Option.some.inj h) htoken

theorem resolveEndpoint_resolves (provisioned : List EndpointCandidate) (s : ConfigStore) :
    Always (resolveEndpoint provisioned) s (Resolves provisioned s) := by
  apply always_readOptional resolves_stop
  · cases (s .url).getD [] with
    | nil => exact resolves_first
    | cons c url =>
      apply always_readOptional resolves_stop
      · apply always_readOptional resolves_stop
        · dsimp only
          cases hsaved : resolveCandidate ⟨c :: url, (s .token).getD [], (s .tokenOrigin).getD []⟩ .saved with
          | error result => exact resolves_first
          | ok saved =>
            have htoken : ∀ snapshot, snapshot = (if saved.token = [] then
                { saved with token := fallbackToken saved provisioned } else saved) → snapshot.token ≠ [] →
                (s .token = some snapshot.token ∧ (s .tokenOrigin).getD [] = snapshot.origin) ∨
                  Provisioned provisioned snapshot := by
              rintro snapshot rfl hne
              split_ifs at hne ⊢ with hempty
              · exact .inr (fallbackToken_provisioned hempty hne)
              · obtain ⟨hstored, horigin⟩ := resolveCandidate_token hsaved hne
                refine .inl ⟨?_, horigin⟩
                cases hkey : s .token with
                | none =>
                  rw [hkey] at hstored
                  exact absurd hstored.symm hne
                | some token =>
                  rw [hkey] at hstored
                  exact congrArg some hstored
            dsimp only
            generalize (if saved.token = [] then { saved with token := fallbackToken saved provisioned } else saved) =
              snapshot at htoken
            split_ifs
            · apply always_pure
              refine ⟨rfl, rfl, fun found h hne => ?_⟩
              obtain rfl := Except.ok.inj (Option.some.inj h)
              exact htoken _ rfl hne
            · exact resolves_first
        · intro result
          exact always_pure resolves_error
      · intro result
        exact always_pure resolves_error
  · intro result
    exact always_pure resolves_error

end Resolve

inductive Call
  | saveEndpoint (url : Bytes)
  | bindToken (url token : Bytes)
  | resolveEndpoint (provisioned : List EndpointCandidate)
deriving DecidableEq

inductive Answer
  | result (result : ConfigResult)
  | resolved (result : Except ConfigResult EndpointSnapshot)

/-- What is seen of a call: the changes it made to the store, and its answer if power was
not lost before. -/
structure Seen where
  changes : List (Key × Option Bytes)
  answer : Option Answer

def seen {α : Type} (answer : α → Answer) (e : Execution Key Bytes α) : ConfigStore × Seen :=
  (e.store, ⟨e.changes, e.result.map answer⟩)

/-- One call, with what becomes of its operations on the store. -/
def perform (s : ConfigStore) (call : Call × List (Outcome Failure)) : ConfigStore × Seen :=
  match call.1 with
  | .saveEndpoint url => seen .result (exec (saveEndpoint url) call.2 s)
  | .bindToken url token => seen .result (exec (bindToken url token) call.2 s)
  | .resolveEndpoint provisioned => seen .resolved (exec (resolveEndpoint provisioned) call.2 s)

abbrev Event := (Call × List (Outcome Failure)) × Seen

def emptyStore : ConfigStore := fun _ => none

/-- A `BindToken` of the token to a URL of the origin, that wrote the token. -/
def Event.Binds (e : Event) (token origin : Bytes) : Prop :=
  (∃ url snapshot, e.1.1 = .bindToken url token ∧ parsed url = .ok snapshot ∧ snapshot.origin = origin) ∧
    (Key.token, some token) ∈ e.2.changes

/-- The last writing of a token was that of a `BindToken` to a URL of the origin. -/
def LastBound (es : List Event) (token origin : Bytes) : Prop :=
  ∃ before e after, es = before ++ e :: after ∧ Event.Binds e token origin ∧ ∀ f ∈ after, NoToken f.2.changes

variable {es : List Event} {s t : ConfigStore} {e : Event} {token origin : Bytes}

/-- A stored token is the one last bound, and its origin is stored with it. -/
def Paired (es : List Event) (s : ConfigStore) : Prop :=
  ∀ token, s .token = some token → ∃ origin, s .tokenOrigin = some origin ∧ LastBound es token origin

theorem LastBound.snoc (h : LastBound es token origin) (hno : NoToken e.2.changes) :
    LastBound (es ++ [e]) token origin := by
  obtain ⟨before, f, after, rfl, hf, hafter⟩ := h
  refine ⟨before, f, after ++ [e], by simp, hf, ?_⟩
  intro g hg
  obtain hg | hg := List.mem_append.mp hg
  · exact hafter g hg
  · obtain rfl := List.mem_singleton.mp hg
    exact hno

theorem Paired.kept (h : Paired es s) (hno : NoToken e.2.changes) (hkept : Kept s t) : Paired (es ++ [e]) t := by
  intro token htoken
  obtain hnone | ⟨hsame, horigin⟩ := hkept
  · rw [hnone] at htoken
    cases htoken
  · obtain ⟨origin, hstored, hbound⟩ := h token (hsame ▸ htoken)
    exact ⟨origin, horigin.trans hstored, hbound.snoc hno⟩

theorem paired_step (h : Paired es s) (hstep : Answers perform s e t) : Paired (es ++ [e]) t := by
  obtain ⟨⟨call, outcomes⟩, observed⟩ := e
  cases call with
  | saveEndpoint url =>
    change seen .result (exec (saveEndpoint url) outcomes s) = (t, observed) at hstep
    obtain ⟨rfl, rfl⟩ := Prod.mk.inj hstep
    obtain hkeeps | ⟨b, hb, -⟩ := saveEndpoint_settles url s outcomes
    · exact h.kept hkeeps.noToken hkeeps.kept
    · cases hb
  | bindToken url token =>
    change seen .result (exec (bindToken url token) outcomes s) = (t, observed) at hstep
    obtain ⟨rfl, rfl⟩ := Prod.mk.inj hstep
    obtain hkeeps | ⟨b, hb, hbinds⟩ := bindToken_settles url token s outcomes
    · exact h.kept hkeeps.noToken hkeeps.kept
    · cases hparsed : parsed url with
      | error result =>
        rw [hparsed] at hb
        cases hb
      | ok snapshot =>
        rw [hparsed] at hb
        obtain rfl := Option.some.inj hb
        intro stored hstored
        rw [hbinds.token] at hstored
        obtain rfl := Option.some.inj hstored
        exact ⟨snapshot.origin, hbinds.origin, es, _, [], rfl, ⟨⟨url, snapshot, rfl, hparsed, rfl⟩, hbinds.written⟩,
          by simp⟩
  | resolveEndpoint provisioned =>
    change seen .resolved (exec (resolveEndpoint provisioned) outcomes s) = (t, observed) at hstep
    obtain ⟨rfl, rfl⟩ := Prod.mk.inj hstep
    have hresolves := resolveEndpoint_resolves provisioned s outcomes
    apply h.kept
    · intro token hmem
      rw [hresolves.changes] at hmem
      cases hmem
    · rw [hresolves.store]
      exact .inr ⟨rfl, rfl⟩

theorem run_paired (h : Run (Answers perform) emptyStore es s) : Paired es s := by
  refine h.invariant (R := fun es s => Paired es s) ?_ ?_
  · rintro token ⟨⟩
  · intro es s e t _ hpaired hstep
    exact paired_step hpaired hstep

/-- Whatever fails and wherever power is lost, a token that `ResolveEndpoint` gives was last
bound to a URL of the snapshot's origin, or is that of a provisioned candidate bound to it. -/
theorem token_stays_with_origin (h : Run (Answers perform) emptyStore es s) {provisioned : List EndpointCandidate}
    {outcomes : List (Outcome Failure)} {snapshot : EndpointSnapshot}
    (hresolve : (exec (resolveEndpoint provisioned) outcomes s).result = some (.ok snapshot))
    (htoken : snapshot.token ≠ []) :
    LastBound es snapshot.token snapshot.origin ∨ Provisioned provisioned snapshot := by
  obtain ⟨hstored, horigin⟩ | hprovisioned :=
    (resolveEndpoint_resolves provisioned s outcomes).token snapshot hresolve htoken
  · obtain ⟨origin, hkey, hbound⟩ := run_paired h snapshot.token hstored
    rw [hkey, Option.getD_some] at horigin
    rw [← horigin]
    exact .inl hbound
  · exact .inr hprovisioned

def demoUrl : Bytes := ascii "wss://voice.example/rva/v1/voice"

/-- A token is bound and the URL saved; a second binding fails at its first erasing, which changes nothing. -/
def demoCalls : List (Call × List (Outcome Failure)) :=
  [(.bindToken demoUrl (ascii "t1"), [.done, .done, .done]), (.saveEndpoint demoUrl, [.done, .done, .done]),
    (.bindToken (ascii "ws://other/rva/v1/voice") (ascii "t2"), [.failed .storageFailure false])]

theorem token_stays_with_origin_demo :
    LastBound (history perform emptyStore demoCalls) (ascii "t1") (ascii "wss://voice.example:443") ∨
      Provisioned [] { url := demoUrl, token := ascii "t1", origin := ascii "wss://voice.example:443" } := by
  have hresolve : (exec (resolveEndpoint []) [.done, .done, .done] (after perform emptyStore demoCalls)).result =
      some (.ok { url := demoUrl, host := ascii "voice.example", origin := ascii "wss://voice.example:443",
                  token := ascii "t1", port := 443, secure := true, source := .saved }) := by
    decide +kernel
  exact token_stays_with_origin (run_history perform emptyStore demoCalls) hresolve (by decide)

end RealtimeVoice.Firmware.DeviceConfig
