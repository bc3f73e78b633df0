import RealtimeVoice.Base.Loads
import RealtimeVoice.Rva.StopInFlight

namespace RealtimeVoice.Rva

open RealtimeVoice.Base RealtimeVoice.Contracts

/-- What `receive_control` can raise: an error of the binding, or one of `json.loads`
that `decode_control` lets through. -/
inductive ControlError
  | rva (e : RvaError)
  | recursion
  | digits
deriving DecidableEq

/-- `_unique_object` -/
def uniqueObject : Loads.Hook := fun pairs =>
  if (pairs.map Prod.fst).Nodup then some (.obj (pairs.map fun p => (p.1.key, p.2))) else none

def decodeControl (p : Interpreter) (raw : PyStr) : Except ControlError Message :=
  match raw.text? with
  | none => .error (.rva (.binding "invalid_utf8"))
  | some text =>
    if utf8Length text.toList > controlMaxBytes then .error (.rva (.binding "message_too_large"))
    else
      match loads p uniqueObject raw with
      | .error .decode => .error (.rva (.binding "invalid_json"))
      | .error .hook => .error (.rva (.binding "duplicate_json_key"))
      | .error .recursion => .error .recursion
      | .error .digits => .error .digits
      | .ok (.obj message) => .ok message
      | .ok _ => .error (.rva (.binding "control_message_must_be_object"))

/-- `receive_control` as it is called, on a text. -/
def Binding.receiveText (p : Interpreter) (b : Binding) (raw : PyStr) : Binding × Except ControlError Reply :=
  match decodeControl p raw with
  | .error e => (b, .error e)
  | .ok message => ((b.receiveControl message).1, (b.receiveControl message).2.mapError .rva)

theorem receiveText_ok {p : Interpreter} {b b' : Binding} {raw : PyStr} {reply : Reply}
    (h : b.receiveText p raw = (b', .ok reply)) :
    ∃ message, decodeControl p raw = .ok message ∧ b.receiveControl message = (b', .ok reply) := by
  rw [Binding.receiveText] at h
  cases hdecode : decodeControl p raw with
  | error e =>
    rw [hdecode] at h
    cases (Prod.mk.inj h).2
  | ok message =>
    rw [hdecode] at h
    obtain ⟨hstate, hresult⟩ := Prod.mk.inj h
    refine ⟨message, rfl, ?_⟩
    cases hreply : (b.receiveControl message).2 with
    | error e =>
      rw [hreply] at hresult
      cases hresult
    | ok reply' =>
      rw [hreply] at hresult
      cases hresult
      exact Prod.ext hstate hreply

section Fields

variable {message : Message} {names : List String} {value : Json} {name s : String} {u : Unit}

theorem requireExactFields_ok : requireExactFields message names = .ok u ↔ sameFields message names = true := by
  rw [requireExactFields]
  by_cases h : sameFields message names = true
  · rw [if_pos h]
    exact ⟨fun _ => h, fun _ => rfl⟩
  · rw [if_neg h]
    refine ⟨fun hok => ?_, fun hfields => absurd hfields h⟩
    split at hok <;> cases hok

theorem sameFields_iff :
    sameFields message names = true ↔ (∀ k ∈ keys message, k ∈ names) ∧ ∀ k ∈ names, k ∈ keys message := by
  simp [sameFields]

theorem lookup_of_mem_keys (h : name ∈ keys message) : ∃ value, message.lookup name = some value := by
  rw [← Option.isSome_iff_exists, List.lookup_isSome_iff]
  obtain ⟨f, hf, rfl⟩ := List.mem_map.mp h
  exact ⟨f, hf, beq_self_eq_true _⟩

theorem mem_keys_of_lookup (h : message.lookup name = some value) : name ∈ keys message := by
  have hsome : (message.lookup name).isSome = true := by rw [h, Option.isSome_some]
  obtain ⟨f, hf, hkey⟩ := List.lookup_isSome_iff.mp hsome
  exact List.mem_map.mpr ⟨f, hf, (beq_iff_eq.mp hkey).symm⟩

/-- The fields are the required ones, with or without the optional one. -/
def FieldsAre (message : Message) (required : List String) (optional : String) : Prop :=
  sameFields message required = true ∨ sameFields message (required ++ [optional]) = true

theorem requireFields_ok : requireFields message names name = .ok u ↔ FieldsAre message names name := by
  rw [requireFields, FieldsAre, ← Bool.or_eq_true]
  by_cases h : (sameFields message names || sameFields message (names ++ [name])) = true
  · rw [if_pos h]
    exact ⟨fun _ => h, fun _ => rfl⟩
  · rw [if_neg h]
    refine ⟨fun hok => ?_, fun hfields => absurd hfields h⟩
    split at hok <;> cases hok

theorem eqStr_iff : value.eqStr s = true ↔ value = .str s := by
  cases value with
  | str t =>
    rw [Json.eqStr, beq_iff_eq]
    exact ⟨congrArg Json.str, Json.str.inj⟩
  | _ => simp [Json.eqStr]

theorem requireIdentifier_iff :
    requireIdentifier value name = .ok s ↔ value = .str s ∧ identifierMatches s = true := by
  refine ⟨requireIdentifier_ok, ?_⟩
  rintro ⟨rfl, hs⟩
  exact Binding.requireIdentifier_str hs

theorem requireUint32_iff {minimum n : Nat} :
    requireUint32 value name minimum = .ok n ↔ value = nat n ∧ minimum ≤ n ∧ n ≤ uint32Max := by
  rw [requireUint32.eq_def]
  cases value with
  | int m =>
    simp only [nat, Json.int.injEq]
    constructor
    · intro h
      obtain ⟨rfl, hmin, hmax⟩ := validateUint32_ok (Int.natCast_nonneg _) h
      exact ⟨rfl, Int.ofNat_le.mp hmin, hmax⟩
    · rintro ⟨rfl, hmin, hmax⟩
      rw [validateUint32, if_pos ⟨by omega, by omega⟩, Int.toNat_natCast]
  | _ => simp [nat]

theorem requireUint53_iff {n : Nat} :
    Binding.requireUint53 value name = .ok n ↔ value = nat n ∧ n ≤ uint53Max := by
  rw [Binding.requireUint53.eq_def]
  cases value with
  | int m =>
    simp only [nat, Json.int.injEq]
    constructor
    · intro h
      split_ifs at h with hrange
      cases h
      omega
    · rintro ⟨rfl, hmax⟩
      rw [if_pos ⟨by omega, by omega⟩, Int.toNat_natCast]
  | _ => simp [nat]

/-- The value names a response and a generation. -/
def IsTarget (value : Json) (key : Key) : Prop :=
  ∃ fields, value = .obj fields ∧ sameFields fields ["response_id", "generation"] = true ∧
    field fields "response_id" = .str key.1 ∧ identifierMatches key.1 = true ∧
    field fields "generation" = nat key.2 ∧ 1 ≤ key.2 ∧ key.2 ≤ uint32Max

theorem parseTarget_iff {key : Key} : Binding.parseTarget value = .ok key ↔ IsTarget value key := by
  rw [Binding.parseTarget.eq_def, IsTarget]
  cases value with
  | obj fields =>
    simp only [bind_ok, pure_ok, requireExactFields_ok, exists_const, requireIdentifier_iff, Json.obj.injEq,
      exists_eq_left']
    constructor
    · rintro ⟨hfields, id, ⟨hid, hmatch⟩, g, hg, rfl⟩
      obtain ⟨hgeneration, hmin, hmax⟩ := (@requireUint32_iff _ _ 1 _).mp hg
      exact ⟨hfields, hid, hmatch, hgeneration, hmin, hmax⟩
    · rintro ⟨hfields, hid, hmatch, hg⟩
      exact ⟨hfields, key.1, ⟨hid, hmatch⟩, key.2, (@requireUint32_iff _ _ 1 _).mpr hg, rfl⟩
  | _ => simp

end Fields

namespace Binding

variable {b : Binding} {message : Message} {u : Unit}

/-- The message names the session and its epoch. -/
def IsFor (b : Binding) (message : Message) : Prop :=
  field message "session_id" = .str b.config.sessionId ∧ field message "session_epoch" = .str b.config.sessionEpoch

theorem requireContext_ok : b.requireContext message = .ok u ↔ b.IsFor message := by
  rw [requireContext, IsFor, ← eqStr_iff, ← eqStr_iff, ← Bool.and_eq_true]
  split <;> simp [*]

/-- What `_cancel` has checked of a message that it lets pass. -/
theorem cancelRequest_fields {request : Option (String × Key)} (h : b.cancelRequest message = .ok request) :
    ∃ id key, sameFields message ["type", "session_id", "session_epoch", "request_id", "target", "cause"] = true ∧
      b.IsFor message ∧ (field message "request_id" = .str id ∧ identifierMatches id = true) ∧
      field message "cause" = .str "user_request" ∧ IsTarget (field message "target") key ∧
      ((request = none ∧ b.cancelRequests.get? id = some key) ∨
        (request = some (id, key) ∧ b.cancelRequests.get? id = none ∧
          (b.responses.playback.bind (b.responses.heap[·]?)).any (·.key == key) = true)) := by
  rw [cancelRequest] at h
  simp only [bind_ok, reject_ok, exists_const, requireExactFields_ok, requireContext_ok, requireIdentifier_iff,
    parseTarget_iff, Bool.not_eq_true', Bool.not_eq_false, eqStr_iff] at h
  obtain ⟨hfields, hfor, id, hid, hcause, key, htarget, h⟩ := h
  refine ⟨id, key, hfields, hfor, hid, hcause, htarget, ?_⟩
  cases hprevious : b.cancelRequests.get? id with
  | some previous =>
    rw [hprevious] at h
    simp only [bind_ok, reject_ok, exists_const, pure_ok, not_not] at h
    exact .inl ⟨h.2.symm, congrArg some h.1⟩
  | none =>
    rw [hprevious] at h
    simp only [bind_ok, reject_ok, exists_const, pure_ok, Bool.not_eq_false] at h
    exact .inr ⟨h.2.symm, rfl, h.1⟩

theorem closeReason?_iff {value : Json} {reason : String} :
    closeReason? value = .ok reason ↔ value = .str reason ∧ reason ∈ closeReasons := by
  rw [closeReason?.eq_def]
  cases value with
  | str s =>
    simp only [Json.hashable, Bool.not_true, Bool.false_eq_true, if_false, Json.str.injEq]
    by_cases hs : s ∈ closeReasons
    · rw [if_pos hs, Except.ok.injEq]
      exact ⟨fun h => ⟨h, h ▸ hs⟩, fun h => h.1⟩
    · rw [if_neg hs]
      refine ⟨fun h => ?_, fun h => absurd (h.1 ▸ h.2) hs⟩
      cases h
  | _ => simp [Json.hashable]

/-- What `_receive_close` has checked of a message that it lets pass. -/
theorem parseClose_fields {reason : String} (h : b.parseClose message = .ok reason) :
    FieldsAre message ["type", "session_id", "session_epoch", "reason", "initiated_by"] "detail" ∧ b.IsFor message ∧
      field message "initiated_by" = .str "device" ∧ field message "reason" = .str reason ∧ reason ∈ closeReasons ∧
      ∀ value, message.lookup "detail" = some value →
        ∃ detail, value = .str detail ∧ utf8Length detail.toList ≤ 256 := by
  rw [parseClose] at h
  simp only [bind_ok, reject_ok, exists_const, requireFields_ok, requireContext_ok, closeReason?_iff,
    Bool.not_eq_true', Bool.not_eq_false, eqStr_iff] at h
  obtain ⟨hfields, hfor, hdevice, reason', ⟨hvalue, hmem⟩, h⟩ := h
  split at h
  · rename_i hdetail
    obtain rfl := pure_ok.mp h
    refine ⟨hfields, hfor, hdevice, hvalue, hmem, fun value hlookup => ?_⟩
    cases hdetail.symm.trans hlookup
  · rename_i detail hdetail
    simp only [bind_ok, pure_ok] at h
    obtain ⟨_, htext, rfl⟩ := h
    refine ⟨hfields, hfor, hdevice, hvalue, hmem, fun value hlookup => ⟨detail, ?_, (requireText_ok htext).1⟩⟩
    exact (Option.some.inj (hdetail.symm.trans hlookup)).symm
  · simp at h

/-- The `session.close` messages that are let pass are those of the schema. -/
theorem parseClose_iff (htype : field message "type" = .str "session.close") :
    (∃ reason, b.parseClose message = .ok reason) ↔ b.CloseRequest message := by
  constructor
  · rintro ⟨reason, h⟩
    obtain ⟨hfields, hcontext, hdevice, hreason, hmem, hdetail⟩ := parseClose_fields h
    refine ⟨?_, htype, hcontext.1, hcontext.2, hdevice, reason, hmem, hreason⟩
    cases hlookup : message.lookup "detail" with
    | none =>
      refine .inl ⟨hfields.resolve_right fun h => ?_, rfl⟩
      obtain ⟨value, hvalue⟩ := lookup_of_mem_keys ((sameFields_iff.mp h).2 "detail" (by simp))
      cases hlookup.symm.trans hvalue
    | some value =>
      obtain ⟨detail, rfl, hbytes⟩ := hdetail value hlookup
      refine .inr ⟨hfields.resolve_left fun h => ?_, detail, rfl, hbytes⟩
      have hunknown := (sameFields_iff.mp h).1 "detail" (mem_keys_of_lookup hlookup)
      simp at hunknown
  · intro h
    obtain ⟨reason, -, hreason⟩ := parseClose_eq h
    exact ⟨reason, hreason⟩

end Binding

end RealtimeVoice.Rva
