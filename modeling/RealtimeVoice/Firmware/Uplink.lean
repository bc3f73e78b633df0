import RealtimeVoice.Base.Numbering
import RealtimeVoice.Firmware.UdpSession

namespace RealtimeVoice.Firmware.UdpSession

open RealtimeVoice.Base.Runs RealtimeVoice.Base.Numbering RealtimeVoice.Firmware.Wire

/-- What the sending side works with. -/
structure Sender where
  configured : Bool
  uplinkKey : Option Bytes
  grant : SessionGrant
  sendSequence : UInt32
  probeDatagram : Option Sealed

def sender (s : UdpSession) : Sender :=
  { configured := s.configured, uplinkKey := s.uplinkKey, grant := s.grant, sendSequence := s.sendSequence,
    probeDatagram := s.probeDatagram }

variable {aead : AeadPort} {s s' : UdpSession}

theorem sender_fence (s : UdpSession) (generation : UInt32) : (s.fenceGeneration generation).1.sender = s.sender := by
  rw [fenceGeneration]
  split
  · rfl
  · split <;> rfl

theorem sender_advance (s : UdpSession) (generation : UInt32) :
    (s.advanceGeneration generation).1.sender = s.sender := by
  rw [advanceGeneration]
  split
  · rfl
  · dsimp only
    split <;> rfl

theorem sender_pop (s : UdpSession) (nowUs : Int) : (s.popPlayout nowUs).1.sender = s.sender := by
  rw [popPlayout]
  split <;> rfl

theorem sender_buffer (s : UdpSession) (header : Header) (plaintext : Bytes) (nowUs : Int) :
    (s.bufferFutureAudio header plaintext nowUs).1.sender = s.sender := by
  rw [bufferFutureAudio]
  split
  · rfl
  · split
    · rfl
    · split
      · rfl
      · split <;> rfl

theorem sender_admit (s : UdpSession) (header : Header) (plaintext : Bytes) (nowUs : Int) :
    (s.admitted header plaintext nowUs).1.sender = s.sender := by
  rw [admitted]
  split
  · dsimp only
    split <;> rfl
  · have hbuffer := sender_buffer { s with lastAuthenticatedReceiveUs := nowUs } header plaintext nowUs
    dsimp only
    split
    · rfl
    split
    · split
      · exact hbuffer
      · rfl
    split
    · split <;> rfl
    split
    · rfl
    split
    · exact hbuffer
    split <;> rfl

theorem sender_receive (aead : AeadPort) (s : UdpSession) (source : Endpoint) (datagram : Bytes) (nowUs : Int) :
    (s.receive aead source datagram nowUs).1.sender = s.sender := by
  rw [receive]
  split
  · rfl
  split
  · rfl
  split
  · rfl
  split
  · rfl
  split
  · rfl
  split
  · rfl
  · exact sender_admit _ _ _ _

/-- The datagram an operation built for the socket. -/
def builtDatagram : Reply → Option Sealed
  | .built datagram => datagram
  | _ => none

/-- The datagrams built for the socket, in order. -/
def handed (es : List (Op × Reply)) : List Sealed := es.filterMap (fun e => builtDatagram e.2)

def number (d : Sealed) : Nat := d.header.sequence.toNat

/-- The datagrams sealed under the grant have numbers below the counter, and the kept
probe is one of them. Without a configuration nothing is sealed or kept. -/
structure Built (grant : SessionGrant) (s : Sender) (sent : List Sealed) : Prop where
  numbered : Numbered number sent
  under : ∀ d ∈ sent, d.key = grant.uplinkKey ∧ d.nonce = makeNonce grant.uplinkSalt d.header.sequence
  current : s.configured = true → s.uplinkKey = some grant.uplinkKey ∧ s.grant = grant ∧
    ∀ d ∈ sent, number d < s.sendSequence.toNat
  probe : ∀ d ∈ s.probeDatagram, d ∈ sent
  idle : s.configured = false → s.probeDatagram = none

variable {grant : SessionGrant} {sent : List Sealed}

theorem Built.build (h : Built grant s.sender sent) (type : DatagramType) (payload : Bytes) (timestamp generation : UInt32)
    (output : Option Nat) (encrypts : Bool) :
    Built grant (s.build type payload timestamp generation output encrypts).1.sender
      (sent ++ (s.build type payload timestamp generation output encrypts).2.toList) := by
  obtain heq | ⟨key, hkey, hconfigured, hroom, heq⟩ := build_cases s type payload timestamp generation output encrypts
  · rw [heq]
    simpa using h
  · rw [heq]
    obtain ⟨huplink, hgrant, hbelow⟩ := h.current hconfigured
    have hnext : (s.sendSequence + 1).toNat = s.sendSequence.toNat + 1 := by
      have hlt := s.sendSequence.toNat_lt
      have hne : s.sendSequence.toNat ≠ 4294967295 := fun hmax => hroom (UInt32.toNat_inj.mp hmax)
      rw [UInt32.toNat_add]
      change (s.sendSequence.toNat + 1) % 2 ^ 32 = _
      omega
    refine ⟨h.numbered.fresh hbelow, ?_, fun _ => ⟨huplink, hgrant, ?_⟩, ?_, ?_⟩
    · intro d hd
      rw [Option.toList_some, List.mem_append, List.mem_singleton] at hd
      obtain hd | rfl := hd
      · exact h.under d hd
      · have hkey' := Option.some.inj (hkey.symm.trans huplink)
        have hgrant' : s.grant = grant := hgrant
        exact ⟨hkey', by rw [← hgrant']⟩
    · intro d hd
      rw [Option.toList_some, List.mem_append, List.mem_singleton] at hd
      change number d < (s.sendSequence + 1).toNat
      rw [hnext]
      obtain hd | rfl := hd
      · exact Nat.lt_succ_of_lt (hbelow d hd)
      · exact Nat.lt_succ_self _
    · intro d hd
      exact List.mem_append_left _ (h.probe d hd)
    · intro hidle
      exact absurd (hconfigured.symm.trans hidle) (by decide)

theorem Built.probed (h : Built grant s.sender sent) (output : Option Nat) (encrypts : Bool) :
    Built grant (s.buildProbe output encrypts).1.sender (sent ++ (s.buildProbe output encrypts).2.toList) := by
  rw [buildProbe]
  split
  · simpa using h
  · cases hprobe : s.probeDatagram with
    | some probe =>
      have hmem := h.probe probe hprobe
      have hall : ∀ d ∈ sent ++ [probe], d ∈ sent := by
        intro d hd
        rw [List.mem_append, List.mem_singleton] at hd
        obtain hd | rfl := hd
        · exact hd
        · exact hmem
      refine ⟨h.numbered.repeated hmem, fun d hd => h.under d (hall d hd), fun hconfigured => ?_, ?_, h.idle⟩
      · obtain ⟨hkey, hgrant, hbelow⟩ := h.current hconfigured
        exact ⟨hkey, hgrant, fun d hd => hbelow d (hall d hd)⟩
      · exact fun d hd => List.mem_append_left _ (h.probe d hd)
    | none =>
      have hbuilt := h.build .probe [] 0 0 (some (headerBytes + tagBytes)) encrypts
      dsimp only
      obtain heq | ⟨key, -, hconfigured, -, heq⟩ :=
        build_cases s .probe [] 0 0 (some (headerBytes + tagBytes)) encrypts
      · rw [heq] at hbuilt ⊢
        exact hbuilt
      · rw [heq] at hbuilt ⊢
        refine ⟨hbuilt.numbered, hbuilt.under, hbuilt.current, ?_, ?_⟩
        · intro d hd
          rw [List.mem_append, Option.mem_toList]
          exact .inr hd
        · intro hidle
          exact absurd (hconfigured.symm.trans hidle) (by decide)

/-- Every operation but `Configure`. -/
theorem Built.step (h : Built grant s.sender sent) {e : Op × Reply} (hstep : Step aead s e s')
    (hop : ∀ grant setUplink setDownlink, e.1 ≠ .configure grant setUplink setDownlink) :
    Built grant s'.sender (sent ++ (builtDatagram e.2).toList) := by
  obtain ⟨op, reply⟩ := e
  obtain ⟨rfl, rfl⟩ : s' = (call aead s op).1 ∧ reply = (call aead s op).2 := by
    rw [show call aead s op = (s', reply) from hstep]
    exact ⟨rfl, rfl⟩
  have hsame : ∀ {t : UdpSession}, t.sender = s.sender → Built grant t.sender (sent ++ (none : Option Sealed).toList) := by
    intro t ht
    rw [ht]
    simpa using h
  cases op with
  | configure grant setUplink setDownlink => exact absurd rfl (hop grant setUplink setDownlink)
  | revoke =>
    refine ⟨by simpa [call, builtDatagram] using h.numbered, by simpa [call, builtDatagram] using h.under, ?_, ?_, ?_⟩
    · intro hconfigured
      cases hconfigured
    · intro d hd
      cases hd
    · exact fun _ => rfl
  | receive source datagram nowUs => exact hsame (sender_receive aead s source datagram nowUs)
  | fenceGeneration generation => exact hsame (sender_fence s generation)
  | advanceGeneration generation => exact hsame (sender_advance s generation)
  | popPlayout nowUs => exact hsame (sender_pop s nowUs)
  | buildProbe output encrypts => exact h.probed output encrypts
  | buildKeepalive output encrypts => exact h.build .keepalive [] 0 0 output encrypts
  | buildAudio opus timestamp output encrypts => exact h.build .audio opus timestamp 0 output encrypts

/-- A step of a run between two `Configure` calls. -/
def KeepsGrant (aead : AeadPort) (s : UdpSession) (e : Op × Reply) (s' : UdpSession) : Prop :=
  (∀ grant setUplink setDownlink, e.1 ≠ .configure grant setUplink setDownlink) ∧ Step aead s e s'

theorem run_built {s₀ : UdpSession} {setUplink setDownlink : Bool} {es : List (Op × Reply)}
    (h : Run (KeepsGrant aead) s es s') (hconfigure : s₀.configure grant setUplink setDownlink = (s, true)) :
    Built grant s'.sender (handed es) := by
  refine h.invariant (R := fun es s => Built grant s.sender (handed es)) ?_ ?_
  · rw [configure] at hconfigure
    split at hconfigure
    · cases hconfigure
    · obtain rfl := (Prod.mk.inj hconfigure).1
      refine ⟨.nil, by simp [handed], fun _ => ⟨rfl, rfl, by simp [handed]⟩, ?_, fun _ => rfl⟩
      intro d hd
      cases hd
  · intro es t e u _ hbuilt hstep
    have hsnoc : handed (es ++ [e]) = handed es ++ (builtDatagram e.2).toList := by
      rw [handed, handed, List.filterMap_append]
      cases hd : builtDatagram e.2 <;> simp [hd]
    rw [hsnoc]
    exact hbuilt.step hstep.2 hstep.1

end RealtimeVoice.Firmware.UdpSession
