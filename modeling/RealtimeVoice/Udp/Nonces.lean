import RealtimeVoice.Udp.Sending
import RealtimeVoice.Firmware.Uplink
import RealtimeVoice.Desktop.UdpUplink

namespace RealtimeVoice.Udp.Nonces

open RealtimeVoice.Base.Runs RealtimeVoice.Base.Numbering

/-- Of the datagrams that a sender gave to the socket under one key and salt, no two
different ones share a number; a new one has a number above all before it, within 32
bits. -/
structure NoncesUnique {α : Type} (number : α → Nat) (sent : List α) : Prop where
  unique : ∀ a ∈ sent, ∀ b ∈ sent, number a = number b → a = b
  rising : Numbered number sent
  bound : ∀ a ∈ sent, number a ≤ 0xFFFFFFFF

theorem noncesUnique_of_numbered {α : Type} {number : α → Nat} {sent : List α} (h : Numbered number sent)
    (hbound : ∀ a ∈ sent, number a ≤ 0xFFFFFFFF) : NoncesUnique number sent :=
  ⟨fun _ ha _ hb heq => h.eq_of_number ha hb heq, h, hbound⟩

/-- The server and the firmware never use a nonce twice. The desktop does not in runs
where no frame goes to the socket before the probe is acknowledged, and after a frame
that the socket refused only that frame is sent again. -/
theorem nonces_unique (mediaId : List UInt8) (mediaEpoch : Nat) :
    (∀ (s₀ s : Gateway.Downlink) (es : List Gateway.Downlink.Event), s₀.sequence = 0 → s₀.probeAckDatagram = none →
      Run Gateway.Downlink.Step s₀ es s → NoncesUnique Gateway.Downlink.number (Gateway.Downlink.handed es)) ∧
    (∀ (aead : Firmware.AeadPort) (s₀ s s' : Firmware.UdpSession) (grant : Firmware.SessionGrant)
      (setUplink setDownlink : Bool) (es : List (Firmware.UdpSession.Op × Firmware.UdpSession.Reply)),
      s₀.configure grant setUplink setDownlink = (s, true) → Run (Firmware.UdpSession.KeepsGrant aead) s es s' →
      NoncesUnique Firmware.UdpSession.number (Firmware.UdpSession.handed es) ∧
        ∀ d ∈ Firmware.UdpSession.handed es,
          d.key = grant.uplinkKey ∧ d.nonce = Firmware.Wire.makeNonce grant.uplinkSalt d.header.sequence) ∧
    ∀ (encrypts : Bool) (es : List Desktop.UdpUplink.Event) (s : Desktop.UdpUplink),
      Run Desktop.UdpUplink.Step (Desktop.UdpUplink.opened mediaId mediaEpoch encrypts) es s →
      (∀ before e rest t, es = before ++ e :: rest →
        Run Desktop.UdpUplink.Step (Desktop.UdpUplink.opened mediaId mediaEpoch encrypts) before t →
        Desktop.UdpUplink.Careful before t e.1) →
      NoncesUnique Desktop.MediaFrame.sequence (Desktop.UdpUplink.handed es) := by
  refine ⟨?_, ?_, ?_⟩
  · intro s₀ s es hsequence hprobe h
    have hsent := Gateway.Downlink.run_sent h hsequence hprobe
    apply noncesUnique_of_numbered hsent.numbered
    intro d hd
    have hlt := hsent.below d hd
    have hle := hsent.bound
    omega
  · intro aead s₀ s s' grant setUplink setDownlink es hconfigure h
    have hbuilt := Firmware.UdpSession.run_built h hconfigure
    refine ⟨noncesUnique_of_numbered hbuilt.numbered ?_, hbuilt.under⟩
    intro d _
    have hlt := d.header.sequence.toNat_lt
    rw [Firmware.UdpSession.number]
    omega
  · intro encrypts es s h hcareful
    have hsent := Desktop.UdpUplink.run_sent h hcareful
    exact noncesUnique_of_numbered hsent.numbered hsent.bound

def demoId : List UInt8 := List.replicate 8 0

def demoReads (sends : Bool) : Desktop.SendReads := { refreshDue := false, encrypts := true, sends := sends }

/-- One frame of audio after the probe, refused once by the socket. -/
def demoRetried : List Desktop.UdpUplink.Call :=
  [.probeSend true, .probeAccepted, .send .audio [1] 0 0 (demoReads false), .send .audio [1] 0 0 (demoReads true)]

theorem nonces_unique_retried :
    NoncesUnique Desktop.MediaFrame.sequence (Desktop.UdpUplink.handed
      (history Desktop.UdpUplink.call (Desktop.UdpUplink.opened demoId 1 true) demoRetried)) := by
  apply (nonces_unique demoId 1).2.2 true _ _ (run_history _ _ demoRetried)
  intro before e rest t hes hrun
  have hcareful : Desktop.UdpUplink.CarefulFrom [] (Desktop.UdpUplink.opened demoId 1 true) demoRetried :=
    ⟨trivial, trivial, fun _ => ⟨rfl, by decide +kernel⟩, fun _ => ⟨rfl, by decide +kernel⟩, trivial⟩
  exact Desktop.UdpUplink.careful_history [] hcareful hes hrun

/-- Audio that the socket refused, then other audio. -/
def demoReplaced : List Desktop.UdpUplink.Call :=
  [.probeSend true, .probeAccepted, .send .audio [1] 0 0 (demoReads false), .send .audio [2] 960 0 (demoReads true)]

/-- Audio while the probe is not acknowledged yet. -/
def demoEarly : List Desktop.UdpUplink.Call := [.probeSend true, .send .audio [1] 0 0 (demoReads true)]

/-- After these calls two different frames went to the socket under one number. -/
def ReusesNonce (calls : List Desktop.UdpUplink.Call) : Prop :=
  ∃ (es : List Desktop.UdpUplink.Event) (s : Desktop.UdpUplink),
    Run Desktop.UdpUplink.Step (Desktop.UdpUplink.opened demoId 1 true) es s ∧ es.map Prod.fst = calls ∧
    ∃ a ∈ Desktop.UdpUplink.handed es, ∃ b ∈ Desktop.UdpUplink.handed es, a.sequence = b.sequence ∧ a ≠ b

/-- The desktop numbers two different frames alike after a send that failed, and so it
does with the probe and a frame that is sent before its acknowledgement. -/
theorem desktop_nonce_reused : ReusesNonce demoReplaced ∧ ReusesNonce demoEarly := by
  constructor
  · refine ⟨history Desktop.UdpUplink.call (Desktop.UdpUplink.opened demoId 1 true) demoReplaced, _,
      run_history _ _ demoReplaced, ?_⟩
    decide +kernel
  · refine ⟨history Desktop.UdpUplink.call (Desktop.UdpUplink.opened demoId 1 true) demoEarly, _,
      run_history _ _ demoEarly, ?_⟩
    decide +kernel

end RealtimeVoice.Udp.Nonces
