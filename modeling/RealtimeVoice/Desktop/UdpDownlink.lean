import RealtimeVoice.Base.Dict
import RealtimeVoice.Udp.Datagram
import RealtimeVoice.Udp.Replay
import RealtimeVoice.Desktop.UdpUplink

namespace RealtimeVoice.Desktop

open RealtimeVoice.Base RealtimeVoice.Contracts RealtimeVoice.Udp

/-- `ProtocolError(code)`, `FreshReopenRequired` and `TransportError`. -/
inductive ReceiveFailure
  | protocol (code : String)
  | freshReopen
  | notOpen
deriving DecidableEq

/-- `MediaFrame.decode_header` of a datagram: the frame without its payload, and the rest. -/
def decodeHeader (wire : Bytes) : Except ReceiveFailure (MediaFrame × Bytes) :=
  let raw := RawHeader.unpack wire
  let tail := wire.drop udpHeaderBytes
  let flags := flagOf raw.flags
  if wire.length < udpHeaderBytes + udpTagBytes then .error (.protocol "truncated_media_header")
  else if wire.length > udpMaxDatagramBytes then .error (.protocol "media_frame_too_large")
  else if raw.magic ≠ udpMagic ∨ raw.version ≠ udpVersion then .error (.protocol "unsupported_media_header")
  else if tail.length ≠ raw.payloadLength + udpTagBytes then .error (.protocol "media_length_mismatch")
  else if flags = .unknown then .error (.protocol "invalid_media_flags")
  else if raw.mediaId.length ≠ 8 then .error (.protocol "invalid_media_id")
  else if raw.mediaEpoch = 0 then .error (.protocol "invalid_media_epoch")
  else if flags ≠ .audio ∧ raw.generation ≠ 0 then .error (.protocol "invalid_media_generation")
  else if flags = .audio ∧ raw.payloadLength = 0 then .error (.protocol "invalid_media_payload")
  else if raw.payloadLength > udpMaxPayloadBytes then .error (.protocol "invalid_media_payload")
  else
    .ok ({ flags := flags, mediaId := raw.mediaId, mediaEpoch := raw.mediaEpoch, sequence := raw.sequence,
           timestamp := raw.timestamp, generation := raw.generation }, tail)

/-- What `_check_freshness` remembers of the first frame of a generation. -/
structure Freshness where
  generation : Nat
  timestamp : Nat
  arrival : Time
deriving DecidableEq

/-- A frame whose control message has not come yet, with its arrival time. -/
abbrev PendingControl := MediaFrame × Time

/-- The receiving side of `UdpMediaTransport` after `open`. `waiting` says that a call of
`receive_audio` waits for a datagram. -/
structure UdpDownlink where
  isOpen : Bool := true
  maxMediaAge : Time
  mediaId : Bytes
  mediaEpoch : Nat
  key : Bytes
  salt : Bytes
  replay : ReplayWindow := {}
  expectedDownlink : Nat := 1
  reorder : Dict Nat MediaFrame := {}
  reorderDeadlineAt : Option Time := none
  nonAudioSequences : List Nat := []
  ready : List MediaFrame := []
  pendingControl : Dict Nat PendingControl := {}
  fresh : Option Freshness := none
  waiting : Bool := false
deriving DecidableEq

abbrev Validator := MediaFrame → Except String Bool

namespace UdpDownlink

def buffered (s : UdpDownlink) : Nat := s.reorder.size + s.nonAudioSequences.length

/-- `set(self._reorder) | self._non_audio_sequences`. -/
def pending (s : UdpDownlink) : List Nat := s.reorder.entries.map Prod.fst ++ s.nonAudioSequences

/-- The end of `_release_contiguous`. -/
def settleDeadline (s : UdpDownlink) : UdpDownlink :=
  if s.reorder.size = 0 ∧ s.nonAudioSequences = [] then { s with reorderDeadlineAt := none } else s

/-- The loop of `_release_contiguous`: every round takes a number out, so the fuel is
how many there are. -/
def releaseLoop : Nat → UdpDownlink → UdpDownlink
  | 0, s => s.settleDeadline
  | fuel + 1, s =>
    if s.expectedDownlink ∈ s.nonAudioSequences then
      releaseLoop fuel { s with
        nonAudioSequences := s.nonAudioSequences.erase s.expectedDownlink
        expectedDownlink := s.expectedDownlink + 1 }
    else
      match s.reorder.get? s.expectedDownlink with
      | some frame =>
        releaseLoop fuel { s with
          ready := s.ready ++ [frame]
          reorder := s.reorder.erase s.expectedDownlink
          expectedDownlink := s.expectedDownlink + 1 }
      | none => s.settleDeadline

def releaseContiguous (s : UdpDownlink) : UdpDownlink := releaseLoop s.buffered s

def releaseGap (s : UdpDownlink) : UdpDownlink :=
  match s.pending.min? with
  | none => s
  | some sequence => { s with expectedDownlink := sequence }.releaseContiguous

def armReorderDeadline (s : UdpDownlink) (now : Time) : UdpDownlink :=
  match s.pending.min? with
  | none => s
  | some first =>
    if first > s.expectedDownlink ∧ s.reorderDeadlineAt = none then
      { s with reorderDeadlineAt := some (now + s.maxMediaAge) }
    else s

/-- What `_buffer` and `_buffer_non_audio` do once the number is in. -/
def afterBuffering (s : UdpDownlink) (now : Time) : UdpDownlink :=
  let s := s.releaseContiguous.armReorderDeadline now
  if s.buffered ≥ 4 then s.releaseGap else s

def bufferNonAudio (s : UdpDownlink) (sequence : Nat) (now : Time) : UdpDownlink :=
  if sequence < s.expectedDownlink then s
  else { s with nonAudioSequences := s.nonAudioSequences.insert sequence }.afterBuffering now

/-- `_check_freshness`; absent where it raises `FreshReopenRequired`. -/
def checkFreshness (s : UdpDownlink) (frame : MediaFrame) (now : Time) : Option UdpDownlink :=
  let first : Freshness := { generation := frame.generation, timestamp := frame.timestamp, arrival := now }
  match s.fresh with
  | none => some { s with fresh := some first }
  | some fresh =>
    if fresh.generation ≠ frame.generation then some { s with fresh := some first }
    else
      let elapsed : Int := ((frame.timestamp : Int) - fresh.timestamp) % 2 ^ 32
      if now - fresh.arrival - (elapsed : Time) / 16000 > s.maxMediaAge then none else some s

/-- `_buffer`, with the clock as `_check_freshness` and `_arm_reorder_deadline` read it. -/
def buffer (s : UdpDownlink) (frame : MediaFrame) (now armNow : Time) : Option UdpDownlink :=
  (s.checkFreshness frame now).map fun s =>
    if frame.sequence < s.expectedDownlink then s
    else { s with reorder := s.reorder.set frame.sequence frame }.afterBuffering armNow

/-- The numbers whose audio waits for its `response.begin` since before a time. -/
def earliestPending (s : UdpDownlink) : Option Time := (s.pendingControl.values.map Prod.snd).min?

def releaseOverdue (s : UdpDownlink) (now : Time) : UdpDownlink :=
  if s.reorderDeadlineAt.any (· ≤ now) then s.releaseGap else s

/-- `_expire_receive_deadlines`; absent where it raises `FreshReopenRequired`. -/
def expireReceiveDeadlines (s : UdpDownlink) (now : Time) : Option UdpDownlink :=
  if s.earliestPending.any (fun earliest => now ≥ earliest + s.maxMediaAge) then none
  else some (s.releaseOverdue now)

/-- `_accept` for authenticated audio, with the answer of the media validator. -/
def acceptAudio (s : UdpDownlink) (frame : MediaFrame) (validated : Except String Bool) (now armNow : Time) :
    UdpDownlink × Except ReceiveFailure (Option MediaFrame) :=
  match validated with
  | .error code =>
    if code ≠ "unknown_media_generation" then (s, .error (.protocol code))
    else if s.pendingControl.size ≥ 4 ∧ s.pendingControl.get? frame.sequence = none then (s, .error .freshReopen)
    else if (s.pendingControl.get? frame.sequence).isSome then (s, .ok none)
    else ({ s with pendingControl := s.pendingControl.set frame.sequence (frame, now) }, .ok none)
  | .ok admitted =>
    let s := { s with
      pendingControl := s.pendingControl.erase frame.sequence
      replay := s.replay.commit frame.sequence }
    if admitted then (s, .ok (some frame)) else (s.bufferNonAudio frame.sequence armNow, .ok none)

/-- `_accept`: admission is committed only after identity and authentication succeed. -/
def accept (aead : AesGcm) (s : UdpDownlink) (datagram : Bytes) (expectedProbeAck : Bool) (validator : Option Validator)
    (now armNow : Time) : UdpDownlink × Except ReceiveFailure (Option MediaFrame) :=
  if s.isOpen = false then (s, .error .notOpen)
  else
    match decodeHeader datagram with
    | .error failure => (s, .error failure)
    | .ok (header, encrypted) =>
      if header.mediaId ≠ s.mediaId ∨ header.mediaEpoch ≠ s.mediaEpoch then
        (s, .error (.protocol "stale_media_identity"))
      else if s.replay.acceptable header.sequence = false then
        (s, .error (.protocol "replayed_or_invalid_sequence"))
      else
        match aead.decrypt s.key (s.salt ++ toBytes4 header.sequence) encrypted (datagram.take udpHeaderBytes) with
        | none => (s, .error (.protocol "udp_authentication_failed"))
        | some payload =>
          let frame := { header with payload := payload }
          if expectedProbeAck ∧ ¬(frame.flags = .probeAck ∧ frame.sequence = 0 ∧ frame.timestamp = 0 ∧
              frame.generation = 0 ∧ frame.payload = []) then (s, .error (.protocol "invalid_probe_ack"))
          else
            match validator with
            | some validate =>
              if frame.flags = .audio then s.acceptAudio frame (validate frame) now armNow
              else ({ s with replay := s.replay.commit frame.sequence }, .ok (some frame))
            | none => ({ s with replay := s.replay.commit frame.sequence }, .ok (some frame))

/-- The endpoint is connected to the server of the grant: what comes from elsewhere is not
handed to `datagram_received`, and the rest is queued for `_accept`. -/
def receiveFrom (aead : AesGcm) (s : UdpDownlink) (remote addr : String × Nat) (datagram : Bytes)
    (expectedProbeAck : Bool) (validator : Option Validator) (now armNow : Time) :
    UdpDownlink × Option (Except ReceiveFailure (Option MediaFrame)) :=
  if addr ≠ remote then (s, none)
  else
    let (s, answer) := s.accept aead datagram expectedProbeAck validator now armNow
    (s, some answer)

/-- What a stretch of `receive_audio` reads: the media validator, whether the grant is to
be refreshed, and the clock, by what it is read for. -/
structure Reads where
  validator : Option Validator
  refreshDue : Bool
  refreshDueAtTop : Bool
  admission : Time
  admissionFresh : Nat → Time
  admissionArm : Nat → Time
  accept : Time
  acceptArm : Time
  expire : Time
  fresh : Time
  arm : Time
  top : Time

/-- The frames that a stretch admits with numbers that are not below the expected one,
the frame that it returns, and what it raises. -/
structure Reply where
  admitted : List MediaFrame := []
  returned : Option MediaFrame := none
  raised : Option ReceiveFailure := none
deriving DecidableEq

/-- The frame counts as admitted unless its number has been passed over. -/
def counted (s : UdpDownlink) (frame : MediaFrame) : List MediaFrame :=
  if frame.sequence < s.expectedDownlink then [] else [frame]

/-- A round of `_admit_pending_control`. -/
def admitOne (s : UdpDownlink) (sequence : Nat) (validate : Validator) (r : Reads) : UdpDownlink × Reply :=
  match s.pendingControl.get? sequence with
  | none => (s, {})
  | some (frame, arrivedAt) =>
    if r.admission - arrivedAt > s.maxMediaAge then (s, { raised := some .freshReopen })
    else
      match validate frame with
      | .error code =>
        if code = "unknown_media_generation" then (s, {})
        else ({ s with pendingControl := s.pendingControl.erase sequence }, { raised := some (.protocol code) })
      | .ok admitted =>
        let s := { s with pendingControl := s.pendingControl.erase sequence }
        if s.replay.acceptable frame.sequence = false then
          (s, { raised := some (.protocol "replayed_or_invalid_sequence") })
        else
          let s := { s with replay := s.replay.commit frame.sequence }
          if admitted then
            match s.buffer frame (r.admissionFresh sequence) (r.admissionArm sequence) with
            | none => (s, { admitted := s.counted frame, raised := some .freshReopen })
            | some s' => (s', { admitted := s.counted frame })
          else (s.bufferNonAudio frame.sequence (r.admissionArm sequence), {})

def admitLoop (validate : Validator) (r : Reads) : List Nat → UdpDownlink → UdpDownlink × Reply
  | [], s => (s, {})
  | sequence :: rest, s =>
    let (s, first) := s.admitOne sequence validate r
    if first.raised.isSome then (s, first)
    else
      let (s, later) := admitLoop validate r rest s
      (s, { later with admitted := first.admitted ++ later.admitted })

def admitPendingControl (s : UdpDownlink) (r : Reads) : UdpDownlink × Reply :=
  match r.validator with
  | none => (s, {})
  | some validate =>
    admitLoop validate r ((s.pendingControl.entries.map Prod.fst).insertionSort (· ≤ ·)) s

def raise (s : UdpDownlink) (admitted : List MediaFrame) (failure : ReceiveFailure) : UdpDownlink × Reply :=
  ({ s with waiting := false }, { admitted := admitted, raised := some failure })

/-- `return self._ready.popleft()`, or what follows if nothing is ready. -/
def deliver (s : UdpDownlink) (admitted : List MediaFrame) (next : UdpDownlink → UdpDownlink × Reply) :
    UdpDownlink × Reply :=
  match s.ready with
  | [] => next s
  | frame :: ready => ({ s with ready := ready, waiting := false }, { admitted := admitted, returned := some frame })

/-- The top of the loop up to the next datagram. -/
def await (s : UdpDownlink) (admitted : List MediaFrame) (r : Reads) : UdpDownlink × Reply :=
  if r.refreshDueAtTop then s.raise admitted .freshReopen
  else
    match s.expireReceiveDeadlines r.top with
    | none => s.raise admitted .freshReopen
    | some s => s.deliver admitted fun s => ({ s with waiting := true }, { admitted := admitted })

/-- The rest of a round once a datagram has been looked at. -/
def afterAccept (s : UdpDownlink) (frame : Option MediaFrame) (r : Reads) : UdpDownlink × Reply :=
  let admitted := ((frame.filter fun f => f.flags = .audio).map s.counted).getD []
  match s.expireReceiveDeadlines r.expire with
  | none => s.raise admitted .freshReopen
  | some s => s.deliver admitted fun s =>
    match frame with
    | none => s.await admitted r
    | some frame =>
      if frame.flags ≠ .audio then
        (s.bufferNonAudio frame.sequence r.arm).deliver admitted fun s => s.await admitted r
      else
        match s.buffer frame r.fresh r.arm with
        | none => s.raise admitted .freshReopen
        | some s => s.deliver admitted fun s => s.await admitted r

/-- A call of `receive_audio`, the end of its wait, its cancellation, and `close`. -/
inductive Event
  | receive (r : Reads)
  | datagram (data : Bytes) (r : Reads)
  | timeout (r : Reads)
  | cancel
  | close

def call (aead : AesGcm) (s : UdpDownlink) : Event → UdpDownlink × Reply
  | .receive r =>
    if s.waiting then (s, {})
    else if s.isOpen = false then s.raise [] .notOpen
    else if r.refreshDue then s.raise [] .freshReopen
    else
      let (s, reply) := s.admitPendingControl r
      match reply.raised with
      | some failure => s.raise reply.admitted failure
      | none => s.deliver reply.admitted fun s => s.await reply.admitted r
  | .datagram data r =>
    if s.waiting = false then (s, {})
    else
      match s.accept aead data false r.validator r.accept r.acceptArm with
      | (s, .ok frame) => s.afterAccept frame r
      | (s, .error (.protocol _)) => s.afterAccept none r
      | (s, .error failure) => s.raise [] failure
  | .timeout r =>
    if s.waiting = false then (s, {})
    else if r.refreshDue then s.raise [] .freshReopen
    else
      let (s, reply) := s.admitPendingControl r
      match reply.raised with
      | some failure => s.raise reply.admitted failure
      | none => s.releaseGap.deliver reply.admitted fun s => s.await reply.admitted r
  | .cancel => ({ s with waiting := false }, {})
  | .close =>
    ({ s with isOpen := false, mediaId := [], mediaEpoch := 0, key := [], salt := [], reorder := {},
              reorderDeadlineAt := none, nonAudioSequences := [], ready := [], pendingControl := {} }, {})

end UdpDownlink

end RealtimeVoice.Desktop
