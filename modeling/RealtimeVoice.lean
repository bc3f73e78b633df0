import RealtimeVoice.Base.Base64
import RealtimeVoice.Base.Bucket
import RealtimeVoice.Base.Codecs
import RealtimeVoice.Base.Deliveries
import RealtimeVoice.Base.Dict
import RealtimeVoice.Base.FaultyStore
import RealtimeVoice.Base.FixedWindow
import RealtimeVoice.Base.Gen
import RealtimeVoice.Base.Json
import RealtimeVoice.Base.JsonRead
import RealtimeVoice.Base.JsonStrings
import RealtimeVoice.Base.JsonText
import RealtimeVoice.Base.Loads
import RealtimeVoice.Base.LoadsDumps
import RealtimeVoice.Base.Numbering
import RealtimeVoice.Base.QueueProgram
import RealtimeVoice.Base.Raises
import RealtimeVoice.Base.Ring
import RealtimeVoice.Base.Rounding
import RealtimeVoice.Base.Runs
import RealtimeVoice.Base.Scan
import RealtimeVoice.Base.Segments
import RealtimeVoice.Base.Tally
import RealtimeVoice.Base.Unicode
import RealtimeVoice.Base.Url
import RealtimeVoice.Base.Utf8
import RealtimeVoice.Contracts.GrantBinding
import RealtimeVoice.Contracts.GrantErrors
import RealtimeVoice.Contracts.Grants
import RealtimeVoice.Contracts.Heartbeat
import RealtimeVoice.Contracts.Models
import RealtimeVoice.Contracts.RouteKey
import RealtimeVoice.Desktop.App
import RealtimeVoice.Desktop.Control
import RealtimeVoice.Desktop.MediaFrames
import RealtimeVoice.Desktop.Opened
import RealtimeVoice.Desktop.Rendering
import RealtimeVoice.Desktop.Reordering
import RealtimeVoice.Desktop.Resample
import RealtimeVoice.Desktop.SessionState
import RealtimeVoice.Desktop.UdpDownlink
import RealtimeVoice.Desktop.UdpReceive
import RealtimeVoice.Desktop.UdpUplink
import RealtimeVoice.Director.Draining
import RealtimeVoice.Director.LeaseExclusion
import RealtimeVoice.Director.RedisStore
import RealtimeVoice.Director.RouteKeys
import RealtimeVoice.Director.Service
import RealtimeVoice.Director.Store
import RealtimeVoice.Director.StoreAgreement
import RealtimeVoice.Director.StoreInvariant
import RealtimeVoice.Firmware.AudioPipeline
import RealtimeVoice.Firmware.CallbackQueue
import RealtimeVoice.Firmware.ClientMessages
import RealtimeVoice.Firmware.Control
import RealtimeVoice.Firmware.DeviceConfig
import RealtimeVoice.Firmware.Downlink
import RealtimeVoice.Firmware.Endpoint
import RealtimeVoice.Firmware.FixedBase64
import RealtimeVoice.Firmware.JitterBuffer
import RealtimeVoice.Firmware.JitterInvariant
import RealtimeVoice.Firmware.MediaHeader
import RealtimeVoice.Firmware.PlaybackFacts
import RealtimeVoice.Firmware.PlaybackState
import RealtimeVoice.Firmware.PlayoutFence
import RealtimeVoice.Firmware.PlayoutQueue
import RealtimeVoice.Firmware.Reassembly
import RealtimeVoice.Firmware.RunPlayback
import RealtimeVoice.Firmware.Session
import RealtimeVoice.Firmware.SessionTrace
import RealtimeVoice.Firmware.Supervisor
import RealtimeVoice.Firmware.UdpSession
import RealtimeVoice.Firmware.UdpWire
import RealtimeVoice.Firmware.UiReducer
import RealtimeVoice.Firmware.Uplink
import RealtimeVoice.Firmware.UplinkPipeline
import RealtimeVoice.Firmware.WireFormat
import RealtimeVoice.Firmware.WssConversation
import RealtimeVoice.Firmware.WssSession
import RealtimeVoice.Rva.AudioQueue
import RealtimeVoice.Rva.Binding
import RealtimeVoice.Rva.BindingEffects
import RealtimeVoice.Rva.BurstBudget
import RealtimeVoice.Rva.ClientChannel
import RealtimeVoice.Rva.ControlAtomic
import RealtimeVoice.Rva.ControlChannel
import RealtimeVoice.Rva.Decoding
import RealtimeVoice.Rva.DesktopChannel
import RealtimeVoice.Rva.Emission
import RealtimeVoice.Rva.Encoding
import RealtimeVoice.Rva.EndpointAdmission
import RealtimeVoice.Rva.EndpointSession
import RealtimeVoice.Rva.Freshness
import RealtimeVoice.Rva.InputLoop
import RealtimeVoice.Rva.Interrupts
import RealtimeVoice.Rva.Lifecycle
import RealtimeVoice.Rva.MediaFence
import RealtimeVoice.Rva.PlaybackLoop
import RealtimeVoice.Rva.PlaybackTracking
import RealtimeVoice.Rva.PlayedSamples
import RealtimeVoice.Rva.Protocol
import RealtimeVoice.Rva.RecoveryRate
import RealtimeVoice.Rva.Response
import RealtimeVoice.Rva.ResponseInvariant
import RealtimeVoice.Rva.ResponseMoves
import RealtimeVoice.Rva.Runtime
import RealtimeVoice.Rva.StopInFlight
import RealtimeVoice.Rva.StopOutcome
import RealtimeVoice.Rva.Timeline
import RealtimeVoice.Rva.WssMedia
import RealtimeVoice.Udp.Datagram
import RealtimeVoice.Udp.Delivery
import RealtimeVoice.Udp.Gateway
import RealtimeVoice.Udp.Inert
import RealtimeVoice.Udp.MediaFormat
import RealtimeVoice.Udp.Nonces
import RealtimeVoice.Udp.Packing
import RealtimeVoice.Udp.Replay
import RealtimeVoice.Udp.Sending
import RealtimeVoice.Udp.Wire
import RealtimeVoice.Worker.Admission
import RealtimeVoice.Worker.AdmissionSlots
import RealtimeVoice.Worker.Auth
import RealtimeVoice.Worker.Config
import RealtimeVoice.Worker.EventQueue
import RealtimeVoice.Worker.FunAsrStream
import RealtimeVoice.Worker.Heartbeat
import RealtimeVoice.Worker.Interruption
import RealtimeVoice.Worker.PcmFrames
import RealtimeVoice.Worker.Registry
import RealtimeVoice.Worker.ResponseGate
import RealtimeVoice.Worker.RoomlessOutput
import RealtimeVoice.Worker.SessionInvariant
import RealtimeVoice.Worker.SessionProcess
import RealtimeVoice.Worker.SessionRegistry
import RealtimeVoice.Worker.SessionRuns
import RealtimeVoice.Worker.SseEvents
import RealtimeVoice.Worker.StandaloneFunAsr
import RealtimeVoice.Worker.Vad
