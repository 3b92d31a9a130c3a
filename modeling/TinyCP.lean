import TinyCP.AcceptLedger
import TinyCP.AcceptLogs
import TinyCP.AcceptMoves
import TinyCP.AcceptQueues
import TinyCP.AddressStrings
import TinyCP.BlockingBuffer
import TinyCP.BoundedParsing
import TinyCP.BoundedQueue
import TinyCP.BufferQueue
import TinyCP.BufferWaits
import TinyCP.CallResults
import TinyCP.CaptureReader
import TinyCP.Checksum
import TinyCP.ChecksumSums
import TinyCP.Chunks
import TinyCP.Closing
import TinyCP.Completion
import TinyCP.CumulativeAck
import TinyCP.CyclicStore
import TinyCP.DamagedDatagrams
import TinyCP.Delivery
import TinyCP.DeviceReads
import TinyCP.Draining
import TinyCP.Emissions
import TinyCP.EndAroundCarry
import TinyCP.Endpoint
import TinyCP.Energy
import TinyCP.EphemeralPorts
import TinyCP.EphemeralRange
import TinyCP.EventRun
import TinyCP.FieldWrites
import TinyCP.FuelLoop
import TinyCP.HalfClosed
import TinyCP.HandlerSpecs
import TinyCP.Handshake
import TinyCP.HandshakeSides
import TinyCP.HeaderFields
import TinyCP.HeaderViews
import TinyCP.HostTransfer
import TinyCP.KeyedSums
import TinyCP.Lifecycle
import TinyCP.LoopbackLinks
import TinyCP.LoopbackTransfer
import TinyCP.LossyNetwork
import TinyCP.Monitor
import TinyCP.OutputPath
import TinyCP.OwnTraffic
import TinyCP.PacketViews
import TinyCP.PacketWriters
import TinyCP.Packets
import TinyCP.PassiveOpen
import TinyCP.Quiescence
import TinyCP.ReceiveSide
import TinyCP.RemoteEnds
import TinyCP.RemoteTransfer
import TinyCP.ResetGeneration
import TinyCP.ResetHandling
import TinyCP.RetransmissionTimer
import TinyCP.Routing
import TinyCP.SegmentChecksums
import TinyCP.SegmentHandlers
import TinyCP.SendNext
import TinyCP.SendRuns
import TinyCP.SendSide
import TinyCP.SequenceSpace
import TinyCP.SimultaneousOpen
import TinyCP.SocketEndpoint
import TinyCP.SocketRemoval
import TinyCP.SoundTraffic
import TinyCP.SpanReads
import TinyCP.StackSpecs
import TinyCP.StateDiagram
import TinyCP.StateWaits
import TinyCP.StreamExtraction
import TinyCP.TableIds
import TinyCP.TableTeardown
import TinyCP.Tables
import TinyCP.TcpSocket
import TinyCP.TcpStack
import TinyCP.Teardown
import TinyCP.Transfer
import TinyCP.TransmissionControlBlock
import TinyCP.TwoHosts
import TinyCP.WakeUps
import TinyCP.WellFormedDatagrams
import TinyCP.WireBytes
import TinyCP.WireDaemon
import TinyCP.ZeroWindow
