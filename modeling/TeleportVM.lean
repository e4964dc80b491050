import TeleportVM.DirectoryRefinement
import TeleportVM.NoLostRequest
import TeleportVM.SingleWriter
import TeleportVM.ZeroFill
import TeleportVM.OneTransaction
import TeleportVM.Writeback
import TeleportVM.SequencerSafety
import TeleportVM.SequencerQueue
import TeleportVM.Receive
import TeleportVM.Send
import TeleportVM.Threads
import TeleportVM.Residency
import TeleportVM.ServedCopy
import TeleportVM.DeferredPayload
import TeleportVM.WriteGrant
import TeleportVM.Failures
import TeleportVM.Authority
import TeleportVM.EngineHandling
import TeleportVM.CoordinatorAgreement
import TeleportVM.Handover
import TeleportVM.LatestWrite
import TeleportVM.RequestQueue
import TeleportVM.LocalEviction
import TeleportVM.ClockEviction
import TeleportVM.RingResidency
import TeleportVM.FaultDelivery
import TeleportVM.PacketBounds
import TeleportVM.Connections
import TeleportVM.AckAccounting
import TeleportVM.DeferredList
import TeleportVM.SequencerGrants
import TeleportVM.PageIsolation
import TeleportVM.FaultAddress
import TeleportVM.CoherenceTest
import TeleportVM.Quiescence
import TeleportVM.LockDiscipline
import TeleportVM.EngineStall
import TeleportVM.SequencerProgress
import TeleportVM.SequencerHeap
import TeleportVM.TextProtocol
import TeleportVM.DriverScript
import TeleportVM.Wakeups
import TeleportVM.Atomicity
import TeleportVM.Benchmark
import TeleportVM.CommandLine
import TeleportVM.EvictionLifetime
import TeleportVM.ByteCluster
import TeleportVM.PrivatePages
