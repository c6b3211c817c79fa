import KiwiDevice.Camera.BurstAccounting
import KiwiDevice.Camera.BurstRuns
import KiwiDevice.Camera.CamList
import KiwiDevice.Camera.CameraObjects
import KiwiDevice.Camera.ChannelBundle
import KiwiDevice.Camera.ChannelLocks
import KiwiDevice.Camera.ChannelSlots
import KiwiDevice.Camera.ChannelStart
import KiwiDevice.Camera.ChannelTable
import KiwiDevice.Camera.CommandSpec
import KiwiDevice.Camera.Conservation
import KiwiDevice.Camera.DeliveryRuns
import KiwiDevice.Camera.Discovery
import KiwiDevice.Camera.DiscoverySpec
import KiwiDevice.Camera.EnqueueSpec
import KiwiDevice.Camera.FrameCounts
import KiwiDevice.Camera.FrameDelivery
import KiwiDevice.Camera.FrameOffsets
import KiwiDevice.Camera.FrameRuns
import KiwiDevice.Camera.FrameSizes
import KiwiDevice.Camera.Lifecycle
import KiwiDevice.Camera.LinkedBuffers
import KiwiDevice.Camera.LinkedReturn
import KiwiDevice.Camera.LockOrder
import KiwiDevice.Camera.LockRuns
import KiwiDevice.Camera.MapUnmap
import KiwiDevice.Camera.MatchRuns
import KiwiDevice.Camera.Matching
import KiwiDevice.Camera.MetadataScan
import KiwiDevice.Camera.ObjectHandles
import KiwiDevice.Camera.ObjectLives
import KiwiDevice.Camera.ObjectRuns
import KiwiDevice.Camera.ObjectSteps
import KiwiDevice.Camera.ObjectTable
import KiwiDevice.Camera.PlaneLayouts
import KiwiDevice.Camera.PollFair
import KiwiDevice.Camera.PollRegistration
import KiwiDevice.Camera.PollSound
import KiwiDevice.Camera.PollSync
import KiwiDevice.Camera.PollThread
import KiwiDevice.Camera.PollUpdates
import KiwiDevice.Camera.ProcessStreamBuf
import KiwiDevice.Camera.QueueInvariant
import KiwiDevice.Camera.QueueRuns
import KiwiDevice.Camera.RawFrames
import KiwiDevice.Camera.RefusedCalls
import KiwiDevice.Camera.SlotFrame
import KiwiDevice.Camera.SlotOwners
import KiwiDevice.Camera.SlotRuns
import KiwiDevice.Camera.StartRollback
import KiwiDevice.Camera.StreamFsm
import KiwiDevice.Camera.SuperbufQueue
import KiwiDevice.Camera.Types
import KiwiDevice.Doze.DozePulses
import KiwiDevice.Doze.SensorJobs
import KiwiDevice.Gps.AdapterRuns
import KiwiDevice.Gps.AgpsInvariant
import KiwiDevice.Gps.AgpsNotify
import KiwiDevice.Gps.AgpsRestart
import KiwiDevice.Gps.AgpsStateMachine
import KiwiDevice.Gps.AgpsSteps
import KiwiDevice.Gps.AgpsSubscription
import KiwiDevice.Gps.AidingData
import KiwiDevice.Gps.AtlEffects
import KiwiDevice.Gps.AtlReleases
import KiwiDevice.Gps.ConfigText
import KiwiDevice.Gps.ConfigUpdate
import KiwiDevice.Gps.DSFallback
import KiwiDevice.Gps.DaemonFraming
import KiwiDevice.Gps.DaemonMessages
import KiwiDevice.Gps.DsClient
import KiwiDevice.Gps.DsOpenCall
import KiwiDevice.Gps.GsvSentences
import KiwiDevice.Gps.HeapBalance
import KiwiDevice.Gps.HeapOrder
import KiwiDevice.Gps.LinkedList
import KiwiDevice.Gps.LinkedListSearch
import KiwiDevice.Gps.LocEngAdapter
import KiwiDevice.Gps.LocHeap
import KiwiDevice.Gps.LocThread
import KiwiDevice.Gps.LocThreadRuns
import KiwiDevice.Gps.LocTimer
import KiwiDevice.Gps.MagneticTrack
import KiwiDevice.Gps.MsgQueueRuns
import KiwiDevice.Gps.MuteSession
import KiwiDevice.Gps.MuteWindow
import KiwiDevice.Gps.NiAnswers
import KiwiDevice.Gps.NiConserved
import KiwiDevice.Gps.NiMeaning
import KiwiDevice.Gps.NiMeant
import KiwiDevice.Gps.NiMoves
import KiwiDevice.Gps.NiPhaseSteps
import KiwiDevice.Gps.NiPhases
import KiwiDevice.Gps.NiRequests
import KiwiDevice.Gps.NmeaText
import KiwiDevice.Gps.PositionFields
import KiwiDevice.Gps.PositionText
import KiwiDevice.Gps.SessionFollows
import KiwiDevice.Gps.TimerContainer
import KiwiDevice.Gps.TimerFires
import KiwiDevice.Gps.TimerSteps
import KiwiDevice.Gps.TimerTracks
import KiwiDevice.Gps.TrimSpace
import KiwiDevice.Gps.UserAgent
import KiwiDevice.Hal.ApiRuns
import KiwiDevice.Hal.AreaLimits
import KiwiDevice.Hal.AreaText
import KiwiDevice.Hal.BufferDefs
import KiwiDevice.Hal.CallHistory
import KiwiDevice.Hal.CameraMemory
import KiwiDevice.Hal.CameraQueue
import KiwiDevice.Hal.CameraQueueRuns
import KiwiDevice.Hal.CbNotifier
import KiwiDevice.Hal.CbNotifierRuns
import KiwiDevice.Hal.CbNotifierSteps
import KiwiDevice.Hal.ChannelRuns
import KiwiDevice.Hal.ChannelTables
import KiwiDevice.Hal.Channels
import KiwiDevice.Hal.DeferredRuns
import KiwiDevice.Hal.DeferredWork
import KiwiDevice.Hal.FrameAccount
import KiwiDevice.Hal.FrameOwnerRuns
import KiwiDevice.Hal.FrameOwners
import KiwiDevice.Hal.GrallocMemory
import KiwiDevice.Hal.GrallocRuns
import KiwiDevice.Hal.IntPicture
import KiwiDevice.Hal.IntPictureRuns
import KiwiDevice.Hal.JpegEventMemory
import KiwiDevice.Hal.JpegEventRuns
import KiwiDevice.Hal.JpegEvents
import KiwiDevice.Hal.LinkedStreams
import KiwiDevice.Hal.MemoryFrame
import KiwiDevice.Hal.MemoryLoops
import KiwiDevice.Hal.MemoryOwners
import KiwiDevice.Hal.MemoryRuns
import KiwiDevice.Hal.OfflineMappings
import KiwiDevice.Hal.OfflineReprocess
import KiwiDevice.Hal.ParmLayout
import KiwiDevice.Hal.ParmRuns
import KiwiDevice.Hal.PictureScale
import KiwiDevice.Hal.StreamBufferRuns
import KiwiDevice.Hal.StreamBuffers
import KiwiDevice.Hal.StreamSessions
import KiwiDevice.Hal.ThermalLevel
import KiwiDevice.Hal.VideoSlots
import KiwiDevice.Hal.YuvImages
import KiwiDevice.Jpeg.ClientRuns
import KiwiDevice.Jpeg.Clients
import KiwiDevice.Jpeg.CreateOutcome
import KiwiDevice.Jpeg.CreateSession
import KiwiDevice.Jpeg.DecodeRuns
import KiwiDevice.Jpeg.EncodeSessions
import KiwiDevice.Jpeg.JobAccounting
import KiwiDevice.Jpeg.JobIds
import KiwiDevice.Jpeg.JobManager
import KiwiDevice.Jpeg.JobWakeup
import KiwiDevice.Jpeg.JpegDecode
import KiwiDevice.Jpeg.JpegQueue
import KiwiDevice.Jpeg.MakerNote
import KiwiDevice.Jpeg.OmxCore
import KiwiDevice.Jpeg.OmxRuns
import KiwiDevice.Jpeg.WorkBufferRuns
import KiwiDevice.Jpeg.WorkBuffers
import KiwiDevice.Lib.Account
import KiwiDevice.Lib.CArray
import KiwiDevice.Lib.CircularList
import KiwiDevice.Lib.Condition
import KiwiDevice.Lib.Decimal
import KiwiDevice.Lib.Fairness
import KiwiDevice.Lib.Lists
import KiwiDevice.Lib.Loop
import KiwiDevice.Lib.Memory
import KiwiDevice.Lib.Percent
import KiwiDevice.Lib.PriorityQueue
import KiwiDevice.Lib.RefCount
import KiwiDevice.Lib.Ring
import KiwiDevice.Lib.RoundUp
import KiwiDevice.Lib.Search
import KiwiDevice.Lib.Since
import KiwiDevice.Lib.Steps
import KiwiDevice.Lib.Words
import KiwiDevice.Recovery.BoyerMooreSearch
import KiwiDevice.Recovery.TrustZone
import KiwiDevice.Sensors.CallOrder
import KiwiDevice.Sensors.EmulatedBatch
import KiwiDevice.Sensors.Multihal
import KiwiDevice.Sensors.MultihalCalls
import KiwiDevice.Sensors.MultihalRouting
import KiwiDevice.Sensors.MultihalRuns
import KiwiDevice.Sensors.PollPass
import KiwiDevice.Sensors.SensorQueueRuns
