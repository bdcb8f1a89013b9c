import Hes.Lib.Transition
import Hes.Lib.Stages
import Hes.Bytes
import Hes.Dlms
import Hes.Registry
import Hes.Push
import Hes.Splitter
import Hes.Text
import Hes.Mqtt
import Hes.MqttRobust
import Hes.MqttRouting
import Hes.Routes
import Hes.OdmQueue
import Hes.Respond
import Hes.OdmSession
import Hes.Transmit
import Hes.Disconnect
import Hes.Provenance
import Hes.PullPaging
import Hes.PullCycles
import Hes.MissingCycles
import Hes.Decoders
import Hes.PushRecords
import Hes.RecordValues
import Hes.BlockPaging
import Hes.Checksum
import Hes.PacketType
import Hes.RecordWalk
import Hes.Coalesced
import Hes.OdmFrames
import Hes.ResponseMatch
import Hes.Recovery
import Hes.NextPages
import Hes.RowAlignment
import Hes.Fuota.Delivery
import Hes.Fuota.SyncTime
import Hes.Fuota.History
import Hes.Fuota.Matching
import Hes.Fuota.Finality
import Hes.Fuota.FinalReplies
import Hes.Fuota.FinalRuns
import Hes.Fuota.Moves
import Hes.Fuota.UploadRefinement
import Hes.Fuota.StepRefinement
import Hes.Fuota.ReplyRefinement
import Hes.Fuota.ActionRefinement
import Hes.Fuota.LastSubpage
import Hes.Fuota.Activation
import Hes.Fuota.CrcTable
import Hes.Fuota.ImageSums
import Hes.Fuota.BuilderFrames
import Hes.Fuota.ReplyAttempts
import Hes.Fuota.LeafCover
import Hes.Fuota.Redirect
import Hes.Fuota.Reroute
import Hes.Fuota.FailedOpen
import Hes.Fuota.FrameCosts
import Hes.Fuota.RequestFrames
import Hes.Fuota.Geometry
import Hes.Fuota.RequestReplies
import Hes.Fuota.RequestBounds
import Hes.Fuota.RequestRuns
import Hes.Scalers
import Hes.CellValues
import Hes.StoredRows
import Hes.CommandMatch
import Hes.SeenTrace
import Hes.PathBook
import Hes.InitPull
import Hes.NameplateQueue
import Hes.Unsilence
import Hes.CycleSchedule
import Hes.ScalarRows
import Hes.FrameBounds
import Hes.AlternatePath
import Hes.Lib.Patrol
import Hes.NoteSources
import Hes.NodeCommands
import Hes.CycleActivity
import Hes.CycleVisits
import Hes.Lib.SortedList
import Hes.CycleRuns
import Hes.NodeList
import Hes.NodeMap
import Hes.CycleStart
import Hes.CycleUpdates
import Hes.StaleScalars
import Hes.CycleScalars
import Hes.Fuota.CommandOrder
import Hes.ScalarQueue
import Hes.ScalarExact
import Hes.CyclePolls
import Hes.AlternateQueue
