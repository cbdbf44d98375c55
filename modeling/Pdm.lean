import Pdm.Framework.DeviceManager
import Pdm.Lib.Release
import Pdm.Lib.Territory
import Pdm.Proofs.AccountSessions
import Pdm.Proofs.AddAndRemove
import Pdm.Proofs.AlertDelivery
import Pdm.Proofs.CardNumbers
import Pdm.Proofs.CheckedRuns
import Pdm.Proofs.Classification
import Pdm.Proofs.CleanChecks
import Pdm.Proofs.CommandReplies
import Pdm.Proofs.CommandShapes
import Pdm.Proofs.Commands
import Pdm.Proofs.Configuration
import Pdm.Proofs.DeviceLists
import Pdm.Proofs.DeviceNumbers
import Pdm.Proofs.Dispatch
import Pdm.Proofs.ElementIds
import Pdm.Proofs.Farewells
import Pdm.Proofs.FormatFacts
import Pdm.Proofs.FsckRounds
import Pdm.Proofs.Independence
import Pdm.Proofs.KeyValues
import Pdm.Proofs.MediumSwaps
import Pdm.Proofs.MountDirectories
import Pdm.Proofs.MountedDeletes
import Pdm.Proofs.MountedSummary
import Pdm.Proofs.OneEntry
import Pdm.Proofs.Ownership
import Pdm.Proofs.PartitionLocks
import Pdm.Proofs.PowerCycle
import Pdm.Proofs.PreciseRemoval
import Pdm.Proofs.RemovalUpdates
import Pdm.Proofs.ReplyRouting
import Pdm.Proofs.ReportedSizes
import Pdm.Proofs.SafeToUnplug
import Pdm.Proofs.SessionAnswers
import Pdm.Proofs.SessionEjects
import Pdm.Proofs.SessionRecords
import Pdm.Proofs.SmartAttributes
import Pdm.Proofs.SmartSections
import Pdm.Proofs.SoundNodes
import Pdm.Proofs.SpaceArithmetic
import Pdm.Proofs.SpaceInfoThreads
import Pdm.Proofs.StartUp
import Pdm.Proofs.StreamingStatus
import Pdm.Proofs.Suspend
import Pdm.Proofs.Teardown
