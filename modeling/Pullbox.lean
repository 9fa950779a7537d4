import Pullbox.Direct.Legality
import Pullbox.Direct.Cancellation
import Pullbox.Direct.Restart
import Pullbox.Direct.Permits
import Pullbox.Direct.Resume
import Pullbox.Import.PendingCancel
import Pullbox.Library.Confinement
import Pullbox.Naming.TargetConfinement
import Pullbox.Naming.StoryArcExtension
import Pullbox.Series.DeleteConfinement
import Pullbox.Import.MixedFolderOwnership
import Pullbox.Utility.Positions
import Pullbox.Utility.Transitions
import Pullbox.Utility.Recovery
import Pullbox.Utility.Counters
import Pullbox.Sync.Attempts
import Pullbox.Search.WantedSweepRuns
import Pullbox.Direct.FallbackRuns
import Pullbox.Direct.Workers
import Pullbox.Coverage.Optimality
import Pullbox.Arc.Runs
import Pullbox.Arc.ReorderNames
import Pullbox.Arc.PlacementOutcome
import Pullbox.Sync.Agreement
import Pullbox.Airdcpp.Ownership
import Pullbox.Airdcpp.Cooldown
import Pullbox.Direct.QuotaRuns
import Pullbox.Direct.HttpResult
import Pullbox.Progress.ProjectionRuns
import Pullbox.Progress.ImportEvents
import Pullbox.Backup.Archives
import Pullbox.Catalog.Manifest
import Pullbox.Catalog.UpdateRuns
import Pullbox.Search.OneRanking
import Pullbox.Scheduler.Exclusivity
import Pullbox.Import.ConflictGroups
import Pullbox.Import.ConflictAcceptance
import Pullbox.Import.MisplacedOutcome
import Pullbox.Utility.TrashRetention
import Pullbox.Reader.PageCorrespondence
import Pullbox.Arc.MigrationOutcome
import Pullbox.Arc.ReorderPlanOutcome
import Pullbox.Direct.SlowSource
import Pullbox.Import.PathMapping
import Pullbox.Library.RenameOutcome
import Pullbox.Limits.LoginLockout
import Pullbox.Limits.ApiSpans
import Pullbox.Library.ReplacementOutcome
import Pullbox.Mega.BridgeCodec
import Pullbox.Naming.Substitution
import Pullbox.Reader.ReaderEvents
import Pullbox.Sync.BatchOutcome
import Pullbox.Torrent.InfoSpan
