import OpenFrag.Domain.Theorems.Exact
import OpenFrag.Domain.Theorems.Rating
import OpenFrag.Library.Decimal
import OpenFrag.Library.Program
import OpenFrag.Analysis.Score
import OpenFrag.Analysis.Theorems.Trades
import OpenFrag.Analysis.Theorems.Rounds
import OpenFrag.Analysis.Theorems.Trend
import OpenFrag.Analysis.Theorems.Clutch
import OpenFrag.Analysis.Theorems.Damage
import OpenFrag.Analysis.Theorems.Attribution
import OpenFrag.Storage.Schema
import OpenFrag.Pipeline.Reconcile
import OpenFrag.Pipeline.Theorems.Reconcile
import OpenFrag.Pipeline.Theorems.Erasure
import OpenFrag.Pipeline.Theorems.Retry
import OpenFrag.Capture.Theorems.Children
import OpenFrag.Capture.Theorems.Saves
import OpenFrag.Live.Theorems.Finalizations
import OpenFrag.Live.Theorems.Coverage
import OpenFrag.Gsi.Theorems.Stretch
import OpenFrag.Gsi.Theorems.Outage
import OpenFrag.Domain.Theorems.Blocks
import OpenFrag.Live.Theorems.Requests
import OpenFrag.Live.Theorems.Deadlines
import OpenFrag.Capture.Theorems.Directory
import OpenFrag.Live.Theorems.Adapter
import OpenFrag.Storage.Theorems.Jobs
import OpenFrag.Storage.Theorems.Saves
import OpenFrag.Clips.Theorems.Reviews
import OpenFrag.Clips.Theorems.Reviewers
import OpenFrag.Storage.Theorems.Migrations
import OpenFrag.Storage.Theorems.Recovery
import OpenFrag.Storage.Theorems.Deletions
import OpenFrag.Domain.Theorems.Laws
import OpenFrag.Domain.Theorems.Retention
import OpenFrag.Domain.Theorems.Statistics
import OpenFrag.Domain.Theorems.Reordering
import OpenFrag.Domain.Theorems.Goals
import OpenFrag.Domain.Theorems.Sessions
import OpenFrag.Library.Digits
import OpenFrag.Setup.Checks
import OpenFrag.Setup.Runtime
import OpenFrag.Setup.Theorems.Runtime
import OpenFrag.Setup.Theorems.Serial
import OpenFrag.Import.Leases
import OpenFrag.Import.Theorems.Leases
import OpenFrag.Storage.Theorems.Budget
import OpenFrag.Storage.Theorems.Reconciliation
import OpenFrag.Clips.Theorems.Probe
import OpenFrag.Import.Theorems.Frames
import OpenFrag.Setup.Theorems.CaptureConfig
import OpenFrag.Import.Theorems.Compatibility
import OpenFrag.Service.Theorems.Matches
import OpenFrag.Shortcuts.Theorems.Worker
import OpenFrag.Shortcuts.Theorems.TokenStore
import OpenFrag.Capture.Theorems.Backoff
import OpenFrag.Service.Theorems.Preview
import OpenFrag.Clips.Theorems.Export
import OpenFrag.Clips.Theorems.Derivative
import OpenFrag.Live.Theorems.Matches
import OpenFrag.Setup.Theorems.Installation
import OpenFrag.Analysis.Theorems.Parsed
import OpenFrag.Live.Theorems.Durable
import OpenFrag.Storage.Theorems.Depot
import OpenFrag.Storage.Theorems.Handles
