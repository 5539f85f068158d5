import Cbs.Celery.BuildsDb
import Cbs.Celery.FinishBuild
import Cbs.Celery.LogFiles
import Cbs.Celery.LogStream
import Cbs.Celery.PeriodicRunner
import Cbs.Celery.PeriodicTracker
import Cbs.Celery.Permissions
import Cbs.Client.TaskIds
import Cbs.Core.BuilderRuns
import Cbs.Core.Commands
import Cbs.Core.Credentials
import Cbs.Core.Images
import Cbs.Core.Listings
import Cbs.Core.Podman
import Cbs.Core.Uris
import Cbs.Core.Versions
import Cbs.Crt.ManifestStore
import Cbs.Server.ChannelRequests
import Cbs.Server.DispatchFailure
import Cbs.Server.Drain
import Cbs.Server.Filing
import Cbs.Server.ForeignMessages
import Cbs.Server.Interleaving
import Cbs.Server.LogGc
import Cbs.Server.LogIndex
import Cbs.Server.NonInterference
import Cbs.Server.Provenance
import Cbs.Server.Refusal
import Cbs.Server.Revocation
import Cbs.Server.Scheduler
import Cbs.Server.SingleRole
import Cbs.Server.Sweep
import Cbs.Server.TagValidation
import Cbs.Server.TerminalRows
import Cbs.Server.TokenIndices
import Cbs.Server.Widening
import Cbs.Server.WorkerIsolation
import Cbs.Worker.Backpressure
import Cbs.Worker.Decompression
import Cbs.Worker.Output
import Cbs.Worker.Override
