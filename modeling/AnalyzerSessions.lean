import AnalyzerSessions.Client.Basic
import AnalyzerSessions.Client.Incoming
import AnalyzerSessions.Client.Lifecycle
import AnalyzerSessions.Client.Reading
import AnalyzerSessions.Client.Request
import AnalyzerSessions.CommandLine.Answers
import AnalyzerSessions.CommandLine.Checking
import AnalyzerSessions.CommandLine.Options
import AnalyzerSessions.CommandLine.Reply
import AnalyzerSessions.CommandLine.Request
import AnalyzerSessions.CommandLine.Run
import AnalyzerSessions.CommandLine.Snapshot
import AnalyzerSessions.Config.Defaults
import AnalyzerSessions.Config.Places
import AnalyzerSessions.Config.Tree
import AnalyzerSessions.Edit.Basic
import AnalyzerSessions.Edit.Splice
import AnalyzerSessions.Edit.Transform
import AnalyzerSessions.Edit.Workspace
import AnalyzerSessions.Failure
import AnalyzerSessions.Host.Basic
import AnalyzerSessions.Json.Basic
import AnalyzerSessions.Json.Keyed
import AnalyzerSessions.Json.LogText
import AnalyzerSessions.Json.Parser
import AnalyzerSessions.Json.Printer
import AnalyzerSessions.Json.Strict
import AnalyzerSessions.Log
import AnalyzerSessions.Main
import AnalyzerSessions.Number.Arithmetic
import AnalyzerSessions.Number.Binary64
import AnalyzerSessions.Number.DecimalText
import AnalyzerSessions.Number.IntegerText
import AnalyzerSessions.Number.LooseInteger
import AnalyzerSessions.Path.Basic
import AnalyzerSessions.Path.FileTree
import AnalyzerSessions.Path.FileUri
import AnalyzerSessions.Path.HostAddress
import AnalyzerSessions.Path.Resolution
import AnalyzerSessions.Root.Metadata
import AnalyzerSessions.Root.Search
import AnalyzerSessions.Schema.Basic
import AnalyzerSessions.Schema.Catalog
import AnalyzerSessions.Server.Capabilities
import AnalyzerSessions.Server.Handshake
import AnalyzerSessions.Server.Process
import AnalyzerSessions.Server.Status
import AnalyzerSessions.Session.Basic
import AnalyzerSessions.Session.Catalog
import AnalyzerSessions.Session.Desk
import AnalyzerSessions.Session.Editing
import AnalyzerSessions.Session.HostUse
import AnalyzerSessions.Session.Lifecycle
import AnalyzerSessions.Session.Options
import AnalyzerSessions.Session.Registry
import AnalyzerSessions.Session.RootFinding
import AnalyzerSessions.Session.Routing
import AnalyzerSessions.Session.ServerSettings
import AnalyzerSessions.Session.Setup
import AnalyzerSessions.Snippet.Plain
import AnalyzerSessions.Snippet.Tree
import AnalyzerSessions.Station.Basic
import AnalyzerSessions.Station.Check
import AnalyzerSessions.Station.Commands
import AnalyzerSessions.Station.Deadline
import AnalyzerSessions.Station.Launch
import AnalyzerSessions.Station.Step
import AnalyzerSessions.Station.Stimulus
import AnalyzerSessions.Supplied
import AnalyzerSessions.Task.Basic
import AnalyzerSessions.Task.Loop
import AnalyzerSessions.Task.TimerHeap
import AnalyzerSessions.Text.Class
import AnalyzerSessions.Text.Line
import AnalyzerSessions.Text.Position
import AnalyzerSessions.Text.Printable
import AnalyzerSessions.Text.Quoted
import AnalyzerSessions.Text.Utf8
import AnalyzerSessions.Text.Wildcard
import AnalyzerSessions.Toml.Document
import AnalyzerSessions.Toml.Scalar
import AnalyzerSessions.Toml.Value
import AnalyzerSessions.Wire.Frame
import AnalyzerSessions.Wire.Stream
import AnalyzerSessions.Proofs.CutStreams
import AnalyzerSessions.Proofs.SessionLedger
import AnalyzerSessions.Proofs.LedgerActs
import AnalyzerSessions.Proofs.ManagerRuns
import AnalyzerSessions.Proofs.SessionLives
import AnalyzerSessions.Proofs.SessionRoots
import AnalyzerSessions.Proofs.SharedCommands
import AnalyzerSessions.Proofs.ClientStops
import AnalyzerSessions.Proofs.OpenCalls
import AnalyzerSessions.Proofs.HandlingMoves
import AnalyzerSessions.Proofs.ReceivedMessages
import AnalyzerSessions.Proofs.CorrelatedCalls
import AnalyzerSessions.Proofs.WantedAnswers
import AnalyzerSessions.Proofs.AnsweredRequests
import AnalyzerSessions.Proofs.ReleasedCalls
import AnalyzerSessions.Proofs.CalmMoves
import AnalyzerSessions.Proofs.SpokenRights
import AnalyzerSessions.Proofs.MannerlyActs
import AnalyzerSessions.Proofs.SpeakingMoves
import AnalyzerSessions.Proofs.ClientManners
import AnalyzerSessions.Proofs.CommandManners
import AnalyzerSessions.Proofs.CourteousStations
import AnalyzerSessions.Proofs.Conversations
import AnalyzerSessions.Proofs.SnippetMeaning
import AnalyzerSessions.Proofs.WorkspaceEdits
import AnalyzerSessions.Proofs.LifecycleListeners
import AnalyzerSessions.Proofs.HostOperations
import AnalyzerSessions.Proofs.ReloadTriggers
import AnalyzerSessions.Proofs.EditingMoves
import AnalyzerSessions.Proofs.EditingSteps
import AnalyzerSessions.Proofs.EditingRuns
import AnalyzerSessions.Proofs.StationEdits
import AnalyzerSessions.Proofs.FlagEdits
import AnalyzerSessions.Proofs.SplicedTexts
import AnalyzerSessions.Proofs.FailedStarts
import AnalyzerSessions.Proofs.NearestRoots
import AnalyzerSessions.Proofs.LibraryFiles
import AnalyzerSessions.Proofs.ReadySessions
import AnalyzerSessions.Proofs.ArmedDesks
import AnalyzerSessions.Proofs.ArmedStations
import AnalyzerSessions.Proofs.PursuedTasks
import AnalyzerSessions.Proofs.ReloadMoves
import AnalyzerSessions.Proofs.DocumentLines
import AnalyzerSessions.Proofs.FileUriTexts
import AnalyzerSessions.Proofs.StraightPaths
import AnalyzerSessions.Proofs.UriBuffers
import AnalyzerSessions.Proofs.BufferStops
import AnalyzerSessions.Proofs.ConnectedSessions
import AnalyzerSessions.Proofs.CommandTargets
import AnalyzerSessions.Proofs.ManifestReloads
import AnalyzerSessions.Proofs.ManifestRuns
import AnalyzerSessions.Proofs.ExactPositions
import AnalyzerSessions.Proofs.MergedTables
import AnalyzerSessions.Proofs.StatusReports
import AnalyzerSessions.Proofs.MirroredFlags
import AnalyzerSessions.Proofs.ListeningRuns
import AnalyzerSessions.Proofs.InstalledTransforms
import AnalyzerSessions.Proofs.EditPipelines
import AnalyzerSessions.Proofs.EditOutcomes
import AnalyzerSessions.Proofs.PipelineRuns
import AnalyzerSessions.Proofs.RereadEdits
import AnalyzerSessions.Proofs.SavedFiles
import AnalyzerSessions.Proofs.FramedDocuments
import AnalyzerSessions.Proofs.KeptSnippets
import AnalyzerSessions.Proofs.CountedColumns
import AnalyzerSessions.Proofs.ContainedPaths
import AnalyzerSessions.Proofs.RegistryHistories
