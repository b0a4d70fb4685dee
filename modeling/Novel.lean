import Novel.Text.Cell
import Novel.Text.Unprintable
import Novel.Table.Read
import Novel.Table.Write
import Novel.Json.Value
import Novel.Json.Print
import Novel.Json.Fault
import Novel.Json.Scan
import Novel.Decimal.Shortest
import Novel.Decimal.Text
import Novel.Time.Calendar
import Novel.Time.Rfc3339
import Novel.Story.Node
import Novel.Story.Cue
import Novel.Story.Sheet
import Novel.Story.Metadata
import Novel.Story.MetadataTab
import Novel.Story.Graph
import Novel.Story.Book
import Novel.Play.Fade
import Novel.Play.Prompt
import Novel.Play.Progress
import Novel.Play.Stage
import Novel.Play.Config
import Novel.Play.Session
import Novel.Ron.Cursor
import Novel.Ron.Value
import Novel.Ron.Document
import Novel.Save.Record
import Novel.Save.Text
import Novel.Save.Store
import Novel.Web.Encode
import Novel.Web.Player
import Novel.Terminal.Disk
import Novel.Terminal.Shelf
import Novel.Terminal.Log
import Novel.Terminal.Command
import Novel.Terminal.Program
import Novel.Main
import Novel.Proofs.TableRoundTrip
import Novel.Proofs.FadeSteps
import Novel.Proofs.SessionSteps
import Novel.Proofs.InstantRoundTrip
import Novel.Proofs.Runs
import Novel.Proofs.Consistency
import Novel.Proofs.Navigation
import Novel.Proofs.FadeOrder
import Novel.Proofs.FadeRuns
import Novel.Proofs.FadeFields
import Novel.Proofs.Refusals
import Novel.Proofs.RecordRoundTrip
import Novel.Proofs.FlagSets
import Novel.Proofs.SaveSlot
import Novel.Proofs.ExportImport
import Novel.Proofs.BookLoading
import Novel.Proofs.MetadataLayouts
import Novel.Proofs.OperationRuns
import Novel.Proofs.MusicSink
import Novel.Proofs.EventStream
import Novel.Proofs.SlotOwnership
import Novel.Proofs.PollTiming
import Novel.Proofs.TableGrammar
import Novel.Proofs.GraphStore
import Novel.Proofs.StoryRows
import Novel.Proofs.MetadataReading
import Novel.Proofs.ChoiceFilter
import Novel.Proofs.PromptIndexing
import Novel.Proofs.ProgressRuns
import Novel.Proofs.RecordLossless
import Novel.Proofs.StoreSlots
import Novel.Proofs.TagScan
import Novel.Proofs.StageCues
import Novel.Proofs.LayoutWarning
import Novel.Proofs.DeadlineReports
import Novel.Proofs.PollBound
