import SceneInspector.Call
import SceneInspector.Colour.Index
import SceneInspector.Colour.Literal
import SceneInspector.Colour.Names
import SceneInspector.CommandLine
import SceneInspector.Debouncer
import SceneInspector.Decimal.Binary64
import SceneInspector.Decimal.Layout
import SceneInspector.Decimal.Literal
import SceneInspector.Decimal.Shortest
import SceneInspector.Delivery
import SceneInspector.Dictionary
import SceneInspector.Disk
import SceneInspector.Editor.Control
import SceneInspector.Editor.Model
import SceneInspector.Editor.Panel
import SceneInspector.Editor.Value
import SceneInspector.Element.Basic
import SceneInspector.Element.Wire
import SceneInspector.Fault
import SceneInspector.Fit.Frame
import SceneInspector.Fit.Panel
import SceneInspector.Fit.Request
import SceneInspector.Forest
import SceneInspector.Json.Basic
import SceneInspector.Json.Numeral
import SceneInspector.Json.Reader
import SceneInspector.Json.Record
import SceneInspector.Json.Writer
import SceneInspector.Main
import SceneInspector.Message.Basic
import SceneInspector.Message.Wire
import SceneInspector.Pick
import SceneInspector.Proofs.ChangeOrder
import SceneInspector.Proofs.ColourLiteral
import SceneInspector.Proofs.DeliveryLoss
import SceneInspector.Proofs.DictionaryLaws
import SceneInspector.Proofs.EditorDump
import SceneInspector.Proofs.EditorEdits
import SceneInspector.Proofs.EditorMirror
import SceneInspector.Proofs.EditorPlace
import SceneInspector.Proofs.EditorSession
import SceneInspector.Proofs.EditorSynthesis
import SceneInspector.Proofs.EditorTarget
import SceneInspector.Proofs.ElementCodec
import SceneInspector.Proofs.ElementFields
import SceneInspector.Proofs.EventLog
import SceneInspector.Proofs.FitHistory
import SceneInspector.Proofs.FitLists
import SceneInspector.Proofs.FitRequests
import SceneInspector.Proofs.FitReset
import SceneInspector.Proofs.Forest
import SceneInspector.Proofs.ForestPositions
import SceneInspector.Proofs.HexColour
import SceneInspector.Proofs.JsonReaders
import SceneInspector.Proofs.JsonRecords
import SceneInspector.Proofs.MessageFormat
import SceneInspector.Proofs.Numerals
import SceneInspector.Proofs.PathSpelling
import SceneInspector.Proofs.PickTiming
import SceneInspector.Proofs.QuotedArgument
import SceneInspector.Proofs.RefusedMessages
import SceneInspector.Proofs.RepeatedIds
import SceneInspector.Proofs.ReportFolding
import SceneInspector.Proofs.SceneIndex
import SceneInspector.Proofs.SceneIsolation
import SceneInspector.Proofs.SceneRemoval
import SceneInspector.Proofs.SchemaComposition
import SceneInspector.Proofs.SchemaDefinition
import SceneInspector.Proofs.SchemaInheritance
import SceneInspector.Proofs.SessionBracket
import SceneInspector.Proofs.SessionQuit
import SceneInspector.Proofs.SessionStep
import SceneInspector.Proofs.SummaryIndex
import SceneInspector.Proofs.SummaryLimit
import SceneInspector.Proofs.SummaryNodes
import SceneInspector.Proofs.SummaryOutline
import SceneInspector.Proofs.SummaryPaint
import SceneInspector.Proofs.SummaryPath
import SceneInspector.Proofs.SummaryPlacement
import SceneInspector.Proofs.SummaryPlaces
import SceneInspector.Proofs.SummaryProjection
import SceneInspector.Proofs.SummaryRefresh
import SceneInspector.Report
import SceneInspector.Scene
import SceneInspector.Schema.Builtin
import SceneInspector.Schema.Definition
import SceneInspector.Schema.Entry
import SceneInspector.Schema.Registry
import SceneInspector.Session.Engine
import SceneInspector.Session.Event
import SceneInspector.Session.State
import SceneInspector.Session.Update
import SceneInspector.Settings.Basic
import SceneInspector.Settings.Directory
import SceneInspector.Settings.File
import SceneInspector.Settings.Wire
import SceneInspector.Stream
import SceneInspector.Summary.Basic
import SceneInspector.Summary.Item
import SceneInspector.Summary.Path
import SceneInspector.Summary.Projection
import SceneInspector.Text.Blank
import SceneInspector.Text.DecimalDigit
import SceneInspector.Text.Numeral
import SceneInspector.Toml.Basic
import SceneInspector.Toml.Draft
import SceneInspector.Toml.Moment
import SceneInspector.Toml.Number
import SceneInspector.Toml.Reader
import SceneInspector.Toml.Text
