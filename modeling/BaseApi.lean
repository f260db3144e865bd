import BaseApi.ColumnType.Basic
import BaseApi.ColumnType.Classify
import BaseApi.ColumnType.Resolve
import BaseApi.Command.Arguments
import BaseApi.Command.Report
import BaseApi.Command.Run
import BaseApi.Delivery
import BaseApi.Document.Assembly
import BaseApi.Document.Basic
import BaseApi.Document.Encode
import BaseApi.Document.Operations
import BaseApi.Document.RecordSchemas
import BaseApi.DocumentOptions
import BaseApi.Double.Basic
import BaseApi.Double.Shortest
import BaseApi.Double.Text
import BaseApi.Files.Path
import BaseApi.Files.Storage
import BaseApi.Files.Tree
import BaseApi.Fragment
import BaseApi.Json.Basic
import BaseApi.Json.Decoder
import BaseApi.Json.Error
import BaseApi.Json.Parser
import BaseApi.Json.Printer
import BaseApi.Json.Record
import BaseApi.Json.Scan
import BaseApi.Json.Skip
import BaseApi.Json.WithoutKey
import BaseApi.Main
import BaseApi.OrderedMap
import BaseApi.Proofs.FieldShape
import BaseApi.Proofs.FirstFit
import BaseApi.Proofs.FreeNames
import BaseApi.Proofs.Insertion
import BaseApi.Proofs.Operations
import BaseApi.Proofs.Fallible
import BaseApi.Proofs.Pointer
import BaseApi.ResolvedBase
import BaseApi.Schema.Basic
import BaseApi.Schema.Decode
import BaseApi.Schema.Encode
import BaseApi.Text.Quoted
import BaseApi.Text.Unseen
import BaseApi.Proofs.Registration
import BaseApi.Proofs.Paths
import BaseApi.Proofs.Resolution.Depth
import BaseApi.Proofs.Resolution.Verdict
import BaseApi.Proofs.SelfContained
import BaseApi.Proofs.Reading.Grammar
import BaseApi.Proofs.Reading.Skipping
import BaseApi.Proofs.Reading.Values
import BaseApi.Proofs.Reading.Decoders
import BaseApi.Proofs.Reading.Records
import BaseApi.Proofs.Reading.Agreement
import BaseApi.Proofs.Resolution.FirstFailure
import BaseApi.Proofs.Reading.Printed
import BaseApi.Proofs.Reading.Nesting
import BaseApi.Proofs.Reading.RoundTrip
import BaseApi.Proofs.Reading.UnreadKeys
import BaseApi.Proofs.Files.Changes
import BaseApi.Proofs.Command.OnTree
import BaseApi.Proofs.Command.Rendering
import BaseApi.Proofs.Command.AllOrNothing
import BaseApi.Proofs.Command.Delivered
import BaseApi.Proofs.NameSearch
import BaseApi.Proofs.Attachments
import BaseApi.Proofs.PlainDocument
import BaseApi.Proofs.ReadBack
import BaseApi.Proofs.ClosedSchemas
import BaseApi.Proofs.Resolution.Failures
import BaseApi.Proofs.Resolution.Shapes
import BaseApi.Proofs.Resolution.ResultPlaces
import BaseApi.Proofs.Resolution.Names
import BaseApi.Proofs.FieldProperties
import BaseApi.Proofs.WithoutKey
import BaseApi.Proofs.DocumentFrame
import BaseApi.Proofs.Command.Inspection
import BaseApi.Proofs.FragmentTexts
