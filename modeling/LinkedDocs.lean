import LinkedDocs.Text.Basic
import LinkedDocs.Text.Word
import LinkedDocs.Text.Printable
import LinkedDocs.Text.Digit
import LinkedDocs.Text.Case
import LinkedDocs.Text.Pieces
import LinkedDocs.Symbol.Name
import LinkedDocs.Symbol.Keyword
import LinkedDocs.Number.Double
import LinkedDocs.Number.Shortest
import LinkedDocs.Number.Numeral
import LinkedDocs.Text.Surrogate
import LinkedDocs.Text.Quoted
import LinkedDocs.Calendar
import LinkedDocs.Scalar
import LinkedDocs.Base64
import LinkedDocs.Value
import LinkedDocs.Fault
import LinkedDocs.Markup.Tag
import LinkedDocs.Markup.Fence
import LinkedDocs.Markup.Code
import LinkedDocs.Markup.ItemList
import LinkedDocs.Markup.ItemRecord
import LinkedDocs.Config
import LinkedDocs.Graph.Entity
import LinkedDocs.Graph.Basic
import LinkedDocs.Graph.Walk
import LinkedDocs.Text.Letter
import LinkedDocs.Record
import LinkedDocs.Graph.Attribute
import LinkedDocs.Graph.Load
import LinkedDocs.Graph.Dump
import LinkedDocs.Graph.Relocation
import LinkedDocs.Link.Index
import LinkedDocs.Link.Resolution
import LinkedDocs.Markup.Rest
import LinkedDocs.Markup.Stash
import LinkedDocs.Markup.Render
import LinkedDocs.Revision
import LinkedDocs.Wait
import LinkedDocs.Transform
import LinkedDocs.Yaml.Source
import LinkedDocs.Yaml.Supply
import LinkedDocs.Yaml.Flow
import LinkedDocs.Yaml.Block
import LinkedDocs.Yaml.Token
import LinkedDocs.Yaml.Node
import LinkedDocs.Yaml.Meaning
import LinkedDocs.Yaml.Document
import LinkedDocs.Text.Utf8
import LinkedDocs.Text.Intake
import LinkedDocs.Screen.Width
import LinkedDocs.Screen.Emoji
import LinkedDocs.Screen.Style
import LinkedDocs.Screen.Lines
import LinkedDocs.Log
import LinkedDocs.File
import LinkedDocs.Storage
import LinkedDocs.Summary
import LinkedDocs.Command.Arguments
import LinkedDocs.Command.Line
import LinkedDocs.Json
import LinkedDocs.Yaml.Printer
import LinkedDocs.Main
import LinkedDocs.Proofs.Arena
import LinkedDocs.Proofs.Links
import LinkedDocs.Proofs.Removal
import LinkedDocs.Proofs.Results
import LinkedDocs.Proofs.Resting
import LinkedDocs.Proofs.Runs
import LinkedDocs.Proofs.Moves
import LinkedDocs.Proofs.Placeholders
import LinkedDocs.Proofs.Spread
import LinkedDocs.Proofs.RelocationRun
import LinkedDocs.Proofs.Pruning
import LinkedDocs.Proofs.Loading
import LinkedDocs.Proofs.Workable
import LinkedDocs.Proofs.Histories
import LinkedDocs.Proofs.RelocationEffect
import LinkedDocs.Proofs.Records
import LinkedDocs.Proofs.EntityRecords
import LinkedDocs.Proofs.RoundTrip
import LinkedDocs.Proofs.Persistence
import LinkedDocs.Proofs.Idempotence
import LinkedDocs.Proofs.Edits
import LinkedDocs.Proofs.Walks
import LinkedDocs.Proofs.Phases
import LinkedDocs.Proofs.Postings
import LinkedDocs.Proofs.PrimaryIds
import LinkedDocs.Proofs.FirstRegistration
import LinkedDocs.Proofs.Schedules
import LinkedDocs.Proofs.Isolation
import LinkedDocs.Proofs.Completion
import LinkedDocs.Proofs.Endings
import LinkedDocs.Proofs.Reach
import LinkedDocs.Proofs.RecordLinks
import LinkedDocs.Proofs.Cutting
import LinkedDocs.Proofs.CodeRegions
import LinkedDocs.Proofs.Documents
import LinkedDocs.Proofs.Restoring
import LinkedDocs.Proofs.Layout
import LinkedDocs.Proofs.Escaping
import LinkedDocs.Proofs.Tags
import LinkedDocs.Proofs.Redaction
import LinkedDocs.Proofs.Stability
import LinkedDocs.Proofs.Tokens
import LinkedDocs.Proofs.Sparing
import LinkedDocs.Proofs.SoundStash
import LinkedDocs.Proofs.ShownNames
import LinkedDocs.Proofs.StashedCode
import LinkedDocs.Proofs.Passes
import LinkedDocs.Proofs.StashSize
import LinkedDocs.Proofs.Restoration
import LinkedDocs.Proofs.Emphasis
import LinkedDocs.Proofs.Listings
import LinkedDocs.Proofs.Forests
import LinkedDocs.Proofs.Sites
import LinkedDocs.Proofs.Acceptance
import LinkedDocs.Proofs.TypeSpellings
import LinkedDocs.Proofs.TickRuns
import LinkedDocs.Proofs.Spacing
import LinkedDocs.Proofs.Scanning
import LinkedDocs.Proofs.CodeElements
import LinkedDocs.Proofs.InlineCode
import LinkedDocs.Proofs.ListMarkup
import LinkedDocs.Proofs.MixedText
import LinkedDocs.Proofs.Tables
import LinkedDocs.Proofs.Depth
import LinkedDocs.Proofs.NestedArguments
import LinkedDocs.Proofs.NormalNames
import LinkedDocs.Proofs.Resolving
import LinkedDocs.Proofs.Preorder
import LinkedDocs.Proofs.Pages
import LinkedDocs.Proofs.RootPaths
import LinkedDocs.Proofs.Faults
import LinkedDocs.Proofs.Settings
import LinkedDocs.Proofs.Encoding
import LinkedDocs.Proofs.GraphFiles
import LinkedDocs.Proofs.Words
import LinkedDocs.Proofs.ItemLists
import LinkedDocs.Proofs.Rounds
import LinkedDocs.Proofs.FreshIds
import LinkedDocs.Proofs.Dedenting
