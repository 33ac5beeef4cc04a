import StyleTypings.Arguments
import StyleTypings.Config
import StyleTypings.Config.File
import StyleTypings.Css.AtRule
import StyleTypings.Css.Calculation
import StyleTypings.Css.Calculation.Reader
import StyleTypings.Css.Color
import StyleTypings.Css.Component
import StyleTypings.Css.Description
import StyleTypings.Css.Failure
import StyleTypings.Css.Image
import StyleTypings.Css.Lexer
import StyleTypings.Css.Position
import StyleTypings.Css.Property
import StyleTypings.Css.Quantity
import StyleTypings.Css.Query
import StyleTypings.Css.Reader
import StyleTypings.Css.Selector
import StyleTypings.Css.Selector.Nth
import StyleTypings.Css.Selector.Pseudo
import StyleTypings.Css.Selector.Reader
import StyleTypings.Css.Stylesheet
import StyleTypings.Css.Supports
import StyleTypings.Css.Token
import StyleTypings.Css.Transform
import StyleTypings.Css.Value
import StyleTypings.Decimal.Shortest
import StyleTypings.Dialect
import StyleTypings.Disk.Build
import StyleTypings.Disk.Fault
import StyleTypings.Disk.Lookup
import StyleTypings.Disk.Node
import StyleTypings.Exclusion
import StyleTypings.Failure
import StyleTypings.Generator
import StyleTypings.Inspection
import StyleTypings.Json.Complaint
import StyleTypings.Json.Reader
import StyleTypings.Log.Event
import StyleTypings.Log.Filter
import StyleTypings.Main
import StyleTypings.Path
import StyleTypings.Pattern
import StyleTypings.Pattern.Ast
import StyleTypings.Pattern.CharSet
import StyleTypings.Pattern.Complaint
import StyleTypings.Pattern.Lowering
import StyleTypings.Pattern.Matcher
import StyleTypings.Pattern.Reader
import StyleTypings.Pattern.Scanner
import StyleTypings.Run
import StyleTypings.Shell.Command
import StyleTypings.Shell.Reader
import StyleTypings.Shell.Run
import StyleTypings.Text.Blank
import StyleTypings.Text.Quoted
import StyleTypings.Text.Utf8
import StyleTypings.Tool
import StyleTypings.Toolchain
import StyleTypings.Typings
import StyleTypings.Unicode.Category
import StyleTypings.Unicode.Fold
import StyleTypings.Unicode.Property
import StyleTypings.Unicode.Runs
import StyleTypings.Unicode.Script
import StyleTypings.Walk
import StyleTypings.Watch
import StyleTypings.Watch.Change
import StyleTypings.Watch.Event
import StyleTypings.World
import StyleTypings.Writer
import StyleTypings.Proofs.Typings.Reader
import StyleTypings.Proofs.Typings.RoundTrip
import StyleTypings.Proofs.Css.Reading
import StyleTypings.Proofs.Disk.Following
import StyleTypings.Proofs.Disk.Writing
import StyleTypings.Proofs.Writer.Interleaving
import StyleTypings.Proofs.Writer.History
import StyleTypings.Proofs.Writer.Storing
import StyleTypings.Proofs.Writer.Delivery
import StyleTypings.Proofs.World.Effects
import StyleTypings.Proofs.Writer.Program
import StyleTypings.Proofs.Disk.Below
import StyleTypings.Proofs.World.Upkeep
import StyleTypings.Proofs.World.Generation
import StyleTypings.Proofs.Text.Encoding
import StyleTypings.Proofs.Walk.Chosen
import StyleTypings.Proofs.Walk.Gains
import StyleTypings.Proofs.Walk.Course
import StyleTypings.Proofs.Walk.Bound
import StyleTypings.Proofs.Walk.Ground
import StyleTypings.Proofs.Walk.Exact
import StyleTypings.Proofs.Walk.Start
import StyleTypings.Proofs.Walk.Skipped
import StyleTypings.Proofs.Text.Slashes
import StyleTypings.Proofs.Path.Spelling
import StyleTypings.Proofs.Path.Ancestors
import StyleTypings.Proofs.Disk.Spots
import StyleTypings.Proofs.Watch.Agreement
import StyleTypings.Proofs.World.Promise
import StyleTypings.Proofs.Watch.Course
import StyleTypings.Proofs.Watch.Session
import StyleTypings.Proofs.Watch.Upkeep
import StyleTypings.Proofs.Watch.Events
import StyleTypings.Proofs.Watch.Edits
import StyleTypings.Proofs.Watch.Links
import StyleTypings.Proofs.Walk.Beside
import StyleTypings.Proofs.Walk.Settled
import StyleTypings.Proofs.Walk.Undisturbed
import StyleTypings.Proofs.Walk.Onward
import StyleTypings.Proofs.Walk.Interleaved
import StyleTypings.Proofs.Watch.Selection
import StyleTypings.Proofs.Writer.Callers
import StyleTypings.Proofs.Css.Identifier
import StyleTypings.Proofs.Css.NamedRules
import StyleTypings.Proofs.Path.Ending
import StyleTypings.Proofs.Typings.Pipeline
import StyleTypings.Proofs.Walk.Frozen
import StyleTypings.Proofs.Walk.Still
import StyleTypings.Proofs.World.Output
import StyleTypings.Proofs.Walk.Shown
import StyleTypings.Proofs.Run.Plan
import StyleTypings.Proofs.Run.Emit
import StyleTypings.Proofs.World.Calls
import StyleTypings.Proofs.Walk.Turns
import StyleTypings.Proofs.Walk.Intact
import StyleTypings.Proofs.Walk.Stopped
import StyleTypings.Proofs.Walk.Halting
import StyleTypings.Proofs.World.Attempts
import StyleTypings.Proofs.Run.Failing
import StyleTypings.Proofs.Generator.Answer
import StyleTypings.Proofs.Tool.Exchange
import StyleTypings.Proofs.Tool.Delivery
import StyleTypings.Proofs.Tool.Answer
import StyleTypings.Proofs.Disk.Route
import StyleTypings.Proofs.Disk.Agree
import StyleTypings.Proofs.Disk.Locations
import StyleTypings.Proofs.Walk.Errand
import StyleTypings.Proofs.Walk.Enough
import StyleTypings.Proofs.World.Twins
import StyleTypings.Proofs.Walk.Sealed
import StyleTypings.Proofs.Walk.Blind
import StyleTypings.Proofs.Disk.Erasing
import StyleTypings.Proofs.World.Endurance
import StyleTypings.Proofs.Watch.Sheets
import StyleTypings.Proofs.Watch.Loop
import StyleTypings.Proofs.Watch.Account
import StyleTypings.Proofs.Watch.Rest
import StyleTypings.Proofs.Typings.Lines
import StyleTypings.Proofs.Watch.Complaints
import StyleTypings.Proofs.Path.Resolving
import StyleTypings.Proofs.Run.Respelled
import StyleTypings.Proofs.Path.Above
import StyleTypings.Proofs.Watch.Choice
