import TokenLaunch.Main
import TokenLaunch.Proofs.Source.Scan
import TokenLaunch.Proofs.Source.Token
import TokenLaunch.Proofs.Source.Reader
import TokenLaunch.Proofs.Source.File
import TokenLaunch.Proofs.Source.Layout
import TokenLaunch.Proofs.Source.Contract
import TokenLaunch.Proofs.Quantity.Number
import TokenLaunch.Proofs.Quantity.Scale
import TokenLaunch.Proofs.Source.Isolation
import TokenLaunch.Proofs.Overrides
import TokenLaunch.Proofs.AccessControl
import TokenLaunch.Proofs.Source.Brackets
import TokenLaunch.Proofs.Source.Tidy
import TokenLaunch.Proofs.Source.Functions
import TokenLaunch.Proofs.Source.Literals
import TokenLaunch.Proofs.WellFormed
import TokenLaunch.Proofs.Supply
import TokenLaunch.Proofs.Determined
import TokenLaunch.Proofs.Launch.Course
import TokenLaunch.Proofs.Launch.Run
import TokenLaunch.Proofs.Digits
import TokenLaunch.Proofs.Json.Quoted
import TokenLaunch.Proofs.Json.ReadBack
import TokenLaunch.Proofs.Time.ReadBack
import TokenLaunch.Proofs.Json.Fields
import TokenLaunch.Proofs.Dashboard.Stored
import TokenLaunch.Proofs.Storage.Path
import TokenLaunch.Proofs.Storage.Disk
import TokenLaunch.Proofs.Dashboard.File
import TokenLaunch.Proofs.Dashboard.Refinement
import TokenLaunch.Proofs.Dashboard.Keeper
import TokenLaunch.Proofs.Dashboard.Interleaving
import TokenLaunch.Proofs.Launch.History
import TokenLaunch.Proofs.Dashboard.History
import TokenLaunch.Proofs.Launch.Admission
import TokenLaunch.Proofs.Command.Arguments
import TokenLaunch.Proofs.Command.Generate
import TokenLaunch.Proofs.Storage.Tree
import TokenLaunch.Proofs.Dashboard.Interruption
import TokenLaunch.Proofs.Relevance
import TokenLaunch.Proofs.Features
import TokenLaunch.Proofs.Spec.Spelling
import TokenLaunch.Proofs.Command.Failure
import TokenLaunch.Proofs.Launch.Watch
import TokenLaunch.Proofs.Launch.Log
import TokenLaunch.Proofs.Launch.Refusal
import TokenLaunch.Proofs.Launch.Report
import TokenLaunch.Proofs.Launch.Draws
import TokenLaunch.Proofs.Source.Decoding
import TokenLaunch.Proofs.Source.Imports
import TokenLaunch.Proofs.Construction
import TokenLaunch.Proofs.Legality
import TokenLaunch.Proofs.Source.Lexeme
import TokenLaunch.Proofs.Wiring
import TokenLaunch.Proofs.Hex
import TokenLaunch.Proofs.Launch.Operations
import TokenLaunch.Proofs.Fingerprint
import TokenLaunch.Proofs.Naming
import TokenLaunch.Proofs.Command.SpecSource
import TokenLaunch.Proofs.Launch.Wire
import TokenLaunch.Proofs.Text.Variant
import TokenLaunch.Proofs.Standard
