import TreeTool.Command.Workbench
import TreeTool.Main
import TreeTool.Outcome.Writer
import TreeTool.Settings.Json
import TreeTool.Proofs.Command.Session
import TreeTool.Proofs.CommandLine.DryRun
import TreeTool.Proofs.CommandLine.Given
import TreeTool.Proofs.EnvironmentFile
import TreeTool.Proofs.Tool.Verdict
import TreeTool.Proofs.Number.Numerals
import TreeTool.Proofs.Toml.Names
import TreeTool.Proofs.Settings.Loading
import TreeTool.Proofs.CommandLine.Resolution
import TreeTool.Proofs.CommandLine.ExitStatus
import TreeTool.Proofs.CommandLine.Spelling
import TreeTool.Proofs.Options.Selection
import TreeTool.Proofs.CommandLine.Pruning
import TreeTool.Proofs.Journal.Interleaving
import TreeTool.Proofs.Tool.Errands
import TreeTool.Proofs.Blame
import TreeTool.Proofs.Options.Refusal
import TreeTool.Proofs.Options.Meaning
import TreeTool.Proofs.Command.Moving
import TreeTool.Proofs.Tool.Limit
import TreeTool.Proofs.Outcome.Writing
import TreeTool.Proofs.Settings.Overriding
import TreeTool.Proofs.Files.Opening
import TreeTool.Proofs.Outcome.Saving
import TreeTool.Proofs.Json.Numbers
import TreeTool.Proofs.Json.Documents
import TreeTool.Proofs.CommandLine.Forwarding
import TreeTool.Proofs.Document.Names
import TreeTool.Proofs.Options.Codes
import TreeTool.Proofs.Text.Utf8
import TreeTool.Proofs.Json.Objects
import TreeTool.Proofs.Settings.Documents
import TreeTool.Proofs.CommandLine.Placement
import TreeTool.Proofs.Journal.Rehearsal
