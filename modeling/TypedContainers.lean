import TypedContainers.Main
import TypedContainers.World
import TypedContainers.Proofs.Record.Reading
import TypedContainers.Proofs.Naming
import TypedContainers.Proofs.Record.Lines
import TypedContainers.Proofs.Record.WireNames
import TypedContainers.Proofs.Record.Header
import TypedContainers.Proofs.Categorical.EnumText
import TypedContainers.Proofs.Categorical.Codec
import TypedContainers.Proofs.Files.Changes
import TypedContainers.Proofs.Project.Action
import TypedContainers.Proofs.Project.Output
import TypedContainers.Proofs.Configuration.Declaration
import TypedContainers.Proofs.Record.Unit
import TypedContainers.Proofs.Project.Configuration
import TypedContainers.Proofs.Project.Generate
import TypedContainers.Proofs.Project.Outcome
import TypedContainers.Proofs.Project.Preview
import TypedContainers.Proofs.Project.Places
import TypedContainers.Proofs.Project.History
import TypedContainers.Proofs.Project.Survival
import TypedContainers.Proofs.Categorical.Registry
import TypedContainers.Proofs.Naming.Spelling
import TypedContainers.Proofs.Record.Members
import TypedContainers.Proofs.Record.DeclaredNames
import TypedContainers.Proofs.Categorical.Entries
import TypedContainers.Proofs.Files.Path
import TypedContainers.Proofs.Project.Containment
import TypedContainers.Proofs.Record.Types
import TypedContainers.Proofs.Files.Directories
import TypedContainers.Proofs.Project.Convergence
import TypedContainers.Proofs.Project.Failures
import TypedContainers.Proofs.Json.Document
import TypedContainers.Proofs.FirstFault
import TypedContainers.Proofs.Record.Collision
import TypedContainers.Proofs.Request.Text
import TypedContainers.Proofs.Naming.Identifier
import TypedContainers.Proofs.Categorical.Capitals
import TypedContainers.Proofs.Categorical.Faults
import TypedContainers.Proofs.Configuration.Completeness
import TypedContainers.Proofs.Categorical.Extension
import TypedContainers.Proofs.Naming.Pascal
import TypedContainers.Proofs.Record.Dependence
import TypedContainers.Proofs.Project.Settings
import TypedContainers.Proofs.Files.Pending
import TypedContainers.Proofs.Project.Create
import TypedContainers.Proofs.Project.Format
import TypedContainers.Proofs.Command.Run
import TypedContainers.Proofs.Toml.Table
import TypedContainers.Proofs.Settings
import TypedContainers.Proofs.Toml.Line
import TypedContainers.Proofs.Starter
import TypedContainers.Proofs.Log.Options
import TypedContainers.Proofs.Command.Options
import TypedContainers.Proofs.Command.Spelling
