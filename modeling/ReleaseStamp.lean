import ReleaseStamp.Main
import ReleaseStamp.Proofs.Manifest.LastVersion
import ReleaseStamp.Proofs.Manifest.Syntax
import ReleaseStamp.Proofs.Manifest.InlineTable
import ReleaseStamp.Proofs.Manifest.Structured
import ReleaseStamp.Proofs.FileTree.Node
import ReleaseStamp.Proofs.FileTree.Resolve
import ReleaseStamp.Proofs.FileTree.Grown
import ReleaseStamp.Proofs.FileTree.Access
import ReleaseStamp.Proofs.FileTree.Save
import ReleaseStamp.Proofs.FileTree.Below
import ReleaseStamp.Proofs.Session
import ReleaseStamp.Proofs.FileTree.Found
import ReleaseStamp.Proofs.Project.Inputs
import ReleaseStamp.Proofs.Project.Run
import ReleaseStamp.Proofs.Project.History
import ReleaseStamp.Proofs.Placeholder.Leftover
import ReleaseStamp.Proofs.Placeholder.Substitution
import ReleaseStamp.Proofs.FileTree.Made
import ReleaseStamp.Proofs.Manifest.Find
import ReleaseStamp.Proofs.FileTree.Overwrite
import ReleaseStamp.Proofs.Project.Update
import ReleaseStamp.Proofs.Project.Halt
import ReleaseStamp.Proofs.Project.Calls
import ReleaseStamp.Proofs.Shell.Script
import ReleaseStamp.Proofs.Text.Replace
import ReleaseStamp.Proofs.Project.Dispatch
import ReleaseStamp.Proofs.Manifest.Nested.Quoted
import ReleaseStamp.Proofs.Manifest.Nested.Members
import ReleaseStamp.Proofs.Manifest.Nested.Path
import ReleaseStamp.Proofs.Manifest.Nested.Requirement
import ReleaseStamp.Proofs.Manifest.Nested.Bump
import ReleaseStamp.Proofs.Manifest.Package
import ReleaseStamp.Proofs.Project.Dockerfile
import ReleaseStamp.Proofs.Image
import ReleaseStamp.Proofs.Project.Literal
import ReleaseStamp.Proofs.Toml.Quotation
import ReleaseStamp.Proofs.Toml.Token
import ReleaseStamp.Proofs.Toml.Section
import ReleaseStamp.Proofs.Toml.Node
import ReleaseStamp.Proofs.Config.Document
import ReleaseStamp.Proofs.Manifest.Exchange
import ReleaseStamp.Proofs.Manifest.LineEnding
import ReleaseStamp.Proofs.Manifest.Settled
import ReleaseStamp.Proofs.Manifest.Section
import ReleaseStamp.Proofs.Manifest.StepOrder
import ReleaseStamp.Proofs.Manifest.OwnVersion
import ReleaseStamp.Proofs.Project.Requests
import ReleaseStamp.Proofs.CommandLine.Options
import ReleaseStamp.Proofs.CommandLine.Run
import ReleaseStamp.Proofs.Project.Pipeline
import ReleaseStamp.Proofs.Template.Warning
import ReleaseStamp.Proofs.Session.Write
import ReleaseStamp.Proofs.Manifest.Stamp
import ReleaseStamp.Proofs.Project.Padding
import ReleaseStamp.Proofs.Manifest.HeaderPattern
import ReleaseStamp.Proofs.Manifest.VersionPattern
import ReleaseStamp.Proofs.Placeholder.Pattern
import ReleaseStamp.Proofs.Image.Pattern
import ReleaseStamp.Proofs.Checksum.Address
import ReleaseStamp.Proofs.Project.Archive
