import SorobanDeploy.About
import SorobanDeploy.Artifact
import SorobanDeploy.Client.StellarCli
import SorobanDeploy.CommandLine.Options
import SorobanDeploy.CommandLine.Run
import SorobanDeploy.CommandLine.Usage
import SorobanDeploy.Failure
import SorobanDeploy.Failure.Arguments
import SorobanDeploy.Failure.Class
import SorobanDeploy.Host.Files
import SorobanDeploy.Host.Replace
import SorobanDeploy.Host.Session
import SorobanDeploy.Host.Tree
import SorobanDeploy.Identity
import SorobanDeploy.Json.Reader
import SorobanDeploy.Json.Value
import SorobanDeploy.Log
import SorobanDeploy.Network
import SorobanDeploy.Network.Lookup
import SorobanDeploy.Number.Binary64
import SorobanDeploy.Number.Shortest
import SorobanDeploy.Number.Whole
import SorobanDeploy.Pairs
import SorobanDeploy.Path
import SorobanDeploy.Pipeline
import SorobanDeploy.Problem
import SorobanDeploy.Rpc.Address
import SorobanDeploy.Rpc.BodyText
import SorobanDeploy.Rpc.Check
import SorobanDeploy.Rpc.HostName
import SorobanDeploy.Rpc.HostName.Label
import SorobanDeploy.Rpc.HostName.Letters
import SorobanDeploy.Rpc.HostName.Mapping
import SorobanDeploy.Rpc.Url
import SorobanDeploy.Rpc.Url.Check
import SorobanDeploy.Rpc.Url.Escape
import SorobanDeploy.Rpc.Url.Parts
import SorobanDeploy.StateFile.Grammar
import SorobanDeploy.StateFile.Store
import SorobanDeploy.StateFile.Update
import SorobanDeploy.Text.Alphanumeric
import SorobanDeploy.Text.Blank
import SorobanDeploy.Text.Charset
import SorobanDeploy.Text.Charset.Backslash
import SorobanDeploy.Text.Charset.Cells
import SorobanDeploy.Text.Charset.Cells.Big5
import SorobanDeploy.Text.Charset.Cells.Cp932
import SorobanDeploy.Text.Charset.Cells.Gb2312
import SorobanDeploy.Text.Charset.Cells.Gbk
import SorobanDeploy.Text.Charset.Cells.Hkscs
import SorobanDeploy.Text.Charset.Cells.JisX0208
import SorobanDeploy.Text.Charset.Cells.JisX0212
import SorobanDeploy.Text.Charset.Cells.JisX0213
import SorobanDeploy.Text.Charset.Cells.KsX1001
import SorobanDeploy.Text.Charset.Chinese
import SorobanDeploy.Text.Charset.Iso2022
import SorobanDeploy.Text.Charset.Japanese
import SorobanDeploy.Text.Charset.Korean
import SorobanDeploy.Text.Charset.Names
import SorobanDeploy.Text.Charset.Reading
import SorobanDeploy.Text.Charset.Single
import SorobanDeploy.Text.Charset.Single.Decimal
import SorobanDeploy.Text.Charset.Single.Frames
import SorobanDeploy.Text.Charset.Single.Iso
import SorobanDeploy.Text.Charset.Single.Macintosh
import SorobanDeploy.Text.Charset.Single.Regional
import SorobanDeploy.Text.Charset.Single.Windows
import SorobanDeploy.Text.Charset.Utf7
import SorobanDeploy.Text.Compose
import SorobanDeploy.Text.Digit
import SorobanDeploy.Text.Hex
import SorobanDeploy.Text.Lines
import SorobanDeploy.Text.Lower
import SorobanDeploy.Text.Printable
import SorobanDeploy.Text.Punycode
import SorobanDeploy.Text.Quoted
import SorobanDeploy.Text.Split
import SorobanDeploy.Text.Table
import SorobanDeploy.Text.Utf16
import SorobanDeploy.Text.Utf8
import SorobanDeploy.Text.Wrap
import SorobanDeploy.Workspace
import SorobanDeploy.Main
import SorobanDeploy.Proofs.Client.Launching
import SorobanDeploy.Proofs.Client.Unambiguous
import SorobanDeploy.Proofs.CommandLine.Console
import SorobanDeploy.Proofs.CommandLine.Loading
import SorobanDeploy.Proofs.CommandLine.Orders
import SorobanDeploy.Proofs.CommandLine.Outcome
import SorobanDeploy.Proofs.Host.Access
import SorobanDeploy.Proofs.Host.Kept
import SorobanDeploy.Proofs.Host.Length
import SorobanDeploy.Proofs.Host.Parallel
import SorobanDeploy.Proofs.Host.Placed
import SorobanDeploy.Proofs.Host.Refusals
import SorobanDeploy.Proofs.Host.Replaced
import SorobanDeploy.Proofs.Host.Resolved
import SorobanDeploy.Proofs.Host.Search
import SorobanDeploy.Proofs.Host.Standing
import SorobanDeploy.Proofs.Host.Walk
import SorobanDeploy.Proofs.Json.Depth
import SorobanDeploy.Proofs.Pairs.Assignment
import SorobanDeploy.Proofs.Pipeline.Attributed
import SorobanDeploy.Proofs.Pipeline.Captured
import SorobanDeploy.Proofs.Pipeline.Commands
import SorobanDeploy.Proofs.Pipeline.Deployed
import SorobanDeploy.Proofs.Pipeline.Elsewhere
import SorobanDeploy.Proofs.Pipeline.FailFast
import SorobanDeploy.Proofs.Pipeline.Funding
import SorobanDeploy.Proofs.Pipeline.Gate
import SorobanDeploy.Proofs.Pipeline.OneProgram
import SorobanDeploy.Proofs.Pipeline.Plan
import SorobanDeploy.Proofs.Pipeline.Recorded
import SorobanDeploy.Proofs.Pipeline.Redeploy
import SorobanDeploy.Proofs.Pipeline.Reload
import SorobanDeploy.Proofs.Pipeline.Returned
import SorobanDeploy.Proofs.Pipeline.Saved
import SorobanDeploy.Proofs.Pipeline.Stages
import SorobanDeploy.Proofs.Pipeline.Stopped
import SorobanDeploy.Proofs.Pipeline.Turns
import SorobanDeploy.Proofs.Pipeline.Twins
import SorobanDeploy.Proofs.Pipeline.Unreadable
import SorobanDeploy.Proofs.Pipeline.Unsaved
import SorobanDeploy.Proofs.Pipeline.Untouched
import SorobanDeploy.Proofs.Rpc.Answered
import SorobanDeploy.Proofs.Session.Along
import SorobanDeploy.Proofs.Session.Raised
import SorobanDeploy.Proofs.Session.Steps
import SorobanDeploy.Proofs.StateFile.Bindings
import SorobanDeploy.Proofs.StateFile.Grammar
import SorobanDeploy.Proofs.StateFile.Loaded
import SorobanDeploy.Proofs.StateFile.Locality
import SorobanDeploy.Proofs.StateFile.Others
import SorobanDeploy.Proofs.StateFile.RoundTrip
import SorobanDeploy.Proofs.StateFile.Spellings
import SorobanDeploy.Proofs.StateFile.Store
import SorobanDeploy.Proofs.StateFile.Successive
import SorobanDeploy.Proofs.StateFile.Update
import SorobanDeploy.Proofs.StateFile.Value
import SorobanDeploy.Proofs.Text.Lines
import SorobanDeploy.Proofs.Text.Utf8
