import Structural.Session
import Structural.Samples.Sources
import Structural.Config.Environment
import Structural.Config.Reading
import Structural.Toml.Document
import Structural.Demo.Request
import Structural.Main
import Structural.Publish.Block
import Structural.Proofs.Blueprint.Slots
import Structural.Proofs.Cache.Contents
import Structural.Proofs.Cache.Recency
import Structural.Proofs.Cache.Lru
import Structural.Proofs.Cache.Distance
import Structural.Proofs.Registry.Run
import Structural.Proofs.Registry.Origin
import Structural.Proofs.Registry.Transparency
import Structural.Proofs.Resolution.PlainScan
import Structural.Proofs.Registry.Minting
import Structural.Proofs.Adapter.Calls
import Structural.Proofs.Registry.Binding
import Structural.Proofs.Registry.Conformance
import Structural.Proofs.Registry.Requests
import Structural.Proofs.Registry.Ids
import Structural.Proofs.Registry.Ledger
import Structural.Proofs.Registry.Sharing
import Structural.Proofs.Registry.Capacity
import Structural.Proofs.Cache.Displaced
import Structural.Proofs.Registry.Failures
import Structural.Proofs.Process.Run
import Structural.Proofs.Process.Isolation
import Structural.Proofs.Adapter.Facades
import Structural.Proofs.Process.Ids
import Structural.Proofs.Publish.Clauses
import Structural.Proofs.Publish.Words
import Structural.Proofs.Publish.Options
import Structural.Proofs.Publish.Contributions
import Structural.Proofs.Publish.Home
import Structural.Proofs.Publish.Declared
import Structural.Proofs.Publish.Wrapping
import Structural.Proofs.Adapter.Refusals
import Structural.Proofs.Adapter.SharedShapes
import Structural.Proofs.Registry.Policies
import Structural.Proofs.Resolution.Registration
import Structural.Proofs.Interface.Padding
import Structural.Proofs.Registry.Clashes
import Structural.Proofs.Publish.Borrowing
import Structural.Proofs.Demo.Operations
import Structural.Proofs.Demo.Answers
import Structural.Proofs.Text.Numeral
import Structural.Proofs.Config.Variables
import Structural.Proofs.Text.Separator
import Structural.Proofs.Text.Octets
import Structural.Proofs.Text.Brackets
import Structural.Proofs.Text.TypeName
import Structural.Proofs.Text.LastPath
import Structural.Proofs.Signature.Rendering
