import DeploySync.BlobKey
import DeploySync.Bucket.Call
import DeploySync.Bucket.Connect
import DeploySync.Bucket.Directory
import DeploySync.Bucket.Memory
import DeploySync.Bucket.Objects
import DeploySync.Bytes
import DeploySync.Cli.Command
import DeploySync.Decimal.Double
import DeploySync.Decimal.Shortest
import DeploySync.Decimal.Text
import DeploySync.Document
import DeploySync.Error
import DeploySync.Files.Basic
import DeploySync.Files.Call
import DeploySync.Files.Changes
import DeploySync.Files.Entry
import DeploySync.Html.Anchors
import DeploySync.Html.Construction
import DeploySync.Html.Element
import DeploySync.Html.Entity
import DeploySync.Html.Reference
import DeploySync.Html.Tag
import DeploySync.Html.Token
import DeploySync.Http.Exchange
import DeploySync.Http.Page
import DeploySync.Http.Sending
import DeploySync.Http.Status
import DeploySync.Json.Error
import DeploySync.Json.Members
import DeploySync.Json.Texts
import DeploySync.Json.Value
import DeploySync.Literal
import DeploySync.Main
import DeploySync.Metadata
import DeploySync.OsError
import DeploySync.Path
import DeploySync.Plan
import DeploySync.Proofs.BlobKey
import DeploySync.Proofs.BlobKey.Collisions
import DeploySync.Proofs.BlobKey.Joining
import DeploySync.Proofs.Bucket.Containment
import DeploySync.Proofs.Bucket.Credentials
import DeploySync.Proofs.Bucket.Directory
import DeploySync.Proofs.Bucket.Exchange
import DeploySync.Proofs.Bucket.Isolation
import DeploySync.Proofs.Bucket.Keys
import DeploySync.Proofs.Bucket.Marker
import DeploySync.Proofs.Bucket.Memory
import DeploySync.Proofs.Bucket.Objects
import DeploySync.Proofs.Bucket.Outage
import DeploySync.Proofs.Bucket.Refinement
import DeploySync.Proofs.Bucket.Rewriting
import DeploySync.Proofs.Bucket.Serving
import DeploySync.Proofs.Bytes
import DeploySync.Proofs.Cli.Command
import DeploySync.Proofs.Decimal.Rounding
import DeploySync.Proofs.Decimal.Shortest
import DeploySync.Proofs.Document
import DeploySync.Proofs.Document.Lookup
import DeploySync.Proofs.Document.Tags
import DeploySync.Proofs.Files.Directories
import DeploySync.Proofs.Files.Tree
import DeploySync.Proofs.Files.Writing
import DeploySync.Proofs.Http.Page
import DeploySync.Proofs.Json.Document
import DeploySync.Proofs.Json.Reading
import DeploySync.Proofs.Literal
import DeploySync.Proofs.Literal.Decoding
import DeploySync.Proofs.Metadata
import DeploySync.Proofs.Path
import DeploySync.Proofs.Path.Components
import DeploySync.Proofs.Path.Parent
import DeploySync.Proofs.Plan
import DeploySync.Proofs.Properties
import DeploySync.Proofs.Properties.Insertion
import DeploySync.Proofs.Release.Fetching
import DeploySync.Proofs.Release.Listing
import DeploySync.Proofs.Settings.Display
import DeploySync.Proofs.Settings.EnvFile
import DeploySync.Proofs.Settings.Layers
import DeploySync.Proofs.Sync.Assignments
import DeploySync.Proofs.Sync.Concurrency
import DeploySync.Proofs.Sync.Confinement
import DeploySync.Proofs.Sync.Course
import DeploySync.Proofs.Sync.Download
import DeploySync.Proofs.Sync.Environment
import DeploySync.Proofs.Sync.Export
import DeploySync.Proofs.Sync.Fetch
import DeploySync.Proofs.Sync.History
import DeploySync.Proofs.Sync.Operations
import DeploySync.Proofs.Sync.Outage
import DeploySync.Proofs.Sync.Processes
import DeploySync.Proofs.Sync.Protocol
import DeploySync.Proofs.Sync.Rejection
import DeploySync.Proofs.Sync.Requests
import DeploySync.Proofs.Sync.Rerun
import DeploySync.Proofs.Sync.RoundTrip
import DeploySync.Proofs.Sync.Upload
import DeploySync.Proofs.Text.Hex
import DeploySync.Proofs.Text.Trimming
import DeploySync.Proofs.Tool.Action
import DeploySync.Proofs.Url.Extending
import DeploySync.Proofs.Url.Percent
import DeploySync.Proofs.World
import DeploySync.Proofs.Yaml.Block
import DeploySync.Proofs.Yaml.Content
import DeploySync.Proofs.Yaml.Double
import DeploySync.Proofs.Yaml.Entry
import DeploySync.Proofs.Yaml.Equality
import DeploySync.Proofs.Yaml.Gap
import DeploySync.Proofs.Yaml.Mapping
import DeploySync.Proofs.Yaml.Number
import DeploySync.Proofs.Yaml.Plain
import DeploySync.Proofs.Yaml.Quoted
import DeploySync.Proofs.Yaml.Scalar
import DeploySync.Proofs.Yaml.Stream
import DeploySync.Proofs.Yaml.Writable
import DeploySync.Properties
import DeploySync.Provisioning
import DeploySync.Release.Listing
import DeploySync.Release.Query
import DeploySync.Settings.Basic
import DeploySync.Settings.EnvFile
import DeploySync.Settings.Environment
import DeploySync.Settings.Error
import DeploySync.Settings.Layers
import DeploySync.Settings.Location
import DeploySync.Settings.Setting
import DeploySync.StorageClass
import DeploySync.Sync.Blob
import DeploySync.Sync.Call
import DeploySync.Sync.CommonVars
import DeploySync.Sync.Export
import DeploySync.Sync.Metadata
import DeploySync.Table
import DeploySync.Text.Alphanumeric
import DeploySync.Text.Blank
import DeploySync.Text.Printable
import DeploySync.Text.Quoted
import DeploySync.Text.Split
import DeploySync.Text.Utf8
import DeploySync.Tool.Arguments
import DeploySync.Tool.Machine
import DeploySync.Tool.Run
import DeploySync.Url.Basic
import DeploySync.Url.Domain
import DeploySync.Url.Host
import DeploySync.Url.Percent
import DeploySync.Url.Punycode
import DeploySync.World
import DeploySync.Yaml.Char
import DeploySync.Yaml.Error
import DeploySync.Yaml.Layout
import DeploySync.Yaml.Layout.Scalar
import DeploySync.Yaml.Node
import DeploySync.Yaml.Number
import DeploySync.Yaml.Read
import DeploySync.Yaml.Token
import DeploySync.Yaml.Token.Name
import DeploySync.Yaml.Token.Scalar
import DeploySync.Yaml.Token.Stream
import DeploySync.Yaml.Value
