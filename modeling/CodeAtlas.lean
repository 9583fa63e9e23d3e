import CodeAtlas.Text.Ranges
import CodeAtlas.Text.Blank
import CodeAtlas.Text.Digits
import CodeAtlas.Text.Printable
import CodeAtlas.Text.Lower
import CodeAtlas.Numeral.Double
import CodeAtlas.Numeral.Shortest
import CodeAtlas.Numeral.Reading
import CodeAtlas.Json.Basic
import CodeAtlas.Json.Printer
import CodeAtlas.Json.Piece
import CodeAtlas.Json.Reader
import CodeAtlas.Text.Quoted
import CodeAtlas.Text.Utf8
import CodeAtlas.Json.Display
import CodeAtlas.Path.Basic
import CodeAtlas.FileSystem
import CodeAtlas.Numeral.Scalar
import CodeAtlas.Tally
import CodeAtlas.Similarity
import CodeAtlas.CallSites
import CodeAtlas.Vocabulary
import CodeAtlas.Entity.Basic
import CodeAtlas.Entity.Record
import CodeAtlas.Filters
import CodeAtlas.Settings
import CodeAtlas.Configuration.Field
import CodeAtlas.Configuration.Reading
import CodeAtlas.Fault
import CodeAtlas.Catalog
import CodeAtlas.Graph.Node
import CodeAtlas.Graph.Draft
import CodeAtlas.Graph.Edge
import CodeAtlas.Graph.Tags
import CodeAtlas.Community.Basic
import CodeAtlas.Community.Components
import CodeAtlas.Community.Detection
import CodeAtlas.Graph.Basic
import CodeAtlas.ImportTarget
import CodeAtlas.Build.State
import CodeAtlas.Build.Nodes
import CodeAtlas.Build.Relations
import CodeAtlas.Build.Intake
import CodeAtlas.Build.Builder
import CodeAtlas.View.Legacy
import CodeAtlas.View.Summary
import CodeAtlas.Json.Access
import CodeAtlas.Store.Basic
import CodeAtlas.Store.Queries
import CodeAtlas.CommandLine.Word
import CodeAtlas.CommandLine.Request
import CodeAtlas.CommandLine.Log
import CodeAtlas.CommandLine.Run
import CodeAtlas.CommandLine.Moment
import CodeAtlas.Main
import CodeAtlas.Proofs.Components
import CodeAtlas.Proofs.Path
import CodeAtlas.Proofs.Build
import CodeAtlas.Proofs.Communities
import CodeAtlas.Proofs.Containers
import CodeAtlas.Proofs.Containment
import CodeAtlas.Proofs.LegacyView
import CodeAtlas.Proofs.Connectivity
import CodeAtlas.Proofs.Stages
import CodeAtlas.Proofs.Isolation
import CodeAtlas.Proofs.Calls
import CodeAtlas.Proofs.Consistency
import CodeAtlas.Proofs.Imports
import CodeAtlas.Proofs.Similar
import CodeAtlas.Proofs.Files
import CodeAtlas.Proofs.Store
import CodeAtlas.Proofs.Ids
import CodeAtlas.Proofs.Directories
import CodeAtlas.Proofs.Saving
import CodeAtlas.Proofs.EntityIds
import CodeAtlas.Proofs.EdgeIds
import CodeAtlas.Proofs.Exits
import CodeAtlas.Proofs.Register
import CodeAtlas.Proofs.Limit
import CodeAtlas.Proofs.Rederivation
import CodeAtlas.Proofs.Order
import CodeAtlas.Proofs.LeastWeight
import CodeAtlas.Proofs.FileNodes
import CodeAtlas.Proofs.OneCommunity
import CodeAtlas.Proofs.Uncounted
import CodeAtlas.Proofs.Repetition
import CodeAtlas.Proofs.Likeness
import CodeAtlas.Proofs.Growth
import CodeAtlas.Proofs.Permutation
import CodeAtlas.Proofs.NodeSet
import CodeAtlas.Proofs.EditDistance
import CodeAtlas.Proofs.Scores
import CodeAtlas.Proofs.Weights
import CodeAtlas.Proofs.CallSites
import CodeAtlas.Proofs.Confinement
import CodeAtlas.Proofs.Records
import CodeAtlas.Proofs.Rereading
import CodeAtlas.Proofs.Counting
import CodeAtlas.Proofs.DirectoryCommunities
import CodeAtlas.Proofs.Keys
import CodeAtlas.Proofs.Figures
import CodeAtlas.Proofs.EntityCounts
import CodeAtlas.Proofs.Search
import CodeAtlas.Proofs.Appending
import CodeAtlas.Proofs.Neighbours
import CodeAtlas.Proofs.Manifest
import CodeAtlas.Proofs.PathAgreement
