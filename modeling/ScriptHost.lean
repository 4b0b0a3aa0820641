import ScriptHost.Args
import ScriptHost.Builtins.ByteStrings
import ScriptHost.Builtins.Console
import ScriptHost.Builtins.Dicts
import ScriptHost.Builtins.Files
import ScriptHost.Builtins.Http
import ScriptHost.Builtins.Introspection
import ScriptHost.Builtins.Lists
import ScriptHost.Builtins.Optionals
import ScriptHost.Builtins.Sockets
import ScriptHost.Builtins.Standard
import ScriptHost.Builtins.Strings
import ScriptHost.Builtins.Time
import ScriptHost.Builtins.Waiting
import ScriptHost.CommandLine
import ScriptHost.Config.Basic
import ScriptHost.Config.Search
import ScriptHost.Config.Text
import ScriptHost.Console
import ScriptHost.Disk.OpenFile
import ScriptHost.Disk.OpenMode
import ScriptHost.Disk.Path
import ScriptHost.Disk.Tree
import ScriptHost.Domain.Direction
import ScriptHost.Domain.Joining
import ScriptHost.Domain.Mapping
import ScriptHost.Domain.MappingTables
import ScriptHost.Domain.Name
import ScriptHost.Domain.PropertyTables
import ScriptHost.Domain.Punycode
import ScriptHost.Error.Builtin
import ScriptHost.Error.Host
import ScriptHost.Error.Io
import ScriptHost.Handle
import ScriptHost.Http.Body
import ScriptHost.Http.Exchange
import ScriptHost.Http.Fault
import ScriptHost.Http.Header
import ScriptHost.Http.Patience
import ScriptHost.Http.Request
import ScriptHost.Http.Response
import ScriptHost.Http.Source
import ScriptHost.Http.Url.Authority
import ScriptHost.Http.Url.Basic
import ScriptHost.Http.Url.Host
import ScriptHost.Http.Url.Path
import ScriptHost.Http.Url.Reader
import ScriptHost.Http.Version
import ScriptHost.Json.Basic
import ScriptHost.Json.Fields
import ScriptHost.Json.Printer
import ScriptHost.Json.Reader
import ScriptHost.Json.Token
import ScriptHost.Kind
import ScriptHost.Main
import ScriptHost.Network.Address
import ScriptHost.Network.Loopback
import ScriptHost.Number.Binary64
import ScriptHost.Number.Count
import ScriptHost.Number.Range
import ScriptHost.Number.Shortest
import ScriptHost.Proofs.Http.Lines
import ScriptHost.Proofs.Map.Entries
import ScriptHost.Proofs.Number.Numeral
import ScriptHost.Proofs.Text.Cutting
import ScriptHost.Proofs.Text.Encoding
import ScriptHost.Registry
import ScriptHost.Registry.Json
import ScriptHost.Resource.Pool
import ScriptHost.Resource.Table
import ScriptHost.Service.Files
import ScriptHost.Service.Http
import ScriptHost.Service.Sockets
import ScriptHost.Signature
import ScriptHost.Signature.Json
import ScriptHost.SortedMap
import ScriptHost.Text.Ascii
import ScriptHost.Text.Blank
import ScriptHost.Text.Case
import ScriptHost.Text.CaseTables
import ScriptHost.Text.CodeTable
import ScriptHost.Text.Composition
import ScriptHost.Text.CompositionTables
import ScriptHost.Text.Split
import ScriptHost.Text.Utf8
import ScriptHost.Toml.Basic
import ScriptHost.Toml.Document
import ScriptHost.Toml.Quoted
import ScriptHost.Toml.Statement
import ScriptHost.Toml.Word
import ScriptHost.TypeDesc
import ScriptHost.TypeDesc.Json
import ScriptHost.Value.Basic
import ScriptHost.Value.Display
import ScriptHost.Value.Equality
import ScriptHost.Value.Heap
import ScriptHost.World
import ScriptHost.Proofs.Http.HeaderFields
import ScriptHost.Proofs.Http.RequestHead
import ScriptHost.Proofs.Http.LengthFraming
import ScriptHost.Proofs.Http.ChunkedFraming
import ScriptHost.Proofs.Http.ResponseFraming
import ScriptHost.Proofs.Resource.Tables
import ScriptHost.Proofs.Service.HttpCalls
import ScriptHost.Proofs.Service.HttpInvariant
import ScriptHost.Proofs.Service.HttpSafety
import ScriptHost.Proofs.Service.HttpOneResponse
import ScriptHost.Proofs.Service.HttpUndisturbed
import ScriptHost.Proofs.Registry.Indexes
import ScriptHost.Proofs.Action.Outcome
import ScriptHost.Proofs.Builtins.Calls
import ScriptHost.Proofs.Value.Conformance
import ScriptHost.Proofs.Builtins.Regular
import ScriptHost.Proofs.Builtins.Data
import ScriptHost.Proofs.Builtins.Waiting
import ScriptHost.Proofs.Builtins.Services
import ScriptHost.Proofs.Builtins.ResultTypes
import ScriptHost.Proofs.Builtins.FailedCalls
import ScriptHost.Proofs.Builtins.SharedDicts
import ScriptHost.Proofs.Http.RequestExtent
import ScriptHost.Proofs.Http.ResponseHead
import ScriptHost.Proofs.Builtins.ArgumentCheck
import ScriptHost.Proofs.Builtins.Arguments
import ScriptHost.Proofs.Resource.Interleaving
import ScriptHost.Proofs.Resource.Handles
import ScriptHost.Proofs.Http.ResponseLength
import ScriptHost.Proofs.Http.RequestPrefix
import ScriptHost.Proofs.Json.Tokens
import ScriptHost.Proofs.Json.Printing
import ScriptHost.Proofs.Json.Depth
import ScriptHost.Proofs.TypeDesc.RoundTrip
import ScriptHost.Proofs.Signature.RoundTrip
import ScriptHost.Proofs.Signature.Exchange
import ScriptHost.Proofs.Service.AcceptSteps
import ScriptHost.Proofs.Service.AcceptAfterClose
import ScriptHost.Proofs.Builtins.CallPaths
import ScriptHost.Proofs.Http.HeaderLookup
import ScriptHost.Proofs.Handle.Holdings
import ScriptHost.Proofs.Handle.Roles
import ScriptHost.Proofs.Handle.Lookups
import ScriptHost.Proofs.Handle.Playing
import ScriptHost.Proofs.Handle.ServiceCalls
import ScriptHost.Proofs.Handle.Lifetimes
import ScriptHost.Proofs.Value.Parts
import ScriptHost.Proofs.Value.References
import ScriptHost.Proofs.Value.EqualityLaws
import ScriptHost.Proofs.Builtins.SequentialCalls
import ScriptHost.Proofs.Service.LateRequests
import ScriptHost.Proofs.Toml.Quotes
import ScriptHost.Proofs.Toml.Paths
import ScriptHost.Proofs.Toml.Integers
import ScriptHost.Proofs.Toml.Lines
import ScriptHost.Proofs.Toml.PlainDocuments
import ScriptHost.Proofs.Config.Documents
import ScriptHost.Proofs.Text.WellFormed
import ScriptHost.Proofs.Text.DecodingFaults
import ScriptHost.Proofs.Builtins.TextConversion
import ScriptHost.Proofs.Text.Splitting
import ScriptHost.Proofs.Builtins.StringPieces
import ScriptHost.Proofs.Console.Segments
import ScriptHost.Proofs.Builtins.LineReading
import ScriptHost.Proofs.Disk.Walks
import ScriptHost.Proofs.Disk.Soundness
import ScriptHost.Proofs.Disk.Contents
import ScriptHost.Proofs.Builtins.FileCalls
import ScriptHost.Proofs.Builtins.FileContents
import ScriptHost.Proofs.Builtins.FileTrees
import ScriptHost.Proofs.Http.RequestLimits
import ScriptHost.Proofs.Registry.AnyOrder
import ScriptHost.Proofs.Config.Search
import ScriptHost.Proofs.Handle.Codec
import ScriptHost.Proofs.Registry.Conflicts
