import SplitHorizon.Address.Ip
import SplitHorizon.Address.Ipv4
import SplitHorizon.Address.Ipv6
import SplitHorizon.Address.Socket
import SplitHorizon.AliasChain
import SplitHorizon.Answers.Document
import SplitHorizon.Answers.File
import SplitHorizon.Answers.Load
import SplitHorizon.Answers.Store
import SplitHorizon.Answers.Tier
import SplitHorizon.ClientKey
import SplitHorizon.CommandLine.Basic
import SplitHorizon.CommandLine.Reader
import SplitHorizon.CommandLine.Text
import SplitHorizon.Fault
import SplitHorizon.Fqdn
import SplitHorizon.Idna.BidiTable
import SplitHorizon.Idna.CombiningTable
import SplitHorizon.Idna.Composition
import SplitHorizon.Idna.CompositionTable
import SplitHorizon.Idna.Direction
import SplitHorizon.Idna.Domain
import SplitHorizon.Idna.Joiner
import SplitHorizon.Idna.JoiningTable
import SplitHorizon.Idna.Mapping
import SplitHorizon.Idna.MappingTable
import SplitHorizon.Idna.MarkTable
import SplitHorizon.Idna.Punycode
import SplitHorizon.Json.Basic
import SplitHorizon.Json.Reader
import SplitHorizon.Log.Directive
import SplitHorizon.Log.Event
import SplitHorizon.Log.Filter
import SplitHorizon.Log.Level
import SplitHorizon.Log.Line
import SplitHorizon.Log.Pattern
import SplitHorizon.Main
import SplitHorizon.Proofs.Address.Reading
import SplitHorizon.Proofs.Address.Sockets
import SplitHorizon.Proofs.Address.Written
import SplitHorizon.Proofs.Answers.Dialects
import SplitHorizon.Proofs.Answers.Duplicates
import SplitHorizon.Proofs.Answers.Exactness
import SplitHorizon.Proofs.Answers.Loading
import SplitHorizon.Proofs.Answers.Reordering
import SplitHorizon.Proofs.Idna.Ascii
import SplitHorizon.Proofs.NormalNames
import SplitHorizon.Proofs.Numerals
import SplitHorizon.Proofs.Resolution.Budget
import SplitHorizon.Proofs.Resolution.Cycles
import SplitHorizon.Proofs.Resolution.Direct
import SplitHorizon.Proofs.Resolution.Draws
import SplitHorizon.Proofs.Resolution.Imitation
import SplitHorizon.Proofs.Resolution.Provenance
import SplitHorizon.Proofs.Resolution.Unwinding
import SplitHorizon.Proofs.Resolver.Echoes
import SplitHorizon.Proofs.Resolver.Entries
import SplitHorizon.Proofs.Resolver.Failover
import SplitHorizon.Proofs.Resolver.Genuine
import SplitHorizon.Proofs.Resolver.ReadBack
import SplitHorizon.Proofs.SameNames
import SplitHorizon.Proofs.Server.Agreement
import SplitHorizon.Proofs.Server.ClientKeys
import SplitHorizon.Proofs.Server.Datagrams
import SplitHorizon.Proofs.Server.Fallback
import SplitHorizon.Proofs.Server.Generations
import SplitHorizon.Proofs.Server.Isolation
import SplitHorizon.Proofs.Server.LetterCase
import SplitHorizon.Proofs.Server.Serving
import SplitHorizon.Proofs.Shuffle.Uniform
import SplitHorizon.Proofs.Startup.Listening
import SplitHorizon.Proofs.Wire.Behind
import SplitHorizon.Proofs.Wire.CaseVariants
import SplitHorizon.Proofs.Wire.Escapes
import SplitHorizon.Proofs.Wire.Framing
import SplitHorizon.Proofs.Wire.Header
import SplitHorizon.Proofs.Wire.LetterCase
import SplitHorizon.Proofs.Wire.LoweredNames
import SplitHorizon.Proofs.Wire.Names
import SplitHorizon.Proofs.Wire.PlainNames
import SplitHorizon.Proofs.Wire.QuestionSection
import SplitHorizon.Proofs.Wire.Reading
import SplitHorizon.Proofs.Wire.RoundTrip
import SplitHorizon.Proofs.Wire.Sections
import SplitHorizon.Proofs.Wire.Spelling
import SplitHorizon.Record
import SplitHorizon.Resolution.Delegate
import SplitHorizon.Resolution.Engine
import SplitHorizon.Resolver.Address
import SplitHorizon.Resolver.Exchange
import SplitHorizon.Resolver.Network
import SplitHorizon.Resolver.Query
import SplitHorizon.Resolver.Reply
import SplitHorizon.Server.Datagram
import SplitHorizon.Server.Question
import SplitHorizon.Server.Reply
import SplitHorizon.Server.Service
import SplitHorizon.Server.Session
import SplitHorizon.Server.Stream
import SplitHorizon.Settings.Basic
import SplitHorizon.Settings.Document
import SplitHorizon.Settings.Fault
import SplitHorizon.Settings.File
import SplitHorizon.Settings.Listen
import SplitHorizon.Settings.Overrides
import SplitHorizon.Settings.Validation
import SplitHorizon.Shuffle.Order
import SplitHorizon.Shuffle.Seeded
import SplitHorizon.Shuffle.Source
import SplitHorizon.Startup.Basic
import SplitHorizon.Startup.Event
import SplitHorizon.Text.Alphanumeric
import SplitHorizon.Text.Blank
import SplitHorizon.Text.Case
import SplitHorizon.Text.CodePointTable
import SplitHorizon.Text.LetterTable
import SplitHorizon.Text.NumberTable
import SplitHorizon.Text.Numeral
import SplitHorizon.Text.Quoted
import SplitHorizon.Text.Utf8
import SplitHorizon.Toml.Basic
import SplitHorizon.Toml.Quoted
import SplitHorizon.Toml.Reader
import SplitHorizon.Toml.Scalar
import SplitHorizon.Toml.Table
import SplitHorizon.Wire.Cursor
import SplitHorizon.Wire.Data
import SplitHorizon.Wire.Decoder
import SplitHorizon.Wire.Encoder
import SplitHorizon.Wire.Frame
import SplitHorizon.Wire.Header
import SplitHorizon.Wire.Message
import SplitHorizon.Wire.Name
import SplitHorizon.Wire.NameCase
import SplitHorizon.Wire.NameReader
import SplitHorizon.Wire.NameText
import SplitHorizon.Wire.NameWriter
import SplitHorizon.Wire.Records
