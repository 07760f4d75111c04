import Issuer.Attribute
import Issuer.Binary64
import Issuer.Command
import Issuer.CommandLine.Environment
import Issuer.CommandLine.Flag
import Issuer.CommandLine.Help
import Issuer.CommandLine.KeyLines
import Issuer.CommandLine.Reading
import Issuer.CommandLine.Refusal
import Issuer.CommandLine.Selection
import Issuer.CommandLine.Source
import Issuer.Conversion
import Issuer.Database.Backend
import Issuer.Database.Migration
import Issuer.Database.Script
import Issuer.Database.Url
import Issuer.Disk
import Issuer.Fault
import Issuer.Fault.Signature
import Issuer.Ini
import Issuer.Inspection
import Issuer.Json.Basic
import Issuer.Json.Compare
import Issuer.Json.Display
import Issuer.Json.Read
import Issuer.Json.Write
import Issuer.Keccak
import Issuer.Literal
import Issuer.Loader
import Issuer.Log.Configure
import Issuer.Log.Event
import Issuer.Log.Format
import Issuer.Log.Handler
import Issuer.Log.Logging
import Issuer.Log.Setup.Expression
import Issuer.Log.Setup.Mapping
import Issuer.Log.Setup.Sections
import Issuer.Machine
import Issuer.Main
import Issuer.Packaged
import Issuer.Pattern.Basic
import Issuer.Pattern.Extent
import Issuer.Pattern.Problem
import Issuer.Pattern.Reader
import Issuer.Program
import Issuer.Record
import Issuer.Record.Declaration
import Issuer.Resource
import Issuer.Schema.Dialect
import Issuer.Schema.Document
import Issuer.Schema.Load
import Issuer.Schema.Rule
import Issuer.SchemaHash
import Issuer.Settings
import Issuer.Text.Basic
import Issuer.Text.Blank
import Issuer.Text.CharacterName
import Issuer.Text.Encoding
import Issuer.Text.Letter
import Issuer.Text.Quoted
import Issuer.Text.UpperCase
import Issuer.Transfer
import Issuer.Url.Address
import Issuer.Url.Basic
import Issuer.Yaml.Basic
import Issuer.Yaml.Moment
import Issuer.Yaml.Node
import Issuer.Yaml.Plain
import Issuer.Yaml.Read
import Issuer.Yaml.Token
import Issuer.Yaml.Token.Lexer
import Issuer.Yaml.Token.Scalar
import Issuer.Yaml.Token.Scan
import Issuer.Proofs.Conversion.Pending
import Issuer.Proofs.Conversion.Run
import Issuer.Proofs.Conversion.Matching
import Issuer.Proofs.Schema.Attributes
import Issuer.Proofs.Database.Course
import Issuer.Proofs.Schema.LeftOver
import Issuer.Proofs.Database.Protocol
import Issuer.Proofs.Database.Ending
import Issuer.Proofs.Database.History
import Issuer.Proofs.Database.Report
import Issuer.Proofs.Members
import Issuer.Proofs.Schema.Entry
import Issuer.Proofs.Text.Order
import Issuer.Proofs.Conversion.Order
import Issuer.Proofs.Record
import Issuer.Proofs.Schema.Agreement
import Issuer.Proofs.Schema.Load
import Issuer.Proofs.Loader
import Issuer.Proofs.Inspection.Course
import Issuer.Proofs.Inspection.Escape
import Issuer.Proofs.Except
import Issuer.Proofs.Json.Keys
import Issuer.Proofs.Schema.Level
import Issuer.Proofs.Schema.Conversion
import Issuer.Proofs.Schema.Rule
import Issuer.Proofs.Schema.Shape
import Issuer.Proofs.Schema.Flaw
import Issuer.Proofs.Database.Secrecy
import Issuer.Proofs.Text.Cut
import Issuer.Proofs.Url.Authority
import Issuer.Proofs.Url.Sanity
import Issuer.Proofs.Url.Extension
import Issuer.Proofs.Loader.Requests
import Issuer.Proofs.Inspection.Supplied
import Issuer.Proofs.Inspection.Report
import Issuer.Proofs.CommandLine.Selection
import Issuer.Proofs.CommandLine.Choice
import Issuer.Proofs.Program.Cause
import Issuer.Proofs.Program.Reach
import Issuer.Proofs.Text.Encoding
import Issuer.Proofs.Text.Decimal
import Issuer.Proofs.Json.Encoding
import Issuer.Proofs.Json.Token
import Issuer.Proofs.Json.Written
import Issuer.Proofs.Json.Ascii
import Issuer.Proofs.Schema.Transcript
import Issuer.Proofs.Schema.Extraction
import Issuer.Proofs.Url.Rewriting
import Issuer.Proofs.Database.Target
import Issuer.Proofs.Database.Dialect
import Issuer.Proofs.Text.Hexadecimal
import Issuer.Proofs.Literal
import Issuer.Proofs.Conversion.Value
import Issuer.Proofs.SchemaHash
import Issuer.Proofs.Schema.Hash
import Issuer.Proofs.Record.Faithful
import Issuer.Proofs.Attribute
import Issuer.Proofs.CommandLine.Attribute
import Issuer.Proofs.Program.Output
import Issuer.Proofs.Text.Blank
import Issuer.Proofs.Fault
import Issuer.Proofs.Schema.Lookup
