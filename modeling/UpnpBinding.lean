import UpnpBinding.Text.Basic
import UpnpBinding.Text.Alnum
import UpnpBinding.Text.Identifier
import UpnpBinding.Text.Printable
import UpnpBinding.Text.Lower
import UpnpBinding.Text.Normalization.Tables
import UpnpBinding.Text.Normalization
import UpnpBinding.Codec.Page
import UpnpBinding.Codec.Pages
import UpnpBinding.Codec.Registry
import UpnpBinding.Number.Double
import UpnpBinding.Number.Shortest
import UpnpBinding.Number.Reading
import UpnpBinding.Url
import UpnpBinding.Value
import UpnpBinding.DataType
import UpnpBinding.DataType.Wire
import UpnpBinding.Name.SnakeCase
import UpnpBinding.Services
import UpnpBinding.Xml.Names
import UpnpBinding.Xml.Source
import UpnpBinding.Xml.Error
import UpnpBinding.Xml.Token
import UpnpBinding.Xml.Declaration
import UpnpBinding.Xml.Namespace
import UpnpBinding.Xml.Reader
import UpnpBinding.Scpd
import UpnpBinding.Scpd.Reader
import UpnpBinding.Record
import UpnpBinding.JsonValue
import UpnpBinding.Definition
import UpnpBinding.Definition.Reader
import UpnpBinding.Definition.Description
import UpnpBinding.Definition.ModuleSource
import UpnpBinding.Soap.Envelope
import UpnpBinding.Event.PropertySet
import UpnpBinding.CaselessDict
import UpnpBinding.Client.Request
import UpnpBinding.Client.Binding
import UpnpBinding.Client.EventRouter
import UpnpBinding.Client.Factory
import UpnpBinding.Cli.Spec
import UpnpBinding.Cli.Wrap
import UpnpBinding.Cli.Help
import UpnpBinding.Cli.Parse
import UpnpBinding.Cli.Files
import UpnpBinding.Cli.Commands
import UpnpBinding.Main
import UpnpBinding.Proofs.Call
import UpnpBinding.Proofs.Monadic
import UpnpBinding.Proofs.Normalization
import UpnpBinding.Proofs.Keyed
import UpnpBinding.Proofs.Synthesis
import UpnpBinding.Proofs.Event
import UpnpBinding.Proofs.Rounding
import UpnpBinding.Proofs.DoubleText
import UpnpBinding.Proofs.Utf8
import UpnpBinding.Proofs.XmlScan
import UpnpBinding.Proofs.XmlContent
import UpnpBinding.Proofs.Notification
import UpnpBinding.Proofs.Escaping
import UpnpBinding.Proofs.Response
import UpnpBinding.Proofs.SourceLines
import UpnpBinding.Proofs.WireText
import UpnpBinding.Proofs.EnvelopeRead
import UpnpBinding.Proofs.RequestRoundTrip
import UpnpBinding.Proofs.WireCodec
import UpnpBinding.Proofs.RequestChecks
import UpnpBinding.Client.FactoryRuns
import UpnpBinding.Proofs.FactoryCache
import UpnpBinding.Proofs.ConcurrentBindings
import UpnpBinding.Proofs.EventRoutes
import UpnpBinding.Proofs.MemberNames
import UpnpBinding.Proofs.ScpdGrammar
import UpnpBinding.Proofs.ScanShift
import UpnpBinding.Proofs.ScanBounds
import UpnpBinding.Proofs.ReadShift
import UpnpBinding.Proofs.ScanPrefix
import UpnpBinding.Proofs.PrologWalk
import UpnpBinding.Proofs.EntityValues
import UpnpBinding.Proofs.EntityExpansion
import UpnpBinding.Proofs.DataTypeNames
import UpnpBinding.Proofs.CaselessRefinement
import UpnpBinding.Proofs.LenientDecoding
import UpnpBinding.Proofs.EnvelopeCodec
import UpnpBinding.Proofs.OddByte
import UpnpBinding.Proofs.Utf16Trim
