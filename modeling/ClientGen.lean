import ClientGen.Calendar
import ClientGen.CommandLine.Arguments
import ClientGen.CommandLine.Message
import ClientGen.CommandLine.Reach
import ClientGen.CommandLine.Request
import ClientGen.CommandLine.Run
import ClientGen.CommandLine.Similar
import ClientGen.CommandLine.Usage
import ClientGen.Decimal.Binary64
import ClientGen.Decimal.Shortest
import ClientGen.Definition
import ClientGen.Disk
import ClientGen.Document
import ClientGen.Enumeration
import ClientGen.Failure
import ClientGen.Fault
import ClientGen.Generate
import ClientGen.Identifier
import ClientGen.Json.Reader
import ClientGen.Json.Writer
import ClientGen.Log
import ClientGen.Main
import ClientGen.Method
import ClientGen.MethodName
import ClientGen.Parameter
import ClientGen.Path
import ClientGen.Property
import ClientGen.Response
import ClientGen.Schema
import ClientGen.Service
import ClientGen.Session
import ClientGen.Settings
import ClientGen.Source
import ClientGen.Template
import ClientGen.Text.Blank
import ClientGen.Text.Case
import ClientGen.Text.CaseTable
import ClientGen.Text.Digit
import ClientGen.Text.Lines
import ClientGen.Text.PrintableTable
import ClientGen.Text.Quoted
import ClientGen.Trace
import ClientGen.TypeScript.Barrel
import ClientGen.TypeScript.EnumDecl
import ClientGen.TypeScript.ModelFile
import ClientGen.TypeScript.ServiceFile
import ClientGen.UrlTemplate
import ClientGen.Value.Basic
import ClientGen.Value.Text
import ClientGen.Yaml.Character
import ClientGen.Yaml.Cursor
import ClientGen.Yaml.Document
import ClientGen.Yaml.Lexer
import ClientGen.Yaml.Node
import ClientGen.Yaml.Scalar
import ClientGen.Yaml.Scan
import ClientGen.Yaml.Token
import ClientGen.Proofs.EnumTable
import ClientGen.Proofs.Operation
import ClientGen.Proofs.Definition
import ClientGen.Proofs.Parameter
import ClientGen.Proofs.Service
import ClientGen.Proofs.ServiceEnums
import ClientGen.Proofs.ProxyHeader
import ClientGen.Proofs.Case
import ClientGen.Proofs.Identifier
import ClientGen.Proofs.Reference
import ClientGen.Proofs.ModelImports
import ClientGen.Proofs.ServiceTypes
import ClientGen.Proofs.Session
import ClientGen.Proofs.ServiceFaults
import ClientGen.Proofs.Disk
import ClientGen.Proofs.DiskEntries
import ClientGen.Proofs.Locality
import ClientGen.Proofs.LastName
import ClientGen.Proofs.Generation
import ClientGen.Proofs.IntroducedNames
import ClientGen.Proofs.SpelledKeys
import ClientGen.Proofs.Message
import ClientGen.Proofs.Stages
import ClientGen.Proofs.DebugSetting
import ClientGen.Proofs.Capitals
import ClientGen.Proofs.Spelling
import ClientGen.Proofs.Containment
import ClientGen.Proofs.TypeNames
import ClientGen.Proofs.Verb
import ClientGen.Proofs.PathSpelling
import ClientGen.Proofs.MethodNames
import ClientGen.Proofs.LongInteger
import ClientGen.Proofs.LoadOutcome
import ClientGen.Proofs.Literal
import ClientGen.Proofs.Rendering
import ClientGen.Proofs.Token
import ClientGen.Proofs.QuotedNames
import ClientGen.Proofs.OutputTypes
import ClientGen.Proofs.ValueText
import ClientGen.Proofs.TypeAgreement
import ClientGen.Proofs.DefinitionRecord
import ClientGen.Proofs.ImportTargets
import ClientGen.Proofs.MethodWords
import ClientGen.Proofs.PathSlots
import ClientGen.Proofs.Signature
import ClientGen.Proofs.ReferencedKeys
import ClientGen.Proofs.MethodIdentifier
import ClientGen.Proofs.Transmission
import ClientGen.Proofs.ArgumentNames
import ClientGen.Proofs.VerbCall
import ClientGen.Proofs.JsonRoundTrip
import ClientGen.Proofs.ModelScope
import ClientGen.Proofs.ParameterList
import ClientGen.Proofs.SingletonDefault
import ClientGen.Proofs.TableInHand
