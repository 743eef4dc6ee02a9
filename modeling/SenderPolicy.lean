import SenderPolicy.Address.Basic
import SenderPolicy.Address.Network
import SenderPolicy.Address.V4
import SenderPolicy.Address.V6
import SenderPolicy.Budget
import SenderPolicy.Checking
import SenderPolicy.CommandLine.Arguments
import SenderPolicy.CommandLine.Csv
import SenderPolicy.CommandLine.Disk
import SenderPolicy.CommandLine.Fatal
import SenderPolicy.CommandLine.Help
import SenderPolicy.CommandLine.Report
import SenderPolicy.CommandLine.Run
import SenderPolicy.CommandLine.Scan
import SenderPolicy.Dns.Cache
import SenderPolicy.Dns.Error
import SenderPolicy.Dns.Query
import SenderPolicy.Dns.Resolver
import SenderPolicy.Dns.Zone
import SenderPolicy.Domain.Mailbox
import SenderPolicy.Domain.Name
import SenderPolicy.Domain.Normal
import SenderPolicy.Evaluation.Basic
import SenderPolicy.Evaluation.Matching
import SenderPolicy.Evaluation.Names
import SenderPolicy.Evaluation.Request
import SenderPolicy.Evaluation.Session
import SenderPolicy.Evaluation.Targets
import SenderPolicy.Failure
import SenderPolicy.Idna.Basic
import SenderPolicy.Idna.Composition
import SenderPolicy.Idna.CompositionTable
import SenderPolicy.Idna.Direction
import SenderPolicy.Idna.DirectionTable
import SenderPolicy.Idna.Joining
import SenderPolicy.Idna.JoiningTable
import SenderPolicy.Idna.Mapping
import SenderPolicy.Idna.MappingTable
import SenderPolicy.Idna.Punycode
import SenderPolicy.Idna.Table
import SenderPolicy.Json.Basic
import SenderPolicy.Json.Decode
import SenderPolicy.Json.Parser
import SenderPolicy.Json.Printer
import SenderPolicy.Main
import SenderPolicy.Options.Basic
import SenderPolicy.Options.Data
import SenderPolicy.Outcome
import SenderPolicy.Policy.Basic
import SenderPolicy.Policy.Data
import SenderPolicy.Policy.Error
import SenderPolicy.Policy.Parser
import SenderPolicy.Policy.Printer
import SenderPolicy.Policy.Selection
import SenderPolicy.Proofs.AddressText
import SenderPolicy.Proofs.Agreement
import SenderPolicy.Proofs.Allowance
import SenderPolicy.Proofs.Correspondence
import SenderPolicy.Proofs.Course
import SenderPolicy.Proofs.Leniency
import SenderPolicy.Proofs.Limits
import SenderPolicy.Proofs.Nesting
import SenderPolicy.Proofs.Numerals
import SenderPolicy.Proofs.PolicyText
import SenderPolicy.Proofs.Reading
import SenderPolicy.Proofs.Spending
import SenderPolicy.Proofs.Targets
import SenderPolicy.Proofs.WellFormed
import SenderPolicy.Proofs.Words
import SenderPolicy.Sorting
import SenderPolicy.Template.Basic
import SenderPolicy.Template.Expansion
import SenderPolicy.Template.Parser
import SenderPolicy.Text.Basic
import SenderPolicy.Text.Blank
import SenderPolicy.Text.Bytes
import SenderPolicy.Text.Hex
import SenderPolicy.Text.Numeral
import SenderPolicy.Text.Percent
import SenderPolicy.Verdict
import SenderPolicy.Proofs.Templates
import SenderPolicy.Proofs.Confinement
import SenderPolicy.Proofs.Endings
import SenderPolicy.Proofs.Lockstep
import SenderPolicy.Proofs.Unfolding
import SenderPolicy.Proofs.Keeping
import SenderPolicy.Proofs.Explanations
import SenderPolicy.Proofs.ExplanationQueries
import SenderPolicy.Proofs.Indifference
import SenderPolicy.Proofs.Records
import SenderPolicy.Proofs.Sequences
import SenderPolicy.Proofs.NoPolicy
import SenderPolicy.Proofs.Outcomes
import SenderPolicy.Proofs.History
import SenderPolicy.Proofs.LetterCase
import SenderPolicy.Proofs.Spelling
import SenderPolicy.Proofs.FailedLevels
import SenderPolicy.Proofs.Redrafts
import SenderPolicy.Proofs.Receiver
import SenderPolicy.Proofs.TraceFields
import SenderPolicy.Proofs.NormalForm
import SenderPolicy.Proofs.Senders
import SenderPolicy.Proofs.Punycode
import SenderPolicy.Proofs.AsciiForm
import SenderPolicy.Proofs.NormalDomains
import SenderPolicy.Proofs.HeloIdentity
import SenderPolicy.Proofs.QueriedNames
import SenderPolicy.Proofs.Batches
import SenderPolicy.Proofs.Grammar
import SenderPolicy.Proofs.DerivedTemplates
import SenderPolicy.Proofs.TargetGrammar
import SenderPolicy.Proofs.WrittenTerms
import SenderPolicy.Proofs.NormalWords
import SenderPolicy.Proofs.Recognition
import SenderPolicy.Proofs.Scopes
import SenderPolicy.Proofs.NamesBelow
import SenderPolicy.Proofs.ReverseNames
import SenderPolicy.Proofs.PreferredNames
import SenderPolicy.Proofs.KeptEntries
import SenderPolicy.Proofs.ClockLimits
import SenderPolicy.Proofs.Networks
import SenderPolicy.Proofs.Transformers
import SenderPolicy.Proofs.Bytes
import SenderPolicy.Proofs.ComparedNames
import SenderPolicy.Proofs.Truncation
import SenderPolicy.Proofs.PercentEncoding
import SenderPolicy.Proofs.AddressLabels
