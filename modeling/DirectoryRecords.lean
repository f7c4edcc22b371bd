import DirectoryRecords.Binary64
import DirectoryRecords.Conditions.Basic
import DirectoryRecords.Conditions.Json
import DirectoryRecords.Directory.Basic
import DirectoryRecords.Dn.Basic
import DirectoryRecords.Dn.Escape
import DirectoryRecords.Entry
import DirectoryRecords.Error
import DirectoryRecords.FieldList
import DirectoryRecords.Filter.Basic
import DirectoryRecords.Filter.Escape
import DirectoryRecords.Filter.Reader
import DirectoryRecords.Json.Basic
import DirectoryRecords.Json.Fields
import DirectoryRecords.Json.Number
import DirectoryRecords.Json.Printer
import DirectoryRecords.Json.Reader
import DirectoryRecords.Ldap.Connection
import DirectoryRecords.Ldap.SearchEntry
import DirectoryRecords.Ldap.Settings
import DirectoryRecords.Ldap.Variables
import DirectoryRecords.Model.Basic
import DirectoryRecords.Model.Find
import DirectoryRecords.Model.Write
import DirectoryRecords.Normalize
import DirectoryRecords.OptionList
import DirectoryRecords.Pool
import DirectoryRecords.Proofs.AnswerOrder
import DirectoryRecords.Proofs.Answers
import DirectoryRecords.Proofs.Atomicity
import DirectoryRecords.Proofs.BothRelations
import DirectoryRecords.Proofs.CodeScan
import DirectoryRecords.Proofs.Codes
import DirectoryRecords.Proofs.ConditionSpellings
import DirectoryRecords.Proofs.ConnectionIdentity
import DirectoryRecords.Proofs.Correspondence
import DirectoryRecords.Proofs.Creation
import DirectoryRecords.Proofs.Cuts
import DirectoryRecords.Proofs.DecimalNumbers
import DirectoryRecords.Proofs.DefaultFields
import DirectoryRecords.Proofs.Derivations
import DirectoryRecords.Proofs.DistinctNames
import DirectoryRecords.Proofs.EncodedBytes
import DirectoryRecords.Proofs.EntryOrder
import DirectoryRecords.Proofs.EscapedNames
import DirectoryRecords.Proofs.FieldSpellings
import DirectoryRecords.Proofs.FindCreated
import DirectoryRecords.Proofs.Frames
import DirectoryRecords.Proofs.FreeText
import DirectoryRecords.Proofs.Gaps
import DirectoryRecords.Proofs.GivenNames
import DirectoryRecords.Proofs.Grammar
import DirectoryRecords.Proofs.GroupedNames
import DirectoryRecords.Proofs.Keywords
import DirectoryRecords.Proofs.LetterCase
import DirectoryRecords.Proofs.ListedOptions
import DirectoryRecords.Proofs.LowerCase
import DirectoryRecords.Proofs.MalformedBase
import DirectoryRecords.Proofs.Nesting
import DirectoryRecords.Proofs.NormalizedValues
import DirectoryRecords.Proofs.Operations
import DirectoryRecords.Proofs.OrderedLimit
import DirectoryRecords.Proofs.PairMeaning
import DirectoryRecords.Proofs.PatternSearch
import DirectoryRecords.Proofs.Projection
import DirectoryRecords.Proofs.PublishedSchemas
import DirectoryRecords.Proofs.QualifiedNames
import DirectoryRecords.Proofs.QueryRuns
import DirectoryRecords.Proofs.QuerySteps
import DirectoryRecords.Proofs.QueryTypes
import DirectoryRecords.Proofs.ReadBack
import DirectoryRecords.Proofs.Reading
import DirectoryRecords.Proofs.RebuiltNames
import DirectoryRecords.Proofs.RecordJson
import DirectoryRecords.Proofs.RelationEquality
import DirectoryRecords.Proofs.RelationLookup
import DirectoryRecords.Proofs.RelationOutcomes
import DirectoryRecords.Proofs.RelationProjection
import DirectoryRecords.Proofs.Replacement
import DirectoryRecords.Proofs.RestoredSettings
import DirectoryRecords.Proofs.Runs
import DirectoryRecords.Proofs.SchemaFetches
import DirectoryRecords.Proofs.SchemaGate
import DirectoryRecords.Proofs.SchemaRequests
import DirectoryRecords.Proofs.SchemaRuns
import DirectoryRecords.Proofs.SearchCase
import DirectoryRecords.Proofs.SearchEntries
import DirectoryRecords.Proofs.SettingsSources
import DirectoryRecords.Proofs.ShapedKeys
import DirectoryRecords.Proofs.TypeDescriptions
import DirectoryRecords.Proofs.WrittenJson
import DirectoryRecords.Proofs.WrittenValues
import DirectoryRecords.Query
import DirectoryRecords.Record
import DirectoryRecords.Relation.Basic
import DirectoryRecords.Relation.Lookup
import DirectoryRecords.Schema.AttributeType
import DirectoryRecords.Schema.Basic
import DirectoryRecords.Schema.Cache
import DirectoryRecords.Session
import DirectoryRecords.Text.AsciiCase
import DirectoryRecords.Text.Base64
import DirectoryRecords.Text.Basic
import DirectoryRecords.Text.Blank
import DirectoryRecords.Text.Case
import DirectoryRecords.Text.CaseRange
import DirectoryRecords.Text.Decimal
import DirectoryRecords.Text.Quoted
import DirectoryRecords.Text.Unprintable
import DirectoryRecords.TextMap
import DirectoryRecords.Value
