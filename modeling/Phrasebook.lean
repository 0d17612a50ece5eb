import Phrasebook.Argument
import Phrasebook.Base64
import Phrasebook.Binary64
import Phrasebook.Calendar
import Phrasebook.Call.Basic
import Phrasebook.Call.Report
import Phrasebook.Call.Signature
import Phrasebook.Call.Translations
import Phrasebook.Call.Validation
import Phrasebook.Crc32
import Phrasebook.Decimal.Lax
import Phrasebook.Decimal.Notation
import Phrasebook.Decimal.Reading
import Phrasebook.Decimal.Shortest
import Phrasebook.Inflection
import Phrasebook.Json.Reader
import Phrasebook.Json.Writer
import Phrasebook.Key
import Phrasebook.Log.Config
import Phrasebook.Log.Event
import Phrasebook.Log.Journal
import Phrasebook.Log.Processor
import Phrasebook.Options.Report
import Phrasebook.Options.Resolver
import Phrasebook.Options.Validation
import Phrasebook.Options.Values
import Phrasebook.Pattern.Fault
import Phrasebook.Pattern.Matching
import Phrasebook.Pattern.Reader
import Phrasebook.Pattern.Syntax
import Phrasebook.Pattern.Token
import Phrasebook.Project.Load
import Phrasebook.Project.Source
import Phrasebook.Proofs.Call.Construction
import Phrasebook.Proofs.Call.Errors
import Phrasebook.Proofs.Call.KeyLength
import Phrasebook.Proofs.Call.Projection
import Phrasebook.Proofs.Call.Signature
import Phrasebook.Proofs.Call.Translations
import Phrasebook.Proofs.Call.Validity
import Phrasebook.Proofs.Crc32
import Phrasebook.Proofs.Key.Burst
import Phrasebook.Proofs.Key.Hash
import Phrasebook.Proofs.Key.Slug
import Phrasebook.Proofs.Options.Admission
import Phrasebook.Proofs.Options.Batch
import Phrasebook.Proofs.Options.Erasure
import Phrasebook.Proofs.Options.Layers
import Phrasebook.Proofs.Options.Program
import Phrasebook.Proofs.Options.Reachable
import Phrasebook.Proofs.Options.Setting
import Phrasebook.Proofs.Options.Spelling
import Phrasebook.Proofs.Options.Update
import Phrasebook.Proofs.Pattern.Matching
import Phrasebook.Proofs.Project.Dictionaries
import Phrasebook.Proofs.Project.Layering
import Phrasebook.Proofs.Text.Blank
import Phrasebook.Proofs.Text.Case
import Phrasebook.Proofs.Text.Utf8
import Phrasebook.Proofs.Value.Dictionary
import Phrasebook.Proofs.Value.Equality
import Phrasebook.Proofs.Value.Sorting
import Phrasebook.Session.Run
import Phrasebook.Session.Step
import Phrasebook.Settings.DotEnv
import Phrasebook.Settings.Environment
import Phrasebook.Text.Blank
import Phrasebook.Text.Case
import Phrasebook.Text.Case.Letters
import Phrasebook.Text.Case.LowerRuns
import Phrasebook.Text.Case.SigmaContext
import Phrasebook.Text.Case.UpperRuns
import Phrasebook.Text.Case.Variants
import Phrasebook.Text.Class
import Phrasebook.Text.Class.Alphanumeric
import Phrasebook.Text.Class.Digit
import Phrasebook.Text.Class.Hidden
import Phrasebook.Text.Class.Identifier
import Phrasebook.Text.Class.Letter
import Phrasebook.Text.Names
import Phrasebook.Text.Quoted
import Phrasebook.Text.Surrogate
import Phrasebook.Text.Utf8
import Phrasebook.Value.Basic
import Phrasebook.Value.Description
import Phrasebook.Yaml.Cursor
import Phrasebook.Yaml.Fault
import Phrasebook.Yaml.Lexer
import Phrasebook.Yaml.Node
import Phrasebook.Yaml.Number
import Phrasebook.Yaml.Scalar.Block
import Phrasebook.Yaml.Scalar.Plain
import Phrasebook.Yaml.Scalar.Quoted
import Phrasebook.Yaml.Stamp
import Phrasebook.Yaml.Tag
import Phrasebook.Yaml.Token
import Phrasebook.Yaml.Value
import Phrasebook.Proofs.Options.Errors
import Phrasebook.Proofs.Options.OpenOverrides
import Phrasebook.Proofs.Log.Records
import Phrasebook.Proofs.Project.Failures
import Phrasebook.Proofs.Project.Notations
import Phrasebook.Proofs.Yaml.HandOut
import Phrasebook.Proofs.Json.Form
import Phrasebook.Proofs.Json.Reading
import Phrasebook.Proofs.Yaml.Stream
import Phrasebook.Proofs.Yaml.Scalars
import Phrasebook.Proofs.Json.Numbers
import Phrasebook.Proofs.Yaml.Numbers
import Phrasebook.Proofs.Yaml.Lexing
import Phrasebook.Proofs.Yaml.Marks
import Phrasebook.Proofs.Yaml.Trees
import Phrasebook.Proofs.Log.Scoping
import Phrasebook.Proofs.Call.Literals
import Phrasebook.Proofs.Options.Configuration
import Phrasebook.Proofs.Call.Expansion
import Phrasebook.Proofs.Key.Cut
import Phrasebook.Proofs.Call.Irrelevance
import Phrasebook.Proofs.Text.Ascii
import Phrasebook.Proofs.Inflection
import Phrasebook.Proofs.Pattern.Braces
import Phrasebook.Proofs.Call.Notation
import Phrasebook.Proofs.Call.Placeholders
import Phrasebook.Proofs.Text.Words
import Phrasebook.Proofs.Key.Stability
import Phrasebook.Proofs.Options.Variants
import Phrasebook.Proofs.Call.Reports
