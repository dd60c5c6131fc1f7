import FieldSchema.Main
import FieldSchema.Terminal.LooseInteger
import FieldSchema.Text.DecimalDigit
import FieldSchema.Text.Lowercase
import FieldSchema.Text.WordCharacter
import FieldSchema.Terminal.Markup.Color
import FieldSchema.Terminal.Markup.EmojiTable
import FieldSchema.Terminal.Markup.Style
import FieldSchema.Terminal.Markup.Constant.Token
import FieldSchema.Terminal.Markup.Constant
import FieldSchema.Terminal.Markup.Emoji
import FieldSchema.Terminal.Markup.Handler
import FieldSchema.Proofs.Files.Tree
import FieldSchema.Proofs.Gallery.ActionOutcome
import FieldSchema.Proofs.Grammar.ArrayBody
import FieldSchema.Proofs.Grammar.BoundedRepetition
import FieldSchema.Proofs.Grammar.CompileOrder
import FieldSchema.Proofs.Grammar.Compiled
import FieldSchema.Proofs.Grammar.Completeness
import FieldSchema.Proofs.Grammar.DecimalRange
import FieldSchema.Proofs.Grammar.Derivation
import FieldSchema.Proofs.Grammar.DigitRange
import FieldSchema.Proofs.Grammar.Emission
import FieldSchema.Proofs.Grammar.FixedPoint
import FieldSchema.Proofs.Grammar.Language
import FieldSchema.Proofs.Grammar.Limited
import FieldSchema.Proofs.Grammar.Notation
import FieldSchema.Proofs.Grammar.ObjectBody
import FieldSchema.Proofs.Grammar.Quotation
import FieldSchema.Proofs.Grammar.ReadBack
import FieldSchema.Proofs.Grammar.Readable
import FieldSchema.Proofs.Grammar.Recompilation
import FieldSchema.Proofs.Grammar.RepeatedRule
import FieldSchema.Proofs.Grammar.Repetition
import FieldSchema.Proofs.Grammar.References
import FieldSchema.Proofs.Grammar.Refusal
import FieldSchema.Proofs.Grammar.RuleHistory
import FieldSchema.Proofs.Grammar.RuleName
import FieldSchema.Proofs.Grammar.RuleSet
import FieldSchema.Proofs.Grammar.Rules
import FieldSchema.Proofs.Grammar.Sample
import FieldSchema.Proofs.Grammar.Separation
import FieldSchema.Proofs.Grammar.SharedRule
import FieldSchema.Proofs.Grammar.Sharing
import FieldSchema.Proofs.Grammar.Soundness
import FieldSchema.Proofs.Grammar.Source
import FieldSchema.Proofs.Grammar.Spellable
import FieldSchema.Proofs.Grammar.Tree
import FieldSchema.Proofs.Grammar.Unambiguous
import FieldSchema.Proofs.Grammar.WrittenRange
import FieldSchema.Proofs.Json.Legible
import FieldSchema.Proofs.Json.Pieces
import FieldSchema.Proofs.Json.Pairs
import FieldSchema.Proofs.Json.Readers
import FieldSchema.Proofs.Json.Reading
import FieldSchema.Proofs.Json.Token
import FieldSchema.Proofs.Json.Values
import FieldSchema.Proofs.Json.Writing
import FieldSchema.Proofs.Number.Digits
import FieldSchema.Proofs.Number.Layout
import FieldSchema.Proofs.Number.Nearest
import FieldSchema.Proofs.Number.Rounding
import FieldSchema.Proofs.Number.Scan
import FieldSchema.Proofs.Number.Shortest
import FieldSchema.Proofs.Number.Text
import FieldSchema.Proofs.Schema.Arguments
import FieldSchema.Proofs.Schema.Buildable
import FieldSchema.Proofs.Schema.Constructed
import FieldSchema.Proofs.Schema.Equality
import FieldSchema.Proofs.Schema.Members
import FieldSchema.Proofs.Schema.Nesting
import FieldSchema.Proofs.Schema.Relaxation
import FieldSchema.Proofs.Template.Composition
import FieldSchema.Proofs.Template.Contents
import FieldSchema.Proofs.Template.Embedding
import FieldSchema.Proofs.Template.Meaning
import FieldSchema.Proofs.Template.Places
import FieldSchema.Proofs.Template.Reveal
import FieldSchema.Proofs.Text.CodePoint
import FieldSchema.Proofs.Text.Hex
import FieldSchema.Proofs.Tool.Saving
import FieldSchema.Proofs.Tool.Steps
import FieldSchema.Proofs.Validation.Conformance
import FieldSchema.Proofs.Validation.Decision
import FieldSchema.Proofs.Validation.Document
import FieldSchema.Proofs.Validation.HintPaths
import FieldSchema.Proofs.Validation.Locality
import FieldSchema.Proofs.Validation.Report
import FieldSchema.Proofs.Validation.Reordering
import FieldSchema.Proofs.Validation.Trace
import FieldSchema.Proofs.Validation.Walk
import FieldSchema.Proofs.Template.Echo
