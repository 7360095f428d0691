import SqlTutor.Main
import SqlTutor.Proofs.Except
import SqlTutor.Proofs.Text.Gaps
import SqlTutor.Proofs.Text.Keywords
import SqlTutor.Proofs.Text.Separators
import SqlTutor.Proofs.Double.Nearest
import SqlTutor.Proofs.Value.Order
import SqlTutor.Proofs.Query.WhiteSpace
import SqlTutor.Proofs.Query.Vocabulary
import SqlTutor.Proofs.Query.Canonical
import SqlTutor.Proofs.Query.Sorting
import SqlTutor.Proofs.Query.Stages
import SqlTutor.Proofs.Query.Sources
import SqlTutor.Proofs.Query.Recognition
import SqlTutor.Proofs.Query.Conjunction
import SqlTutor.Proofs.Text.Endings
import SqlTutor.Proofs.Query.Selection
import SqlTutor.Proofs.Text.Framing
import SqlTutor.Proofs.Query.Filtering
import SqlTutor.Proofs.Query.Literals
import SqlTutor.Proofs.Double.Exact
import SqlTutor.Proofs.Query.Conjuncts
import SqlTutor.Proofs.Query.Columns
import SqlTutor.Proofs.Query.Continuation
import SqlTutor.Proofs.Query.Counting
import SqlTutor.Proofs.Query.Trailing
import SqlTutor.Proofs.Json.Numerals
import SqlTutor.Proofs.Json.Strings
import SqlTutor.Proofs.Json.Texts
import SqlTutor.Proofs.Json.Readers
import SqlTutor.Proofs.Json.Formats
import SqlTutor.Proofs.Dataset.Format
import SqlTutor.Proofs.Double.Finite
import SqlTutor.Proofs.Json.Range
import SqlTutor.Proofs.Json.Printing
import SqlTutor.Proofs.Dataset.RoundTrip
import SqlTutor.Proofs.Json.Overflow
import SqlTutor.Proofs.Query.Failures
import SqlTutor.Proofs.Query.Strictness
import SqlTutor.Proofs.Query.Isolation
import SqlTutor.Proofs.Query.StoredOrder
import SqlTutor.Proofs.Text.LetterCase
import SqlTutor.Proofs.Json.Unambiguity
import SqlTutor.Proofs.Query.Provenance
import SqlTutor.Proofs.Query.Outcomes
import SqlTutor.Proofs.Dataset.Histories
import SqlTutor.Proofs.Course.Returning
import SqlTutor.Proofs.Query.References
import SqlTutor.Proofs.Query.Qualifiers
import SqlTutor.Proofs.Query.StableSort
import SqlTutor.Proofs.Query.Partition
import SqlTutor.Proofs.CommandLine.Runs
import SqlTutor.Proofs.Value.Equality
import SqlTutor.Proofs.Query.Joins
import SqlTutor.Proofs.Text.Readings
import SqlTutor.Proofs.Query.Spelling
import SqlTutor.Proofs.Query.Occurrences
import SqlTutor.Proofs.Query.Formless
import SqlTutor.Proofs.Query.JoinQueries
import SqlTutor.Proofs.Double.Integers
import SqlTutor.Proofs.Query.Integers
import SqlTutor.Proofs.Value.Agreement
import SqlTutor.Proofs.Query.FreshIds
import SqlTutor.Proofs.Query.CountItems
import SqlTutor.Proofs.Text.Sigmas
import SqlTutor.Proofs.Query.Needles
import SqlTutor.Proofs.Query.Conjoining
import SqlTutor.Proofs.Query.Opposites
import SqlTutor.Proofs.Query.Segments
import SqlTutor.Proofs.Decimal.Values
import SqlTutor.Proofs.Decimal.Texts
import SqlTutor.Proofs.Query.NumberGroups
import SqlTutor.Proofs.Text.Enclosures
import SqlTutor.Proofs.Query.ConditionTexts
import SqlTutor.Proofs.Query.JoinSides
import SqlTutor.Proofs.Query.ItemLists
import SqlTutor.Proofs.Dataset.Merging
import SqlTutor.Proofs.Query.Stamps
