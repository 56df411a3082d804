import QuestionQuery.Sorted.Map
import QuestionQuery.Text.Quoted
import QuestionQuery.Json.Reader
import QuestionQuery.Tree.Basic
import QuestionQuery.Tree.Document
import QuestionQuery.Lexicon.Basic
import QuestionQuery.Lexicon.Labels
import QuestionQuery.Candidate.Document
import QuestionQuery.Build
import QuestionQuery.Endpoint.Config
import QuestionQuery.Proofs.Sorted.Union
import QuestionQuery.Proofs.Generation.Choice
import QuestionQuery.Proofs.Generation.Reading
import QuestionQuery.Proofs.Generation.Independence
import QuestionQuery.Proofs.Generation.Order
import QuestionQuery.Proofs.Generation.Report
import QuestionQuery.Proofs.Generation.Knowledge
import QuestionQuery.Proofs.Candidate.Texts
import QuestionQuery.Proofs.Candidate.Merge
import QuestionQuery.Proofs.Candidate.Tokens
import QuestionQuery.Proofs.Candidate.Growth
import QuestionQuery.Proofs.Candidate.Comparison
import QuestionQuery.Proofs.Tree.Place
import QuestionQuery.Proofs.Tree.Rearrangement
import QuestionQuery.Proofs.Annotation.Word
import QuestionQuery.Proofs.Annotation.Reference
import QuestionQuery.Proofs.Annotation.Idempotence
import QuestionQuery.Proofs.Build.Unanswered
import QuestionQuery.Proofs.Sparql.Token
import QuestionQuery.Proofs.Sparql.Lexing
import QuestionQuery.Proofs.Sparql.Literal
import QuestionQuery.Proofs.Sparql.Query
import QuestionQuery.Proofs.Sparql.Recovery
import QuestionQuery.Proofs.Sparql.TextSearch
import QuestionQuery.Proofs.Build.Vocabulary
import QuestionQuery.Proofs.Build.Distinct
import QuestionQuery.Proofs.Build.Unconstrained
import QuestionQuery.Proofs.Json.Scanning
import QuestionQuery.Proofs.Json.Reading
import QuestionQuery.Proofs.Tree.Node
import QuestionQuery.Proofs.Tree.Acceptance
import QuestionQuery.Proofs.Tree.RoundTrip
import QuestionQuery.Proofs.Annotation.Order
import QuestionQuery.Proofs.Sparql.Renderings
import QuestionQuery.Proofs.Sparql.FuzzySearch
import QuestionQuery.Proofs.Sparql.ExactSearch
import QuestionQuery.Proofs.Json.Shape
import QuestionQuery.Proofs.Lexicon.Insertion
import QuestionQuery.Proofs.Candidate.RoundTrip
import QuestionQuery.Proofs.Build.SameResources
