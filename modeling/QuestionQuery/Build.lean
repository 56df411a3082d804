import QuestionQuery.Annotation
import QuestionQuery.Generation.Basic
import QuestionQuery.Sparql.Query

/-
  This file takes a question from its parse tree all the way
  to the queries that may answer it.

  Key definitions include:
    * `Builder`
    * `Outcome`
    * `Builder.build`
-/

namespace QuestionQuery

/- All that is needed to build queries besides a tree. -/
structure Builder where
  lexicon : Lexicon
  source : LabelSource
  blacklist : SortedSet String
  options : Sparql.Options

/-
  What is built for a question: the tree with annotations,
  the candidates, and their queries in ascending order.
-/
structure Outcome where
  tree : ParseTree
  generation : Generation
  queries : SortedSet String
deriving DecidableEq

namespace Builder

/- A builder with the default blacklist and options. -/
def ofLexicon
    (lexicon : Lexicon)
    (source : LabelSource) : Builder where
  lexicon := lexicon
  source := source
  blacklist := Annotator.defaultBlacklist
  options := .default

/- The annotator of a builder. -/
def annotator
    (b : Builder) : Annotator where
  lexicon := b.lexicon
  blacklist := b.blacklist

/- The queries of candidates, each once. -/
def queriesOf
    (o : Sparql.Options)
    (candidates : SortedSet Candidate) : SortedSet String :=
  .ofList (candidates.toList.flatMap (·.queries o))

/- Annotate a tree, generate candidates and write them. -/
def build
    (b : Builder)
    (t : ParseTree) : Outcome :=
  let tree := b.annotator.annotate t
  let generation := Generation.ofTree b.source Generation.seed tree
  { tree
    generation
    queries := queriesOf b.options generation.candidates }

end Builder

end QuestionQuery
