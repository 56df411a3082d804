import QuestionQuery.Candidate.Basic
import QuestionQuery.Lexicon.Labels
import QuestionQuery.Tree.Basic

/-
  This file defines the ways in which one word of a question
  can extend a candidate.

  Key definitions include:
    * `Move`
    * `Move.apply`
    * `Word.moves?`
-/

namespace QuestionQuery

------------------------------------------------------------
-- Moves
------------------------------------------------------------

/- One way to extend a candidate. -/
inductive Move where
  | keep
  | require (pattern : Triple)
  | restrict (v : Variable) (uri : String)
  | search (v : Variable) (label : String)
deriving DecidableEq

/- A candidate after a move. -/
def Move.apply
    (c : Candidate) : Move → Candidate
  | .keep => c
  | .require pattern => c.require pattern.text
  | .restrict v uri => c.restrict (Sparql.membership v uri)
  | .search v label => c.search v.name label

namespace Move

/- The answer as subject, the related resource as object. -/
def forward
    (predicate : Term) : Move :=
  .require ⟨.var .proj, predicate, .var .const⟩

/- The related resource as subject, the answer as object. -/
def backward
    (predicate : Term) : Move :=
  .require ⟨.var .const, predicate, .var .proj⟩

/- A variable stands for an instance of a class. -/
def instanceOf
    (v : Variable)
    (uri : String) : Move :=
  .require ⟨.var v, .isA, .iri uri⟩

------------------------------------------------------------
-- Rules
------------------------------------------------------------

/- A resource of a verb relates the answer either way. -/
def ofVerb
    (uri : String) : List Move :=
  [forward (.iri uri), backward (.iri uri), backward .rootPredicate]

/- A class may type either variable or neither. -/
def ofType
    (uri : String) : List Move :=
  [instanceOf .const uri, instanceOf .proj uri, keep]

/- A resource of a noun may be a property or a class. -/
def ofNoun
    (uri : String) : List Move :=
  backward (.iri uri) :: ofType uri

/- A label is searched for on behalf of either variable. -/
def ofLabel
    (label : String) : List Move :=
  Variable.all.map (.search · label)

/-
  A resource that is named in the question is bridged to the
  answer, or is the answer, or is searched for by a label.
-/
def ofResource
    (uri : String)
    (labels : List String) : List Move :=
  [.require ⟨.var .proj, .bridgePredicate, .iri uri⟩,
      .restrict .proj uri, .keep] ++
    labels.flatMap ofLabel

end Move

------------------------------------------------------------
-- Moves Of A Word
------------------------------------------------------------

/- The labels of a resource; a failure counts as no labels. -/
def LabelSource.labels
    (source : LabelSource)
    (uri : String) : SortedSet String :=
  match source uri with
  | .ok labels => labels
  | .error _ => .empty

namespace Word

/-
  The rule for words of a part of speech that have
  annotations, given one of the annotations.
-/
def annotatedRule? : PartOfSpeech → Option (String → List Move)
  | .verb => some Move.ofVerb
  | .noun
  | .pluralNoun
  | .properNoun
  | .otherNoun
  | .whAdverb => some Move.ofNoun
  | .whPronoun => some Move.ofType
  | _ => none

/- The moves of a word without annotations. -/
def plainMoves?
    (source : LabelSource)
    (w : Word) : Option (List Move) :=
  match w.partOfSpeech with
  | .combinedNoun
  | .properNoun
  | .adjective
  | .cardinal => some (Move.ofLabel w.label)
  | .verb
  | .noun
  | .pluralNoun => some (Move.ofLabel w.label ++ [.keep])
  | .resolved =>
    some (Move.ofResource w.label (source.labels w.label).toList)
  | .whPronoun => some [.keep]
  | .otherNoun
  | .whAdverb
  | .unhandled => none

/- The moves of a word, unless there is no rule for it. -/
def moves?
    (source : LabelSource)
    (w : Word) : Option (List Move) :=
  if w.isAnnotated then
    (annotatedRule? w.partOfSpeech).map w.annotations.toList.flatMap
  else
    w.plainMoves? source

end Word

end QuestionQuery
