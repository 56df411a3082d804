import QuestionQuery.Lexicon.Basic
import QuestionQuery.Tree.Basic

/-
  This file annotates the words of a parse tree with the
  resources that a lexicon finds for them.  It runs in three
  passes: the word that hints at the answer, then the verbs,
  then the nouns that nothing was found for so far.

  Key definitions include:
    * `Annotator`
    * `Annotator.projectionPass`
    * `Annotator.onVerb`
    * `Annotator.onNoun`
    * `Annotator.annotate`
-/

namespace QuestionQuery

/-
  A lexicon, and the labels that are too ambiguous to look
  up in it.
-/
structure Annotator where
  lexicon : Lexicon
  blacklist : SortedSet String

namespace Annotator

/- The labels that are not looked up if nothing is said. -/
def defaultBlacklist : SortedSet String :=
  .ofList ["people"]

/- The type of the answers to questions for a place. -/
def placeIri : String :=
  "http://dbpedia.org/ontology/Place"

/- The type of the answers to questions for somebody. -/
def agentIri : String :=
  "http://dbpedia.org/ontology/Agent"

/- Is a word not to be looked up? -/
def isBlacklisted
    (a : Annotator)
    (w : Word) : Bool :=
  w.label ∈ a.blacklist

------------------------------------------------------------
-- The Hint At The Answer
------------------------------------------------------------

/- The types that a word that asks hints at. -/
def whHint
    (label : String) : List String :=
  if label = "Where" then [placeIri]
  else if label = "Who" then [agentIri]
  else []

/-
  The label under which the hint is looked up.  A plural is
  looked up by its base form, if that is known.
-/
def hintLabel
    (w : Word) : String :=
  match w.baseForm, w.partOfSpeech with
  | some form, .pluralNoun => form
  | _, _ => w.label

/-
  The resources of a noun that hints at the answer.  A noun
  that stands alone is a class; one with words below it may
  also be a property, and else some entity.
-/
def nounHint
    (a : Annotator)
    (isLeaf : Bool)
    (label : String) : List String :=
  let classes := a.lexicon.classes label
  if isLeaf then
    classes
  else
    let known := classes ++ a.lexicon.properties label
    if known.isEmpty then a.lexicon.entities label else known

/- The resources that a tree hints at by its root. -/
def hint
    (a : Annotator)
    (isLeaf : Bool)
    (w : Word) : List String :=
  if a.isBlacklisted w then []
  else if w.partOfSpeech.isWhWord then whHint w.label
  else if w.partOfSpeech.isNoun then a.nounHint isLeaf (hintLabel w)
  else []

/- Annotate the root of the first tree below the root. -/
def projectionPass
    (a : Annotator) : ParseTree → ParseTree
  | .node w [] => .node w []
  | .node w (t :: ts) =>
    .node w (t.mapRoot (fun v => v.annotate (a.hint t.isLeaf v)) :: ts)

------------------------------------------------------------
-- Verbs And Nouns
------------------------------------------------------------

/-
  The resources of a verb: properties of its label, else
  those of its base form, and entities of its label if it
  has no base form.
-/
def verbResources
    (a : Annotator)
    (w : Word) : List String :=
  let properties := a.lexicon.properties w.label
  if properties.isEmpty then
    match w.baseForm with
    | some form => a.lexicon.properties form
    | none => a.lexicon.entities w.label
  else
    properties

/- Annotate a word if it is a verb. -/
def onVerb
    (a : Annotator)
    (w : Word) : Word :=
  if w.partOfSpeech = .verb && !a.isBlacklisted w then
    w.annotate (a.verbResources w)
  else
    w

/-
  The resources of a noun: the first kind that its label has
  any of, or else all kinds of its base form.
-/
def nounResources
    (a : Annotator)
    (w : Word) : List String :=
  let classes := a.lexicon.classes w.label
  let properties := a.lexicon.properties w.label
  let entities := a.lexicon.entities w.label
  if !classes.isEmpty then classes
  else if !properties.isEmpty then properties
  else if !entities.isEmpty then entities
  else
    match w.baseForm with
    | some form =>
      a.lexicon.classes form ++ a.lexicon.properties form ++
        a.lexicon.entities form
    | none => []

/- Annotate a word if it is a noun without annotations. -/
def onNoun
    (a : Annotator)
    (w : Word) : Word :=
  if w.partOfSpeech.isNoun && !w.isAnnotated && !a.isBlacklisted w then
    w.annotate (a.nounResources w)
  else
    w

------------------------------------------------------------
-- All Passes
------------------------------------------------------------

/- Annotate all verbs. -/
def verbPass
    (a : Annotator) : ParseTree → ParseTree :=
  .mapWords a.onVerb

/- Annotate all nouns. -/
def nounPass
    (a : Annotator) : ParseTree → ParseTree :=
  .mapWords a.onNoun

/- Annotate a tree in three passes. -/
def annotate
    (a : Annotator)
    (t : ParseTree) : ParseTree :=
  a.nounPass (a.verbPass (a.projectionPass t))

end Annotator

end QuestionQuery
