import QuestionQuery.Lexicon.Error
import QuestionQuery.Lexicon.Index

/-
  This file defines lexicons: what the words of a question
  may name in an ontology.

  Key definitions include:
    * `Lexicon`
    * `Lexicon.Tables`
    * `Lexicon.Tables.toLexicon`
    * `Lexicon.Tables.reader`
    * `Lexicon.Tables.toText`
    * `Lexicon.Tables.ofText`
    * `Lexicon.ofText`
    * `Lexicon.ofFile`
-/

namespace QuestionQuery

------------------------------------------------------------
-- Lexicons
------------------------------------------------------------

/-
  The classes and the properties with a label, and all other
  entities to fall back on.
-/
structure Lexicon where
  classes : String → List String
  properties : String → List String
  entities : String → List String

namespace Lexicon

/- The lexicon in which nothing is found. -/
def empty : Lexicon where
  classes := fun _ => []
  properties := fun _ => []
  entities := fun _ => []

instance : Inhabited Lexicon :=
  ⟨empty⟩

/- The three indexes of a lexicon that is kept in memory. -/
structure Tables where
  classes : Index
  properties : Index
  entities : Index
deriving DecidableEq, Inhabited

namespace Tables

/- Look labels up in the indexes. -/
def toLexicon
    (tables : Tables) : Lexicon where
  classes := tables.classes.search
  properties := tables.properties.search
  entities := tables.entities.search

------------------------------------------------------------
-- Documents
------------------------------------------------------------

/- The indexes of a document that are known so far. -/
structure Parts where
  classes : Option Index
  properties : Option Index
  entities : Option Index

namespace Parts

/- No index known. -/
def none : Parts where
  classes := .none
  properties := .none
  entities := .none

/- An index that a document does not mention is empty. -/
def tables
    (p : Parts) : Tables where
  classes := p.classes.getD .empty
  properties := p.properties.getD .empty
  entities := p.entities.getD .empty

/- What is known after one more field. -/
def field
    (p : Parts)
    (key : String) : Json.Reader Parts := do
  match key with
  | "classes" =>
    let classes ← .fieldOnce key p.classes Index.reader
    return { p with classes }
  | "properties" =>
    let properties ← .fieldOnce key p.properties Index.reader
    return { p with properties }
  | "entities" =>
    let entities ← .fieldOnce key p.entities Index.reader
    return { p with entities }
  | _ =>
    .skipField
    return p

end Parts

/-
  Reads a record of the three indexes, or a list of the
  first few of them.
-/
def reader : Json.Reader Tables := do
  match ← .next with
  | .openRecord => Parts.tables <$> .fields Parts.field .none
  | .openList =>
    let classes ← .slot true Index.reader
    let properties ← .slot classes.isNone Index.reader
    let entities ← .slot classes.isNone Index.reader
    .endSlots
    return Parts.tables { classes, properties, entities }
  | t => .wrongKind (.struct "LexiconFile") t

/- The document of the indexes. -/
def toJson
    (tables : Tables) : Json :=
  .record
    [("classes", tables.classes.toJson),
      ("properties", tables.properties.toJson),
      ("entities", tables.entities.toJson)]

/- The text of the document of the indexes. -/
def toText
    (tables : Tables) : String :=
  tables.toJson.compact

/- The indexes that a text documents. -/
def ofText
    (s : String) : Except LexiconError Tables :=
  (reader.read s).mapError .json

end Tables

/- The lexicon that a text documents. -/
def ofText
    (s : String) : Except LexiconError Lexicon :=
  Tables.toLexicon <$> Tables.ofText s

/- The lexicon that a file documents. -/
def ofFile
    (bytes : Option ByteArray) : Except LexiconError Lexicon := do
  let s ← (TextFile.read bytes).mapError .file
  ofText s

end Lexicon

end QuestionQuery
