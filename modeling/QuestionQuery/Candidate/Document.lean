import QuestionQuery.Candidate.Basic
import QuestionQuery.Json.Reader

/-
  This file defines the JSON documents of candidates.

  Key definitions include:
    * `Candidate.reader`
    * `Candidate.ofText`
    * `Candidate.toJson`
    * `Candidate.toText`
-/

namespace QuestionQuery

namespace Candidate

------------------------------------------------------------
-- Reading
------------------------------------------------------------

/- The fields of a document that are known so far. -/
structure Parts where
  constraints : Option (SortedSet String)
  filters : Option (SortedSet String)
  fuzzyTokens : Option (SortedMap String (SortedSet String))
  exactPhrases : Option (SortedMap String (SortedSet String))

/- A set of texts. -/
def textSet : Json.Reader (SortedSet String) :=
  .setOf .text

/- A set of texts for each variable. -/
def textSets : Json.Reader (SortedMap String (SortedSet String)) :=
  .mapOf textSet

namespace Parts

/- No field known. -/
def none : Parts where
  constraints := .none
  filters := .none
  fuzzyTokens := .none
  exactPhrases := .none

/- What is known after one more field. -/
def field
    (p : Parts)
    (key : String) : Json.Reader Parts := do
  match key with
  | "constraints" =>
    let constraints ← .fieldOnce key p.constraints textSet
    return { p with constraints }
  | "filters" =>
    let filters ← .fieldOnce key p.filters textSet
    return { p with filters }
  | "fuzzy_tokens" =>
    let fuzzyTokens ← .fieldOnce key p.fuzzyTokens textSets
    return { p with fuzzyTokens }
  | "exact_phrases" =>
    let exactPhrases ← .fieldOnce key p.exactPhrases textSets
    return { p with exactPhrases }
  | _ =>
    .skipField
    return p

/- A field that must be known. -/
def require
    {α : Type}
    (name : String) : Option α → Json.Reader α
  | some a => return a
  | .none => .mismatch (.missingField name)

/-
  The candidate with given fields, all of which must be
  known.  The first one that is not is reported.
-/
def candidate
    (p : Parts) : Json.Reader Candidate := do
  let constraints ← require "constraints" p.constraints
  let filters ← require "filters" p.filters
  let fuzzyTokens ← require "fuzzy_tokens" p.fuzzyTokens
  let exactPhrases ← require "exact_phrases" p.exactPhrases
  return { constraints, filters, fuzzyTokens, exactPhrases }

end Parts

/- A field of a list of four, behind a number of others. -/
def place
    {α : Type}
    (before : Nat)
    (item : Json.Reader α) : Json.Reader α := do
  match ← .slot (before = 0) item with
  | some a => return a
  | none => .mismatch (.length before "Candidate" 4)

/-
  Reads a record of the four fields, or a list of them in
  their order.
-/
def reader : Json.Reader Candidate := do
  match ← .next with
  | .openRecord =>
    let p ← .fields Parts.field .none
    p.candidate
  | .openList =>
    let constraints ← place 0 textSet
    let filters ← place 1 textSet
    let fuzzyTokens ← place 2 textSets
    let exactPhrases ← place 3 textSets
    .endSlots
    return { constraints, filters, fuzzyTokens, exactPhrases }
  | t => .wrongKind (.struct "Candidate") t

/- The candidate that a text documents. -/
def ofText
    (s : String) : Except Json.Error Candidate :=
  reader.read s

------------------------------------------------------------
-- Writing
------------------------------------------------------------

/- A set as a list of texts. -/
def setToJson
    (s : SortedSet String) : Json :=
  .list (s.toList.map .text)

/- A map as a record of lists. -/
def mapToJson
    (m : SortedMap String (SortedSet String)) : Json :=
  .record (m.toList.map fun e => (e.1, setToJson e.2))

/- The document of a candidate. -/
def toJson
    (c : Candidate) : Json :=
  .record
    [("constraints", setToJson c.constraints),
      ("filters", setToJson c.filters),
      ("fuzzy_tokens", mapToJson c.fuzzyTokens),
      ("exact_phrases", mapToJson c.exactPhrases)]

/- The text of the document of a candidate. -/
def toText
    (c : Candidate) : String :=
  c.toJson.compact

end Candidate

end QuestionQuery
