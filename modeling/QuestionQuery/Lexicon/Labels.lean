import QuestionQuery.Json.Basic
import QuestionQuery.Lexicon.Error
import QuestionQuery.Sorted.Map

/-
  This file defines how the English labels of a resource are
  found.

  Key definitions include:
    * `LabelSource`
    * `LabelTable`
    * `LabelTable.insert`
    * `LabelTable.toSource`
    * `Labels.query`
    * `Labels.ofResults`

  Key theorems include:
    * `LabelTable.mem_labelsOf_insert`
-/

namespace QuestionQuery

------------------------------------------------------------
-- Sources
------------------------------------------------------------

/- Gives the English labels of a resource, or fails. -/
abbrev LabelSource :=
  String → Except LexiconError (SortedSet String)

/- The source that never has a label. -/
def LabelSource.empty : LabelSource :=
  fun _ => .ok .empty

/- Labels of resources that are kept in memory. -/
structure LabelTable where
  labels : SortedMap String (SortedSet String)
deriving DecidableEq

namespace LabelTable

/- The table without labels. -/
def empty : LabelTable :=
  ⟨.empty⟩

instance : Inhabited LabelTable :=
  ⟨empty⟩

/- Add a label of a resource. -/
def insert
    (table : LabelTable)
    (uri label : String) : LabelTable :=
  ⟨table.labels.alter uri fun old => (old.getD .empty).insert label⟩

/- The table of pairs of a resource and a label. -/
def ofPairs
    (pairs : List (String × String)) : LabelTable :=
  pairs.foldl (fun table p => table.insert p.1 p.2) empty

/- The labels of a resource, none if it is not in the table. -/
def labelsOf
    (table : LabelTable)
    (uri : String) : SortedSet String :=
  (table.labels.get? uri).getD .empty

/- An insertion adds one label of one resource. -/
theorem mem_labelsOf_insert
    {table : LabelTable}
    {uri label other l : String} :
    l ∈ (table.insert uri label).labelsOf other ↔
      (other = uri ∧ l = label) ∨ l ∈ table.labelsOf other := by
  by_cases h : other = uri
  · subst h
    simp [labelsOf, insert]
  · simp [labelsOf, insert, h]

/- A table never fails. -/
def toSource
    (table : LabelTable) : LabelSource :=
  fun uri => .ok (table.labelsOf uri)

end LabelTable

------------------------------------------------------------
-- Asking An Endpoint
------------------------------------------------------------

namespace Labels

/- The property that ties a resource to its labels. -/
def labelIri : String :=
  "http://www.w3.org/2000/01/rdf-schema#label"

/- The query for the English labels of a resource. -/
def query
    (uri : String) : String :=
  "SELECT DISTINCT (str(?l) AS ?label) WHERE \x7b <" ++ uri ++
    "> <" ++ labelIri ++
    "> ?l . FILTER(langMatches(lang(?l), \"EN\")) \x7d"

/- The label in one row of a table of results, if any. -/
def ofRow?
    (row : Json) : Option String :=
  match (row.get? "label").bind (Json.get? "value") with
  | some (.text s) => some s
  | _ => none

/-
  The labels in a table of results.  Rows without a label are
  passed over, but there must be rows.
-/
def ofResults
    (doc : Json) : Except LexiconError (SortedSet String) :=
  match (doc.get? "results").bind (Json.get? "bindings") with
  | some (.list rows) => .ok (.ofList (rows.filterMap ofRow?))
  | _ => .error (.decode "missing `results.bindings` array")

end Labels

end QuestionQuery
