import QuestionQuery.Json.Reader

/-
  This file defines indexes kept in memory: which resources
  a label may name.

  Key definitions include:
    * `Index`
    * `Index.insert`
    * `Index.search`
    * `Index.ofPairs`
    * `Index.reader`
    * `Index.toJson`

  Key theorems include:
    * `Index.search_insert`
-/

namespace QuestionQuery

/-
  A list of resources for each label.  Lists that are read
  from a document are kept as they stand there.
-/
structure Index where
  entries : SortedMap String (List String)
deriving DecidableEq

namespace Index

/- The index without labels. -/
def empty : Index :=
  ⟨.empty⟩

instance : Inhabited Index :=
  ⟨empty⟩

/-
  Add a resource under a label, behind the resources it has.
  One that is there already is not added again.
-/
def insert
    (index : Index)
    (label uri : String) : Index :=
  ⟨index.entries.alter label fun old =>
    let uris := old.getD []
    if uri ∈ uris then uris else uris ++ [uri]⟩

/- The resources under a label. -/
def search
    (index : Index)
    (label : String) : List String :=
  (index.entries.get? label).getD []

/-
  Behind an insertion, one label has one resource more unless
  it had that one before, and all others are as they were.
-/
theorem search_insert
    {index : Index}
    {label uri other : String} :
    (index.insert label uri).search other =
      if other = label ∧ uri ∉ index.search label then
        index.search other ++ [uri]
      else
        index.search other := by
  by_cases h : other = label
  · subst h
    by_cases hu : uri ∈ (index.entries.get? other).getD [] <;>
      simp [search, insert, hu]
  · simp [search, insert, h]

/- The number of labels. -/
def size
    (index : Index) : Nat :=
  index.entries.size

/- Is there no label? -/
def isEmpty
    (index : Index) : Bool :=
  index.entries.isEmpty

/- The index of pairs of a label and a resource, in turn. -/
def ofPairs
    (pairs : List (String × String)) : Index :=
  pairs.foldl (fun index p => index.insert p.1 p.2) empty

------------------------------------------------------------
-- Documents
------------------------------------------------------------

/- Reads a map from labels to lists of resources. -/
def reader : Json.Reader Index :=
  Index.mk <$> Json.Reader.mapOf (Json.Reader.listOf Json.Reader.text)

/- An index as a record of lists. -/
def toJson
    (index : Index) : Json :=
  .record
    (index.entries.toList.map fun e => (e.1, .list (e.2.map .text)))

end Index

end QuestionQuery
