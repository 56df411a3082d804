import QuestionQuery.Json.Reader
import QuestionQuery.TextFile
import QuestionQuery.Tree.Basic

/-
  This file defines the JSON documents of parse trees.  A
  document is read as JSON first and shaped afterwards, so a
  text that is not JSON is told apart from one that holds no
  tree.

  Key definitions include:
    * `ParseTree.ofJson?`
    * `ParseTree.ofDocument?`
    * `ParseTree.toJson`
    * `ParseTree.toDocument`
    * `ParseTree.ofText`
    * `ParseTree.ofFile`
    * `ParseTree.toText`
-/

namespace QuestionQuery

namespace ParseTree

------------------------------------------------------------
-- Fields
------------------------------------------------------------

/- A field of a node. -/
inductive Field where
  | label
  | tag
  | baseForm
  | children
  | annotations
deriving DecidableEq

/- The field with a key.  The tag goes by three keys. -/
def Field.ofKey? : String → Option Field
  | "label" => some .label
  | "pos_tag" => some .tag
  | "posTag" => some .tag
  | "pos" => some .tag
  | "lemma" => some .baseForm
  | "children" => some .children
  | "annotations" => some .annotations
  | _ => none

/- The fields of a node that are known so far. -/
structure Parts where
  label : Option String
  tag : Option String
  baseForm : Option (Option String)
  children : Option (List ParseTree)
  annotations : Option (SortedSet String)

namespace Parts

/- No field known. -/
def none : Parts where
  label := .none
  tag := .none
  baseForm := .none
  children := .none
  annotations := .none

/-
  The node with given fields.  It must have a label and a
  tag; what else is missing is empty.
-/
def tree?
    (p : Parts) : Option ParseTree := do
  let label ← p.label
  let tag ← p.tag
  let word : Word :=
    { label
      tag
      baseForm := p.baseForm.getD .none
      annotations := p.annotations.getD .empty }
  return .node word (p.children.getD [])

end Parts

/-
  A field that is given a value.  There must be one, and none
  may be there before.
-/
def fill?
    {α : Type}
    (old new : Option α) : Option (Option α) :=
  match old, new with
  | none, some a => some (some a)
  | _, _ => none

------------------------------------------------------------
-- Reading
------------------------------------------------------------

/- A text. -/
def textOf? : Json → Option String
  | .text s => some s
  | _ => none

/- A list of texts. -/
def textsOf? : List Json → Option (List String)
  | [] => some []
  | v :: rest => do
    let s ← textOf? v
    return s :: (← textsOf? rest)

/- A base form, which may be null. -/
def baseFormOf? : Json → Option (Option String)
  | .null => some none
  | .text s => some (some s)
  | _ => none

/- A set of texts, in any order and with repeats. -/
def annotationsOf? : Json → Option (SortedSet String)
  | .list items => (textsOf? items).map SortedSet.ofList
  | _ => none

mutual

/-
  The tree of a node, which is a record of its fields or a
  list of two to five of them in their order.
-/
def ofJson? : Json → Option ParseTree
  | .record fields => (partsOf? .none fields).bind Parts.tree?
  | .list [l, t] =>
    Parts.tree?
      { Parts.none with
        label := textOf? l
        tag := textOf? t }
  | .list [l, t, b] => do
    let base ← baseFormOf? b
    Parts.tree?
      { Parts.none with
        label := textOf? l
        tag := textOf? t
        baseForm := some base }
  | .list [l, t, b, c] => do
    let base ← baseFormOf? b
    let trees ← childrenOf? c
    Parts.tree?
      { Parts.none with
        label := textOf? l
        tag := textOf? t
        baseForm := some base
        children := some trees }
  | .list [l, t, b, c, a] => do
    let base ← baseFormOf? b
    let trees ← childrenOf? c
    let uris ← annotationsOf? a
    Parts.tree?
      { label := textOf? l
        tag := textOf? t
        baseForm := some base
        children := some trees
        annotations := some uris }
  | _ => none

/- The known fields after some more fields of a record. -/
def partsOf? (p : Parts) : List (String × Json) → Option Parts
  | [] => some p
  | (key, v) :: rest =>
    match Field.ofKey? key with
    | some .label => do
      let label ← fill? p.label (textOf? v)
      partsOf? { p with label } rest
    | some .tag => do
      let tag ← fill? p.tag (textOf? v)
      partsOf? { p with tag } rest
    | some .baseForm => do
      let baseForm ← fill? p.baseForm (baseFormOf? v)
      partsOf? { p with baseForm } rest
    | some .children => do
      let children ← fill? p.children (childrenOf? v)
      partsOf? { p with children } rest
    | some .annotations => do
      let annotations ← fill? p.annotations (annotationsOf? v)
      partsOf? { p with annotations } rest
    | none => partsOf? p rest

/- The trees of a list of nodes. -/
def childrenOf? : Json → Option (List ParseTree)
  | .list items => treesOf? items
  | _ => none

/- The trees of nodes, one after another. -/
def treesOf? : List Json → Option (List ParseTree)
  | [] => some []
  | v :: rest => do
    let t ← ofJson? v
    return t :: (← treesOf? rest)

end

/- The value of a field that a record has just once. -/
def only?
    (key : String)
    (fields : List (String × Json)) : Option Json :=
  match fields.filter (·.1 = key) with
  | [(_, v)] => some v
  | _ => none

/-
  The tree of a document: a record with a node as its root,
  or else a node itself.
-/
def ofDocument?
    (v : Json) : Option ParseTree :=
  let root :=
    match v with
    | .record fields => (only? "root" fields).bind ofJson?
    | _ => none
  root.or (ofJson? v)

/- Reads a document to its end before it is shaped. -/
def reader : Json.Reader ParseTree := do
  match ofDocument? (← Json.Reader.value Json.Reader.depthLimit) with
  | some t => return t
  | none => Json.Reader.mismatch (.noShapeFits "Doc")

------------------------------------------------------------
-- Writing
------------------------------------------------------------

mutual

/- The node of a tree.  Fields that are empty are left out. -/
def toJson : ParseTree → Json
  | .node w ts =>
    .record
      ([("label", .text w.label), ("pos_tag", .text w.tag)] ++
        (match w.baseForm with
          | some form => [("lemma", .text form)]
          | none => []) ++
        (match ts with
          | [] => []
          | t :: ts => [("children", .list (toJson t :: toJsonAll ts))]) ++
        (match w.annotations.toList with
          | [] => []
          | uris => [("annotations", .list (uris.map .text))]))

/- The nodes of a list of trees. -/
def toJsonAll : List ParseTree → List Json
  | [] => []
  | t :: ts => toJson t :: toJsonAll ts

end

/- The document of a tree. -/
def toDocument
    (t : ParseTree) : Json :=
  .record [("root", t.toJson)]

/- The text of the document of a tree. -/
def toText
    (t : ParseTree) : String :=
  t.toDocument.compact

end ParseTree

------------------------------------------------------------
-- Texts And Files
------------------------------------------------------------

/- Why there is no tree. -/
inductive TreeError where
  | file (cause : TextFile.Error)
  | json (cause : Json.Error)
deriving DecidableEq

/- The message of an error. -/
def TreeError.message : TreeError → String
  | .file cause => "failed to read parse tree: " ++ cause.message
  | .json cause => "invalid parse tree json: " ++ cause.message

namespace ParseTree

/- The tree that a text documents. -/
def ofText
    (s : String) : Except TreeError ParseTree :=
  (reader.read s).mapError .json

/- The tree that a file documents. -/
def ofFile
    (bytes : Option ByteArray) : Except TreeError ParseTree := do
  let s ← (TextFile.read bytes).mapError .file
  ofText s

end ParseTree

end QuestionQuery
