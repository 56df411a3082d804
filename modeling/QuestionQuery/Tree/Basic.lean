import QuestionQuery.Sorted.Set
import QuestionQuery.Tree.PartOfSpeech

/-
  This file defines the parse tree of a question: a word at
  every node, with the words that depend on it as children.

  Key definitions include:
    * `Word`
    * `ParseTree`
    * `ParseTree.words`
    * `ParseTree.size`
    * `ParseTree.mapWords`
    * `ParseTree.modifyAt`
    * `ParseTree.describe`

  Key theorems include:
    * `Word.mem_annotations_annotate`
    * `ParseTree.length_words`
    * `ParseTree.words_mapWords`
    * `ParseTree.size_mapWords`
-/

namespace QuestionQuery

------------------------------------------------------------
-- Words
------------------------------------------------------------

/-
  A word of a question: its text, the tag of its part of
  speech, its base form if it is known, and the resources of
  the ontology it may stand for.
-/
structure Word where
  label : String
  tag : String
  baseForm : Option String
  annotations : SortedSet String
deriving DecidableEq, Inhabited

namespace Word

/- A word with nothing known but its text and its tag. -/
def plain
    (label tag : String) : Word where
  label := label
  tag := tag
  baseForm := none
  annotations := .empty

/- The part of speech of a word. -/
def partOfSpeech
    (w : Word) : PartOfSpeech :=
  .ofTag w.tag

/- Is some resource known for a word? -/
def isAnnotated
    (w : Word) : Bool :=
  !w.annotations.isEmpty

theorem isAnnotated_iff
    {w : Word} :
    w.isAnnotated ↔ w.annotations ≠ .empty := by
  rw [isAnnotated, Bool.not_eq_true', ← Bool.not_eq_true,
    SortedSet.isEmpty_iff]

theorem isAnnotated_eq_false_iff
    {w : Word} :
    w.isAnnotated = false ↔ w.annotations = .empty := by
  rw [isAnnotated, Bool.not_eq_false', SortedSet.isEmpty_iff]

/- A word with more resources. -/
def annotate
    (w : Word)
    (uris : List String) : Word :=
  { w with annotations := w.annotations.insertAll uris }

/- Annotating adds the given resources and nothing else. -/
@[simp]
theorem mem_annotations_annotate
    {w : Word}
    {uris : List String}
    {uri : String} :
    uri ∈ (w.annotate uris).annotations ↔
      uri ∈ w.annotations ∨ uri ∈ uris :=
  SortedSet.mem_insertAll

/- A word in one line. -/
def describe
    (w : Word) : String :=
  let base :=
    match w.baseForm with
    | some form => " lemma=" ++ form
    | none => ""
  let uris :=
    if w.isAnnotated then
      " \x7b" ++ ", ".intercalate w.annotations.toList ++ "\x7d"
    else
      ""
  w.label ++ " [" ++ w.tag ++ "]" ++ base ++ uris

end Word

------------------------------------------------------------
-- Trees
------------------------------------------------------------

/- A word with the trees of the words below it, in order. -/
inductive ParseTree where
  | node (word : Word) (children : List ParseTree)

namespace ParseTree

instance : Inhabited ParseTree :=
  ⟨.node default []⟩

/- The word at the root. -/
def word : ParseTree → Word
  | .node w _ => w

/- The trees below the root. -/
def children : ParseTree → List ParseTree
  | .node _ ts => ts

/- A tree of one word. -/
def leaf
    (w : Word) : ParseTree :=
  .node w []

/- Is there nothing below the root? -/
def isLeaf
    (t : ParseTree) : Bool :=
  t.children.isEmpty

mutual

/- Is one tree another one? -/
private def decEqTree :
    (s t : ParseTree) → Decidable (s = t)
  | .node v ss, .node w ts =>
    match decEq v w, decEqAll ss ts with
    | .isTrue h, .isTrue k => .isTrue (by rw [h, k])
    | .isFalse h, _ => .isFalse (by intro e; injection e; contradiction)
    | _, .isFalse k => .isFalse (by intro e; injection e; contradiction)

/- Is one list of trees another one? -/
private def decEqAll :
    (ss ts : List ParseTree) → Decidable (ss = ts)
  | [], [] => .isTrue rfl
  | [], _ :: _ => .isFalse (by simp)
  | _ :: _, [] => .isFalse (by simp)
  | s :: ss, t :: ts =>
    match decEqTree s t, decEqAll ss ts with
    | .isTrue h, .isTrue k => .isTrue (by rw [h, k])
    | .isFalse h, _ => .isFalse (by intro e; injection e; contradiction)
    | _, .isFalse k => .isFalse (by intro e; injection e; contradiction)

end

instance : DecidableEq ParseTree :=
  decEqTree

------------------------------------------------------------
-- Traversal
------------------------------------------------------------

mutual

/- All words, each before the words below it. -/
def words : ParseTree → List Word
  | .node w ts => w :: wordsOf ts

/- All words of a list of trees, one tree after another. -/
def wordsOf : List ParseTree → List Word
  | [] => []
  | t :: ts => words t ++ wordsOf ts

end

mutual

/- The number of words. -/
def size : ParseTree → Nat
  | .node _ ts => 1 + sizeOf ts

/- The number of words of a list of trees. -/
def sizeOf : List ParseTree → Nat
  | [] => 0
  | t :: ts => size t + sizeOf ts

end

mutual

/- All subtrees, each before the subtrees below it. -/
def subtrees : ParseTree → List ParseTree
  | .node w ts => .node w ts :: subtreesOf ts

/- All subtrees of a list of trees. -/
def subtreesOf : List ParseTree → List ParseTree
  | [] => []
  | t :: ts => subtrees t ++ subtreesOf ts

end

mutual

/- Change every word; the shape stays. -/
def mapWords
    (f : Word → Word) : ParseTree → ParseTree
  | .node w ts => .node (f w) (mapWordsOf f ts)

/- Change every word of a list of trees. -/
def mapWordsOf
    (f : Word → Word) : List ParseTree → List ParseTree
  | [] => []
  | t :: ts => mapWords f t :: mapWordsOf f ts

end

/- The size counts the words. -/
theorem length_words
    (t : ParseTree) :
    t.words.length = t.size := by
  induction t using ParseTree.rec
      (motive_2 := fun ts => (wordsOf ts).length = sizeOf ts) with
  | node w ts ih =>
      simp [words, size, ih, Nat.add_comm]
  | nil => rfl
  | cons t ts ih ihs => simp [wordsOf, sizeOf, ih, ihs]

/- The words change one by one and keep their order. -/
@[simp]
theorem words_mapWords
    (f : Word → Word)
    (t : ParseTree) :
    (t.mapWords f).words = t.words.map f := by
  induction t using ParseTree.rec
      (motive_2 := fun ts =>
        wordsOf (mapWordsOf f ts) = (wordsOf ts).map f) with
  | node w ts ih => simp [mapWords, words, ih]
  | nil => rfl
  | cons t ts ih ihs => simp [mapWordsOf, wordsOf, ih, ihs]

/- Changing words keeps their number. -/
@[simp]
theorem size_mapWords
    (f : Word → Word)
    (t : ParseTree) :
    (t.mapWords f).size = t.size := by
  simp [← length_words]

------------------------------------------------------------
-- Places
------------------------------------------------------------

/-
  The subtree at a path, which names a child by its place at
  every step down.
-/
def at? : List Nat → ParseTree → Option ParseTree
  | [], t => some t
  | i :: path, .node _ ts => ts[i]?.bind (at? path)

/- Change the subtree at a path, if there is one. -/
def modifyAt
    (f : ParseTree → ParseTree) :
    List Nat → ParseTree → ParseTree
  | [], t => f t
  | i :: path, .node w ts => .node w (ts.modify i (modifyAt f path))

/- Change the word at the root. -/
def mapRoot
    (f : Word → Word) : ParseTree → ParseTree
  | .node w ts => .node (f w) ts

/- One more tree behind the trees below the root. -/
def addChild
    (child : ParseTree) : ParseTree → ParseTree
  | .node w ts => .node w (ts ++ [child])

/-
  The first tree below the root.  Its word hints at what the
  question asks for.
-/
def projection? (t : ParseTree) : Option ParseTree :=
  t.children.head?

------------------------------------------------------------
-- Description
------------------------------------------------------------

mutual

/- One line for each word, further in the deeper it is. -/
def linesAt
    (depth : Nat) : ParseTree → List String
  | .node w ts =>
    (String.ofList (List.replicate (2 * depth) ' ') ++ w.describe) ::
      linesOfAt (depth + 1) ts

/- The lines of a list of trees. -/
def linesOfAt
    (depth : Nat) : List ParseTree → List String
  | [] => []
  | t :: ts => linesAt depth t ++ linesOfAt depth ts

end

/- A tree in lines, each with a line end. -/
def describe
    (t : ParseTree) : String :=
  String.join ((t.linesAt 0).map (· ++ "\n"))

end ParseTree

end QuestionQuery
