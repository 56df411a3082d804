import Mathlib.Data.List.Basic
import QuestionQuery.Tree.Basic

/-
  Words of a tree by their places.

  A place is the path from the root, and the words of a tree
  are the words at its places.  Changing all words changes
  each one at its place.

  Main statements:
    * `ParseTree.mem_words_iff_exists_at?`
    * `ParseTree.at?_mapWords`
-/

------------------------------------------------------------
-- Lists Of Trees
------------------------------------------------------------

namespace QuestionQuery

namespace ParseTree

theorem wordsOf_eq_flatMap
    (ts : List ParseTree) :
    wordsOf ts = ts.flatMap words := by
  induction ts with
  | nil => rfl
  | cons t ts ih => simp [wordsOf, ih]

theorem mapWordsOf_eq_map
    (f : Word → Word)
    (ts : List ParseTree) :
    mapWordsOf f ts = ts.map (mapWords f) := by
  induction ts with
  | nil => rfl
  | cons t ts ih => simp [mapWordsOf, ih]

/- The root is changed as all words are. -/
@[simp]
theorem word_mapWords
    (f : Word → Word)
    (t : ParseTree) :
    (t.mapWords f).word = f t.word := by
  cases t
  rfl

@[simp]
theorem children_mapWords
    (f : Word → Word)
    (t : ParseTree) :
    (t.mapWords f).children = t.children.map (mapWords f) := by
  cases t with
  | node w ts => exact mapWordsOf_eq_map f ts

/- Changing words leaves leaves. -/
@[simp]
theorem isLeaf_mapWords
    (f : Word → Word)
    (t : ParseTree) :
    (t.mapWords f).isLeaf = t.isLeaf := by
  simp [isLeaf]

end ParseTree

end QuestionQuery

------------------------------------------------------------
-- Places
------------------------------------------------------------

namespace QuestionQuery

namespace ParseTree

@[simp]
theorem at?_nil
    (t : ParseTree) :
    t.at? [] = some t :=
  rfl

/- A step down goes to a child. -/
theorem at?_cons
    (i : Nat)
    (path : List Nat)
    (t : ParseTree) :
    t.at? (i :: path) = t.children[i]?.bind (at? path) := by
  cases t
  rfl

/- A word of a tree is at some place of it. -/
private theorem exists_at?_of_mem_words
    {w : Word}
    {t : ParseTree}
    (hMember : w ∈ t.words) :
    ∃ path s, t.at? path = some s ∧ s.word = w := by
  induction t using ParseTree.rec
      (motive_2 := fun ts =>
        ∀ u ∈ ts, w ∈ u.words →
          ∃ path s, u.at? path = some s ∧ s.word = w) with
  | node v ts ih =>
      rcases List.mem_cons.mp hMember with rfl | hBelow
      · exact ⟨[], _, rfl, rfl⟩
      · rw [wordsOf_eq_flatMap] at hBelow
        rcases List.mem_flatMap.mp hBelow with ⟨u, hChild, hWord⟩
        rcases ih u hChild hWord with ⟨path, s, hPlace, hAt⟩
        rcases List.mem_iff_getElem?.mp hChild with ⟨i, hIndex⟩
        refine ⟨i :: path, s, ?_, hAt⟩
        simp [at?_cons, children, hIndex, hPlace]
  | nil u hChild => simp at hChild
  | cons t ts ih ihs u hChild hWord =>
      rcases List.mem_cons.mp hChild with rfl | hLater
      · exact ih hWord
      · exact ihs u hLater hWord

/- The word at a place of a tree is a word of it. -/
private theorem word_mem_words_of_at?
    {path : List Nat}
    {s t : ParseTree}
    (hPlace : t.at? path = some s) :
    s.word ∈ t.words := by
  induction path generalizing t with
  | nil =>
      rcases Option.some.inj hPlace with rfl
      cases t
      exact List.mem_cons_self
  | cons i path ih =>
      rw [at?_cons] at hPlace
      rcases Option.bind_eq_some_iff.mp hPlace with
        ⟨u, hChild, hBelow⟩
      cases t with
      | node v ts =>
          apply List.mem_cons_of_mem
          rw [wordsOf_eq_flatMap]
          exact List.mem_flatMap.mpr
            ⟨u, List.mem_of_getElem? hChild, ih hBelow⟩

/- The words of a tree are the words at its places. -/
theorem mem_words_iff_exists_at?
    {w : Word}
    {t : ParseTree} :
    w ∈ t.words ↔
      ∃ path s, t.at? path = some s ∧ s.word = w := by
  constructor
  · exact exists_at?_of_mem_words
  · rintro ⟨path, s, hPlace, rfl⟩
    exact word_mem_words_of_at? hPlace

/- Changing words changes each subtree at its place. -/
theorem at?_mapWords
    (f : Word → Word)
    (path : List Nat)
    (t : ParseTree) :
    (t.mapWords f).at? path = (t.at? path).map (mapWords f) := by
  induction path generalizing t with
  | nil => rfl
  | cons i path ih =>
      rw [at?_cons, at?_cons, children_mapWords, List.getElem?_map]
      cases t.children[i]? with
      | none => rfl
      | some u => exact ih u

/- The word at a place, if there is the place. -/
def wordAt?
    (t : ParseTree)
    (path : List Nat) : Option Word :=
  (t.at? path).map word

/- The words of a tree, once more without the subtrees. -/
theorem mem_words_iff_exists_wordAt?
    {w : Word}
    {t : ParseTree} :
    w ∈ t.words ↔ ∃ path, t.wordAt? path = some w := by
  simp [mem_words_iff_exists_at?, wordAt?]

theorem wordAt?_mapWords
    (f : Word → Word)
    (path : List Nat)
    (t : ParseTree) :
    (t.mapWords f).wordAt? path = (t.wordAt? path).map f := by
  cases hPlace : t.at? path <;>
    simp [wordAt?, at?_mapWords, hPlace]

end ParseTree

end QuestionQuery
