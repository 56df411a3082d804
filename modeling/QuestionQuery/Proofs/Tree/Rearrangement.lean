import Mathlib.Data.List.Perm.Basic
import QuestionQuery.Proofs.Tree.Place

/-
  Trees of the same words.

  A change at a place leaves all words above and beside that
  place.  So a tree keeps its words, up to their order, when
  siblings change their order or a subtree moves to another
  place, and it keeps all but the base forms when only those
  change.

  Key definitions include:
    * `Word.withBaseForm`
    * `ParseTree.dropChild`
    * `ParseTree.Rearranges`

  Main statements:
    * `ParseTree.exists_perm_words_modifyAt`
    * `ParseTree.Rearranges.perm_map_words`
-/

------------------------------------------------------------
-- Changes At A Place
------------------------------------------------------------

namespace QuestionQuery

namespace ParseTree

/- The words of a node are its own and those of its children. -/
theorem words_node
    (w : Word)
    (ts : List ParseTree) :
    (node w ts).words = w :: ts.flatMap words := by
  rw [words, wordsOf_eq_flatMap]

/- The words of a list of trees are those of one and the rest. -/
private theorem perm_flatMap_words
    {ts : List ParseTree}
    {i : Nat}
    (hIndex : i < ts.length) :
    (ts.flatMap words).Perm
      (ts[i].words ++ (ts.eraseIdx i).flatMap words) := by
  have hSplit : ts.Perm (ts[i] :: ts.eraseIdx i) :=
    (List.getElem_cons_eraseIdx_perm hIndex).symm
  exact hSplit.flatMap_right words

/- A change of a subtree changes no other words. -/
theorem exists_perm_words_modifyAt
    {t s : ParseTree}
    {path : List Nat}
    (hPlace : t.at? path = some s) :
    ∃ others,
      t.words.Perm (s.words ++ others) ∧
        ∀ f, (t.modifyAt f path).words.Perm
          ((f s).words ++ others) := by
  induction path generalizing t with
  | nil =>
      rcases Option.some.inj hPlace with rfl
      exact ⟨[], by simp, fun f => by simp [modifyAt]⟩
  | cons i path ih =>
      rcases t with ⟨w, ts⟩
      rcases Option.bind_eq_some_iff.mp hPlace with
        ⟨u, hChild, hBelow⟩
      rcases ih hBelow with ⟨others, hWords, hChange⟩
      rcases List.getElem?_eq_some_iff.mp hChild with
        ⟨hIndex, rfl⟩
      refine ⟨others ++ w :: (ts.eraseIdx i).flatMap words, ?_, ?_⟩
      · rw [words_node, ← List.append_assoc]
        refine List.Perm.trans ?_ List.perm_middle.symm
        apply List.Perm.cons
        exact (perm_flatMap_words hIndex).trans
          (hWords.append_right _)
      · intro f
        have hSame :
            (ts.modify i (modifyAt f path)).eraseIdx i =
              ts.eraseIdx i := by
          simp [List.eraseIdx_modify_of_eq]
        have hIndex' :
            i < (ts.modify i (modifyAt f path)).length := by
          simpa using hIndex
        have hRest := perm_flatMap_words hIndex'
        rw [List.getElem_modify_eq, hSame] at hRest
        rw [modifyAt, words_node, ← List.append_assoc]
        refine List.Perm.trans ?_ List.perm_middle.symm
        apply List.Perm.cons
        exact hRest.trans ((hChange f).append_right _)

/- A change of a subtree keeps the words if it keeps its own. -/
theorem perm_map_words_modifyAt
    {α : Type}
    {view : Word → α}
    {f : ParseTree → ParseTree}
    {t s : ParseTree}
    {path : List Nat}
    (hPlace : t.at? path = some s)
    (hKeeps :
      ((f s).words.map view).Perm (s.words.map view)) :
    ((t.modifyAt f path).words.map view).Perm
      (t.words.map view) := by
  rcases exists_perm_words_modifyAt hPlace with
    ⟨others, hWords, hChange⟩
  calc
    List.Perm _ (((f s).words ++ others).map view) :=
      (hChange f).map view
    List.Perm _ ((s.words ++ others).map view) := by
      rw [List.map_append, List.map_append]
      exact hKeeps.append_right _
    List.Perm _ (t.words.map view) :=
      hWords.symm.map view

end ParseTree

end QuestionQuery

------------------------------------------------------------
-- Rearrangements
------------------------------------------------------------

namespace QuestionQuery

/- A word with another base form, or without one. -/
def Word.withBaseForm
    (form : Option String)
    (w : Word) : Word :=
  { w with baseForm := form }

namespace ParseTree

/- A tree without one of the trees below its root. -/
def dropChild
    (i : Nat) : ParseTree → ParseTree
  | .node w ts => .node w (ts.eraseIdx i)

/-
  A tree is rearranged by putting the trees below some word
  in another order, by moving a subtree below another word,
  or by giving a word another base form.
-/
inductive Rearranges : ParseTree → ParseTree → Prop
  | siblings
      {t s : ParseTree}
      {path : List Nat}
      {us : List ParseTree}
      (hPlace : t.at? path = some s)
      (hOrder : us.Perm s.children) :
      Rearranges t (t.modifyAt (fun _ => .node s.word us) path)
  | move
      {t s u r : ParseTree}
      {path target : List Nat}
      {i : Nat}
      (hPlace : t.at? path = some s)
      (hChild : s.children[i]? = some u)
      (hTarget :
        (t.modifyAt (dropChild i) path).at? target = some r) :
      Rearranges t
        ((t.modifyAt (dropChild i) path).modifyAt (addChild u)
          target)
  | baseForm
      {t s : ParseTree}
      {path : List Nat}
      (form : Option String)
      (hPlace : t.at? path = some s) :
      Rearranges t
        (t.modifyAt (mapRoot (Word.withBaseForm form)) path)

/- The words of a tree are those of a child and all others. -/
private theorem perm_words_dropChild
    {t u : ParseTree}
    {i : Nat}
    (hChild : t.children[i]? = some u) :
    t.words.Perm (u.words ++ (t.dropChild i).words) := by
  rcases t with ⟨w, ts⟩
  rcases List.getElem?_eq_some_iff.mp hChild with
    ⟨hIndex, rfl⟩
  rw [dropChild, words_node, words_node]
  refine List.Perm.trans ?_ List.perm_middle.symm
  apply List.Perm.cons
  exact perm_flatMap_words hIndex

/- One more tree below the root comes with its words. -/
private theorem words_addChild
    (t u : ParseTree) :
    (addChild u t).words = t.words ++ u.words := by
  rcases t with ⟨w, ts⟩
  simp [addChild, words_node]

/- What is taken out at one place is put in at another one. -/
private theorem perm_words_move
    {t s u r : ParseTree}
    {path target : List Nat}
    {i : Nat}
    (hPlace : t.at? path = some s)
    (hChild : s.children[i]? = some u)
    (hTarget :
      (t.modifyAt (dropChild i) path).at? target = some r) :
    t.words.Perm
      ((t.modifyAt (dropChild i) path).modifyAt (addChild u)
        target).words := by
  rcases exists_perm_words_modifyAt hPlace with
    ⟨others, hWords, hDrop⟩
  rcases exists_perm_words_modifyAt hTarget with
    ⟨others', hRest, hAdd⟩
  calc
    List.Perm _ (s.words ++ others) := hWords
    List.Perm _ (u.words ++ ((s.dropChild i).words ++ others)) := by
      rw [← List.append_assoc]
      exact (perm_words_dropChild hChild).append_right others
    List.Perm _ (u.words ++ (r.words ++ others')) :=
      ((hDrop (dropChild i)).symm.trans hRest).append_left u.words
    List.Perm _ (r.words ++ u.words ++ others') := by
      rw [← List.append_assoc]
      exact List.perm_append_comm.append_right others'
    List.Perm _ _ := by
      rw [← words_addChild]
      exact (hAdd (addChild u)).symm

/-
  A rearranged tree has the same words up to their order, as
  far as base forms do not matter.
-/
theorem Rearranges.perm_map_words
    {α : Type}
    {view : Word → α}
    {s t : ParseTree}
    (hBaseForm : ∀ form w, view (w.withBaseForm form) = view w)
    (hRearranges : Rearranges s t) :
    (s.words.map view).Perm (t.words.map view) := by
  cases hRearranges with
  | @siblings r path us hPlace hOrder =>
      apply List.Perm.symm
      apply perm_map_words_modifyAt hPlace
      rcases r with ⟨w, ts⟩
      rw [words_node, words_node]
      exact ((hOrder.flatMap_right words).cons w).map view
  | move hPlace hChild hTarget =>
      exact (perm_words_move hPlace hChild hTarget).map view
  | @baseForm r path form hPlace =>
      apply List.Perm.symm
      apply perm_map_words_modifyAt hPlace
      rcases r with ⟨w, ts⟩
      simp [mapRoot, words_node, hBaseForm]

end ParseTree

end QuestionQuery
