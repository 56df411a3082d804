import QuestionQuery.Build
import QuestionQuery.Proofs.Annotation.Reference

/-
  Annotating twice is annotating once.

  The passes see another tree the second time: nouns that
  were looked up have annotations by then, and are passed
  over.  But what a word hints at, and what a verb stands
  for, depends on all of it but its annotations.  So each
  word finds again what it has found, and nothing else, and
  a question that is built twice has the same outcome.

  Main statements:
    * `ParseTree.eq_of_wordAt?_eq`
    * `Lexicon.resources_resources`
    * `Annotator.onWord_onWord`
    * `Annotator.annotate_idem`
    * `Builder.build_tree_build`
-/

------------------------------------------------------------
-- Trees By Their Places
------------------------------------------------------------

namespace QuestionQuery

namespace ParseTree

/- A step down goes to a child, and on from there. -/
theorem wordAt?_cons
    (i : Nat)
    (path : List Nat)
    (t : ParseTree) :
    t.wordAt? (i :: path) =
      t.children[i]?.bind (·.wordAt? path) := by
  rw [wordAt?, at?_cons]
  cases t.children[i]? <;> rfl

/- Trees with the same words at the same places are equal. -/
theorem eq_of_wordAt?_eq
    {s t : ParseTree}
    (hPlaces : ∀ path, s.wordAt? path = t.wordAt? path) :
    s = t := by
  -- over trees, and over lists of them by the place in the list
  induction s using ParseTree.rec
      (motive_2 := fun ss =>
        ∀ ts : List ParseTree,
          (∀ (i : Nat) (path : List Nat),
            ss[i]?.bind (wordAt? · path) =
              ts[i]?.bind (wordAt? · path)) →
            ss = ts)
      generalizing t with
  | node v ss ih =>
      cases t with
      | node w ts =>
          have hRoot : v = w := Option.some.inj (hPlaces [])
          have hChildren : ss = ts := by
            apply ih
            intro i path
            simpa [wordAt?_cons, children] using
              hPlaces (i :: path)
          rw [hRoot, hChildren]
  | nil ts hPlaces =>
      cases ts with
      | nil => rfl
      | cons t ts => simpa [wordAt?] using hPlaces 0 []
  | cons s ss ih ihs ts hPlaces =>
      cases ts with
      | nil => simpa [wordAt?] using hPlaces 0 []
      | cons t ts =>
          have hFirst : s = t :=
            ih fun path => by simpa using hPlaces 0 path
          have hOthers : ss = ts :=
            ihs ts fun i path => by
              simpa using hPlaces (i + 1) path
          rw [hFirst, hOthers]

end ParseTree

end QuestionQuery

------------------------------------------------------------
-- Words
------------------------------------------------------------

namespace QuestionQuery

namespace Lexicon

/-
  What is known of a noun stays so.  It hints at nothing new:
  what it hints at has been added, or there is no such thing.
-/
private theorem known_or_meaning_idem
    (has hinted meaning : SortedSet String) :
    let found :=
      if has ∪ hinted = .empty then meaning else has ∪ hinted
    (if found ∪ hinted = .empty then meaning else found ∪ hinted) =
      found := by
  intro found
  by_cases hKnown : has ∪ hinted = .empty
  · have hHinted : hinted = .empty := by
      rw [SortedSet.eq_empty_iff_forall_notMem] at hKnown ⊢
      intro uri hUri
      exact hKnown uri (SortedSet.mem_union.mpr (.inr hUri))
    have hFound : found = meaning := if_pos hKnown
    rw [hFound, hHinted, SortedSet.union_empty, ite_self]
  · have hFound : found = has ∪ hinted := if_neg hKnown
    rw [hFound, SortedSet.union_assoc, SortedSet.union_self,
      if_neg hKnown]

/- What a word stands for does not depend on annotations. -/
private theorem meaning_update
    (lexicon : Lexicon)
    (isLeaf : Bool)
    (w : Word)
    (uris : SortedSet String) :
    lexicon.verbMeaning { w with annotations := uris } =
        lexicon.verbMeaning w ∧
      lexicon.nounMeaning { w with annotations := uris } =
        lexicon.nounMeaning w ∧
      lexicon.hintedAt isLeaf { w with annotations := uris } =
        lexicon.hintedAt isLeaf w :=
  ⟨rfl, rfl, rfl⟩

/- A word that has its annotations is given no other ones. -/
theorem resources_resources
    (lexicon : Lexicon)
    (isBlacklisted isHint isLeaf : Bool)
    (w : Word) :
    lexicon.resources isBlacklisted isHint isLeaf
        { w with
          annotations :=
            lexicon.resources isBlacklisted isHint isLeaf w } =
      lexicon.resources isBlacklisted isHint isLeaf w := by
  have hPart
      (uris : SortedSet String) :
      ({ w with annotations := uris } : Word).partOfSpeech =
        w.partOfSpeech :=
    rfl
  cases isBlacklisted with
  | true => rfl
  | false =>
      cases hTag : w.partOfSpeech with
      | whAdverb
      | whPronoun =>
          cases isHint <;>
            simp [resources, hPart, hTag, SortedSet.union_assoc]
      | verb =>
          simp [resources, hPart, hTag, SortedSet.union_assoc,
            meaning_update lexicon isLeaf]
      | noun
      | pluralNoun
      | properNoun
      | otherNoun =>
          simp only [resources, hPart, hTag, Bool.false_eq_true,
            if_false, meaning_update lexicon isLeaf]
          -- a noun that is no hint hints at the empty set
          cases isHint with
          | true => exact known_or_meaning_idem _ _ _
          | false =>
              simpa using
                known_or_meaning_idem w.annotations .empty
                  (lexicon.nounMeaning w)
      | _ => simp [resources, hPart, hTag]

end Lexicon

end QuestionQuery

------------------------------------------------------------
-- Trees And Questions
------------------------------------------------------------

namespace QuestionQuery

namespace Annotator

/- A word that was annotated is the word but for annotations. -/
theorem onWord_eq
    (a : Annotator)
    (isHint isLeaf : Bool)
    (w : Word) :
    a.onWord isHint isLeaf w =
      { w with
        annotations :=
          a.lexicon.resources (a.isBlacklisted w) isHint isLeaf
            w } := by
  rw [← annotations_onWord]
  rcases exists_onWord_eq_annotate a isHint isLeaf w with
    ⟨uris, hWord⟩
  rw [hWord]
  rfl

/- Annotating a word where it stands twice is once. -/
theorem onWord_onWord
    (a : Annotator)
    (isHint isLeaf : Bool)
    (w : Word) :
    a.onWord isHint isLeaf (a.onWord isHint isLeaf w) =
      a.onWord isHint isLeaf w := by
  have hBlack :
      a.isBlacklisted (a.onWord isHint isLeaf w) =
        a.isBlacklisted w := by
    rw [isBlacklisted, label_onWord, isBlacklisted]
  rw [onWord_eq a isHint isLeaf (a.onWord isHint isLeaf w), hBlack,
    onWord_eq a isHint isLeaf w, Lexicon.resources_resources]

/- The leaves of an annotated tree stand where they stood. -/
theorem map_isLeaf_at?_annotate
    (a : Annotator)
    (t : ParseTree)
    (path : List Nat) :
    ((a.annotate t).at? path).map ParseTree.isLeaf =
      (t.at? path).map ParseTree.isLeaf := by
  have hBare :=
    congrArg (fun u => (u.at? path).map ParseTree.isLeaf)
      (bare_annotate a t)
  simpa [ParseTree.at?_mapWords, Function.comp_def] using hBare

/- The second time every word is found as it was left. -/
theorem annotate_idem
    (a : Annotator)
    (t : ParseTree) :
    a.annotate (a.annotate t) = a.annotate t := by
  apply ParseTree.eq_of_wordAt?_eq
  intro path
  have hLeaf := map_isLeaf_at?_annotate a t path
  have hWord := wordAt?_annotate a t path
  rw [wordAt?_annotate a (a.annotate t) path, hWord]
  rw [ParseTree.wordAt?] at hWord
  cases hPlace : t.at? path with
  | none => simpa [hPlace] using hWord
  | some s =>
      rcases Option.map_eq_some_iff.mp
          (hWord.trans (congrArg _ hPlace)) with
        ⟨u, hAnnotated, hSame⟩
      rw [hPlace, hAnnotated, Option.map_some, Option.map_some,
        Option.some.injEq] at hLeaf
      rw [hAnnotated, Option.map_some, Option.map_some, hLeaf,
        hSame, onWord_onWord]

end Annotator

namespace Builder

/-
  Whatever a tree has been annotated with, annotating it once
  more after it was annotated changes nothing.  So a question
  that is built again, from the tree that it was left with,
  keeps that tree and has the same candidates, the same
  report and the same queries.
-/
theorem build_tree_build :
    (∀ (a : Annotator) (t : ParseTree),
      a.annotate (a.annotate t) = a.annotate t) ∧
    ∀ (b : Builder) (t : ParseTree),
      b.build (b.build t).tree = b.build t := by
  refine ⟨Annotator.annotate_idem, ?_⟩
  intro b t
  have hTree :
      b.annotator.annotate (b.build t).tree = (b.build t).tree :=
    Annotator.annotate_idem b.annotator t
  rw [build, hTree]
  rfl

end Builder

end QuestionQuery
