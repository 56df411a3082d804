import QuestionQuery.Proofs.Annotation.Word
import QuestionQuery.Proofs.Sorted.Union

/-
  The annotations of a word, said word by word.

  Although the passes see what earlier passes have done, each
  word ends up with annotations that depend on nothing but
  the word itself, whether it may be looked up, whether it
  hints at the answer, and whether it is a leaf.  Apart from
  annotations the tree stays as it is.

  Key definitions include:
    * `Lexicon.firstFound`
    * `Lexicon.resources`
    * `Word.bare`

  Main statements:
    * `Annotator.annotations_onWord`
    * `Annotator.bare_annotate`
    * `Annotator.annotate_eq_reference`
-/

------------------------------------------------------------
-- Resources Of A Word
------------------------------------------------------------

namespace QuestionQuery

namespace Lexicon

/- The first of some answers that is not empty, if any is. -/
def firstFound : List (List String) → SortedSet String
  | [] => .empty
  | answer :: others =>
    if answer = [] then firstFound others else .ofList answer

/- The type that a word that asks for the answer stands for. -/
def askedType
    (label : String) : SortedSet String :=
  match label with
  | "Where" => .singleton "http://dbpedia.org/ontology/Place"
  | "Who" => .singleton "http://dbpedia.org/ontology/Agent"
  | _ => .empty

/- What a noun that hints at the answer stands for. -/
def hintedAt
    (lexicon : Lexicon)
    (isLeaf : Bool)
    (w : Word) : SortedSet String :=
  let name :=
    if w.partOfSpeech = .pluralNoun then
      w.baseForm.getD w.label
    else
      w.label
  if isLeaf then
    .ofList (lexicon.classes name)
  else
    firstFound
      [lexicon.classes name ++ lexicon.properties name,
        lexicon.entities name]

/- What a verb stands for. -/
def verbMeaning
    (lexicon : Lexicon)
    (w : Word) : SortedSet String :=
  firstFound
    [lexicon.properties w.label,
      match w.baseForm with
      | some form => lexicon.properties form
      | none => lexicon.entities w.label]

/- What a noun stands for that nothing is known of. -/
def nounMeaning
    (lexicon : Lexicon)
    (w : Word) : SortedSet String :=
  firstFound
    [lexicon.classes w.label, lexicon.properties w.label,
      lexicon.entities w.label,
      match w.baseForm with
      | some form =>
        lexicon.classes form ++ lexicon.properties form ++
          lexicon.entities form
      | none => []]

/-
  The annotations that a word ends up with, given those it
  has.  A word that may not be looked up keeps them.
-/
def resources
    (lexicon : Lexicon)
    (isBlacklisted isHint isLeaf : Bool)
    (w : Word) : SortedSet String :=
  if isBlacklisted then
    w.annotations
  else
    match w.partOfSpeech with
    | .whAdverb
    | .whPronoun =>
      if isHint then
        w.annotations ∪ askedType w.label
      else
        w.annotations
    | .verb => w.annotations ∪ lexicon.verbMeaning w
    | .noun
    | .pluralNoun
    | .properNoun
    | .otherNoun =>
      let known :=
        if isHint then
          w.annotations ∪ lexicon.hintedAt isLeaf w
        else
          w.annotations
      if known = .empty then lexicon.nounMeaning w else known
    | _ => w.annotations

end Lexicon

end QuestionQuery

------------------------------------------------------------
-- Look-Ups
------------------------------------------------------------

namespace QuestionQuery

namespace Lexicon

/- Later answers are looked at if the first one is empty. -/
theorem firstFound_cons_cons
    (answer next : List String)
    (others : List (List String)) :
    firstFound (answer :: next :: others) =
      if answer = [] then
        firstFound (next :: others)
      else
        .ofList answer :=
  rfl

/- The last answer is taken, be it empty or not. -/
theorem firstFound_singleton
    (answer : List String) :
    firstFound [answer] = .ofList answer := by
  unfold firstFound
  split
  · next hNone =>
      subst hNone
      rfl
  · rfl

end Lexicon

namespace Annotator

variable {a : Annotator}
variable {w : Word}

private theorem ofList_whHint
    (label : String) :
    .ofList (whHint label) = Lexicon.askedType label := by
  unfold whHint Lexicon.askedType
  split_ifs with hWhere hWho
  · subst hWhere
    rfl
  · subst hWho
    rfl
  · split <;> trivial

private theorem hintLabel_eq
    (w : Word) :
    hintLabel w =
      if w.partOfSpeech = .pluralNoun then
        w.baseForm.getD w.label
      else
        w.label := by
  unfold hintLabel
  cases w.baseForm <;> cases w.partOfSpeech <;> rfl

private theorem ofList_nounHint
    (isLeaf : Bool) :
    .ofList (a.nounHint isLeaf (hintLabel w)) =
      a.lexicon.hintedAt isLeaf w := by
  unfold nounHint Lexicon.hintedAt
  rw [hintLabel_eq]
  cases isLeaf with
  | true => rfl
  | false =>
      simp only [Lexicon.firstFound_cons_cons,
        Lexicon.firstFound_singleton, List.isEmpty_iff,
        Bool.false_eq_true, if_false]
      exact apply_ite SortedSet.ofList _ _ _

private theorem ofList_verbResources :
    .ofList (a.verbResources w) = a.lexicon.verbMeaning w := by
  unfold verbResources Lexicon.verbMeaning
  simp only [Lexicon.firstFound_cons_cons,
    Lexicon.firstFound_singleton, List.isEmpty_iff]
  split <;> rfl

private theorem ofList_nounResources :
    .ofList (a.nounResources w) = a.lexicon.nounMeaning w := by
  unfold nounResources Lexicon.nounMeaning
  simp only [Lexicon.firstFound_cons_cons,
    Lexicon.firstFound_singleton, Bool.not_eq_true',
    List.isEmpty_eq_false_iff, ne_eq, ite_not]
  split
  · split
    · split <;> rfl
    · rfl
  · rfl

end Annotator

end QuestionQuery

------------------------------------------------------------
-- Words After All Passes
------------------------------------------------------------

namespace QuestionQuery

namespace Annotator

variable {a : Annotator}
variable {isHint isLeaf : Bool}
variable {w : Word}

/- No pass looks a blacklisted word up. -/
theorem onWord_eq_self_of_blacklisted
    (hBlack : a.isBlacklisted w) :
    a.onWord isHint isLeaf w = w := by
  have hHint : a.hint isLeaf w = [] := by
    simp [hint, hBlack]
  simp [onWord, hHint, onVerb, onNoun, hBlack]

/- Words that ask are annotated by the hint alone. -/
private theorem onWord_of_isWhWord
    (hTag : w.partOfSpeech.isWhWord)
    (hFree : a.isBlacklisted w = false) :
    a.onWord isHint isLeaf w =
      if isHint then w.annotate (whHint w.label) else w := by
  have hVerb : w.partOfSpeech ≠ .verb := by
    intro hVerb
    simp [hVerb, PartOfSpeech.isWhWord] at hTag
  have hNoun : w.partOfSpeech.isNoun = false := by
    cases hPart : w.partOfSpeech <;>
      simp_all [PartOfSpeech.isWhWord, PartOfSpeech.isNoun]
  cases isHint <;>
    simp [onWord, onVerb, onNoun, hVerb, hNoun, hint, hFree, hTag]

/- Verbs are annotated by the second pass alone. -/
private theorem onWord_of_verb
    (hTag : w.partOfSpeech = .verb)
    (hFree : a.isBlacklisted w = false) :
    a.onWord isHint isLeaf w =
      w.annotate (a.verbResources w) := by
  have hHint : a.hint isLeaf w = [] := by
    simp [hint, hTag, PartOfSpeech.isWhWord,
      PartOfSpeech.isNoun]
  simp [onWord, hHint, onVerb, onNoun, hTag, hFree,
    PartOfSpeech.isNoun]

/- A noun that is known already is not looked up. -/
private theorem annotations_onNoun
    (hTag : w.partOfSpeech.isNoun)
    (hFree : a.isBlacklisted w = false) :
    (a.onNoun w).annotations =
      if w.annotations = .empty then
        a.lexicon.nounMeaning w
      else
        w.annotations := by
  unfold onNoun
  by_cases hPlain : w.annotations = .empty
  · have hNot := Word.isAnnotated_eq_false_iff.mpr hPlain
    simp [hTag, hNot, hFree, hPlain, Word.annotate,
      SortedSet.insertAll, ofList_nounResources]
  · have hAnnotated := Word.isAnnotated_iff.mpr hPlain
    simp [hAnnotated, hPlain]

/- A noun is looked up after the hint. -/
private theorem onWord_of_isNoun
    (hTag : w.partOfSpeech.isNoun)
    (hFree : a.isBlacklisted w = false) :
    a.onWord isHint isLeaf w =
      a.onNoun
        (if isHint then
          w.annotate (a.nounHint isLeaf (hintLabel w))
        else
          w) := by
  have hVerb : w.partOfSpeech ≠ .verb := by
    intro hVerb
    simp [hVerb, PartOfSpeech.isNoun] at hTag
  have hWh : w.partOfSpeech.isWhWord = false := by
    cases hPart : w.partOfSpeech <;>
      simp_all [PartOfSpeech.isWhWord, PartOfSpeech.isNoun]
  cases isHint <;>
    simp [onWord, onVerb, hVerb, hint, hFree, hWh, hTag]

/- The annotations of a noun after all passes. -/
private theorem annotations_onWord_of_isNoun
    (hTag : w.partOfSpeech.isNoun)
    (hFree : a.isBlacklisted w = false) :
    (a.onWord isHint isLeaf w).annotations =
      let known :=
        if isHint then
          w.annotations ∪ a.lexicon.hintedAt isLeaf w
        else
          w.annotations
      if known = .empty then
        a.lexicon.nounMeaning w
      else
        known := by
  rw [onWord_of_isNoun hTag hFree]
  cases isHint with
  | false => exact annotations_onNoun hTag hFree
  | true =>
      have hHinted :
          (w.annotate
              (a.nounHint isLeaf (hintLabel w))).annotations =
            w.annotations ∪ a.lexicon.hintedAt isLeaf w := by
        rw [← ofList_nounHint]
        rfl
      have hNoun :=
        @annotations_onNoun a
          (w.annotate (a.nounHint isLeaf (hintLabel w)))
          hTag hFree
      rw [hHinted] at hNoun
      exact hNoun

/-
  After all passes a word has the annotations that the rule
  for its part of speech gives it.
-/
theorem annotations_onWord
    (a : Annotator)
    (isHint isLeaf : Bool)
    (w : Word) :
    (a.onWord isHint isLeaf w).annotations =
      a.lexicon.resources (a.isBlacklisted w) isHint isLeaf w := by
  unfold Lexicon.resources
  cases hFree : a.isBlacklisted w with
  | true => rw [onWord_eq_self_of_blacklisted hFree, if_pos rfl]
  | false =>
      rw [if_neg Bool.false_ne_true]
      cases hTag : w.partOfSpeech with
      | whAdverb
      | whPronoun =>
          have hWh : w.partOfSpeech.isWhWord := by
            simp [hTag, PartOfSpeech.isWhWord]
          rw [onWord_of_isWhWord hWh hFree, ← ofList_whHint]
          cases isHint <;> rfl
      | verb =>
          rw [onWord_of_verb hTag hFree, ← ofList_verbResources]
          rfl
      | noun
      | pluralNoun
      | properNoun
      | otherNoun =>
          have hNoun : w.partOfSpeech.isNoun := by
            simp [hTag, PartOfSpeech.isNoun]
          exact annotations_onWord_of_isNoun hNoun hFree
      | _ =>
          have hSelf : a.onWord isHint isLeaf w = w := by
            apply onWord_eq_self <;>
              simp [hTag, PartOfSpeech.isNoun,
                PartOfSpeech.isWhWord]
          rw [hSelf]

end Annotator

end QuestionQuery

------------------------------------------------------------
-- What Stays Of A Tree
------------------------------------------------------------

namespace QuestionQuery

namespace Word

/- A word without its annotations. -/
def bare
    (w : Word) : Word :=
  { w with annotations := .empty }

/- Annotating is all that can be taken back. -/
@[simp]
theorem bare_annotate
    (w : Word)
    (uris : List String) :
    (w.annotate uris).bare = w.bare :=
  rfl

end Word

namespace ParseTree

/- Changing words twice is changing them once by both. -/
theorem mapWords_mapWords
    (f g : Word → Word)
    (t : ParseTree) :
    (t.mapWords f).mapWords g = t.mapWords (fun w => g (f w)) := by
  induction t using ParseTree.rec
      (motive_2 := fun ts =>
        mapWordsOf g (mapWordsOf f ts) =
          mapWordsOf (fun w => g (f w)) ts) with
  | node w ts ih => simp [mapWords, ih]
  | nil => rfl
  | cons t ts ih ihs => simp [mapWordsOf, ih, ihs]

end ParseTree

namespace Annotator

/- The hint leaves all but annotations. -/
theorem bare_projectionPass
    (a : Annotator)
    (t : ParseTree) :
    (a.projectionPass t).mapWords Word.bare =
      t.mapWords Word.bare := by
  rcases t with ⟨w, _ | ⟨⟨v, us⟩, ts⟩⟩
  · rfl
  · simp [projectionPass, ParseTree.mapRoot, ParseTree.mapWords,
      ParseTree.mapWordsOf]

/- The other passes leave all but annotations. -/
theorem bare_onNoun_onVerb
    (a : Annotator)
    (w : Word) :
    (a.onNoun (a.onVerb w)).bare = w.bare := by
  rcases exists_onWord_eq_annotate a false false w with
    ⟨uris, hWord⟩
  have hPasses : a.onNoun (a.onVerb w) = w.annotate uris := hWord
  rw [hPasses, Word.bare_annotate]

/- All passes leave all but annotations. -/
theorem bare_annotate
    (a : Annotator)
    (t : ParseTree) :
    (a.annotate t).mapWords Word.bare = t.mapWords Word.bare := by
  unfold annotate nounPass verbPass
  rw [ParseTree.mapWords_mapWords, ParseTree.mapWords_mapWords]
  simp only [bare_onNoun_onVerb]
  exact bare_projectionPass a t

end Annotator

end QuestionQuery
