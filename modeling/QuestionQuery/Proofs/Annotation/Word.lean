import QuestionQuery.Annotation
import QuestionQuery.Proofs.Tree.Place

/-
  What annotating does to a single word.

  Each pass changes a word by what it knows of the word alone
  and, for the hint at the answer, of its place.  So the
  three passes are one change at every place.  A change only
  ever adds annotations, and only to verbs, to nouns and to
  words that ask.

  Key definitions include:
    * `Annotator.onWord`
    * `Annotator.FindsNothing`

  Main statements:
    * `Annotator.wordAt?_annotate`
    * `Annotator.onWord_eq_self`
    * `Annotator.annotations_onWord_eq_empty_iff_of_otherNoun`
    * `Annotator.annotations_onWord_eq_empty_iff_of_isWhWord`
-/

------------------------------------------------------------
-- Annotated Words
------------------------------------------------------------

namespace QuestionQuery

namespace Word

variable {w : Word}
variable {uris : List String}

@[simp]
theorem label_annotate :
    (w.annotate uris).label = w.label :=
  rfl

@[simp]
theorem baseForm_annotate :
    (w.annotate uris).baseForm = w.baseForm :=
  rfl

@[simp]
theorem partOfSpeech_annotate :
    (w.annotate uris).partOfSpeech = w.partOfSpeech :=
  rfl

/- Annotating with nothing is no change. -/
@[simp]
theorem annotate_nil :
    w.annotate [] = w := by
  have hSame : w.annotations.insertAll [] = w.annotations := by
    ext uri
    simp
  rw [annotate, hSame]

/- Annotating twice is annotating with all resources. -/
theorem annotate_annotate
    {others : List String} :
    (w.annotate uris).annotate others =
      w.annotate (uris ++ others) := by
  have hSame :
      (w.annotations.insertAll uris).insertAll others =
        w.annotations.insertAll (uris ++ others) := by
    ext uri
    simp [or_assoc]
  rw [annotate, annotate, annotate, hSame]

/- A word stays without annotations if it is given none. -/
theorem annotations_annotate_eq_empty_iff :
    (w.annotate uris).annotations = .empty ↔
      w.annotations = .empty ∧ uris = [] := by
  simp only [SortedSet.eq_empty_iff_forall_notMem,
    mem_annotations_annotate, not_or, forall_and,
    List.eq_nil_iff_forall_not_mem]

end Word

end QuestionQuery

------------------------------------------------------------
-- Changes At Places
------------------------------------------------------------

namespace QuestionQuery

namespace Annotator

variable {a : Annotator}
variable {w : Word}

/-
  What the passes make of a word, given whether it hints at
  the answer and whether it is a leaf.
-/
def onWord
    (a : Annotator)
    (isHint isLeaf : Bool)
    (w : Word) : Word :=
  a.onNoun
    (a.onVerb
      (if isHint then w.annotate (a.hint isLeaf w) else w))

/- The hint changes the first word below the root. -/
theorem wordAt?_projectionPass
    (a : Annotator)
    (t : ParseTree)
    (path : List Nat) :
    (a.projectionPass t).wordAt? path =
      (t.at? path).map fun s =>
        if path = [0] then
          s.word.annotate (a.hint s.isLeaf s.word)
        else
          s.word := by
  rcases t with ⟨w, _ | ⟨t, ts⟩⟩
  · cases path with
    | nil => rfl
    | cons i path => rfl
  · cases path with
    | nil => rfl
    | cons i path =>
        cases i with
        | succ i =>
            simp [ParseTree.wordAt?, projectionPass,
              ParseTree.at?_cons, ParseTree.children]
        | zero =>
            cases path with
            | nil =>
                cases t
                rfl
            | cons j path =>
                cases t
                simp [ParseTree.wordAt?, projectionPass,
                  ParseTree.at?_cons, ParseTree.children,
                  ParseTree.mapRoot]

/- The passes change each word at its place. -/
theorem wordAt?_annotate
    (a : Annotator)
    (t : ParseTree)
    (path : List Nat) :
    (a.annotate t).wordAt? path =
      (t.at? path).map fun s =>
        a.onWord (path = [0]) s.isLeaf s.word := by
  simp only [annotate, nounPass, verbPass,
    ParseTree.wordAt?_mapWords, wordAt?_projectionPass,
    Option.map_map]
  congr 1
  funext s
  by_cases hHint : path = [0] <;> simp [onWord, hHint]

/- The words of an annotated tree are changed words. -/
theorem mem_words_annotate_iff
    {t : ParseTree} :
    w ∈ (a.annotate t).words ↔
      ∃ path s,
        t.at? path = some s ∧
          a.onWord (path = [0]) s.isLeaf s.word = w := by
  simp [ParseTree.mem_words_iff_exists_wordAt?,
    wordAt?_annotate]

end Annotator

end QuestionQuery

------------------------------------------------------------
-- What Stays
------------------------------------------------------------

namespace QuestionQuery

namespace Annotator

variable {a : Annotator}
variable {isHint isLeaf : Bool}
variable {w : Word}

/- Every pass leaves a word or annotates it. -/
private theorem exists_onVerb_eq_annotate
    (a : Annotator)
    (w : Word) :
    ∃ uris, a.onVerb w = w.annotate uris := by
  rw [onVerb]
  split
  · exact ⟨_, rfl⟩
  · exact ⟨[], Word.annotate_nil.symm⟩

private theorem exists_onNoun_eq_annotate
    (a : Annotator)
    (w : Word) :
    ∃ uris, a.onNoun w = w.annotate uris := by
  rw [onNoun]
  split
  · exact ⟨_, rfl⟩
  · exact ⟨[], Word.annotate_nil.symm⟩

/- All passes together annotate a word, if they change it. -/
theorem exists_onWord_eq_annotate
    (a : Annotator)
    (isHint isLeaf : Bool)
    (w : Word) :
    ∃ uris, a.onWord isHint isLeaf w = w.annotate uris := by
  let hints := if isHint then a.hint isLeaf w else []
  have hHinted :
      (if isHint then w.annotate (a.hint isLeaf w) else w) =
        w.annotate hints := by
    cases isHint <;> simp [hints]
  rcases exists_onVerb_eq_annotate a (w.annotate hints) with
    ⟨verbs, hVerb⟩
  rcases exists_onNoun_eq_annotate a
      ((w.annotate hints).annotate verbs) with
    ⟨nouns, hNoun⟩
  refine ⟨hints ++ verbs ++ nouns, ?_⟩
  rw [onWord, hHinted, hVerb, hNoun, Word.annotate_annotate,
    Word.annotate_annotate, List.append_assoc]

/- The passes change no label and no part of speech. -/
@[simp]
theorem label_onWord :
    (a.onWord isHint isLeaf w).label = w.label := by
  rcases exists_onWord_eq_annotate a isHint isLeaf w with
    ⟨_, hWord⟩
  simp [hWord]

@[simp]
theorem partOfSpeech_onWord :
    (a.onWord isHint isLeaf w).partOfSpeech =
      w.partOfSpeech := by
  rcases exists_onWord_eq_annotate a isHint isLeaf w with
    ⟨_, hWord⟩
  simp [hWord]

/- The passes take no annotation away. -/
theorem mem_annotations_onWord
    {uri : String}
    (hUri : uri ∈ w.annotations) :
    uri ∈ (a.onWord isHint isLeaf w).annotations := by
  rcases exists_onWord_eq_annotate a isHint isLeaf w with
    ⟨_, hWord⟩
  simp [hWord, hUri]

/- The passes change only verbs, nouns and words that ask. -/
theorem onWord_eq_self
    (hVerb : w.partOfSpeech ≠ .verb)
    (hNoun : ¬ w.partOfSpeech.isNoun)
    (hWh : ¬ w.partOfSpeech.isWhWord) :
    a.onWord isHint isLeaf w = w := by
  have hHint : a.hint isLeaf w = [] := by
    simp [hint, hNoun, hWh]
  simp [onWord, hHint, onVerb, onNoun, hVerb, hNoun]

end Annotator

end QuestionQuery

------------------------------------------------------------
-- What Is Found
------------------------------------------------------------

namespace QuestionQuery

namespace Annotator

variable {a : Annotator}
variable {isHint isLeaf : Bool}
variable {w : Word}

/-
  Is a noun not to be looked up, or found neither under its
  label nor under its base form, if it has one?
-/
def FindsNothing
    (a : Annotator)
    (w : Word) : Prop :=
  w.label ∈ a.blacklist ∨
    (a.lexicon.classes w.label = [] ∧
      a.lexicon.properties w.label = [] ∧
      a.lexicon.entities w.label = [] ∧
      ∀ form ∈ w.baseForm,
        a.lexicon.classes form = [] ∧
          a.lexicon.properties form = [] ∧
          a.lexicon.entities form = [])

/- A noun has no resources if all look-ups fail. -/
private theorem nounResources_eq_nil_iff :
    a.nounResources w = [] ↔
      a.lexicon.classes w.label = [] ∧
        a.lexicon.properties w.label = [] ∧
        a.lexicon.entities w.label = [] ∧
        ∀ form ∈ w.baseForm,
          a.lexicon.classes form = [] ∧
            a.lexicon.properties form = [] ∧
            a.lexicon.entities form = [] := by
  cases hForm : w.baseForm <;>
    simp only [nounResources, hForm] <;>
    split_ifs <;>
    simp_all

/- A noun finds nothing if it may not or has no resources. -/
private theorem findsNothing_iff :
    a.FindsNothing w ↔
      w.label ∈ a.blacklist ∨ a.nounResources w = [] := by
  rw [FindsNothing, nounResources_eq_nil_iff]

/- A noun that finds nothing hints at nothing either. -/
private theorem hint_eq_nil_of_findsNothing
    (isLeaf : Bool)
    (hTag : w.partOfSpeech = .otherNoun)
    (hNothing : a.FindsNothing w) :
    a.hint isLeaf w = [] := by
  have hLabel : hintLabel w = w.label := by
    simp [hintLabel, hTag]
  rcases hNothing with
    hBlack | ⟨hClasses, hProperties, hEntities, _⟩
  · simp [hint, isBlacklisted, hBlack]
  · simp [hint, hTag, PartOfSpeech.isWhWord, hLabel, nounHint,
      hClasses, hProperties, hEntities]

/- A noun is left as it is found to be, or finds nothing. -/
private theorem annotations_onNoun_eq_empty_iff
    (hNoun : w.partOfSpeech.isNoun) :
    (a.onNoun w).annotations = .empty ↔
      w.annotations = .empty ∧ a.FindsNothing w := by
  by_cases hPlain : w.annotations = .empty
  · have hNot := Word.isAnnotated_eq_false_iff.mpr hPlain
    by_cases hBlack : w.label ∈ a.blacklist
    · simp [onNoun, hNoun, hNot, isBlacklisted, hBlack,
        FindsNothing, hPlain]
    · simp [onNoun, hNoun, hNot, isBlacklisted, hBlack,
        findsNothing_iff, hPlain,
        Word.annotations_annotate_eq_empty_iff]
  · have hAnnotated := Word.isAnnotated_iff.mpr hPlain
    simp [onNoun, hAnnotated, hPlain]

/-
  A noun of an unusual tag stays without annotations just if
  it finds nothing, wherever it stands.
-/
theorem annotations_onWord_eq_empty_iff_of_otherNoun
    (hTag : w.partOfSpeech = .otherNoun)
    (hPlain : w.annotations = .empty) :
    (a.onWord isHint isLeaf w).annotations = .empty ↔
      a.FindsNothing w := by
  let hinted :=
    if isHint then w.annotate (a.hint isLeaf w) else w
  have hVerb : a.onVerb hinted = hinted := by
    cases isHint <;> simp [hinted, onVerb, hTag]
  have hNoun : hinted.partOfSpeech.isNoun := by
    cases isHint <;> simp [hinted, hTag, PartOfSpeech.isNoun]
  have hNothing : a.FindsNothing hinted ↔ a.FindsNothing w := by
    cases isHint <;> simp [hinted, FindsNothing]
  change (a.onNoun (a.onVerb hinted)).annotations = .empty ↔ _
  rw [hVerb, annotations_onNoun_eq_empty_iff hNoun, hNothing]
  constructor
  · exact And.right
  · intro hMiss
    refine ⟨?_, hMiss⟩
    cases isHint with
    | false => exact hPlain
    | true =>
        simp [hinted, hPlain,
          hint_eq_nil_of_findsNothing isLeaf hTag hMiss]

/-
  A word that asks gets an annotation just if it is one of
  two words and stands where the hint at the answer stands.
-/
theorem annotations_onWord_eq_empty_iff_of_isWhWord
    (hTag : w.partOfSpeech.isWhWord)
    (hPlain : w.annotations = .empty) :
    (a.onWord isHint isLeaf w).annotations = .empty ↔
      ¬ (isHint ∧ w.label ∉ a.blacklist ∧
        (w.label = "Where" ∨ w.label = "Who")) := by
  have hVerb : w.partOfSpeech ≠ .verb := by
    intro hVerb
    simp [hVerb, PartOfSpeech.isWhWord] at hTag
  have hNoun : ¬ w.partOfSpeech.isNoun := by
    cases hPart : w.partOfSpeech <;>
      simp_all [PartOfSpeech.isWhWord, PartOfSpeech.isNoun]
  have hHints :
      whHint w.label = [] ↔
        ¬ (w.label = "Where" ∨ w.label = "Who") := by
    rw [whHint]
    split_ifs <;> simp_all
  cases isHint with
  | false => simp [onWord, onVerb, onNoun, hVerb, hNoun, hPlain]
  | true =>
      by_cases hBlack : w.label ∈ a.blacklist
      · simp [onWord, onVerb, onNoun, hVerb, hNoun, hPlain,
          hint, isBlacklisted, hBlack]
      · simp [onWord, onVerb, onNoun, hVerb, hNoun, hPlain,
          hint, isBlacklisted, hBlack, hTag, hHints,
          Word.annotations_annotate_eq_empty_iff]

end Annotator

end QuestionQuery
