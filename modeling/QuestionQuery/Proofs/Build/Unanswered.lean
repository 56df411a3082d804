import QuestionQuery.Build
import QuestionQuery.Proofs.Annotation.Word
import QuestionQuery.Proofs.Generation.Choice

/-
  When a question yields no query.

  Every candidate is written as two queries, so there is no
  query just if there is no candidate, which is to say that
  some word of the annotated tree has no rule.  Annotating
  never takes a rule away.  What is left are the words that
  have no rule without annotations and do not get any.

  Main statements:
    * `Annotator.isSome_moves?_onWord`
    * `Builder.queriesOf_eq_empty_iff`
    * `Builder.queries_build_eq_empty_iff`
-/

------------------------------------------------------------
-- Rules Of Annotated Words
------------------------------------------------------------

namespace QuestionQuery

namespace Annotator

variable {a : Annotator}
variable {isHint isLeaf : Bool}
variable {source : LabelSource}
variable {w : Word}

/- A word with annotations keeps them. -/
private theorem isAnnotated_onWord
    (hAnnotated : w.isAnnotated) :
    (a.onWord isHint isLeaf w).isAnnotated := by
  rw [Word.isAnnotated_iff,
    SortedSet.ne_empty_iff_exists_mem] at hAnnotated ⊢
  rcases hAnnotated with ⟨uri, hUri⟩
  exact ⟨uri, mem_annotations_onWord hUri⟩

/-
  A word that has a rule has one when it is annotated.  The
  parts of speech that lose their rule by annotations are
  never given any.
-/
theorem isSome_moves?_onWord
    (hRule : (w.moves? source).isSome) :
    ((a.onWord isHint isLeaf w).moves? source).isSome := by
  rw [Word.isSome_moves?] at hRule ⊢
  rw [partOfSpeech_onWord]
  by_cases hSame :
      (a.onWord isHint isLeaf w).isAnnotated = w.isAnnotated
  · rwa [hSame]
  · have hNew : (a.onWord isHint isLeaf w).isAnnotated = true := by
      cases hOld : w.isAnnotated with
      | true => exact isAnnotated_onWord hOld
      | false => simpa [hOld] using hSame
    have hChanged : a.onWord isHint isLeaf w ≠ w :=
      fun hEq => hSame (congrArg Word.isAnnotated hEq)
    rw [hNew]
    cases hTag : w.partOfSpeech with
    | combinedNoun
    | adjective
    | cardinal
    | resolved
    | unhandled =>
        exfalso
        apply hChanged
        apply onWord_eq_self <;>
          simp [hTag, PartOfSpeech.isNoun, PartOfSpeech.isWhWord]
    | _ => rfl

/- A word without annotations that ends up without a rule. -/
theorem moves?_onWord_eq_none_iff
    (hPlain : w.annotations = .empty) :
    (a.onWord isHint isLeaf w).moves? source = none ↔
      w.partOfSpeech = .unhandled ∨
      (w.partOfSpeech = .otherNoun ∧ a.FindsNothing w) ∨
      (w.partOfSpeech = .whAdverb ∧
        ¬ (isHint ∧ w.label ∉ a.blacklist ∧
          (w.label = "Where" ∨ w.label = "Who"))) := by
  rw [← Option.not_isSome_iff_eq_none, Word.isSome_moves?,
    partOfSpeech_onWord]
  cases hTag : w.partOfSpeech with
  | otherNoun =>
      simp only [Word.hasRule, Bool.not_eq_true,
        Word.isAnnotated_eq_false_iff,
        annotations_onWord_eq_empty_iff_of_otherNoun hTag hPlain]
      simp
  | whAdverb =>
      have hWh : w.partOfSpeech.isWhWord := by
        simp [hTag, PartOfSpeech.isWhWord]
      simp only [Word.hasRule, Bool.not_eq_true,
        Word.isAnnotated_eq_false_iff,
        annotations_onWord_eq_empty_iff_of_isWhWord hWh hPlain]
      simp
  | combinedNoun
  | adjective
  | cardinal
  | resolved =>
      have hSelf : a.onWord isHint isLeaf w = w := by
        apply onWord_eq_self <;>
          simp [hTag, PartOfSpeech.isNoun, PartOfSpeech.isWhWord]
      simp [Word.hasRule, hSelf,
        Word.isAnnotated_eq_false_iff.mpr hPlain]
  | _ => simp [Word.hasRule]

end Annotator

end QuestionQuery

------------------------------------------------------------
-- Queries Of Candidates
------------------------------------------------------------

namespace QuestionQuery

namespace Builder

@[simp]
theorem blacklist_annotator
    (b : Builder) :
    b.annotator.blacklist = b.blacklist :=
  rfl

/- Without candidates there is no query, and only then. -/
theorem queriesOf_eq_empty_iff
    {o : Sparql.Options}
    {candidates : SortedSet Candidate} :
    queriesOf o candidates = .empty ↔ candidates = .empty := by
  simp only [SortedSet.eq_empty_iff_forall_notMem, queriesOf,
    SortedSet.mem_ofList, List.mem_flatMap, not_exists, not_and]
  constructor
  · intro hNone c hMember
    exact hNone (c.fuzzyQuery o) c hMember List.mem_cons_self
  · intro hNone query c hMember
    exact absurd hMember (hNone c)

/- There is no query just if a word of the tree has no rule. -/
theorem queries_build_eq_empty_iff_exists_word
    {b : Builder}
    {t : ParseTree} :
    (b.build t).queries = .empty ↔
      ∃ w ∈ (b.annotator.annotate t).words,
        w.moves? b.source = none := by
  have hSeed : Generation.seed ≠ .empty :=
    SortedSet.ne_empty_iff_exists_mem.mpr
      ⟨.empty, SortedSet.mem_singleton.mpr rfl⟩
  exact queriesOf_eq_empty_iff.trans
    (Generation.candidates_ofTree_eq_empty_iff hSeed)

/-
  Annotating takes no rule away at any place.  A tree without
  annotations yields no query just if it has a word that is
  unhandled, or a noun of an unusual tag that nothing is
  found for, or an adverb that asks but for the word that
  hints at a place or at somebody.
-/
theorem queries_build_eq_empty_iff
    (b : Builder) :
    (∀ t path s,
      t.at? path = some s →
      (s.word.moves? b.source).isSome →
        ∃ w,
          (b.annotator.annotate t).wordAt? path = some w ∧
            (w.moves? b.source).isSome) ∧
    ∀ t : ParseTree,
      (∀ w ∈ t.words, w.annotations = .empty) →
        ((b.build t).queries = .empty ↔
          ∃ path s,
            t.at? path = some s ∧
              (s.word.partOfSpeech = .unhandled ∨
              (s.word.partOfSpeech = .otherNoun ∧
                b.annotator.FindsNothing s.word) ∨
              (s.word.partOfSpeech = .whAdverb ∧
                ¬ (path = [0] ∧
                  s.word.label ∉ b.blacklist ∧
                  (s.word.label = "Where" ∨
                    s.word.label = "Who"))))) ∧
        ∀ path s,
          t.at? path = some s →
          s.word.partOfSpeech = .otherNoun →
            ((∃ w,
              (b.build t).tree.wordAt? path = some w ∧
                w.annotations = .empty) ↔
              b.annotator.FindsNothing s.word) := by
  constructor
  · intro t path s hPlace hRule
    refine
      ⟨b.annotator.onWord (path = [0]) s.isLeaf s.word, ?_,
        Annotator.isSome_moves?_onWord hRule⟩
    rw [Annotator.wordAt?_annotate, hPlace]
    rfl
  · intro t hPlain
    have hPlainAt
        {path : List Nat}
        {s : ParseTree}
        (hPlace : t.at? path = some s) :
        s.word.annotations = .empty :=
      hPlain s.word
        (ParseTree.mem_words_iff_exists_at?.mpr
          ⟨path, s, hPlace, rfl⟩)
    constructor
    · rw [queries_build_eq_empty_iff_exists_word]
      constructor
      · rintro ⟨w, hWord, hNone⟩
        rcases Annotator.mem_words_annotate_iff.mp hWord with
          ⟨path, s, hPlace, rfl⟩
        have hLost :=
          (Annotator.moves?_onWord_eq_none_iff
            (hPlainAt hPlace)).mp hNone
        exact ⟨path, s, hPlace, by simpa using hLost⟩
      · rintro ⟨path, s, hPlace, hLost⟩
        refine
          ⟨_, Annotator.mem_words_annotate_iff.mpr
            ⟨path, s, hPlace, rfl⟩, ?_⟩
        apply (Annotator.moves?_onWord_eq_none_iff
          (hPlainAt hPlace)).mpr
        simpa using hLost
    · intro path s hPlace hTag
      change
        (∃ w,
          (b.annotator.annotate t).wordAt? path = some w ∧
            w.annotations = .empty) ↔ _
      rw [Annotator.wordAt?_annotate, hPlace]
      simp [Annotator.annotations_onWord_eq_empty_iff_of_otherNoun
        hTag (hPlainAt hPlace)]

/-
  A question of three words that have a rule only with
  annotations.  Only the first of them gets any.
-/
def whereWhenTowns : ParseTree :=
  .node (.plain "lie" "VBP")
    [.leaf (.plain "Where" "WRB"), .leaf (.plain "When" "WRB"),
      .leaf (.plain "towns" "NNX")]

theorem queries_build_whereWhenTowns :
    (∀ w ∈ whereWhenTowns.words, w.annotations = .empty) ∧
    ((ofLexicon .empty .empty).build whereWhenTowns).queries =
      .empty ∧
    (∃ w,
      ((ofLexicon .empty .empty).build whereWhenTowns).tree.wordAt?
          [2] = some w ∧
        w.annotations = .empty) ∧
    ∃ w,
      ((ofLexicon .empty .empty).annotator.annotate
          whereWhenTowns).wordAt? [] = some w ∧
        (w.moves? LabelSource.empty).isSome := by
  have hPlain :
      ∀ w ∈ whereWhenTowns.words, w.annotations = .empty := by
    decide
  have hBuild :=
    queries_build_eq_empty_iff (ofLexicon .empty .empty)
  have hWhen :
      whereWhenTowns.at? [1] =
        some (.leaf (.plain "When" "WRB")) :=
    rfl
  have hTowns :
      whereWhenTowns.at? [2] =
        some (.leaf (.plain "towns" "NNX")) :=
    rfl
  have hMiss :
      (ofLexicon .empty .empty).annotator.FindsNothing
        (.plain "towns" "NNX") :=
    .inr ⟨rfl, rfl, rfl, by simp [Word.plain]⟩
  refine ⟨hPlain, ?_, ?_, ?_⟩
  · exact (hBuild.2 whereWhenTowns hPlain).1.mpr
      ⟨[1], _, hWhen, .inr (.inr ⟨rfl, by simp⟩)⟩
  · exact ((hBuild.2 whereWhenTowns hPlain).2 [2] _ hTowns
      rfl).mpr hMiss
  · exact hBuild.1 whereWhenTowns [] _ rfl (by decide)

end Builder

end QuestionQuery
