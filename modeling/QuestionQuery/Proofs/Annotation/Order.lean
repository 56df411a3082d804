import QuestionQuery.Proofs.Annotation.Reference

/-
  In which order the passes may run.

  What a word hints at, and what a verb stands for, depends
  on all of the word but its annotations, and no word is both
  a verb and a noun.  So the pass over verbs may run at any
  time.  The pass over nouns looks at annotations: if it runs
  before the word that hints at the answer is annotated, it
  looks that word up as well, which may add to it but takes
  nothing away.

  Key definitions include:
    * `Annotator.Pass`
    * `Annotator.run`

  Main statements:
    * `Annotator.verbPass_projectionPass`
    * `Annotator.verbPass_nounPass`
    * `Annotator.run_eq_run_erase_verbs`
    * `Annotator.mem_annotations_onNoun`
    * `Annotator.mem_annotations_onNoun_annotate`
    * `Annotator.run_of_order`
-/

------------------------------------------------------------
-- Words
------------------------------------------------------------

namespace QuestionQuery

/- The order in which resources are added does not matter. -/
theorem Word.annotate_comm
    (w : Word)
    (uris others : List String) :
    (w.annotate uris).annotate others =
      (w.annotate others).annotate uris := by
  have hSame :
      w.annotations.insertAll (uris ++ others) =
        w.annotations.insertAll (others ++ uris) := by
    ext uri
    simp [or_comm]
  rw [annotate_annotate, annotate_annotate, annotate, annotate,
    hSame]

namespace Annotator

variable {a : Annotator}
variable {isLeaf : Bool}
variable {w : Word}

/- What a word hints at does not depend on annotations. -/
@[simp]
theorem hint_annotate
    {uris : List String} :
    a.hint isLeaf (w.annotate uris) = a.hint isLeaf w :=
  rfl

/- A verb is annotated whatever annotations it has. -/
theorem onVerb_annotate
    (uris : List String) :
    a.onVerb (w.annotate uris) = (a.onVerb w).annotate uris := by
  have hTest :
      ((w.annotate uris).partOfSpeech = .verb &&
          !a.isBlacklisted (w.annotate uris)) =
        (w.partOfSpeech = .verb && !a.isBlacklisted w) :=
    rfl
  have hFound :
      a.verbResources (w.annotate uris) = a.verbResources w :=
    rfl
  rw [onVerb, onVerb, hTest, hFound]
  split
  · exact w.annotate_comm uris (a.verbResources w)
  · rfl

/- The pass over verbs leaves what a word hints at. -/
theorem hint_onVerb :
    a.hint isLeaf (a.onVerb w) = a.hint isLeaf w := by
  rw [onVerb]
  split <;> rfl

/- The pass over nouns leaves what a word hints at. -/
theorem hint_onNoun :
    a.hint isLeaf (a.onNoun w) = a.hint isLeaf w := by
  rw [onNoun]
  split <;> rfl

/- No word is both a verb and a noun. -/
theorem onVerb_onNoun :
    a.onVerb (a.onNoun w) = a.onNoun (a.onVerb w) := by
  by_cases hVerb : w.partOfSpeech = .verb
  · have hLeft (v : Word) (hTag : v.partOfSpeech = .verb) :
        a.onNoun v = v := by
      simp [onNoun, hTag, PartOfSpeech.isNoun]
    have hTag : (a.onVerb w).partOfSpeech = .verb := by
      rw [onVerb]
      split <;> exact hVerb
    rw [hLeft w hVerb, hLeft (a.onVerb w) hTag]
  · have hLeft (v : Word) (hTag : v.partOfSpeech ≠ .verb) :
        a.onVerb v = v := by
      simp [onVerb, hTag]
    have hTag : (a.onNoun w).partOfSpeech ≠ .verb := by
      rw [onNoun]
      split <;> exact hVerb
    rw [hLeft w hVerb, hLeft (a.onNoun w) hTag]

/- The pass over nouns adds what a plain noun stands for. -/
theorem mem_annotations_onNoun
    {uri : String} :
    uri ∈ (a.onNoun w).annotations ↔
      uri ∈ w.annotations ∨
        w.partOfSpeech.isNoun ∧ w.annotations = .empty ∧
          a.isBlacklisted w = false ∧ uri ∈ a.nounResources w := by
  have hTest :
      (w.partOfSpeech.isNoun && !w.isAnnotated &&
          !a.isBlacklisted w) = true ↔
        w.partOfSpeech.isNoun ∧ w.annotations = .empty ∧
          a.isBlacklisted w = false := by
    simp [Word.isAnnotated_eq_false_iff, and_assoc]
  rw [onNoun]
  split
  case isTrue hLooked =>
    rw [Word.mem_annotations_annotate]
    simp [hTest.mp hLooked]
  case isFalse hNot =>
    have hKept := mt hTest.mpr hNot
    exact (or_iff_left fun hAll =>
      hKept ⟨hAll.1, hAll.2.1, hAll.2.2.1⟩).symm

/-
  A noun that is looked up before it is given more resources
  has all that it has if it is looked up after that.  With
  more resources it may not be looked up at all.
-/
theorem mem_annotations_onNoun_annotate
    {uris : List String}
    {uri : String}
    (hUri : uri ∈ (a.onNoun (w.annotate uris)).annotations) :
    uri ∈ ((a.onNoun w).annotate uris).annotations := by
  rw [Word.mem_annotations_annotate, mem_annotations_onNoun]
  rcases mem_annotations_onNoun.mp hUri with
    hKnown | ⟨hNoun, hPlain, hFree, hFound⟩
  · rw [Word.mem_annotations_annotate] at hKnown
    exact hKnown.imp_left .inl
  · have hBefore := (Word.annotations_annotate_eq_empty_iff.mp hPlain).1
    exact .inl (.inr ⟨hNoun, hBefore, hFree, hFound⟩)

end Annotator

end QuestionQuery

------------------------------------------------------------
-- Passes
------------------------------------------------------------

namespace QuestionQuery

namespace Annotator

/- The three passes over a tree. -/
inductive Pass where
  | projection
  | verbs
  | nouns
deriving DecidableEq

/- What a pass makes of a tree. -/
def runPass
    (a : Annotator) : Pass → ParseTree → ParseTree
  | .projection => a.projectionPass
  | .verbs => a.verbPass
  | .nouns => a.nounPass

/- What passes make of a tree, one after another. -/
def run
    (a : Annotator)
    (order : List Pass)
    (t : ParseTree) : ParseTree :=
  order.foldl (fun u pass => a.runPass pass u) t

variable {a : Annotator}
variable {t : ParseTree}

/- Verbs may be annotated before or after the hint. -/
theorem verbPass_projectionPass
    (a : Annotator)
    (t : ParseTree) :
    a.verbPass (a.projectionPass t) =
      a.projectionPass (a.verbPass t) := by
  rcases t with ⟨w, _ | ⟨⟨v, us⟩, ts⟩⟩
  · rfl
  · simp [verbPass, projectionPass, ParseTree.mapRoot,
      ParseTree.mapWords, ParseTree.mapWordsOf,
      ParseTree.mapWordsOf_eq_map, ParseTree.isLeaf,
      ParseTree.children, onVerb_annotate, hint_onVerb]

/- Verbs may be annotated before or after nouns. -/
theorem verbPass_nounPass
    (a : Annotator)
    (t : ParseTree) :
    a.verbPass (a.nounPass t) = a.nounPass (a.verbPass t) := by
  simp only [verbPass, nounPass, ParseTree.mapWords_mapWords,
    onVerb_onNoun]

/- The pass over verbs may run before any other pass. -/
theorem verbPass_runPass
    (pass : Pass) :
    a.verbPass (a.runPass pass t) =
      a.runPass pass (a.verbPass t) := by
  cases pass with
  | projection => exact verbPass_projectionPass a t
  | verbs => rfl
  | nouns => exact verbPass_nounPass a t

/- The pass over verbs may run first, wherever it stands. -/
theorem run_eq_run_erase_verbs
    {order : List Pass}
    (hVerbs : .verbs ∈ order) :
    a.run order t = a.run (order.erase .verbs) (a.verbPass t) := by
  induction order generalizing t with
  | nil => simp at hVerbs
  | cons pass order ih =>
      by_cases hFirst : pass = .verbs
      · subst hFirst
        rw [List.erase_cons_head]
        rfl
      · have hLater : .verbs ∈ order :=
          List.mem_of_ne_of_mem (Ne.symm hFirst) hVerbs
        rw [List.erase_cons_tail (by simpa using hFirst)]
        change
          a.run order (a.runPass pass t) =
            a.run (order.erase .verbs)
              (a.runPass pass (a.verbPass t))
        rw [ih hLater, verbPass_runPass]

/- All that matters of an order is what comes of two passes. -/
theorem run_eq_of_sublist
    {order : List Pass}
    {first second : Pass}
    (hAll : order.Perm [.projection, .verbs, .nouns])
    (hOthers : .verbs ∉ [first, second])
    (hSublist : [first, second].Sublist order) :
    a.run order t =
      a.runPass second (a.runPass first (a.verbPass t)) := by
  have hVerbs : .verbs ∈ order := hAll.mem_iff.mpr (by simp)
  have hErased : order.erase .verbs = [first, second] := by
    have hKept := hSublist.erase Pass.verbs
    rw [List.erase_of_not_mem hOthers] at hKept
    refine (hKept.eq_of_length ?_).symm
    rw [List.length_erase_of_mem hVerbs, hAll.length_eq]
    rfl
  rw [run_eq_run_erase_verbs hVerbs, hErased]
  rfl

/- The words of a tree if the hint is the last pass. -/
theorem wordAt?_projectionPass_nounPass
    (a : Annotator)
    (t : ParseTree)
    (path : List Nat) :
    (a.projectionPass (a.nounPass (a.verbPass t))).wordAt? path =
      (t.at? path).map fun s =>
        let w := a.onNoun (a.onVerb s.word)
        if path = [0] then
          w.annotate (a.hint s.isLeaf s.word)
        else
          w := by
  rw [wordAt?_projectionPass, nounPass, verbPass,
    ParseTree.mapWords_mapWords, ParseTree.at?_mapWords,
    Option.map_map]
  congr 1
  funext s
  simp [hint_onNoun, hint_onVerb]

/-
  A word that is given its hint last has all annotations that
  it has if the hint comes first.
-/
theorem mem_annotations_onWord_hint
    {isLeaf : Bool}
    {w : Word}
    {uri : String}
    (hUri : uri ∈ (a.onWord true isLeaf w).annotations) :
    uri ∈ ((a.onNoun (a.onVerb w)).annotate
        (a.hint isLeaf w)).annotations := by
  rw [onWord, if_pos rfl, onVerb_annotate] at hUri
  exact mem_annotations_onNoun_annotate hUri

end Annotator

end QuestionQuery

------------------------------------------------------------
-- Orders
------------------------------------------------------------

namespace QuestionQuery

namespace Annotator

/-
  The order of the passes matters only for the hint and the
  nouns.  The pass over verbs commutes with the other two, so
  a tree is annotated as usual whenever the hint comes before
  the nouns.  If it comes after them, every place has the
  word it has otherwise, but for more annotations of the one
  that hints at the answer.
-/
theorem run_of_order :
    (∀ (a : Annotator) (t : ParseTree),
      a.verbPass (a.projectionPass t) =
        a.projectionPass (a.verbPass t)) ∧
    (∀ (a : Annotator) (t : ParseTree),
      a.verbPass (a.nounPass t) = a.nounPass (a.verbPass t)) ∧
    ∀ (a : Annotator) (t : ParseTree) (order : List Pass),
      order.Perm [.projection, .verbs, .nouns] →
        ([.projection, .nouns].Sublist order →
          a.run order t = a.annotate t) ∧
        ([.nouns, .projection].Sublist order →
          (a.run order t).mapWords Word.bare =
              (a.annotate t).mapWords Word.bare ∧
            ∀ path v,
              (a.annotate t).wordAt? path = some v →
                ∃ w,
                  (a.run order t).wordAt? path = some w ∧
                    (∀ uri ∈ v.annotations,
                      uri ∈ w.annotations) ∧
                    (path ≠ [0] → w = v)) := by
  refine ⟨verbPass_projectionPass, verbPass_nounPass, ?_⟩
  intro a t order hAll
  constructor
  · intro hHintFirst
    rw [run_eq_of_sublist hAll (by simp) hHintFirst, annotate,
      verbPass_projectionPass]
    rfl
  · intro hNounsFirst
    rw [run_eq_of_sublist hAll (by simp) hNounsFirst]
    constructor
    · have hLater :
          (a.nounPass (a.verbPass t)).mapWords Word.bare =
            t.mapWords Word.bare := by
        simp only [nounPass, verbPass,
          ParseTree.mapWords_mapWords, bare_onNoun_onVerb]
      rw [bare_annotate]
      exact (bare_projectionPass a _).trans hLater
    · intro path v hWord
      rw [wordAt?_annotate] at hWord
      rcases Option.map_eq_some_iff.mp hWord with
        ⟨s, hPlace, rfl⟩
      change
        ∃ w,
          (a.projectionPass
              (a.nounPass (a.verbPass t))).wordAt? path =
              some w ∧ _
      rw [wordAt?_projectionPass_nounPass, hPlace]
      refine ⟨_, rfl, ?_, ?_⟩
      · intro uri hUri
        by_cases hHint : path = [0]
        · simp only [hHint, decide_true] at hUri
          simpa [hHint] using mem_annotations_onWord_hint hUri
        · simpa [hHint, onWord] using hUri
      · intro hOther
        simp [hOther, onWord]

/- Towns are a class by their base form, else a property. -/
def townsGuide : Annotator where
  lexicon :=
    { Lexicon.empty with
      classes := fun label =>
        if label = "town" then ["uri:Town"] else []
      properties := fun label =>
        if label = "towns" then ["uri:towns"] else [] }
  blacklist := .empty

/- A question whose hint is a plural. -/
def nameTowns : ParseTree :=
  .node (.plain "Name" "VB")
    [.leaf { Word.plain "towns" "NNS" with baseForm := "town" }]

theorem run_of_order_nameTowns :
    [Pass.verbs, .projection, .nouns].Perm
        [.projection, .verbs, .nouns] ∧
    [Pass.projection, .nouns].Sublist
        [.verbs, .projection, .nouns] ∧
    townsGuide.run [.verbs, .projection, .nouns] nameTowns =
      townsGuide.annotate nameTowns ∧
    [Pass.nouns, .projection, .verbs].Perm
        [.projection, .verbs, .nouns] ∧
    [Pass.nouns, .projection].Sublist
        [.nouns, .projection, .verbs] ∧
    ∃ v w,
      (townsGuide.annotate nameTowns).wordAt? [0] = some v ∧
      (townsGuide.run [.nouns, .projection, .verbs]
          nameTowns).wordAt? [0] = some w ∧
      (∀ uri ∈ v.annotations, uri ∈ w.annotations) ∧
      "uri:towns" ∉ v.annotations ∧
      "uri:towns" ∈ w.annotations := by
  have hOrder := run_of_order.2.2 townsGuide nameTowns
  have hUsual :
      [Pass.verbs, .projection, .nouns].Perm
        [.projection, .verbs, .nouns] := by
    decide
  have hHintFirst :
      [Pass.projection, .nouns].Sublist
        [.verbs, .projection, .nouns] := by
    decide
  have hTurned :
      [Pass.nouns, .projection, .verbs].Perm
        [.projection, .verbs, .nouns] := by
    decide
  have hNounsFirst :
      [Pass.nouns, .projection].Sublist
        [.nouns, .projection, .verbs] := by
    decide
  rcases ((hOrder _ hTurned).2 hNounsFirst).2 [0] _ rfl with
    ⟨w, hWord, hMore, -⟩
  refine
    ⟨hUsual, hHintFirst, (hOrder _ hUsual).1 hHintFirst, hTurned,
      hNounsFirst, _, w, rfl, hWord, hMore, by decide +kernel, ?_⟩
  rw [← Option.some.inj hWord]
  decide +kernel

end Annotator

end QuestionQuery
