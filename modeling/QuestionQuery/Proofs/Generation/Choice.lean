import Mathlib.Data.List.Forall2
import QuestionQuery.Generation.Basic

/-
  The candidates of a generation as choices.

  Walking a tree is visiting its words one by one, and a
  visit takes every running candidate one move further.  So
  the candidates behind a tree are those that some seed
  becomes by one move of each word, in the order of words.

  Key definitions include:
    * `Word.moves`
    * `Word.Choice`
    * `Word.hasRule`

  Main statements:
    * `Word.mem_moves_of_annotated`
    * `Word.mem_moves_of_plain`
    * `Word.isSome_moves?`
    * `Generation.walk_eq_foldl_visit`
    * `Generation.mem_candidates_visit`
    * `Generation.mem_candidates_ofTree_iff_choice`
    * `Generation.forall_mem_candidates_ofTree`
    * `Generation.candidates_ofTree_eq_empty_iff`
-/

------------------------------------------------------------
-- Moves
------------------------------------------------------------

namespace QuestionQuery

namespace Move

variable {m : Move}
variable {label uri : String}

/- A label is searched for on behalf of some variable. -/
theorem mem_ofLabel_iff :
    m ∈ ofLabel label ↔ ∃ v, m = .search v label := by
  constructor
  · intro hMove
    rcases List.mem_map.mp hMove with ⟨v, -, rfl⟩
    exact ⟨v, rfl⟩
  · rintro ⟨v, rfl⟩
    have hAll : v ∈ Variable.all := by
      cases v <;> decide
    exact List.mem_map_of_mem hAll

/- The three moves of a verb for one of its resources. -/
theorem mem_ofVerb_iff :
    m ∈ ofVerb uri ↔
      m = forward (.iri uri) ∨ m = backward (.iri uri) ∨
        m = backward .rootPredicate := by
  simp [ofVerb]

/- The three moves for a class. -/
theorem mem_ofType_iff :
    m ∈ ofType uri ↔
      m = instanceOf .const uri ∨ m = instanceOf .proj uri ∨
        m = .keep := by
  simp [ofType]

/- A resource of a noun may also be a property. -/
theorem mem_ofNoun_iff :
    m ∈ ofNoun uri ↔
      m = backward (.iri uri) ∨ m ∈ ofType uri :=
  List.mem_cons

end Move

namespace Word

/- The moves of a word, none if there is no rule for it. -/
def moves
    (source : LabelSource)
    (w : Word) : List Move :=
  (w.moves? source).getD []

/- One move of each of some words. -/
def Choice
    (source : LabelSource)
    (ws : List Word)
    (ms : List Move) : Prop :=
  List.Forall₂ (fun w m => m ∈ w.moves source) ws ms

/- The moves of a word with annotations. -/
theorem mem_moves_of_annotated
    {source : LabelSource}
    {w : Word}
    {m : Move}
    (hAnnotated : w.annotations ≠ .empty) :
    m ∈ w.moves source ↔
      ∃ uri ∈ w.annotations,
        (w.partOfSpeech = .verb ∧ m ∈ Move.ofVerb uri) ∨
        ((w.partOfSpeech.isNoun ∨ w.partOfSpeech = .whAdverb) ∧
          m ∈ Move.ofNoun uri) ∨
        (w.partOfSpeech = .whPronoun ∧ m ∈ Move.ofType uri) := by
  rw [moves, moves?, if_pos (isAnnotated_iff.mpr hAnnotated)]
  cases w.partOfSpeech <;>
    simp [annotatedRule?, PartOfSpeech.isNoun]

/- Without annotations the part of speech gives the moves. -/
theorem moves?_of_plain
    {source : LabelSource}
    {w : Word}
    (hPlain : w.annotations = .empty) :
    w.moves? source = w.plainMoves? source := by
  rw [moves?, if_neg]
  rw [isAnnotated_iff]
  exact fun hNe => hNe hPlain

/- The moves of a word without annotations. -/
theorem mem_moves_of_plain
    {source : LabelSource}
    {w : Word}
    {m : Move}
    (hPlain : w.annotations = .empty) :
    m ∈ w.moves source ↔
      (w.partOfSpeech ∈
          [.combinedNoun, .properNoun, .adjective, .cardinal,
            .verb, .noun, .pluralNoun] ∧
        m ∈ Move.ofLabel w.label) ∨
      (w.partOfSpeech ∈
          [.verb, .noun, .pluralNoun, .resolved, .whPronoun] ∧
        m = .keep) ∨
      (w.partOfSpeech = .resolved ∧
        (m = .require
            ⟨.var .proj, .bridgePredicate, .iri w.label⟩ ∨
          m = .restrict .proj w.label ∨
          ∃ name ∈ source.labels w.label,
            m ∈ Move.ofLabel name)) := by
  rw [moves, moves?_of_plain hPlain, plainMoves?]
  cases w.partOfSpeech <;> simp [Move.ofResource]
  tauto

/- Each annotation of a word gives some move. -/
private theorem annotatedRule?_ne_nil
    {p : PartOfSpeech}
    {rule : String → List Move}
    (hRule : annotatedRule? p = some rule)
    (uri : String) :
    rule uri ≠ [] := by
  cases p <;>
    simp only [annotatedRule?, Option.some.injEq,
      reduceCtorEq] at hRule <;>
    subst hRule <;>
    simp [Move.ofVerb, Move.ofNoun, Move.ofType]

/- A rule for words without annotations gives some move. -/
private theorem plainMoves?_ne_nil
    {source : LabelSource}
    {w : Word}
    {ms : List Move}
    (hMoves : w.plainMoves? source = some ms) :
    ms ≠ [] := by
  rintro rfl
  rw [plainMoves?] at hMoves
  split at hMoves <;>
    simp [Move.ofLabel, Move.ofResource, Variable.all]
      at hMoves

/- A rule for a word gives some move. -/
private theorem moves?_ne_nil
    {source : LabelSource}
    {w : Word}
    {ms : List Move}
    (hMoves : w.moves? source = some ms) :
    ms ≠ [] := by
  rw [moves?] at hMoves
  split at hMoves
  · next hAnnotated =>
      rcases Option.map_eq_some_iff.mp hMoves with
        ⟨rule, hRule, rfl⟩
      rcases SortedSet.ne_empty_iff_exists_mem.mp
          (isAnnotated_iff.mp hAnnotated) with ⟨uri, hUri⟩
      intro hNil
      exact annotatedRule?_ne_nil hRule uri
        (List.flatMap_eq_nil_iff.mp hNil uri hUri)
  · exact plainMoves?_ne_nil hMoves

/- Just the words without a rule have no move. -/
theorem moves_eq_nil_iff
    {source : LabelSource}
    {w : Word} :
    w.moves source = [] ↔ w.moves? source = none := by
  cases hMoves : w.moves? source with
  | none => simp [moves, hMoves]
  | some ms => simpa [moves, hMoves] using moves?_ne_nil hMoves

/-
  Is there a rule for a part of speech, with annotations or
  without them?
-/
def hasRule
    (isAnnotated : Bool) : PartOfSpeech → Bool
  | .verb
  | .noun
  | .pluralNoun
  | .properNoun
  | .whPronoun => true
  | .otherNoun
  | .whAdverb => isAnnotated
  | .combinedNoun
  | .adjective
  | .cardinal
  | .resolved => !isAnnotated
  | .unhandled => false

/- Nothing else about a word decides if it has a rule. -/
theorem isSome_moves?
    (source : LabelSource)
    (w : Word) :
    (w.moves? source).isSome =
      hasRule w.isAnnotated w.partOfSpeech := by
  rw [moves?]
  cases w.isAnnotated <;>
    cases hTag : w.partOfSpeech <;>
    simp [hasRule, annotatedRule?, plainMoves?, hTag]

/- Words can be chosen for unless one has no rule. -/
theorem exists_choice
    {source : LabelSource}
    {ws : List Word}
    (hRules : ∀ w ∈ ws, w.moves? source ≠ none) :
    ∃ ms, Choice source ws ms := by
  induction ws with
  | nil => exact ⟨[], .nil⟩
  | cons w ws ih =>
      rcases List.exists_mem_of_ne_nil (w.moves source)
          (moves_eq_nil_iff.not.mpr (hRules w (by simp))) with
        ⟨m, hMove⟩
      rcases ih fun v hv => hRules v (by simp [hv]) with
        ⟨ms, hChoice⟩
      exact ⟨m :: ms, .cons hMove hChoice⟩

/- Every word of a choice has a rule. -/
theorem Choice.ne_none
    {source : LabelSource}
    {ws : List Word}
    {ms : List Move}
    (hChoice : Choice source ws ms) :
    ∀ w ∈ ws, w.moves? source ≠ none := by
  induction hChoice with
  | nil => simp
  | cons hMove _ ih =>
      intro v hv
      rcases List.mem_cons.mp hv with rfl | hv
      · intro hNone
        simp [moves, hNone] at hMove
      · exact ih v hv

end Word

end QuestionQuery

------------------------------------------------------------
-- Visits
------------------------------------------------------------

namespace QuestionQuery

namespace Generation

variable {source : LabelSource}

/- Walking a tree is visiting its words one by one. -/
theorem walk_eq_foldl_visit
    (g : Generation)
    (t : ParseTree) :
    g.walk source t = t.words.foldl (visit source) g := by
  induction t using ParseTree.rec
      (motive_2 := fun ts =>
        ∀ g : Generation,
          g.walkAll source ts =
            (ParseTree.wordsOf ts).foldl (visit source) g)
      generalizing g with
  | node w ts ih => exact ih _
  | nil g => rfl
  | cons t ts ih ihs g =>
      rw [walkAll, ih, ihs, ParseTree.wordsOf,
        List.foldl_append]

/- A tree is generated from by visiting its words in turn. -/
theorem ofTree_eq_foldl_visit
    (seeds : SortedSet Candidate)
    (t : ParseTree) :
    ofTree source seeds t =
      t.words.foldl (visit source) (start seeds) :=
  walk_eq_foldl_visit _ t

/- A visit leaves the candidates that are one move away. -/
theorem mem_candidates_visit
    {g : Generation}
    {w : Word}
    {d : Candidate} :
    d ∈ (g.visit source w).candidates ↔
      ∃ c ∈ g.candidates,
        ∃ m ∈ w.moves source, m.apply c = d := by
  cases hMoves : w.moves? source with
  | none => simp [visit, count, branch, Word.moves, hMoves]
  | some ms => simp [visit, count, branch, Word.moves, hMoves]

/- Visits leave the candidates that are a choice away. -/
theorem mem_candidates_foldl_visit
    {g : Generation}
    {ws : List Word}
    {d : Candidate} :
    d ∈ (ws.foldl (visit source) g).candidates ↔
      ∃ c ∈ g.candidates, ∃ ms,
        Word.Choice source ws ms ∧ ms.foldl Move.apply c = d := by
  induction ws generalizing g with
  | nil => simp [Word.Choice]
  | cons w ws ih =>
      rw [List.foldl_cons, ih]
      constructor
      · rintro ⟨e, hVisit, ms, hChoice, hApply⟩
        rcases mem_candidates_visit.mp hVisit with
          ⟨c, hSeed, m, hMove, rfl⟩
        exact ⟨c, hSeed, m :: ms, .cons hMove hChoice, hApply⟩
      · rintro ⟨c, hSeed, ms, hChoice, hApply⟩
        cases hChoice with
        | @cons _ m _ ms hMove hChoice =>
            have hVisit :
                m.apply c ∈ (g.visit source w).candidates :=
              mem_candidates_visit.mpr ⟨c, hSeed, m, hMove, rfl⟩
            exact ⟨m.apply c, hVisit, ms, hChoice, hApply⟩

end Generation

end QuestionQuery

------------------------------------------------------------
-- Trees
------------------------------------------------------------

namespace QuestionQuery

namespace Generation

variable {source : LabelSource}

/-
  The candidates of a tree are what seeds become by one move
  of each word.
-/
theorem mem_candidates_ofTree_iff_choice
    {seeds : SortedSet Candidate}
    {t : ParseTree}
    {d : Candidate} :
    d ∈ (ofTree source seeds t).candidates ↔
      ∃ c ∈ seeds, ∃ ms,
        Word.Choice source t.words ms ∧
          ms.foldl Move.apply c = d := by
  rw [ofTree_eq_foldl_visit, mem_candidates_foldl_visit]
  rfl

/- What seeds have and moves keep, all candidates have. -/
theorem forall_mem_candidates_ofTree
    {P : Candidate → Prop}
    {seeds : SortedSet Candidate}
    {t : ParseTree}
    (hSeeds : ∀ c ∈ seeds, P c)
    (hMoves :
      ∀ w ∈ t.words, ∀ m ∈ w.moves source,
        ∀ c, P c → P (m.apply c)) :
    ∀ d ∈ (ofTree source seeds t).candidates, P d := by
  intro d hMember
  rcases mem_candidates_ofTree_iff_choice.mp hMember with
    ⟨c, hSeed, ms, hChoice, rfl⟩
  have hStart := hSeeds c hSeed
  clear hMember hSeed
  -- along the moves, from any candidate that has the property
  generalize t.words = ws at hMoves hChoice
  induction hChoice generalizing c with
  | nil => exact hStart
  | @cons w m ws ms hMove _ ih =>
      apply ih
      · exact hMoves w (by simp) m hMove c hStart
      · exact fun v hv => hMoves v (by simp [hv])

/- All candidates are lost just if a word has no rule. -/
theorem candidates_ofTree_eq_empty_iff
    {seeds : SortedSet Candidate}
    {t : ParseTree}
    (hSeeds : seeds ≠ .empty) :
    (ofTree source seeds t).candidates = .empty ↔
      ∃ w ∈ t.words, w.moves? source = none := by
  constructor
  · intro hEmpty
    by_contra hNone
    push Not at hNone
    rcases Word.exists_choice hNone with ⟨ms, hChoice⟩
    rcases SortedSet.ne_empty_iff_exists_mem.mp hSeeds with
      ⟨c, hSeed⟩
    have hMember :
        ms.foldl Move.apply c ∈
          (ofTree source seeds t).candidates :=
      mem_candidates_ofTree_iff_choice.mpr
        ⟨c, hSeed, ms, hChoice, rfl⟩
    simp [hEmpty] at hMember
  · rintro ⟨w, hWord, hNone⟩
    ext d
    simp only [SortedSet.notMem_empty, iff_false]
    intro hMember
    rcases mem_candidates_ofTree_iff_choice.mp hMember with
      ⟨_, _, _, hChoice, _⟩
    exact hChoice.ne_none w hWord hNone

end Generation

end QuestionQuery
