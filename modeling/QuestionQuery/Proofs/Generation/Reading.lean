import QuestionQuery.Proofs.Candidate.Growth
import QuestionQuery.Proofs.Generation.Choice

/-
  What the candidates of a tree mean.

  A word may be read in several ways.  `IsReading` lists them
  in the words of the query language, and looks at nothing
  but the part of speech of the word, its label, its
  annotations, and what is answered if its label is looked up
  as a resource.  A reading adds one pattern, one condition
  or one text to a candidate, or nothing.  The candidates of
  a tree are what seeds become by one reading of each word.

  Key definitions include:
    * `Reading`
    * `Reading.Makes`
    * `Reading.Leads`
    * `IsReading`
    * `Word.Reads`
    * `Move.reading`

  Main statements:
    * `Move.makes_reading_iff`
    * `Word.reads_iff_exists_mem_moves`
    * `Generation.mem_candidates_ofTree`
-/

------------------------------------------------------------
-- Readings
------------------------------------------------------------

namespace QuestionQuery

/-
  What a word may add to a candidate, as it is written: a
  pattern, a condition, or a label to search for on behalf of
  a variable.
-/
inductive Reading where
  | nothing
  | pattern (text : String)
  | condition (text : String)
  | search (name label : String)
deriving DecidableEq

namespace Reading

/- Does a reading make one candidate of another one? -/
def Makes
    (r : Reading)
    (c d : Candidate) : Prop :=
  match r with
  | .nothing => d = c
  | .pattern text => Candidate.AddsPattern text c d
  | .condition text => Candidate.AddsCondition text c d
  | .search name label => Candidate.AddsText name label c d

/- Do readings in turn lead from one candidate to another? -/
inductive Leads : List Reading → Candidate → Candidate → Prop
  | nil
      {c : Candidate} :
      Leads [] c c
  | cons
      {r : Reading}
      {rs : List Reading}
      {c d e : Candidate}
      (hFirst : r.Makes c d)
      (hRest : Leads rs d e) :
      Leads (r :: rs) c e

end Reading

/-
  The readings of a word.  The answer is what is found if its
  label is taken for a resource and looked up.
-/
inductive IsReading
    (p : PartOfSpeech)
    (label : String)
    (annotations : SortedSet String)
    (answer : Except LexiconError (SortedSet String)) :
    Reading → Prop
  | forward
      {uri : String}
      (hTag : p = .verb)
      (hUri : uri ∈ annotations) :
      IsReading p label annotations answer
        (.pattern ("?proj <" ++ uri ++ "> ?const."))
  | backward
      {uri : String}
      (hTag :
        p ∈ [.verb, .noun, .pluralNoun, .properNoun,
          .otherNoun, .whAdverb])
      (hUri : uri ∈ annotations) :
      IsReading p label annotations answer
        (.pattern ("?const <" ++ uri ++ "> ?proj."))
  | anyPredicate
      (hTag : p = .verb)
      (hAnnotated : annotations ≠ .empty) :
      IsReading p label annotations answer
        (.pattern "?const ?proot ?proj.")
  | constClass
      {uri : String}
      (hTag :
        p ∈ [.whPronoun, .noun, .pluralNoun, .properNoun,
          .otherNoun, .whAdverb])
      (hUri : uri ∈ annotations) :
      IsReading p label annotations answer
        (.pattern ("?const a <" ++ uri ++ ">."))
  | projClass
      {uri : String}
      (hTag :
        p ∈ [.whPronoun, .noun, .pluralNoun, .properNoun,
          .otherNoun, .whAdverb])
      (hUri : uri ∈ annotations) :
      IsReading p label annotations answer
        (.pattern ("?proj a <" ++ uri ++ ">."))
  | keepAnnotated
      (hTag :
        p ∈ [.whPronoun, .noun, .pluralNoun, .properNoun,
          .otherNoun, .whAdverb])
      (hAnnotated : annotations ≠ .empty) :
      IsReading p label annotations answer .nothing
  | search
      {name : String}
      (hName : name = "?proj" ∨ name = "?const")
      (hTag :
        p ∈ [.combinedNoun, .properNoun, .adjective, .cardinal,
          .verb, .noun, .pluralNoun])
      (hPlain : annotations = .empty) :
      IsReading p label annotations answer (.search name label)
  | keepPlain
      (hTag :
        p ∈ [.verb, .noun, .pluralNoun, .resolved, .whPronoun])
      (hPlain : annotations = .empty) :
      IsReading p label annotations answer .nothing
  | bridge
      (hTag : p = .resolved)
      (hPlain : annotations = .empty) :
      IsReading p label annotations answer
        (.pattern ("?proj ?pbridge <" ++ label ++ ">."))
  | restrict
      (hTag : p = .resolved)
      (hPlain : annotations = .empty) :
      IsReading p label annotations answer
        (.condition ("?proj IN (<" ++ label ++ ">)"))
  | searchFound
      {name found : String}
      {names : SortedSet String}
      (hName : name = "?proj" ∨ name = "?const")
      (hTag : p = .resolved)
      (hPlain : annotations = .empty)
      (hAnswer : answer = .ok names)
      (hFound : found ∈ names) :
      IsReading p label annotations answer (.search name found)

/- The readings of a word, given where labels come from. -/
def Word.Reads
    (source : LabelSource)
    (w : Word) : Reading → Prop :=
  IsReading w.partOfSpeech w.label w.annotations
    (source w.label)

end QuestionQuery

------------------------------------------------------------
-- Readings Of Moves
------------------------------------------------------------

namespace QuestionQuery

namespace Move

/- A move as it is written. -/
def reading : Move → Reading
  | .keep => .nothing
  | .require pattern => .pattern pattern.text
  | .restrict v uri => .condition (Sparql.membership v uri)
  | .search v label => .search v.name label

variable {m : Move}
variable {c d : Candidate}
variable {uri : String}

/- A move makes of a candidate just what its reading says. -/
theorem makes_reading_iff :
    m.reading.Makes c d ↔ d = m.apply c := by
  cases m with
  | keep => exact Iff.rfl
  | require pattern => exact Candidate.addsPattern_iff
  | restrict v uri => exact Candidate.addsCondition_iff
  | search v label => exact Candidate.addsText_iff

/- Moves in turn lead where their readings lead. -/
theorem leads_map_reading_iff
    {ms : List Move} :
    Reading.Leads (ms.map reading) c d ↔
      ms.foldl apply c = d := by
  induction ms generalizing c with
  | nil =>
      constructor
      · rintro ⟨⟩
        rfl
      · rintro rfl
        exact .nil
  | cons m ms ih =>
      rw [List.map_cons, List.foldl_cons, ← ih]
      constructor
      · rintro (_ | ⟨hFirst, hRest⟩)
        rwa [← makes_reading_iff.mp hFirst]
      · exact .cons (makes_reading_iff.mpr rfl)

@[simp]
theorem reading_forward :
    (forward (.iri uri)).reading =
      .pattern ("?proj <" ++ uri ++ "> ?const.") := by
  apply congrArg Reading.pattern
  simp [Triple.text, Term.text, Variable.name,
    ← String.toList_inj]

@[simp]
theorem reading_backward :
    (backward (.iri uri)).reading =
      .pattern ("?const <" ++ uri ++ "> ?proj.") := by
  apply congrArg Reading.pattern
  simp [Triple.text, Term.text, Variable.name,
    ← String.toList_inj]

@[simp]
theorem reading_backward_rootPredicate :
    (backward .rootPredicate).reading =
      .pattern "?const ?proot ?proj." :=
  rfl

@[simp]
theorem reading_instanceOf
    {v : Variable} :
    (instanceOf v uri).reading =
      .pattern (v.name ++ " a <" ++ uri ++ ">.") := by
  apply congrArg Reading.pattern
  simp [Triple.text, Term.text, ← String.toList_inj]

@[simp]
theorem reading_bridge :
    (require ⟨.var .proj, .bridgePredicate, .iri uri⟩).reading =
      .pattern ("?proj ?pbridge <" ++ uri ++ ">.") := by
  apply congrArg Reading.pattern
  simp [Triple.text, Term.text, Variable.name,
    ← String.toList_inj]

@[simp]
theorem reading_restrict_proj :
    (restrict .proj uri).reading =
      .condition ("?proj IN (<" ++ uri ++ ">)") := by
  apply congrArg Reading.condition
  simp [Sparql.membership, Term.text, Variable.name,
    ← String.toList_inj]

end Move

/- Labels are found just if the answer is no failure. -/
theorem LabelSource.mem_labels_iff
    {source : LabelSource}
    {uri found : String} :
    found ∈ source.labels uri ↔
      ∃ names, source uri = .ok names ∧ found ∈ names := by
  unfold labels
  cases source uri with
  | ok names => simp
  | error e => simp

end QuestionQuery

------------------------------------------------------------
-- Moves As Readings
------------------------------------------------------------

namespace QuestionQuery

namespace Word

variable {source : LabelSource}
variable {w : Word}

/- A label is searched for by the name of either variable. -/
private theorem exists_mem_ofLabel
    {name : String}
    (label : String)
    (hName : name = "?proj" ∨ name = "?const") :
    ∃ m ∈ Move.ofLabel label, m.reading = .search name label := by
  rcases hName with rfl | rfl
  · exact ⟨.search .proj label, Move.mem_ofLabel_iff.mpr ⟨_, rfl⟩,
      rfl⟩
  · exact ⟨.search .const label, Move.mem_ofLabel_iff.mpr ⟨_, rfl⟩,
      rfl⟩

/- Each search for a label is named after a variable. -/
private theorem exists_name_of_mem_ofLabel
    {m : Move}
    {label : String}
    (hMove : m ∈ Move.ofLabel label) :
    ∃ name,
      (name = "?proj" ∨ name = "?const") ∧
        m.reading = .search name label := by
  rcases Move.mem_ofLabel_iff.mp hMove with ⟨_ | _, rfl⟩
  · exact ⟨"?proj", .inl rfl, rfl⟩
  · exact ⟨"?const", .inr rfl, rfl⟩

/- The words whose resources may be properties and classes. -/
private theorem mem_nominal_iff
    {p : PartOfSpeech} :
    p ∈ [.noun, .pluralNoun, .properNoun, .otherNoun,
        .whAdverb] ↔
      p.isNoun ∨ p = .whAdverb := by
  cases p <;> simp [PartOfSpeech.isNoun]

/- Nouns and words that ask may be classes. -/
private theorem mem_moves_of_mem_ofType
    {m : Move}
    {uri : String}
    (hTag :
      w.partOfSpeech ∈
        [.whPronoun, .noun, .pluralNoun, .properNoun,
          .otherNoun, .whAdverb])
    (hUri : uri ∈ w.annotations)
    (hMove : m ∈ Move.ofType uri) :
    m ∈ w.moves source := by
  apply (mem_moves_of_annotated
    (SortedSet.ne_empty_iff_exists_mem.mpr ⟨uri, hUri⟩)).mpr
  refine ⟨uri, hUri, .inr ?_⟩
  rcases List.mem_cons.mp hTag with hPronoun | hNominal
  · exact .inr ⟨hPronoun, hMove⟩
  · exact .inl ⟨mem_nominal_iff.mp hNominal, .tail _ hMove⟩

/- Each reading of a word is one of its moves. -/
private theorem exists_move_of_reads
    {r : Reading}
    (hReads : w.Reads source r) :
    ∃ m ∈ w.moves source, m.reading = r := by
  cases hReads with
  | @forward uri hTag hUri =>
      refine ⟨.forward (.iri uri), ?_, by simp⟩
      apply (mem_moves_of_annotated
        (SortedSet.ne_empty_iff_exists_mem.mpr ⟨uri, hUri⟩)).mpr
      exact ⟨uri, hUri, .inl ⟨hTag, by simp [Move.ofVerb]⟩⟩
  | @backward uri hTag hUri =>
      refine ⟨.backward (.iri uri), ?_, by simp⟩
      apply (mem_moves_of_annotated
        (SortedSet.ne_empty_iff_exists_mem.mpr ⟨uri, hUri⟩)).mpr
      refine ⟨uri, hUri, ?_⟩
      rcases List.mem_cons.mp hTag with hVerb | hNominal
      · exact .inl ⟨hVerb, by simp [Move.ofVerb]⟩
      · exact .inr (.inl
          ⟨mem_nominal_iff.mp hNominal, by simp [Move.ofNoun]⟩)
  | anyPredicate hTag hAnnotated =>
      rcases SortedSet.ne_empty_iff_exists_mem.mp hAnnotated with
        ⟨uri, hUri⟩
      refine ⟨.backward .rootPredicate, ?_, by simp⟩
      apply (mem_moves_of_annotated hAnnotated).mpr
      exact ⟨uri, hUri, .inl ⟨hTag, by simp [Move.ofVerb]⟩⟩
  | @constClass uri hTag hUri =>
      refine ⟨.instanceOf .const uri, ?_, by simp [Variable.name]⟩
      exact mem_moves_of_mem_ofType hTag hUri
        (by simp [Move.ofType])
  | @projClass uri hTag hUri =>
      refine ⟨.instanceOf .proj uri, ?_, by simp [Variable.name]⟩
      exact mem_moves_of_mem_ofType hTag hUri
        (by simp [Move.ofType])
  | keepAnnotated hTag hAnnotated =>
      rcases SortedSet.ne_empty_iff_exists_mem.mp hAnnotated with
        ⟨uri, hUri⟩
      refine ⟨.keep, ?_, rfl⟩
      exact mem_moves_of_mem_ofType hTag hUri
        (by simp [Move.ofType])
  | search hName hTag hPlain =>
      rcases exists_mem_ofLabel w.label hName with
        ⟨m, hMove, hReading⟩
      refine ⟨m, ?_, hReading⟩
      exact (mem_moves_of_plain hPlain).mpr (.inl ⟨hTag, hMove⟩)
  | keepPlain hTag hPlain =>
      refine ⟨.keep, ?_, rfl⟩
      exact (mem_moves_of_plain hPlain).mpr
        (.inr (.inl ⟨hTag, rfl⟩))
  | bridge hTag hPlain =>
      refine ⟨.require
        ⟨.var .proj, .bridgePredicate, .iri w.label⟩, ?_, by simp⟩
      exact (mem_moves_of_plain hPlain).mpr
        (.inr (.inr ⟨hTag, .inl rfl⟩))
  | restrict hTag hPlain =>
      refine ⟨.restrict .proj w.label, ?_, by simp⟩
      exact (mem_moves_of_plain hPlain).mpr
        (.inr (.inr ⟨hTag, .inr (.inl rfl)⟩))
  | @searchFound name found names hName hTag hPlain hAnswer hFound =>
      rcases exists_mem_ofLabel found hName with
        ⟨m, hMove, hReading⟩
      refine ⟨m, ?_, hReading⟩
      have hLabel : found ∈ source.labels w.label :=
        LabelSource.mem_labels_iff.mpr ⟨names, hAnswer, hFound⟩
      exact (mem_moves_of_plain hPlain).mpr
        (.inr (.inr ⟨hTag, .inr (.inr ⟨found, hLabel, hMove⟩)⟩))

/- A class of a word is a reading of it. -/
private theorem reads_of_mem_ofType
    {m : Move}
    {uri : String}
    (hTag :
      w.partOfSpeech ∈
        [.whPronoun, .noun, .pluralNoun, .properNoun,
          .otherNoun, .whAdverb])
    (hUri : uri ∈ w.annotations)
    (hMove : m ∈ Move.ofType uri) :
    w.Reads source m.reading := by
  rcases Move.mem_ofType_iff.mp hMove with rfl | rfl | rfl
  · rw [Move.reading_instanceOf]
    exact .constClass hTag hUri
  · rw [Move.reading_instanceOf]
    exact .projClass hTag hUri
  · exact .keepAnnotated hTag
      (SortedSet.ne_empty_iff_exists_mem.mpr ⟨uri, hUri⟩)

/- Each move of a word with annotations is a reading of it. -/
private theorem reads_of_mem_moves_of_annotated
    {m : Move}
    (hAnnotated : w.annotations ≠ .empty)
    (hMove : m ∈ w.moves source) :
    w.Reads source m.reading := by
  rcases (mem_moves_of_annotated hAnnotated).mp hMove with
    ⟨uri, hUri, hRule⟩
  rcases hRule with ⟨hTag, hVerb⟩ | ⟨hTag, hNoun⟩ | ⟨hTag, hType⟩
  · rcases Move.mem_ofVerb_iff.mp hVerb with rfl | rfl | rfl
    · rw [Move.reading_forward]
      exact .forward hTag hUri
    · rw [Move.reading_backward]
      exact .backward (by simp [hTag]) hUri
    · exact .anyPredicate hTag hAnnotated
  · have hNominal := mem_nominal_iff.mpr hTag
    rcases Move.mem_ofNoun_iff.mp hNoun with rfl | hType
    · rw [Move.reading_backward]
      exact .backward (.tail _ hNominal) hUri
    · exact reads_of_mem_ofType (.tail _ hNominal) hUri hType
  · exact reads_of_mem_ofType (by simp [hTag]) hUri hType

/- Each move of a word without annotations is a reading of it. -/
private theorem reads_of_mem_moves_of_plain
    {m : Move}
    (hPlain : w.annotations = .empty)
    (hMove : m ∈ w.moves source) :
    w.Reads source m.reading := by
  rcases (mem_moves_of_plain hPlain).mp hMove with
    ⟨hTag, hLabel⟩ | ⟨hTag, rfl⟩ |
      ⟨hTag, rfl | rfl | ⟨found, hFound, hLabel⟩⟩
  · rcases exists_name_of_mem_ofLabel hLabel with
      ⟨name, hName, hReading⟩
    rw [hReading]
    exact .search hName hTag hPlain
  · exact .keepPlain hTag hPlain
  · rw [Move.reading_bridge]
    exact .bridge hTag hPlain
  · rw [Move.reading_restrict_proj]
    exact .restrict hTag hPlain
  · rcases exists_name_of_mem_ofLabel hLabel with
      ⟨name, hName, hReading⟩
    rcases LabelSource.mem_labels_iff.mp hFound with
      ⟨names, hAnswer, hMember⟩
    rw [hReading]
    exact .searchFound hName hTag hPlain hAnswer hMember

/- The readings of a word are those of its moves. -/
theorem reads_iff_exists_mem_moves
    {r : Reading} :
    w.Reads source r ↔ ∃ m ∈ w.moves source, m.reading = r := by
  constructor
  · exact exists_move_of_reads
  · rintro ⟨m, hMove, rfl⟩
    by_cases hPlain : w.annotations = .empty
    · exact reads_of_mem_moves_of_plain hPlain hMove
    · exact reads_of_mem_moves_of_annotated hPlain hMove

/- One reading of each word is written for one move of each. -/
theorem forall₂_reads_iff_exists_choice
    {ws : List Word}
    {rs : List Reading} :
    List.Forall₂ (Reads source) ws rs ↔
      ∃ ms, Choice source ws ms ∧ ms.map Move.reading = rs := by
  induction ws generalizing rs with
  | nil => simp [Choice, eq_comm]
  | cons w ws ih =>
      constructor
      · rintro (_ | ⟨hRead, hReads⟩)
        rcases reads_iff_exists_mem_moves.mp hRead with
          ⟨m, hMove, rfl⟩
        rcases ih.mp hReads with ⟨ms, hChoice, rfl⟩
        exact ⟨m :: ms, .cons hMove hChoice, rfl⟩
      · rintro ⟨_, hMove | ⟨hMove, hChoice⟩, rfl⟩
        exact .cons
          (reads_iff_exists_mem_moves.mpr ⟨_, hMove, rfl⟩)
          (ih.mpr ⟨_, hChoice, rfl⟩)

end Word

end QuestionQuery

------------------------------------------------------------
-- Candidates As Readings
------------------------------------------------------------

namespace QuestionQuery

namespace Generation

/-
  The candidates of a tree are exactly what some seed
  becomes by one reading of each word, in the order of the
  words.
-/
theorem mem_candidates_ofTree
    (source : LabelSource)
    (seeds : SortedSet Candidate)
    (t : ParseTree)
    (d : Candidate) :
    d ∈ (ofTree source seeds t).candidates ↔
      ∃ c ∈ seeds, ∃ rs,
        List.Forall₂ (Word.Reads source) t.words rs ∧
          Reading.Leads rs c d := by
  simp only [mem_candidates_ofTree_iff_choice,
    Word.forall₂_reads_iff_exists_choice]
  constructor
  · rintro ⟨c, hSeed, ms, hChoice, hApply⟩
    exact ⟨c, hSeed, _, ⟨ms, hChoice, rfl⟩,
      Move.leads_map_reading_iff.mpr hApply⟩
  · rintro ⟨c, hSeed, _, ⟨ms, hChoice, rfl⟩, hLeads⟩
    exact ⟨c, hSeed, ms, hChoice,
      Move.leads_map_reading_iff.mp hLeads⟩

/- A question of a verb, a name and two resources. -/
def foundedOnMars : ParseTree :=
  .node ((Word.plain "founded" "VBD").annotate ["uri:founder"])
    [.leaf (.plain "O'Neill-Smith" "NNP"),
      .leaf (.plain "uri:Mars" "ADD"),
      .leaf (.plain "uri:Base" "ADD")]

/- Only one of the resources has a label. -/
def redPlanet : LabelSource :=
  (LabelTable.ofPairs [("uri:Mars", "Red Planet")]).toSource

/- A candidate to start from. -/
def marsTown : Candidate where
  constraints := .ofList ["?proj a <uri:Town>."]
  filters := .empty
  fuzzyTokens := .ofList [("?proj", .ofList ["Mars"])]
  exactPhrases := .ofList [("?proj", .ofList ["Mars"])]

/- One reading of each of the words. -/
def baseReadings : List Reading :=
  [.pattern "?const <uri:founder> ?proj.",
    .search "?const" "O'Neill-Smith",
    .search "?proj" "Red Planet",
    .condition "?proj IN (<uri:Base>)"]

/- What they make of the candidate, part by part. -/
def marsBase : Candidate where
  constraints :=
    .ofList
      ["?const <uri:founder> ?proj.", "?proj a <uri:Town>."]
  filters := .ofList ["?proj IN (<uri:Base>)"]
  fuzzyTokens :=
    .ofList
      [("?const", .ofList ["O'Neill", "Smith"]),
        ("?proj", .ofList ["Mars", "Planet", "Red"])]
  exactPhrases :=
    .ofList
      [("?const", .ofList ["O'Neill-Smith"]),
        ("?proj", .ofList ["Mars", "Red Planet"])]

theorem mem_candidates_ofTree_foundedOnMars :
    List.Forall₂ (Word.Reads redPlanet) foundedOnMars.words
      baseReadings ∧
    Reading.Leads baseReadings marsTown marsBase ∧
    marsBase ∈
      (ofTree redPlanet (.ofList [marsTown])
        foundedOnMars).candidates ∧
    ¬ ∃ rs,
      List.Forall₂ (Word.Reads redPlanet) foundedOnMars.words
          rs ∧
        Reading.Leads rs marsTown marsTown := by
  have hSeed : marsTown ∈ SortedSet.ofList [marsTown] := by
    simp
  have hReads :
      List.Forall₂ (Word.Reads redPlanet) foundedOnMars.words
        baseReadings :=
    .cons
      (.backward (.head _)
        (Word.mem_annotations_annotate.mpr (.inr (.head _))))
      (.cons (.search (.inr rfl) (by decide) rfl)
        (.cons
          (.searchFound (.inl rfl) rfl rfl rfl (by decide))
          (.cons (.restrict rfl rfl) .nil)))
  have hGrown :
      marsBase =
        (((marsTown.require "?const <uri:founder> ?proj.").search
          "?const" "O'Neill-Smith").search
            "?proj" "Red Planet").restrict
              "?proj IN (<uri:Base>)" := by
    decide +kernel
  have hLeads : Reading.Leads baseReadings marsTown marsBase :=
    .cons (Candidate.addsPattern_iff.mpr rfl)
      (.cons (Candidate.addsText_iff.mpr rfl)
        (.cons (Candidate.addsText_iff.mpr rfl)
          (.cons (Candidate.addsCondition_iff.mpr hGrown) .nil)))
  refine ⟨hReads, hLeads, ?_, ?_⟩
  · exact (mem_candidates_ofTree redPlanet _ foundedOnMars _).mpr
      ⟨marsTown, hSeed, baseReadings, hReads, hLeads⟩
  -- the verb adds a pattern, whichever way it is read
  · rintro ⟨rs, hOthers, hNowhere⟩
    have hMember :=
      (mem_candidates_ofTree redPlanet (.ofList [marsTown])
        foundedOnMars marsTown).mpr
          ⟨marsTown, hSeed, rs, hOthers, hNowhere⟩
    exact absurd hMember (by decide +kernel)

end Generation

end QuestionQuery
