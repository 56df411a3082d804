import QuestionQuery.Proofs.Build.Distinct

/-
  When a question is taken to ask for anything at all.

  The query with nothing between its braces is written for a
  candidate that requires nothing and searches for stopwords
  at most.  Moves never take anything back, so such a
  candidate comes of moves that each add no more than that,
  and a tree has it just if every word has such a move.

  Key definitions include:
    * `Sparql.openQuery`
    * `Candidate.IsIdle`
    * `Move.IsIdle`
    * `Word.IsSkippable`

  Main statements:
    * `Sparql.render_eq_openQuery_iff`
    * `Candidate.isIdle_foldl_iff`
    * `Word.exists_isIdle_iff`
    * `Builder.openQuery_mem_queries_build_iff`
-/

------------------------------------------------------------
-- The Query Without Conditions
------------------------------------------------------------

namespace QuestionQuery

namespace Sparql

variable {o : Options}

/- The query with nothing between its braces. -/
def openQuery
    (o : Options) : String :=
  "PREFIX text: <" ++ o.textNamespace ++ ">\n" ++
    "SELECT DISTINCT ?proj WHERE \x7b\n\x7d\nLIMIT " ++
    toString o.limit

private theorem toList_openQuery
    (o : Options) :
    (openQuery o).toList =
      lineChars (header o) ++
        (lineChars ["\x7d"] ++
          ("LIMIT " ++ toString o.limit).toList) := by
  unfold openQuery header
  generalize toString o.limit = limit
  simp

private theorem lineChars_eq_nil_iff
    {lines : List String} :
    lineChars lines = [] ↔ lines = [] := by
  cases lines <;> simp

/-
  A query has nothing between its braces just if it has no
  line there.  Whatever stands in such a line, it makes the
  query longer.
-/
theorem render_eq_openQuery_iff
    {c : Candidate}
    {terms : List (String × List String)} :
    render o c terms = openQuery o ↔
      textClauses o terms = [] ∧
        c.constraints = .empty ∧ c.filters = .empty := by
  have hBody :
      lineChars (textClauses o terms) ++
          lineChars (patternLines c) =
        lineChars
            (textClauses o terms ++
              (c.constraints.toList.map ("  " ++ ·) ++
                c.filters.toList.map
                  fun f => "  FILTER (" ++ f ++ ").")) ++
          lineChars ["\x7d"] := by
    simp [patternLines]
  rw [← String.toList_inj, toList_render, toList_openQuery,
    List.append_cancel_left_eq, ← List.append_assoc,
    List.append_cancel_right_eq, hBody,
    List.append_left_eq_self, lineChars_eq_nil_iff]
  simp only [List.append_eq_nil_iff, List.map_eq_nil_iff]
  constructor
  · rintro ⟨hClauses, hConstraints, hFilters⟩
    exact ⟨hClauses, SortedSet.eq_of_toList_eq hConstraints,
      SortedSet.eq_of_toList_eq hFilters⟩
  · rintro ⟨hClauses, hConstraints, hFilters⟩
    exact ⟨hClauses, congrArg SortedSet.toList hConstraints,
      congrArg SortedSet.toList hFilters⟩

/- There is no text clause just if no variable has terms. -/
theorem textClauses_eq_nil_iff
    {terms : List (String × List String)} :
    textClauses o terms = [] ↔ ∀ e ∈ terms, e.2 = [] := by
  simp [textClauses]

end Sparql

end QuestionQuery

------------------------------------------------------------
-- Idle Candidates
------------------------------------------------------------

namespace QuestionQuery

open Sparql

namespace Candidate

/-
  Does a candidate ask for nothing?  It requires nothing, and
  all it searches for are stopwords.
-/
structure IsIdle
    (stopwords : SortedSet String)
    (c : Candidate) : Prop where
  constraints : c.constraints = .empty
  filters : c.filters = .empty
  tokens :
    ∀ name found,
      c.fuzzyTokens.get? name = some found →
        ∀ token ∈ found, token ∈ stopwords

variable {o : Options}
variable {c : Candidate}

/- Stopwords alone give the tokens no clause. -/
private theorem fuzzyTerms_eq_nil_iff
    {found : SortedSet String} :
    fuzzyTerms o found = [] ↔
      ∀ token ∈ found, token ∈ o.stopwords := by
  simp [fuzzyTerms]

/- The tokens of an idle candidate give the open query. -/
theorem fuzzyQuery_eq_openQuery_iff :
    c.fuzzyQuery o = openQuery o ↔ c.IsIdle o.stopwords := by
  rw [fuzzyQuery, render_eq_openQuery_iff,
    textClauses_eq_nil_iff]
  simp only [List.forall_mem_map, fuzzyTerms_eq_nil_iff,
    Prod.forall, SortedMap.mem_toList_iff]
  constructor
  · rintro ⟨hTokens, hConstraints, hFilters⟩
    exact ⟨hConstraints, hFilters, hTokens⟩
  · intro hIdle
    exact ⟨hIdle.tokens, hIdle.constraints, hIdle.filters⟩

/-
  If there are phrases, they are in the exact query.  So that
  one is open only if the other one is as well.
-/
theorem InStep.isIdle_of_exactQuery_eq
    {stopwords : SortedSet String}
    (hStep : c.InStep)
    (hQuery : c.exactQuery o = openQuery o) :
    c.IsIdle stopwords := by
  rw [exactQuery, render_eq_openQuery_iff,
    textClauses_eq_nil_iff] at hQuery
  rcases hQuery with ⟨hPhrases, hConstraints, hFilters⟩
  refine ⟨hConstraints, hFilters, ?_⟩
  intro name found hFound
  have hNone : c.exactPhrases.get? name = none := by
    cases hSome : c.exactPhrases.get? name with
    | none => rfl
    | some phrases =>
        have hTerms : exactTerms phrases = [] :=
          hPhrases (name, exactTerms phrases)
            (List.mem_map_of_mem (SortedMap.mem_toList_iff.mpr hSome))
        have hNil : phrases.toList = [] := by
          simpa [exactTerms] using hTerms
        exact absurd (SortedSet.eq_of_toList_eq hNil)
          (hStep.nonempty name phrases hSome)
  rw [(hStep.get?_eq_none_iff name).mpr hNone] at hFound
  contradiction

/- One of the queries is open just if the candidate is idle. -/
theorem InStep.openQuery_mem_queries_iff
    (hStep : c.InStep) :
    openQuery o ∈ c.queries o ↔ c.IsIdle o.stopwords := by
  simp only [queries, List.mem_cons, List.not_mem_nil, or_false]
  constructor
  · rintro (hFuzzy | hExact)
    · exact fuzzyQuery_eq_openQuery_iff.mp hFuzzy.symm
    · exact hStep.isIdle_of_exactQuery_eq hExact.symm
  · intro hIdle
    exact .inl (fuzzyQuery_eq_openQuery_iff.mpr hIdle).symm

end Candidate

end QuestionQuery

------------------------------------------------------------
-- Idle Moves
------------------------------------------------------------

namespace QuestionQuery

/-
  Does a move add nothing to ask for?  It keeps a candidate,
  or searches for a label that is made of stopwords.
-/
def Move.IsIdle
    (stopwords : SortedSet String) : Move → Prop
  | .keep => True
  | .search _ label =>
    ∀ token, Candidate.IsToken label token → token ∈ stopwords
  | _ => False

namespace Candidate

variable {stopwords : SortedSet String}
variable {c : Candidate}

/- Nothing that is required can be taken back. -/
private theorem insert_ne_empty
    {s : SortedSet String}
    {a : String} :
    s.insert a ≠ .empty :=
  SortedSet.ne_empty_iff_exists_mem.mpr
    ⟨a, SortedSet.mem_insert.mpr (.inl rfl)⟩

/- One more search adds the tokens of its label. -/
private theorem forall_tokens_search_iff
    {name label : String} :
    (∀ other found,
        (c.search name label).fuzzyTokens.get? other = some found →
          ∀ token ∈ found, token ∈ stopwords) ↔
      (∀ token, IsToken label token → token ∈ stopwords) ∧
        ∀ other found,
          c.fuzzyTokens.get? other = some found →
            ∀ token ∈ found, token ∈ stopwords := by
  simp only [get?_fuzzyTokens_search, ← mem_tokens_iff]
  constructor
  · intro hAll
    have hNew := hAll name _ (if_pos rfl)
    simp only [SortedSet.mem_insertAll] at hNew
    refine ⟨fun token hToken => hNew token (.inr hToken), ?_⟩
    intro other found hFound token hToken
    by_cases hName : other = name
    · subst hName
      exact hNew token (.inl (by simpa [hFound] using hToken))
    · exact hAll other found (by simpa [hName] using hFound)
        token hToken
  · rintro ⟨hLabel, hOld⟩ other found hFound token hToken
    by_cases hName : other = name
    · simp only [hName, if_true, Option.some.injEq] at hFound
      subst hFound
      rcases SortedSet.mem_insertAll.mp hToken with
        hBefore | hNew
      · cases hSome : c.fuzzyTokens.get? name with
        | none => simp [hSome] at hBefore
        | some old =>
            exact hOld name old hSome token
              (by simpa [hSome] using hBefore)
      · exact hLabel token hNew
    · exact hOld other found (by simpa [hName] using hFound)
        token hToken

/- A move leaves an idle candidate if both are idle. -/
theorem isIdle_apply_iff
    {m : Move} :
    (m.apply c).IsIdle stopwords ↔
      m.IsIdle stopwords ∧ c.IsIdle stopwords := by
  cases m with
  | keep => simp [Move.apply, Move.IsIdle]
  | require pattern =>
      simp only [Move.IsIdle, false_and, iff_false]
      exact fun hIdle => insert_ne_empty hIdle.constraints
  | restrict v uri =>
      simp only [Move.IsIdle, false_and, iff_false]
      exact fun hIdle => insert_ne_empty hIdle.filters
  | search v label =>
      constructor
      · intro hIdle
        have hTokens := forall_tokens_search_iff.mp hIdle.tokens
        exact ⟨hTokens.1, hIdle.constraints, hIdle.filters,
          hTokens.2⟩
      · rintro ⟨hLabel, hIdle⟩
        exact ⟨hIdle.constraints, hIdle.filters,
          forall_tokens_search_iff.mpr ⟨hLabel, hIdle.tokens⟩⟩

/- Moves leave an idle candidate if all of them are idle. -/
theorem isIdle_foldl_iff
    {ms : List Move} :
    (ms.foldl Move.apply c).IsIdle stopwords ↔
      (∀ m ∈ ms, m.IsIdle stopwords) ∧ c.IsIdle stopwords := by
  induction ms generalizing c with
  | nil => simp
  | cons m ms ih =>
      rw [List.foldl_cons, ih, isIdle_apply_iff,
        List.forall_mem_cons]
      tauto

/- The empty candidate asks for nothing. -/
theorem isIdle_empty :
    empty.IsIdle stopwords where
  constraints := rfl
  filters := rfl
  tokens := by
    intro name found hFound
    simp [empty] at hFound

end Candidate

end QuestionQuery

------------------------------------------------------------
-- Skippable Words
------------------------------------------------------------

namespace QuestionQuery

namespace Word

/-
  May a word add nothing to a query?  Types are hints only,
  and most words may be left unsearched for.  Others have to
  be searched for, which adds nothing if the tokens of their
  labels are stopwords, or if there are none.
-/
inductive IsSkippable
    (stopwords : SortedSet String)
    (w : Word) : Prop
  | hint
      (hAnnotated : w.annotations ≠ .empty)
      (hTag :
        w.partOfSpeech ∈
          [.noun, .pluralNoun, .properNoun, .otherNoun,
            .whAdverb, .whPronoun])
  | unsearched
      (hPlain : w.annotations = .empty)
      (hTag :
        w.partOfSpeech ∈
          [.verb, .noun, .pluralNoun, .resolved, .whPronoun])
  | stopwords
      (hPlain : w.annotations = .empty)
      (hTag :
        w.partOfSpeech ∈
          [.combinedNoun, .properNoun, .adjective, .cardinal])
      (hTokens :
        ∀ token, Candidate.IsToken w.label token → token ∈ stopwords)

variable {source : LabelSource}
variable {stopwords : SortedSet String}
variable {w : Word}

/- An annotated word may be a hint unless it is a verb. -/
private theorem keep_mem_moves_iff_of_annotated
    (hAnnotated : w.annotations ≠ .empty) :
    .keep ∈ w.moves source ↔
      w.partOfSpeech ∈
        [.noun, .pluralNoun, .properNoun, .otherNoun,
          .whAdverb, .whPronoun] := by
  rw [mem_moves_of_annotated hAnnotated]
  rcases SortedSet.ne_empty_iff_exists_mem.mp hAnnotated with
    ⟨uri, hUri⟩
  have hAny : ∃ x, x ∈ w.annotations := ⟨uri, hUri⟩
  cases w.partOfSpeech <;>
    simp [Move.ofVerb, Move.ofNoun, Move.ofType, Move.forward,
      Move.backward, PartOfSpeech.isNoun, hAny]

/- Annotations are never searched for as texts. -/
private theorem eq_keep_of_isIdle_of_annotated
    {m : Move}
    (hAnnotated : w.annotations ≠ .empty)
    (hMove : m ∈ w.moves source)
    (hIdle : m.IsIdle stopwords) :
    m = .keep := by
  rcases (mem_moves_of_annotated hAnnotated).mp hMove with
    ⟨uri, _, ⟨_, hVerb⟩ | ⟨_, hNoun⟩ | ⟨_, hType⟩⟩
  · rcases Move.mem_ofVerb_iff.mp hVerb with rfl | rfl | rfl <;>
      exact hIdle.elim
  · rcases Move.mem_ofNoun_iff.mp hNoun with rfl | hType
    · exact hIdle.elim
    · rcases Move.mem_ofType_iff.mp hType with rfl | rfl | rfl
      · exact hIdle.elim
      · exact hIdle.elim
      · rfl
  · rcases Move.mem_ofType_iff.mp hType with rfl | rfl | rfl
    · exact hIdle.elim
    · exact hIdle.elim
    · rfl

/- A word has an idle move just if it may add nothing. -/
theorem exists_isIdle_iff :
    (∃ m ∈ w.moves source, m.IsIdle stopwords) ↔
      w.IsSkippable stopwords := by
  by_cases hPlain : w.annotations = .empty
  · constructor
    · rintro ⟨m, hMove, hIdle⟩
      rcases (mem_moves_of_plain hPlain).mp hMove with
        ⟨hTag, hLabel⟩ | ⟨hTag, rfl⟩ | ⟨hTag, _⟩
      · rcases Move.mem_ofLabel_iff.mp hLabel with ⟨v, rfl⟩
        by_cases hFree :
            w.partOfSpeech ∈
              [.verb, .noun, .pluralNoun, .resolved, .whPronoun]
        · exact .unsearched hPlain hFree
        · refine .stopwords hPlain ?_ hIdle
          simp only [List.mem_cons, List.not_mem_nil,
            or_false] at hTag hFree ⊢
          tauto
      · exact .unsearched hPlain hTag
      · exact .unsearched hPlain (by simp [hTag])
    · rintro (⟨hAnnotated, _⟩ | ⟨_, hTag⟩ | ⟨_, hTag, hTokens⟩)
      · exact absurd hPlain hAnnotated
      · refine ⟨.keep, ?_, trivial⟩
        exact (mem_moves_of_plain hPlain).mpr
          (.inr (.inl ⟨hTag, rfl⟩))
      · refine ⟨.search .proj w.label, ?_, hTokens⟩
        apply (mem_moves_of_plain hPlain).mpr
        refine .inl ⟨?_, Move.mem_ofLabel_iff.mpr ⟨_, rfl⟩⟩
        simp only [List.mem_cons, List.not_mem_nil,
          or_false] at hTag ⊢
        tauto
  · constructor
    · rintro ⟨m, hMove, hIdle⟩
      have hKeep :=
        eq_keep_of_isIdle_of_annotated hPlain hMove hIdle
      subst hKeep
      exact .hint hPlain
        ((keep_mem_moves_iff_of_annotated hPlain).mp hMove)
    · rintro (⟨_, hTag⟩ | ⟨hEmpty, _⟩ | ⟨hEmpty, _⟩)
      · exact ⟨.keep,
          (keep_mem_moves_iff_of_annotated hPlain).mpr hTag,
          trivial⟩
      · exact absurd hEmpty hPlain
      · exact absurd hEmpty hPlain

/- Moves with a property can be chosen if each word has one. -/
theorem exists_choice_forall_iff
    {ws : List Word}
    {p : Move → Prop} :
    (∃ ms, Choice source ws ms ∧ ∀ m ∈ ms, p m) ↔
      ∀ w ∈ ws, ∃ m ∈ w.moves source, p m := by
  induction ws with
  | nil => simp [Choice]
  | cons w ws ih =>
      rw [List.forall_mem_cons, ← ih]
      constructor
      · rintro ⟨_, hChoice, hAll⟩
        cases hChoice with
        | @cons _ m _ ms hMove hRest =>
            rw [List.forall_mem_cons] at hAll
            exact ⟨⟨m, hMove, hAll.1⟩, ms, hRest, hAll.2⟩
      · rintro ⟨⟨m, hMove, hFirst⟩, ms, hRest, hAll⟩
        exact ⟨m :: ms, .cons hMove hRest,
          List.forall_mem_cons.mpr ⟨hFirst, hAll⟩⟩

end Word

end QuestionQuery

------------------------------------------------------------
-- Questions
------------------------------------------------------------

namespace QuestionQuery

open Sparql

/- A tree has an idle candidate if all words may add nothing. -/
theorem Generation.exists_isIdle_iff
    (source : LabelSource)
    {stopwords : SortedSet String}
    {t : ParseTree} :
    (∃ c ∈ (ofTree source seed t).candidates,
        c.IsIdle stopwords) ↔
      ∀ w ∈ t.words, w.IsSkippable stopwords := by
  simp only [mem_candidates_ofTree_iff_choice, seed,
    SortedSet.mem_singleton, exists_eq_left]
  calc
    _ ↔ ∃ ms, Word.Choice source t.words ms ∧
          ∀ m ∈ ms, m.IsIdle stopwords := by
        constructor
        -- a candidate is idle just if all moves to it were
        · rintro ⟨_, ⟨ms, hChoice, rfl⟩, hIdle⟩
          exact ⟨ms, hChoice, (Candidate.isIdle_foldl_iff.mp hIdle).1⟩
        · rintro ⟨ms, hChoice, hMoves⟩
          exact ⟨_, ⟨ms, hChoice, rfl⟩,
            Candidate.isIdle_foldl_iff.mpr
              ⟨hMoves, Candidate.isIdle_empty⟩⟩
    _ ↔ ∀ w ∈ t.words,
          ∃ m ∈ w.moves source, m.IsIdle stopwords :=
        Word.exists_choice_forall_iff
    _ ↔ _ := by
        simp only [Word.exists_isIdle_iff]

namespace Builder

/-
  The query without any condition is among the queries of a
  question just if each word of the annotated tree may add
  nothing.
-/
theorem openQuery_mem_queries_build_iff
    (b : Builder)
    (t : ParseTree) :
    openQuery b.options ∈ (b.build t).queries ↔
      ∀ w ∈ (b.build t).tree.words,
        w.IsSkippable b.options.stopwords := by
  rw [← Generation.exists_isIdle_iff b.source]
  have hStep :
      ∀ c ∈ (b.build t).generation.candidates, c.InStep :=
    Generation.inStep_of_mem_candidates
      Generation.inStep_of_mem_seed
  constructor
  · intro hQuery
    rcases List.mem_flatMap.mp (SortedSet.mem_ofList.mp hQuery)
      with ⟨c, hMember, hOpen⟩
    exact ⟨c, hMember,
      (hStep c hMember).openQuery_mem_queries_iff.mp hOpen⟩
  · rintro ⟨c, hMember, hIdle⟩
    apply SortedSet.mem_ofList.mpr
    exact List.mem_flatMap.mpr ⟨c, hMember,
      (hStep c hMember).openQuery_mem_queries_iff.mpr hIdle⟩

/- A question of one name, which is no stopword. -/
def duneAlone : ParseTree :=
  .leaf (.plain "Dune" "NNP")

/- A question of stopwords and of a word without tokens. -/
def nameOfDash : ParseTree :=
  .node (.plain "name of" "CombinedNN")
    [.leaf (.plain " -" "JJ")]

theorem openQuery_mem_queries_build_nameOfDash :
    openQuery .default =
      "PREFIX text: <http://jena.apache.org/text#>\n" ++
        "SELECT DISTINCT ?proj WHERE \x7b\n\x7d\nLIMIT 12" ∧
    openQuery .default ∉
      ((ofLexicon .empty .empty).build duneAlone).queries ∧
    openQuery .default ∈
      ((ofLexicon .empty .empty).build nameOfDash).queries := by
  have hBuild :=
    openQuery_mem_queries_build_iff (ofLexicon .empty .empty)
  refine ⟨by decide +kernel, ?_, ?_⟩
  · intro hQuery
    have hDune :
        Word.IsSkippable Sparql.Options.default.stopwords
          (.plain "Dune" "NNP") :=
      (hBuild duneAlone).mp hQuery _ (by decide +kernel)
    rcases hDune with ⟨hAnnotated, _⟩ | ⟨_, hTag⟩ | ⟨_, _, hTokens⟩
    · exact hAnnotated rfl
    · exact absurd hTag (by decide)
    · exact absurd
        (hTokens "Dune"
          (Candidate.mem_tokens_iff.mp (by decide +kernel)))
        (by decide +kernel)
  · apply (hBuild nameOfDash).mpr
    have hWords :
        ((ofLexicon .empty .empty).build nameOfDash).tree.words =
          [.plain "name of" "CombinedNN", .plain " -" "JJ"] := by
      decide +kernel
    have hTokens
        (label : String)
        (hLabel : label = "name of" ∨ label = " -")
        (token : String)
        (hToken : Candidate.IsToken label token) :
        token ∈ Sparql.Options.default.stopwords := by
      have hAll :
          ∀ token ∈ Candidate.tokens label,
            token ∈ Sparql.Options.default.stopwords := by
        rcases hLabel with rfl | rfl <;> decide +kernel
      exact hAll token (Candidate.mem_tokens_iff.mpr hToken)
    simp only [hWords, List.forall_mem_cons]
    refine ⟨?_, ?_, by simp⟩
    · exact .stopwords rfl (by decide) (hTokens _ (.inl rfl))
    · exact .stopwords rfl (by decide) (hTokens _ (.inr rfl))

end Builder

end QuestionQuery
