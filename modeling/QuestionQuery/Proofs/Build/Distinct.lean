import QuestionQuery.Proofs.Build.Vocabulary
import QuestionQuery.Proofs.Candidate.Texts
import QuestionQuery.Proofs.Generation.Independence
import QuestionQuery.Proofs.Sparql.Recovery

/-
  Different candidates are written as different queries.

  A query that searches for whole phrases tells the phrases,
  the patterns and the conditions of its candidate, and the
  phrases tell the tokens.  The one exception is a phrase
  with a double quote in it, which may be taken for more than
  one phrase.

  Main statements:
    * `Candidate.DrawsOn.not_beginsClause_patternLines`
    * `Candidate.DrawsOn.eq_of_patternLines_eq`
    * `Candidate.eq_of_exactQuery_eq`
    * `Builder.distinct_queries_build`
-/

------------------------------------------------------------
-- Patterns And Conditions
------------------------------------------------------------

namespace QuestionQuery

open Sparql

/- A term begins like a variable, an IRI or a keyword. -/
private theorem Term.exists_toList_text
    (t : Term) :
    ∃ c cs, t.text.toList = c :: cs ∧ c ∈ ['?', '<', 'a'] := by
  cases t with
  | var v => cases v <;> exact ⟨'?', _, rfl, by simp⟩
  | rootPredicate => exact ⟨'?', _, rfl, by simp⟩
  | bridgePredicate => exact ⟨'?', _, rfl, by simp⟩
  | isA => exact ⟨'a', _, rfl, by simp⟩
  | iri uri =>
      exact ⟨'<', uri.toList ++ ['>'], by simp [text], by simp⟩

/- A term that begins like a variable is one. -/
private theorem Term.text_mem_varNames
    {t : Term}
    {cs : List Char}
    (hMark : t.text.toList = '?' :: cs) :
    t.text ∈ varNames := by
  cases t with
  | var v => exact v.name_mem_varNames
  | rootPredicate => simp [text, varNames]
  | bridgePredicate => simp [text, varNames]
  | isA => simp [text] at hMark
  | iri uri => simp [text] at hMark

/- Terms have line ends only in their IRIs. -/
private theorem Term.newline_notMem_text
    {t : Term}
    (hLines : ∀ uri, t = .iri uri → '\n' ∉ uri.toList) :
    '\n' ∉ t.text.toList := by
  cases t with
  | var v => cases v <;> decide +kernel
  | rootPredicate => decide +kernel
  | bridgePredicate => decide +kernel
  | isA => decide +kernel
  | iri uri => simpa [text] using hLines uri rfl

/- A triple pattern by its terms. -/
private theorem Triple.toList_text
    (t : Triple) :
    t.text.toList =
      t.subject.text.toList ++
        ' ' :: (t.predicate.text.toList ++
          ' ' :: (t.object.text.toList ++ ['.'])) := by
  simp [text]

/- Triple patterns have line ends only in their IRIs. -/
private theorem Triple.newline_notMem_text
    {t : Triple}
    (hLines : ∀ uri, t.Names uri → '\n' ∉ uri.toList) :
    '\n' ∉ t.text.toList := by
  have hSubject : '\n' ∉ t.subject.text.toList :=
    Term.newline_notMem_text fun uri hUri =>
      hLines uri (.inl hUri)
  have hPredicate : '\n' ∉ t.predicate.text.toList :=
    Term.newline_notMem_text fun uri hUri =>
      hLines uri (.inr (.inl hUri))
  have hObject : '\n' ∉ t.object.text.toList :=
    Term.newline_notMem_text fun uri hUri =>
      hLines uri (.inr (.inr hUri))
  rw [toList_text]
  simp [hSubject, hPredicate, hObject]

/- Conditions have line ends only in their IRIs. -/
private theorem Sparql.newline_notMem_membership
    {v : Variable}
    {uri : String}
    (hLines : '\n' ∉ uri.toList) :
    '\n' ∉ (membership v uri).toList := by
  cases v <;>
    simpa [membership, Variable.name, Term.text] using hLines

/- The limit is written on one line. -/
private theorem Sparql.newline_notMem_limit
    (o : Options) :
    '\n' ∉ ("LIMIT " ++ toString o.limit).toList := by
  have hDigits : '\n' ∉ (toString o.limit).toList := by
    intro hMember
    have hWord := (isSound_word_toString o.limit).2 '\n' hMember
    exact absurd hWord (by decide)
  rw [String.toList_append, List.mem_append]
  exact not_or.mpr ⟨by decide, hDigits⟩

/-
  A triple pattern does not search for a text: if a variable
  is its subject, then its predicate is no word with a `t`.
-/
private theorem Triple.not_beginsClause
    (t : Triple)
    (rest : List Char) :
    ¬BeginsClause (("  " ++ t.text).toList ++ rest) := by
  rintro ⟨name, hName, other, hText⟩
  rcases t.subject.exists_toList_text with ⟨c, cs, hFirst, -⟩
  rcases t.predicate.exists_toList_text with
    ⟨d, ds, hSecond, hMark⟩
  rw [String.toList_append, toList_text, hSecond] at hText
  have hIndented :
      t.subject.text.toList ++ ' ' :: (d :: ds ++
          ' ' :: (t.object.text.toList ++ ['.']) ++ rest) =
        name.toList ++ ' ' :: 't' :: other := by
    simpa using hText
  have hVariable : t.subject.text ∈ varNames := by
    rcases exists_toList_of_mem_varNames hName with ⟨ns, hNs⟩
    rw [hFirst, hNs] at hIndented
    rw [(List.cons.inj hIndented).1] at hFirst
    exact Term.text_mem_varNames hFirst
  have hBehind :=
    (eq_of_append_cons_eq
      (blank_notMem_of_mem_varNames hVariable)
      (blank_notMem_of_mem_varNames hName) hIndented).2
  rw [(List.cons.inj hBehind).1] at hMark
  simp at hMark

/- A triple pattern is not written as a condition is. -/
private theorem Triple.indented_ne_condition
    (t : Triple)
    (f : String) :
    "  " ++ t.text ≠ "  FILTER (" ++ f ++ ")." := by
  intro hText
  have hChars := congrArg String.toList hText
  rcases t.subject.exists_toList_text with ⟨c, cs, hFirst, hMark⟩
  rw [String.toList_append, toList_text, hFirst] at hChars
  have hLetter : c = 'F' := by
    simp at hChars
    exact hChars.1
  simp [hLetter] at hMark

namespace Candidate

variable {names : String → Prop}
variable {c d : Candidate}

namespace DrawsOn

/- What follows the searches does not begin as one. -/
theorem not_beginsClause_patternLines
    (hDraws : c.DrawsOn names)
    (rest : List Char) :
    ¬BeginsClause (lineChars (patternLines c) ++ rest) := by
  unfold patternLines
  cases hPatterns : c.constraints.toList with
  | cons s ss =>
      have hMember : s ∈ c.constraints := by
        rw [← SortedSet.mem_toList, hPatterns]
        exact List.mem_cons_self
      rcases hDraws.constraints s hMember with ⟨t, rfl, -⟩
      simp only [List.map_cons, List.cons_append,
        lineChars_cons, List.append_assoc]
      exact t.not_beginsClause _
  | nil =>
      rintro ⟨name, hName, other, hText⟩
      rcases exists_toList_of_mem_varNames hName with ⟨ns, hNs⟩
      cases hConditions : c.filters.toList <;>
        simp [hConditions, hNs] at hText

/- Lines have no line ends in them unless IRIs have. -/
theorem newline_notMem_patternLines
    (hLines : ∀ uri, names uri → '\n' ∉ uri.toList)
    (hDraws : c.DrawsOn names) :
    ∀ line ∈ patternLines c, '\n' ∉ line.toList := by
  intro line hLine
  simp only [patternLines, List.mem_append, List.mem_map,
    List.mem_singleton] at hLine
  rcases hLine with
    (⟨s, hMember, rfl⟩ | ⟨s, hMember, rfl⟩) | rfl
  · rcases hDraws.constraints s hMember with ⟨t, rfl, hNames⟩
    have hText : '\n' ∉ t.text.toList :=
      Triple.newline_notMem_text fun uri hUri =>
        hLines uri (hNames uri hUri)
    simpa using hText
  · rcases hDraws.filters s hMember with ⟨v, uri, rfl, hNamed⟩
    simpa using newline_notMem_membership (hLines uri hNamed)
  · decide +kernel

/- The patterns of a candidate are those on its lines. -/
private theorem mem_constraints_iff
    (hDraws : c.DrawsOn names)
    (s : String) :
    s ∈ c.constraints ↔
      (∃ t : Triple, t.text = s) ∧
        "  " ++ s ∈ patternLines c := by
  simp only [patternLines, List.mem_append, List.mem_map,
    List.mem_singleton, SortedSet.mem_toList]
  constructor
  · intro hMember
    rcases hDraws.constraints s hMember with ⟨t, hText, -⟩
    exact ⟨⟨t, hText⟩, .inl (.inl ⟨s, hMember, rfl⟩)⟩
  · rintro
      ⟨⟨t, rfl⟩, (⟨s, hMember, hText⟩ | ⟨f, _, hText⟩) | hText⟩
    · rwa [← (String.append_right_inj "  ").mp hText]
    · exact absurd hText.symm (t.indented_ne_condition f)
    · simp [← String.toList_inj] at hText

/- The conditions of a candidate are those on its lines. -/
private theorem mem_filters_iff
    (hDraws : c.DrawsOn names)
    (f : String) :
    f ∈ c.filters ↔
      "  FILTER (" ++ f ++ ")." ∈ patternLines c := by
  simp only [patternLines, List.mem_append, List.mem_map,
    List.mem_singleton, SortedSet.mem_toList]
  constructor
  · intro hMember
    exact .inl (.inr ⟨f, hMember, rfl⟩)
  · rintro ((⟨s, hMember, hText⟩ | ⟨g, hMember, hText⟩) | hText)
    · rcases hDraws.constraints s hMember with ⟨t, rfl, -⟩
      exact absurd hText (t.indented_ne_condition f)
    · have hSame : g = f := by
        simpa [← String.toList_inj] using hText
      rwa [← hSame]
    · simp [← String.toList_inj] at hText

/- Patterns and conditions are told apart by their lines. -/
theorem eq_of_patternLines_eq
    (hLeft : c.DrawsOn names)
    (hRight : d.DrawsOn names)
    (hText : patternLines c = patternLines d) :
    c.constraints = d.constraints ∧ c.filters = d.filters := by
  constructor
  · ext s
    rw [hLeft.mem_constraints_iff, hRight.mem_constraints_iff,
      hText]
  · ext f
    rw [hLeft.mem_filters_iff, hRight.mem_filters_iff, hText]

end DrawsOn

/- The phrases of a candidate can be read off from a query. -/
private theorem isLegible_of_mem_exactPhrases
    (hDraws : c.DrawsOn names)
    (hStep : c.InStep)
    (hPhrases :
      ∀ name phrase,
        c.HasPhrase name phrase → '"' ∉ phrase.toList) :
    ∀ e ∈ c.exactPhrases.toList, IsLegible e := by
  rintro ⟨name, phrases⟩ hEntry
  have hFound := SortedMap.mem_toList_iff.mp hEntry
  exact
    { name := hDraws.phraseNames name (List.mem_map_of_mem hEntry)
      nonempty := hStep.nonempty name phrases hFound
      phrases := fun phrase hPhrase =>
        hPhrases name phrase ⟨phrases, hFound, hPhrase⟩ }

/-
  A candidate is told by the query that searches for whole
  phrases, unless a phrase has a double quote.
-/
theorem eq_of_exactQuery_eq
    {o : Options}
    (hLines : ∀ uri, names uri → '\n' ∉ uri.toList)
    (hLeft : c.DrawsOn names)
    (hRight : d.DrawsOn names)
    (hLeftStep : c.InStep)
    (hRightStep : d.InStep)
    (hLeftPhrases :
      ∀ name phrase,
        c.HasPhrase name phrase → '"' ∉ phrase.toList)
    (hRightPhrases :
      ∀ name phrase,
        d.HasPhrase name phrase → '"' ∉ phrase.toList)
    (hText : c.exactQuery o = d.exactQuery o) :
    c = d := by
  have hChars := congrArg String.toList hText
  rw [exactQuery, exactQuery, toList_render,
    toList_render] at hChars
  rcases eq_of_textClauses_append_eq
      (isLegible_of_mem_exactPhrases hLeft hLeftStep hLeftPhrases)
      (isLegible_of_mem_exactPhrases hRight hRightStep
        hRightPhrases)
      (hLeft.not_beginsClause_patternLines _)
      (hRight.not_beginsClause_patternLines _)
      (List.append_cancel_left hChars) with
    ⟨hEntries, hBehind⟩
  have hLimit : '\n' ∉ ("LIMIT " ++ toString o.limit).toList :=
    newline_notMem_limit o
  have hPatterns : patternLines c = patternLines d :=
    eq_of_lineChars_append_eq
      (hLeft.newline_notMem_patternLines hLines)
      (hRight.newline_notMem_patternLines hLines)
      hLimit hLimit hBehind
  rcases hLeft.eq_of_patternLines_eq hRight hPatterns with
    ⟨hConstraints, hFilters⟩
  have hPhrases : c.exactPhrases = d.exactPhrases :=
    SortedMap.eq_of_toList_eq hEntries
  have hTokens : c.fuzzyTokens = d.fuzzyTokens :=
    hLeftStep.fuzzyTokens_eq hRightStep hPhrases
  cases c
  cases d
  simp_all

end Candidate

end QuestionQuery

------------------------------------------------------------
-- Queries Of Candidates
------------------------------------------------------------

namespace QuestionQuery

open Sparql

/- A set made of a list has no more members than the list. -/
theorem SortedSet.size_ofList_le
    {α : Type}
    [Ord α]
    [DecidableEq α]
    [Std.TransOrd α]
    [Std.LawfulEqOrd α]
    (xs : List α) :
    (ofList xs).size ≤ xs.length := by
  have hSame : (ofList xs).toFinset = xs.toFinset := by
    ext a
    simp
  rw [← card_toFinset, hSame]
  exact List.toFinset_card_le xs

namespace Builder

variable {o : Options}
variable {candidates : SortedSet Candidate}

/- The queries are the two renderings of each candidate. -/
theorem mem_queriesOf_iff
    {query : String} :
    query ∈ queriesOf o candidates ↔
      ∃ c ∈ candidates,
        query = c.fuzzyQuery o ∨ query = c.exactQuery o := by
  simp [queriesOf, Candidate.queries]

/- No candidate has more than two queries. -/
theorem size_queriesOf_le :
    (queriesOf o candidates).size ≤ 2 * candidates.size := by
  have hLength :
      (candidates.toList.flatMap (·.queries o)).length =
        2 * candidates.size := by
    rw [List.length_flatMap]
    simp [Candidate.queries, SortedSet.size, Nat.mul_comm]
  exact (SortedSet.size_ofList_le _).trans_eq hLength

/- Exact queries that differ are as many as the candidates. -/
theorem size_le_size_queriesOf
    (hApart :
      ∀ c ∈ candidates, ∀ d ∈ candidates,
        c.exactQuery o = d.exactQuery o → c = d) :
    candidates.size ≤ (queriesOf o candidates).size := by
  have hImage :
      candidates.toFinset.image (·.exactQuery o) ⊆
        (queriesOf o candidates).toFinset := by
    rw [Finset.image_subset_iff]
    intro c hMember
    rw [SortedSet.mem_toFinset, mem_queriesOf_iff]
    exact ⟨c, SortedSet.mem_toFinset.mp hMember, .inr rfl⟩
  have hInjective :
      Set.InjOn (·.exactQuery o) (candidates.toFinset : Set Candidate) := by
    intro c hMember d hOther hSame
    exact hApart c (SortedSet.mem_toFinset.mp hMember) d
      (SortedSet.mem_toFinset.mp hOther) hSame
  rw [← SortedSet.card_toFinset, ← SortedSet.card_toFinset,
    ← Finset.card_image_of_injOn hInjective]
  exact Finset.card_le_card hImage

end Builder

end QuestionQuery

------------------------------------------------------------
-- Questions
------------------------------------------------------------

namespace QuestionQuery

open Sparql

/- Trees name nothing but what their words name. -/
theorem ParseTree.forall_names_of_forall_words
    {p : String → Prop}
    {t : ParseTree}
    (hWords :
      ∀ w ∈ t.words,
        (∀ uri ∈ w.annotations.toList, p uri) ∧
          (w.partOfSpeech = .resolved → p w.label)) :
    ∀ uri, t.Names uri → p uri := by
  rintro uri ⟨w, hWord, hUri | ⟨hTag, rfl⟩⟩
  · exact (hWords w hWord).1 uri (SortedSet.mem_toList.mpr hUri)
  · exact (hWords w hWord).2 hTag

/- Candidates of a tree are told by their exact queries. -/
theorem Generation.eq_of_exactQuery_eq_of_mem
    {source : LabelSource}
    {t : ParseTree}
    {o : Options}
    {c d : Candidate}
    (hLines : ∀ uri, t.Names uri → '\n' ∉ uri.toList)
    (hLeft : c ∈ (ofTree source seed t).candidates)
    (hRight : d ∈ (ofTree source seed t).candidates)
    (hPhrases :
      ∀ name phrase,
        c.HasPhrase name phrase ∨ d.HasPhrase name phrase →
          '"' ∉ phrase.toList)
    (hText : c.exactQuery o = d.exactQuery o) :
    c = d :=
  Candidate.eq_of_exactQuery_eq hLines
    (drawsOn_of_mem_candidates_ofTree c hLeft)
    (drawsOn_of_mem_candidates_ofTree d hRight)
    (inStep_of_mem_candidates inStep_of_mem_seed c hLeft)
    (inStep_of_mem_candidates inStep_of_mem_seed d hRight)
    (fun name phrase hHas => hPhrases name phrase (.inl hHas))
    (fun name phrase hHas => hPhrases name phrase (.inr hHas))
    hText

namespace Builder

/-
  Different candidates of a question have different exact
  queries, whatever the options are, unless a phrase of one
  of them has a double quote.  So without such a phrase there
  are at least as many queries as candidates.  The queries
  are in any case the two renderings of the candidates, in
  ascending order, and so at most twice as many.
-/
theorem distinct_queries_build
    {b : Builder}
    {t : ParseTree}
    (hLines :
      ∀ uri, (b.build t).tree.Names uri → '\n' ∉ uri.toList) :
    (∀ o,
      ∀ c ∈ (b.build t).generation.candidates,
      ∀ d ∈ (b.build t).generation.candidates,
        c ≠ d →
        c.exactQuery o = d.exactQuery o →
          ∃ name phrase,
            (c.HasPhrase name phrase ∨ d.HasPhrase name phrase) ∧
              '"' ∈ phrase.toList) ∧
    ((∀ c ∈ (b.build t).generation.candidates,
        ∀ name phrase,
          c.HasPhrase name phrase → '"' ∉ phrase.toList) →
      (b.build t).generation.candidates.size ≤
          (b.build t).queries.size ∧
        (b.build t).queries.size ≤
          2 * (b.build t).generation.candidates.size) ∧
    Ascending (b.build t).queries.toList ∧
    ∀ query,
      query ∈ (b.build t).queries ↔
        ∃ c ∈ (b.build t).generation.candidates,
          query = c.fuzzyQuery b.options ∨
            query = c.exactQuery b.options := by
  refine ⟨?_, ?_, (b.build t).queries.ascending, ?_⟩
  · intro o c hLeft d hRight hNe hText
    by_contra hNone
    apply hNe
    apply Generation.eq_of_exactQuery_eq_of_mem hLines hLeft
      hRight _ hText
    intro name phrase hHas hQuote
    exact hNone ⟨name, phrase, hHas, hQuote⟩
  · intro hPhrases
    refine ⟨size_le_size_queriesOf ?_, size_queriesOf_le⟩
    intro c hLeft d hRight hText
    apply Generation.eq_of_exactQuery_eq_of_mem hLines hLeft
      hRight _ hText
    rintro name phrase (hHas | hHas)
    · exact hPhrases c hLeft name phrase hHas
    · exact hPhrases d hRight name phrase hHas
  · intro query
    exact mem_queriesOf_iff

/- A name that is quoted as two names, and these names. -/
def benAndJerry : ParseTree :=
  .node (.plain "Ben\" AND \"Jerry" "NN")
    [.leaf (.plain "Ben" "NN"), .leaf (.plain "Jerry" "NN")]

/- The candidate that searches for the one name. -/
def oneName : Candidate :=
  Candidate.empty.search "?proj" "Ben\" AND \"Jerry"

/- The candidate that searches for the two names. -/
def twoNames : Candidate :=
  (Candidate.empty.search "?proj" "Ben").search "?proj" "Jerry"

theorem distinct_queries_benAndJerry :
    (∀ uri,
      ((ofLexicon .empty .empty).build benAndJerry).tree.Names uri →
        '\n' ∉ uri.toList) ∧
    oneName ≠ twoNames ∧
    oneName.exactQuery .default = twoNames.exactQuery .default ∧
    (∃ name phrase,
      (oneName.HasPhrase name phrase ∨
        twoNames.HasPhrase name phrase) ∧
          '"' ∈ phrase.toList) ∧
    (∀ uri,
      ((ofLexicon .empty .empty).build whoWroteIt).tree.Names uri →
        '\n' ∉ uri.toList) ∧
    (∀ c ∈
        ((ofLexicon .empty .empty).build
          whoWroteIt).generation.candidates,
      ∀ name phrase,
        c.HasPhrase name phrase → '"' ∉ phrase.toList) ∧
    ((ofLexicon .empty .empty).build
        whoWroteIt).generation.candidates.size ≤
      ((ofLexicon .empty .empty).build whoWroteIt).queries.size := by
  have hNames : ∀ uri,
      ((ofLexicon .empty .empty).build benAndJerry).tree.Names uri →
        '\n' ∉ uri.toList :=
    ParseTree.forall_names_of_forall_words (by decide +kernel)
  have hLines : ∀ uri,
      ((ofLexicon .empty .empty).build whoWroteIt).tree.Names uri →
        '\n' ∉ uri.toList :=
    ParseTree.forall_names_of_forall_words (by decide +kernel)
  have hPhrases :
      ∀ c ∈
          ((ofLexicon .empty .empty).build
            whoWroteIt).generation.candidates,
        ∀ name phrase,
          c.HasPhrase name phrase → '"' ∉ phrase.toList := by
    have hAll :
        ∀ c ∈
            ((ofLexicon .empty .empty).build
              whoWroteIt).generation.candidates.toList,
          ∀ e ∈ c.exactPhrases.toList,
            ∀ phrase ∈ e.2.toList, '"' ∉ phrase.toList := by
      decide +kernel
    rintro c hMember name phrase ⟨phrases, hFound, hPhrase⟩
    exact hAll c hMember (name, phrases)
      (SortedMap.mem_toList_iff.mpr hFound) phrase hPhrase
  have hNe : oneName ≠ twoNames := by
    decide +kernel
  have hSame :
      oneName.exactQuery .default =
        twoNames.exactQuery .default := by
    decide +kernel
  exact
    ⟨hNames, hNe, hSame,
      (distinct_queries_build hNames).1 .default oneName
        (by decide +kernel) twoNames (by decide +kernel) hNe hSame,
      hLines, hPhrases,
      ((distinct_queries_build hLines).2.1 hPhrases).1⟩

end Builder

end QuestionQuery
