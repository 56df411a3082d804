import QuestionQuery.Build
import QuestionQuery.Proofs.Generation.Choice
import QuestionQuery.Proofs.Sparql.Query

/-
  What the queries of a question are made of.

  Whatever the words of a question are, only the text of a
  literal depends on them, and on what is found for them.
  Every other token of a query is one of few words, signs
  and variables, or an IRI that was given as one.

  Key definitions include:
    * `Sparql.Writes`
    * `Candidate.DrawsOn`
    * `ParseTree.Names`

  Main statements:
    * `Candidate.DrawsOn.writes_of_mem_lex`
    * `Generation.drawsOn_of_mem_candidates_ofTree`
    * `Builder.writes_of_mem_queries`
-/

------------------------------------------------------------
-- Vocabulary
------------------------------------------------------------

namespace QuestionQuery

namespace Sparql

/-
  The tokens that queries consist of apart from braces.  The
  resources that may be IRIs are given.
-/
inductive Writes
    (o : Options)
    (names : String → Prop) : Token → Prop
  | variable
      {name : String}
      (hName : name ∈ varNames) :
      Writes o names (.var name)
  | keyword
      {name : String}
      (hName : name ∈ keywords) :
      Writes o names (.word name)
  | hits : Writes o names (.word (toString o.textHits))
  | limit : Writes o names (.word (toString o.limit))
  | sign
      {c : Char}
      (hSign : c ∈ ['(', ')', '.']) :
      Writes o names (.sign c)
  | textNamespace : Writes o names (.iri o.textNamespace)
  | textPredicate : Writes o names (.iri o.textPredicate)
  | resource
      {uri : String}
      (hNamed : names uri) :
      Writes o names (.iri uri)
  | literal
      {body : String} :
      Writes o names (.literal "'" body)

namespace Writes

variable {o : Options}
variable {names : String → Prop}

/- Braces are no part of the vocabulary. -/
theorem ne_brace
    {token : Token}
    (hWrites : Writes o names token) :
    token ≠ .sign '\x7b' ∧ token ≠ .sign '\x7d' := by
  cases hWrites with
  | sign hSign =>
      simp only [List.mem_cons, List.not_mem_nil,
        or_false] at hSign
      rcases hSign with rfl | rfl | rfl <;> simp
  | _ => simp

/- The tokens of a term. -/
theorem of_term
    {t : Term}
    (hNames : ∀ uri, t = .iri uri → names uri) :
    Writes o names t.token := by
  cases t with
  | var v => exact .variable v.name_mem_varNames
  | rootPredicate => exact .variable (by simp [varNames])
  | bridgePredicate => exact .variable (by simp [varNames])
  | isA => exact .keyword (by simp [keywords])
  | iri uri => exact .resource (hNames uri rfl)

/- The tokens of a clause. -/
theorem of_mem_clauseTokens
    {name : String}
    {terms : List String}
    (hName : name ∈ varNames) :
    ∀ token ∈ clauseTokens o name terms,
      Writes o names token := by
  simp only [clauseTokens, List.forall_mem_cons]
  refine ⟨.variable hName, .keyword ?_, .sign ?_,
    .textPredicate, .literal, .hits, .sign ?_, .sign ?_,
    by simp⟩ <;>
    simp [keywords]

/- The tokens of a condition. -/
theorem of_mem_filterTokens
    {v : Variable}
    {uri : String}
    (hNamed : names uri) :
    ∀ token ∈ filterTokens (membershipTokens v uri),
      Writes o names token := by
  simp only [filterTokens, membershipTokens,
    List.cons_append, List.nil_append, List.forall_mem_cons]
  refine ⟨.keyword ?_, .sign ?_,
    .variable v.name_mem_varNames, .keyword ?_, .sign ?_,
    .resource hNamed, .sign ?_, .sign ?_, .sign ?_,
    by simp⟩ <;>
    simp [keywords]

/- The tokens in front of the braces. -/
theorem of_mem_headTokens :
    ∀ token ∈ headTokens o, Writes o names token := by
  simp only [headTokens, List.forall_mem_cons]
  refine ⟨.keyword ?_, .keyword ?_, .textNamespace,
    .keyword ?_, .keyword ?_, .variable ?_, .keyword ?_,
    by simp⟩ <;>
    simp [keywords, varNames]

/- The tokens behind the braces. -/
theorem of_mem_tailTokens :
    ∀ token ∈ tailTokens o, Writes o names token := by
  simp only [tailTokens, List.forall_mem_cons]
  exact ⟨.keyword (by simp [keywords]), .limit, by simp⟩

end Writes

end Sparql

end QuestionQuery

------------------------------------------------------------
-- Candidates
------------------------------------------------------------

namespace QuestionQuery

open Sparql

/-
  Is a candidate made of patterns and conditions on given
  resources, and of texts for the variables of queries?
-/
structure Candidate.DrawsOn
    (names : String → Prop)
    (c : Candidate) : Prop where
  constraints :
    ∀ s ∈ c.constraints, ∃ t : Triple,
      t.text = s ∧ ∀ uri, t.Names uri → names uri
  filters :
    ∀ s ∈ c.filters, ∃ v uri,
      membership v uri = s ∧ names uri
  tokenNames : ∀ name ∈ c.fuzzyTokens.keys, name ∈ varNames
  phraseNames : ∀ name ∈ c.exactPhrases.keys, name ∈ varNames

/- The tokens of a pattern. -/
theorem Triple.writes_of_mem_tokens
    {o : Options}
    {names : String → Prop}
    {t : Triple}
    (hNames : ∀ uri, t.Names uri → names uri) :
    ∀ token ∈ t.tokens, Writes o names token := by
  simp only [tokens, List.forall_mem_cons]
  exact
    ⟨.of_term fun uri hUri => hNames uri (.inl hUri),
      .of_term fun uri hUri => hNames uri (.inr (.inl hUri)),
      .of_term fun uri hUri => hNames uri (.inr (.inr hUri)),
      .sign (by simp), by simp⟩

namespace Candidate

variable {o : Options}
variable {names : String → Prop}
variable {c : Candidate}

/- Candidates that draw on IRIs can be written. -/
theorem DrawsOn.isReadable
    (hIri : ∀ uri, names uri → IsIri uri)
    (hDraws : c.DrawsOn names) :
    c.IsReadable where
  constraints := by
    intro s hMember
    rcases hDraws.constraints s hMember with ⟨t, rfl, hNames⟩
    exact (Triple.reads_text fun uri hUri =>
      hIri uri (hNames uri hUri)).self
  filters := by
    intro s hMember
    rcases hDraws.filters s hMember with ⟨v, uri, rfl, hNamed⟩
    exact (reads_membership (hIri uri hNamed)).self

/- The tokens of a pattern that a candidate has. -/
private theorem writes_of_mem_constraints
    {s : String}
    (hIri : ∀ uri, names uri → IsIri uri)
    (hDraws : c.DrawsOn names)
    (hMember : s ∈ c.constraints) :
    ∀ token ∈ lex s.toList, Writes o names token := by
  rcases hDraws.constraints s hMember with ⟨t, rfl, hNames⟩
  have hReads : Reads t.text.toList t.tokens :=
    Triple.reads_text fun uri hUri => hIri uri (hNames uri hUri)
  rw [hReads.lex_eq]
  exact Triple.writes_of_mem_tokens hNames

/- The tokens of a condition that a candidate has. -/
private theorem writes_of_mem_filters
    {s : String}
    (hIri : ∀ uri, names uri → IsIri uri)
    (hDraws : c.DrawsOn names)
    (hMember : s ∈ c.filters) :
    ∀ token ∈ filterTokens (lex s.toList),
      Writes o names token := by
  rcases hDraws.filters s hMember with ⟨v, uri, rfl, hNamed⟩
  rw [(reads_membership (hIri uri hNamed)).lex_eq]
  exact .of_mem_filterTokens hNamed

/- The tokens between the braces of a candidate's queries. -/
private theorem writes_of_mem_innerTokens
    {terms : List (String × List String)}
    (hIri : ∀ uri, names uri → IsIri uri)
    (hDraws : c.DrawsOn names)
    (hNames : ∀ e ∈ terms, e.1 ∈ varNames) :
    ∀ token ∈ innerTokens o c terms,
      Writes o names token := by
  intro token hToken
  simp only [innerTokens, List.mem_append,
    List.mem_flatMap] at hToken
  rcases hToken with
    ⟨e, hEntry, hClause⟩ | ⟨s, hMember, hPattern⟩ |
      ⟨s, hMember, hFilter⟩
  · have hName := hNames e (List.mem_filter.mp hEntry).1
    exact .of_mem_clauseTokens hName token hClause
  · have hConstraint := SortedSet.mem_toList.mp hMember
    exact writes_of_mem_constraints hIri hDraws hConstraint
      token hPattern
  · have hCondition := SortedSet.mem_toList.mp hMember
    exact writes_of_mem_filters hIri hDraws hCondition
      token hFilter

end Candidate

/-
  A query that a candidate is written as has one opening and
  one closing brace, and all else is vocabulary.
-/
theorem Candidate.DrawsOn.writes_of_mem_lex
    {o : Options}
    {names : String → Prop}
    {c : Candidate}
    {terms : List (String × List String)}
    (hNamespace : IsIri o.textNamespace)
    (hPredicate : IsIri o.textPredicate)
    (hIri : ∀ uri, names uri → IsIri uri)
    (hDraws : c.DrawsOn names)
    (hTerms :
      ∀ e ∈ terms,
        e.1 ∈ varNames ∧
          IsBody '\'' (searchText e.2).toList) :
    (∀ token ∈ lex (render o c terms).toList,
      token = .sign '\x7b' ∨ token = .sign '\x7d' ∨
        Writes o names token) ∧
    (lex (render o c terms).toList).count (.sign '\x7b') = 1 ∧
    (lex (render o c terms).toList).count (.sign '\x7d') = 1 := by
  have hHead : ∀ token ∈ headTokens o, Writes o names token :=
    .of_mem_headTokens
  have hInner :
      ∀ token ∈ innerTokens o c terms, Writes o names token :=
    writes_of_mem_innerTokens hIri hDraws
      fun e hEntry => (hTerms e hEntry).1
  have hTail : ∀ token ∈ tailTokens o, Writes o names token :=
    .of_mem_tailTokens
  -- braces are no vocabulary, so there are no more of them
  have hNone
      {tokens : List Token}
      (hWrites : ∀ token ∈ tokens, Writes o names token) :
      tokens.count (.sign '\x7b') = 0 ∧
        tokens.count (.sign '\x7d') = 0 := by
    constructor <;> rw [List.count_eq_zero] <;> intro hMember
    · exact (hWrites _ hMember).ne_brace.1 rfl
    · exact (hWrites _ hMember).ne_brace.2 rfl
  rw [lex_render hNamespace hPredicate
    (hDraws.isReadable hIri) hTerms]
  refine ⟨?_, ?_, ?_⟩
  · intro token hToken
    simp only [List.mem_append, List.mem_cons] at hToken
    rcases hToken with hToken | hToken | hToken | hToken | hToken
    · exact .inr (.inr (hHead token hToken))
    · exact .inl hToken
    · exact .inr (.inr (hInner token hToken))
    · exact .inr (.inl hToken)
    · exact .inr (.inr (hTail token hToken))
  · simp [hNone hHead, hNone hInner, hNone hTail]
  · simp [hNone hHead, hNone hInner, hNone hTail]

end QuestionQuery

------------------------------------------------------------
-- Generated Candidates
------------------------------------------------------------

namespace QuestionQuery

open Sparql

/- Is a resource written by a move? -/
def Move.Names
    (uri : String) : Move → Prop
  | .require pattern => pattern.Names uri
  | .restrict _ other => other = uri
  | _ => False

/-
  Is a resource given by a word, as an annotation or as the
  label of a word that stands for a resource?
-/
def Word.Names
    (w : Word)
    (uri : String) : Prop :=
  uri ∈ w.annotations ∨
    (w.partOfSpeech = .resolved ∧ uri = w.label)

/- Is a resource given by a word of a tree? -/
def ParseTree.Names
    (t : ParseTree)
    (uri : String) : Prop :=
  ∃ w ∈ t.words, w.Names uri

namespace Candidate

variable {names : String → Prop}
variable {c : Candidate}

/- The empty candidate draws on nothing. -/
theorem drawsOn_empty :
    empty.DrawsOn names where
  constraints := by simp [empty]
  filters := by simp [empty]
  tokenNames := by simp [empty, SortedMap.mem_keys_iff]
  phraseNames := by simp [empty, SortedMap.mem_keys_iff]

/- A move on given resources keeps what is drawn on. -/
theorem DrawsOn.apply
    {m : Move}
    (hNames : ∀ uri, m.Names uri → names uri)
    (hDraws : c.DrawsOn names) :
    (m.apply c).DrawsOn names := by
  cases m with
  | keep => exact hDraws
  | require pattern =>
      refine { hDraws with constraints := ?_ }
      intro s hMember
      rcases SortedSet.mem_insert.mp hMember with rfl | hOld
      · exact ⟨pattern, rfl, hNames⟩
      · exact hDraws.constraints s hOld
  | restrict v uri =>
      refine { hDraws with filters := ?_ }
      intro s hMember
      rcases SortedSet.mem_insert.mp hMember with rfl | hOld
      · exact ⟨v, uri, rfl, hNames uri rfl⟩
      · exact hDraws.filters s hOld
  | search v label =>
      have hTokens := hDraws.tokenNames
      have hPhrases := hDraws.phraseNames
      simp only [SortedMap.mem_keys_iff] at hTokens hPhrases
      refine { hDraws with tokenNames := ?_, phraseNames := ?_ }
      · intro name hKey
        rw [SortedMap.mem_keys_iff] at hKey
        by_cases hName : name = v.name
        · exact hName ▸ v.name_mem_varNames
        · apply hTokens
          simpa [Move.apply, search, hName] using hKey
      · intro name hKey
        rw [SortedMap.mem_keys_iff] at hKey
        by_cases hName : name = v.name
        · exact hName ▸ v.name_mem_varNames
        · apply hPhrases
          simpa [Move.apply, search, hName] using hKey

end Candidate

namespace Word

variable {source : LabelSource}
variable {w : Word}
variable {m : Move}

/- Searching for a label writes no resource. -/
private theorem not_names_of_mem_ofLabel
    {label uri : String}
    (hMove : m ∈ Move.ofLabel label) :
    ¬m.Names uri := by
  rcases Move.mem_ofLabel_iff.mp hMove with ⟨v, rfl⟩
  exact id

/- Typing by a class writes only the class. -/
private theorem eq_of_mem_ofType
    {cls uri : String}
    (hMove : m ∈ Move.ofType cls)
    (hNames : m.Names uri) :
    uri = cls := by
  rcases Move.mem_ofType_iff.mp hMove with rfl | rfl | rfl <;>
    simp_all [Move.instanceOf, Move.Names, Triple.Names]

/- The moves of a word write only resources that it gives. -/
theorem names_of_mem_moves
    {uri : String}
    (hMove : m ∈ w.moves source)
    (hNames : m.Names uri) :
    w.Names uri := by
  by_cases hPlain : w.annotations = .empty
  · rcases (mem_moves_of_plain hPlain).mp hMove with
      ⟨_, hLabel⟩ | ⟨_, rfl⟩ |
        ⟨hTag, rfl | rfl | ⟨found, _, hLabel⟩⟩
    · exact absurd hNames (not_names_of_mem_ofLabel hLabel)
    · exact hNames.elim
    · right
      simp_all [Move.Names, Triple.Names]
    · exact .inr ⟨hTag, hNames.symm⟩
    · exact absurd hNames (not_names_of_mem_ofLabel hLabel)
  · rcases (mem_moves_of_annotated hPlain).mp hMove with
      ⟨other, hUri, hRule⟩
    left
    rcases hRule with ⟨_, hVerb⟩ | ⟨_, hNoun⟩ | ⟨_, hType⟩
    · rcases Move.mem_ofVerb_iff.mp hVerb with rfl | rfl | rfl <;>
        simp_all [Move.forward, Move.backward, Move.Names,
          Triple.Names]
    · rcases Move.mem_ofNoun_iff.mp hNoun with rfl | hType
      · simp_all [Move.backward, Move.Names, Triple.Names]
      · rwa [eq_of_mem_ofType hType hNames]
    · rwa [eq_of_mem_ofType hType hNames]

end Word

/- Candidates of a tree draw on the resources of its words. -/
theorem Generation.drawsOn_of_mem_candidates_ofTree
    {source : LabelSource}
    {t : ParseTree} :
    ∀ c ∈ (ofTree source seed t).candidates,
      c.DrawsOn t.Names := by
  apply forall_mem_candidates_ofTree
  · intro c hSeed
    rw [SortedSet.mem_singleton.mp hSeed]
    exact Candidate.drawsOn_empty
  · intro w hWord m hMove c hDraws
    apply hDraws.apply
    intro uri hNames
    exact ⟨w, hWord, Word.names_of_mem_moves hMove hNames⟩

end QuestionQuery

------------------------------------------------------------
-- Questions
------------------------------------------------------------

namespace QuestionQuery

open Sparql

namespace Candidate

variable {o : Options}
variable {names : String → Prop}
variable {c : Candidate}

/- Both queries of a candidate search in closed literals. -/
private theorem exists_terms_of_mem_queries
    {query : String}
    (hDraws : c.DrawsOn names)
    (hQuery : query ∈ c.queries o) :
    ∃ terms,
      query = render o c terms ∧
        ∀ e ∈ terms,
          e.1 ∈ varNames ∧
            IsBody '\'' (searchText e.2).toList := by
  simp only [queries, List.mem_cons, List.not_mem_nil,
    or_false] at hQuery
  rcases hQuery with rfl | rfl
  · refine ⟨_, rfl, ?_⟩
    intro e hEntry
    rcases List.mem_map.mp hEntry with ⟨old, hOld, rfl⟩
    have hKey : old.1 ∈ c.fuzzyTokens.keys :=
      List.mem_map_of_mem hOld
    exact ⟨hDraws.tokenNames old.1 hKey,
      isBody_searchText_fuzzyTerms o old.2⟩
  · refine ⟨_, rfl, ?_⟩
    intro e hEntry
    rcases List.mem_map.mp hEntry with ⟨old, hOld, rfl⟩
    have hKey : old.1 ∈ c.exactPhrases.keys :=
      List.mem_map_of_mem hOld
    exact ⟨hDraws.phraseNames old.1 hKey,
      isBody_searchText_exactTerms old.2⟩

end Candidate

namespace Builder

/-
  Nothing but a literal depends on the texts of a question.
  Its queries have one pair of braces, no variables but the
  four, no IRIs but those of the options and of the tree, and
  apart from literals only words and signs that are fixed.
-/
theorem writes_of_mem_queries
    {b : Builder}
    {t : ParseTree}
    (hNamespace : IsIri b.options.textNamespace)
    (hPredicate : IsIri b.options.textPredicate)
    (hIri : ∀ uri, (b.build t).tree.Names uri → IsIri uri) :
    ∀ query ∈ (b.build t).queries,
      (∀ token ∈ lex query.toList,
        token = .sign '\x7b' ∨ token = .sign '\x7d' ∨
          Writes b.options (b.build t).tree.Names token) ∧
      (lex query.toList).count (.sign '\x7b') = 1 ∧
      (lex query.toList).count (.sign '\x7d') = 1 := by
  intro query hQuery
  rcases List.mem_flatMap.mp (SortedSet.mem_ofList.mp hQuery)
    with ⟨c, hCandidate, hWritten⟩
  have hDraws : c.DrawsOn (b.build t).tree.Names :=
    Generation.drawsOn_of_mem_candidates_ofTree c
      (SortedSet.mem_toList.mp hCandidate)
  rcases Candidate.exists_terms_of_mem_queries hDraws hWritten
    with ⟨terms, rfl, hTerms⟩
  exact hDraws.writes_of_mem_lex hNamespace hPredicate hIri
    hTerms

/-
  A question with a resource, an annotation, and a name that
  tries to close the literal and the braces around it.
-/
def whoWroteIt : ParseTree :=
  .node
    { Word.plain "wrote" "VBD" with
      annotations :=
        .singleton "http://dbpedia.org/ontology/author" }
    [.leaf (.plain "http://dbpedia.org/resource/Dune" "ADD"),
      .leaf (.plain "It'). \x7d ?x <http://a.b> # \\" "NNP")]

theorem writes_of_mem_queries_whoWroteIt :
    (∀ uri,
      ((ofLexicon .empty .empty).build whoWroteIt).tree.Names uri →
        IsIri uri) ∧
    ∀ query ∈
        ((ofLexicon .empty .empty).build whoWroteIt).queries,
      (∀ token ∈ lex query.toList,
        token = .sign '\x7b' ∨ token = .sign '\x7d' ∨
          Writes .default
            ((ofLexicon .empty .empty).build whoWroteIt).tree.Names
            token) ∧
      (lex query.toList).count (.sign '\x7b') = 1 ∧
      (lex query.toList).count (.sign '\x7d') = 1 := by
  have hWords :
      ∀ w ∈
          ((ofLexicon .empty .empty).build whoWroteIt).tree.words,
        (∀ uri ∈ w.annotations.toList, IsIri uri) ∧
          (w.partOfSpeech = .resolved → IsIri w.label) := by
    decide +kernel
  have hIri :
      ∀ uri,
        ((ofLexicon .empty .empty).build whoWroteIt).tree.Names
            uri →
          IsIri uri := by
    rintro uri ⟨w, hWord, hUri | ⟨hTag, rfl⟩⟩
    · exact (hWords w hWord).1 uri
        (SortedSet.mem_toList.mpr hUri)
    · exact (hWords w hWord).2 hTag
  exact ⟨hIri,
    writes_of_mem_queries (by decide +kernel)
      (by decide +kernel) hIri⟩

end Builder

end QuestionQuery
