import Mathlib.Data.List.Basic
import QuestionQuery.Proofs.Sparql.Renderings

/-
  What can be read off from a search for tokens.

  Tokens may hold the word that joins terms, the mark of a
  misspelling, quotes and backslashes, but no white space.
  So a search falls apart into its terms at each place where
  the joining word stands between blanks, and a term is a
  token with the mark behind it.

  Key definitions include:
    * `Sparql.termsOf`
    * `Sparql.tokenOf?`
    * `Sparql.tokens?`

  Main statements:
    * `Candidate.InStep.blank_notMem`
    * `Sparql.termsOf_intercalate`
    * `Sparql.tokens?_fuzzyTexts`
    * `Candidate.fuzzySearches_tell_tokens`
-/

------------------------------------------------------------
-- Tokens Without Blanks
------------------------------------------------------------

namespace QuestionQuery

namespace Candidate

variable {c : Candidate}

/- There is no blank in a token of a candidate. -/
theorem InStep.blank_notMem
    (hStep : c.InStep)
    {name : String}
    {tokens : SortedSet String}
    (hTokens : c.fuzzyTokens.get? name = some tokens) :
    ∀ token ∈ tokens, ' ' ∉ token.toList := by
  intro token hToken
  cases hPhrases : c.exactPhrases.get? name with
  | none =>
      rw [(hStep.get?_eq_none_iff name).mpr hPhrases] at hTokens
      contradiction
  | some phrases =>
      rcases (hStep.tokens name tokens phrases hTokens hPhrases
          token).mp hToken with
        ⟨phrase, -, hLabel⟩
      exact hLabel.blank_notMem

end Candidate

end QuestionQuery

------------------------------------------------------------
-- Terms
------------------------------------------------------------

namespace QuestionQuery

namespace Sparql

/- What is behind a mark in a text is shorter than the text. -/
private theorem length_lt_of_dropInfix?
    {cs term rest : List Char}
    (hMark : cs.dropInfix? " AND ".toList = some (term, rest)) :
    rest.length < cs.length := by
  rcases (List.dropInfix?_eq_some_iff.mp hMark).1 with
    ⟨mark, rfl, hSame⟩
  rw [eq_of_beq hSame]
  simp
  omega

/- The terms of a search, cut where the joining word stands. -/
def termsOf
    (cs : List Char) : List (List Char) :=
  match h : cs.dropInfix? " AND ".toList with
  | none => [cs]
  | some (term, rest) =>
    have := length_lt_of_dropInfix? h
    term :: termsOf rest
termination_by cs.length

/- A term without the mark of a misspelling at its end. -/
def tokenOf?
    (term : List Char) : Option String :=
  (term.dropSuffix? "~1".toList).map String.ofList

/- The tokens that a search asks for, if all terms are. -/
def tokens?
    (cs : List Char) : Option (List String) :=
  (termsOf cs).mapM tokenOf?

/- The joining word does not stand in a text without blanks. -/
private theorem dropInfix?_eq_none
    {cs : List Char}
    (hBlank : ' ' ∉ cs) :
    cs.dropInfix? " AND ".toList = none := by
  rw [Option.eq_none_iff_forall_ne_some]
  rintro ⟨term, rest⟩ hMark
  rcases (List.dropInfix?_eq_some_iff.mp hMark).1 with
    ⟨mark, rfl, hSame⟩
  rw [eq_of_beq hSame] at hBlank
  simp at hBlank

/- Behind a text without blanks the joining word is found. -/
private theorem dropInfix?_append
    {term : List Char}
    (hBlank : ' ' ∉ term)
    (rest : List Char) :
    (term ++ " AND ".toList ++ rest).dropInfix? " AND ".toList =
      some (term, rest) := by
  rw [List.dropInfix?_eq_some_iff]
  refine ⟨⟨_, rfl, beq_self_eq_true _⟩, ?_⟩
  intro earlier mark others hText hSame
  rw [eq_of_beq hSame] at hText
  -- a mark that begins earlier has its first blank in the term
  by_contra hShorter
  have hLonger : earlier ++ [' '] <+: term := by
    have hEarlier :
        earlier ++ [' '] <+: term ++ " AND ".toList ++ rest := by
      rw [hText]
      exact ⟨"AND ".toList ++ others, by simp⟩
    have hTerm : term <+: term ++ " AND ".toList ++ rest :=
      ⟨" AND ".toList ++ rest, by simp⟩
    apply List.prefix_of_prefix_length_le hEarlier hTerm
    simp
    omega
  exact hBlank (hLonger.subset (by simp))

/- Terms without blanks are told apart once they are joined. -/
theorem termsOf_intercalate
    {terms : List (List Char)}
    (hNonempty : terms ≠ [])
    (hBlank : ∀ term ∈ terms, ' ' ∉ term) :
    termsOf (" AND ".toList.intercalate terms) = terms := by
  induction terms with
  | nil => exact absurd rfl hNonempty
  | cons term terms ih =>
      have hFirst : ' ' ∉ term := hBlank term List.mem_cons_self
      cases terms with
      | nil =>
          rw [List.intercalate_singleton, termsOf]
          split
          · rfl
          · next hMark =>
              rw [dropInfix?_eq_none hFirst] at hMark
              contradiction
      | cons next terms =>
          have hRest :=
            ih (by simp) fun t ht => hBlank t (.tail _ ht)
          rw [List.intercalate_cons_cons, termsOf]
          split
          · next hMark =>
              rw [dropInfix?_append hFirst] at hMark
              contradiction
          · next hMark =>
              rw [dropInfix?_append hFirst] at hMark
              cases hMark
              rw [hRest]

/- The mark of a misspelling is taken off where it was put. -/
theorem tokenOf?_append
    (token : String) :
    tokenOf? (token ++ "~1").toList = some token := by
  have hMark :
      (token ++ "~1").toList.dropSuffix? "~1".toList =
        some token.toList := by
    rw [List.dropSuffix?_eq_some_iff]
    exact ⟨"~1".toList, String.toList_append, beq_self_eq_true _⟩
  rw [tokenOf?, hMark, Option.map_some, String.ofList_toList]

/- A search for tokens is read as the tokens it asks for. -/
theorem tokens?_fuzzyTexts
    {o : Options}
    {tokens : SortedSet String}
    (hNonempty : fuzzyTexts o tokens ≠ [])
    (hBlank : ∀ token ∈ tokens, ' ' ∉ token.toList) :
    tokens? (" AND ".intercalate (fuzzyTexts o tokens)).toList =
      some (tokens.filter (· ∉ o.stopwords)).toList := by
  have hTerms :
      termsOf (" AND ".intercalate (fuzzyTexts o tokens)).toList =
        (fuzzyTexts o tokens).map String.toList := by
    rw [String.toList_intercalate]
    apply termsOf_intercalate
    · simpa using hNonempty
    · simp only [List.forall_mem_map, fuzzyTexts]
      intro token hToken hMember
      rw [String.toList_append, List.mem_append] at hMember
      rcases hMember with hInside | hMark
      · exact hBlank token (List.mem_filter.mp hToken).1 hInside
      · simp at hMark
  have hRead :
      tokenOf? ∘ String.toList ∘ (· ++ "~1") = fun token => some token :=
    funext tokenOf?_append
  rw [tokens?, hTerms, fuzzyTexts, List.map_map, List.mapM_map, hRead]
  exact List.mapM_pure.trans (congrArg some (List.map_id _))

end Sparql

end QuestionQuery

------------------------------------------------------------
-- Tokens Of A Candidate
------------------------------------------------------------

namespace QuestionQuery

namespace Candidate

open Sparql

variable {o : Options}
variable {c : Candidate}

/- Tokens are searched for if they are not all stopwords. -/
theorem fuzzyTexts_ne_nil_iff
    {tokens : SortedSet String} :
    fuzzyTexts o tokens ≠ [] ↔
      ∃ token ∈ tokens, token ∉ o.stopwords := by
  simp [fuzzyTexts]

/- The variables of searches are those with such tokens. -/
theorem mem_names_fuzzySearches_iff
    {name : String} :
    name ∈ (c.fuzzySearches o).map (·.name) ↔
      ∃ tokens,
        c.fuzzyTokens.get? name = some tokens ∧
          ∃ token ∈ tokens, token ∉ o.stopwords := by
  simp only [fuzzySearches, List.mem_map, mem_searches_iff]
  constructor
  · rintro ⟨s, ⟨e, ⟨⟨key, tokens⟩, hEntry, rfl⟩, hTexts, rfl⟩, rfl⟩
    exact ⟨tokens, SortedMap.mem_toList_iff.mp hEntry,
      fuzzyTexts_ne_nil_iff.mp hTexts⟩
  · rintro ⟨tokens, hTokens, hSome⟩
    refine ⟨.ofTexts (name, fuzzyTexts o tokens), ?_, rfl⟩
    exact
      ⟨(name, fuzzyTexts o tokens),
        ⟨(name, tokens), SortedMap.mem_toList_iff.mpr hTokens, rfl⟩,
        fuzzyTexts_ne_nil_iff.mpr hSome, rfl⟩

/- No variable has two searches. -/
theorem nodup_names_fuzzySearches
    (c : Candidate)
    (o : Options) :
    ((c.fuzzySearches o).map (·.name)).Nodup := by
  have hKeys :=
    names_searches_sublist
      (c.fuzzyTokens.toList.map fun e => (e.1, fuzzyTexts o e.2))
  rw [List.map_map] at hKeys
  exact hKeys.nodup c.fuzzyTokens.nodup_keys

/- A search is read as the tokens of its variable. -/
theorem InStep.tokens?_of_mem_fuzzySearches
    (hStep : c.InStep)
    {s : TextSearch}
    (hSearch : s ∈ c.fuzzySearches o) :
    ∃ tokens,
      c.fuzzyTokens.get? s.name = some tokens ∧
        tokens? (unescaped s.body.toList) =
          some (tokens.filter (· ∉ o.stopwords)).toList := by
  rcases mem_searches_iff.mp hSearch with
    ⟨e, hEntry, hTexts, rfl⟩
  rcases List.mem_map.mp hEntry with ⟨⟨name, tokens⟩, hOld, rfl⟩
  have hTokens := SortedMap.mem_toList_iff.mp hOld
  refine ⟨tokens, hTokens, ?_⟩
  rw [TextSearch.ofTexts, unescaped_escaped]
  exact tokens?_fuzzyTexts hTexts (hStep.blank_notMem hTokens)

/-
  The searches for tokens can be read back.  Let a candidate
  be put together from nothing, with any labels.  Then its
  query has one search for each variable with tokens that are
  no stopwords, and for no other.  The literal of a search
  ends at the first quote that is not escaped.  Without its
  escapes it is read as just these tokens in ascending order.
  So no other set of tokens has the same literal, be it of
  another candidate and with other stopwords.
-/
theorem fuzzySearches_tell_tokens :
    (∀ (c : Candidate) (o : Options),
      c.Assembled →
        c.fuzzyQuery o = withSearches o c (c.fuzzySearches o) ∧
          ((c.fuzzySearches o).map (·.name)).Nodup ∧
          (∀ name,
            name ∈ (c.fuzzySearches o).map (·.name) ↔
              ∃ tokens,
                c.fuzzyTokens.get? name = some tokens ∧
                  ∃ token ∈ tokens, token ∉ o.stopwords) ∧
          ∀ s ∈ c.fuzzySearches o,
            (∀ rest,
              body? ['\''] isPlain (s.body.toList ++ '\'' :: rest) =
                some (s.body.toList, rest)) ∧
            ∃ tokens,
              c.fuzzyTokens.get? s.name = some tokens ∧
                tokens? (unescaped s.body.toList) =
                  some (tokens.filter (· ∉ o.stopwords)).toList) ∧
    ∀ (c d : Candidate) (o p : Options),
      c.Assembled → d.Assembled →
        ∀ s ∈ c.fuzzySearches o, ∀ r ∈ d.fuzzySearches p,
          s.body = r.body →
            ∀ tokens others,
              c.fuzzyTokens.get? s.name = some tokens →
              d.fuzzyTokens.get? r.name = some others →
                tokens.filter (· ∉ o.stopwords) =
                  others.filter (· ∉ p.stopwords) := by
  constructor
  · intro c o hAssembled
    refine
      ⟨c.fuzzyQuery_eq o, c.nodup_names_fuzzySearches o,
        fun name => mem_names_fuzzySearches_iff, ?_⟩
    intro s hSearch
    exact ⟨closes_of_mem_searches hSearch,
      hAssembled.inStep.tokens?_of_mem_fuzzySearches hSearch⟩
  · intro c d o p hLeft hRight s hMine r hYours hBody tokens others
      hTokens hOthers
    rcases hLeft.inStep.tokens?_of_mem_fuzzySearches hMine with
      ⟨found, hFound, hRead⟩
    rcases hRight.inStep.tokens?_of_mem_fuzzySearches hYours with
      ⟨foundToo, hFoundToo, hReadToo⟩
    rw [hTokens, Option.some.injEq] at hFound
    rw [hOthers, Option.some.injEq] at hFoundToo
    rw [hBody, hReadToo, Option.some.injEq] at hRead
    rw [hFound, hFoundToo]
    exact (SortedSet.eq_of_toList_eq hRead).symm

/- A label with the joining word, a mark and a quote in it. -/
def rockAndRoll : Candidate :=
  empty.search "?proj" "Rock AND roll's~1"

/- The same words in another order, and a stopword. -/
def rollAndRock : Candidate :=
  empty.search "?const" "roll's~1 AND-Rock of"

theorem fuzzySearches_tell_rockAndRoll :
    rockAndRoll.Assembled ∧ rollAndRock.Assembled ∧
    ∃ s ∈ rockAndRoll.fuzzySearches .default,
      ∃ r ∈ rollAndRock.fuzzySearches .default,
        s.body = r.body ∧
        tokens? (unescaped s.body.toList) =
          some ["AND", "Rock", "roll's~1"] ∧
        ∀ tokens others,
          rockAndRoll.fuzzyTokens.get? s.name = some tokens →
          rollAndRock.fuzzyTokens.get? r.name = some others →
            tokens.filter (· ∉ Options.default.stopwords) =
              others.filter (· ∉ Options.default.stopwords) := by
  have hMine : rockAndRoll.Assembled :=
    .search "?proj" "Rock AND roll's~1" .empty
  have hYours : rollAndRock.Assembled :=
    .search "?const" "roll's~1 AND-Rock of" .empty
  have hSearch :
      ⟨"?proj", "AND~1 AND Rock~1 AND roll\\'s~1~1"⟩ ∈
        rockAndRoll.fuzzySearches .default :=
    List.mem_singleton.mpr rfl
  have hOther :
      ⟨"?const", "AND~1 AND Rock~1 AND roll\\'s~1~1"⟩ ∈
        rollAndRock.fuzzySearches .default :=
    List.mem_singleton.mpr rfl
  rcases ((fuzzySearches_tell_tokens.1 rockAndRoll .default
      hMine).2.2.2 _ hSearch).2 with
    ⟨tokens, hTokens, hRead⟩
  have hFound :
      rockAndRoll.fuzzyTokens.get? "?proj" =
        some (.ofList ["Rock", "AND", "roll's~1"]) := by
    decide +kernel
  rw [hFound, Option.some.injEq] at hTokens
  refine ⟨hMine, hYours, _, hSearch, _, hOther, rfl, ?_, ?_⟩
  · rw [hRead, ← hTokens]
    decide +kernel
  · exact
      fuzzySearches_tell_tokens.2 rockAndRoll rollAndRock .default
        .default hMine hYours _ hSearch _ hOther rfl

end Candidate

end QuestionQuery
