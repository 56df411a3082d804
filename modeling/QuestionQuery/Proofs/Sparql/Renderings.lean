import QuestionQuery.Proofs.Candidate.Texts
import QuestionQuery.Proofs.Sparql.TextSearch

/-
  What the two queries of a candidate have in common.

  Both begin and end alike, and differ in the searches they
  have in between.  A search for tokens ends in the mark of
  a misspelling and one for phrases in a double quote, so the
  first search of one query is never that of the other.  Thus
  the queries are the same only if there is nothing to search
  for at all.

  Key definitions include:
    * `SortedMap.mapValues`
    * `Sparql.searches`
    * `Candidate.fuzzySearches`
    * `Candidate.exactSearches`
    * `Candidate.withoutTokens`

  Main statements:
    * `Sparql.render_eq`
    * `Sparql.render_eq_render_iff`
    * `Candidate.fuzzyQuery_withoutTokens`
    * `Candidate.InStep.fuzzyQuery_ne_exactQuery`
    * `Candidate.queries_differ_in_searches`
-/

------------------------------------------------------------
-- Searches
------------------------------------------------------------

namespace QuestionQuery

namespace Sparql

variable {o : Options}
variable {c : Candidate}

/- The searches for texts, each on behalf of its variable. -/
def searches
    (texts : List (String × List String)) : List TextSearch :=
  (texts.filter (!·.2.isEmpty)).map TextSearch.ofTexts

/- Each search is the one for the texts of its variable. -/
theorem mem_searches_iff
    {texts : List (String × List String)}
    {s : TextSearch} :
    s ∈ searches texts ↔
      ∃ e ∈ texts, e.2 ≠ [] ∧ TextSearch.ofTexts e = s := by
  simp [searches, and_assoc]

/- A search ends at the first quote that is not escaped. -/
theorem closes_of_mem_searches
    {texts : List (String × List String)}
    {s : TextSearch}
    (hSearch : s ∈ searches texts)
    (rest : List Char) :
    body? ['\''] isPlain (s.body.toList ++ '\'' :: rest) =
      some (s.body.toList, rest) := by
  rcases mem_searches_iff.mp hSearch with ⟨e, -, hTexts, rfl⟩
  exact (TextSearch.asksFor_ofTexts hTexts).closes rest

/- Searches stand in the order of their variables. -/
theorem names_searches_sublist
    (texts : List (String × List String)) :
    ((searches texts).map (·.name)).Sublist
      (texts.map Prod.fst) := by
  rw [searches, List.map_map]
  exact List.filter_sublist.map Prod.fst

/- A query with escaped texts as its terms, by its searches. -/
theorem render_eq
    (o : Options)
    (c : Candidate)
    (texts : List (String × List String)) :
    render o c (texts.map fun e => (e.1, e.2.map escaped)) =
      withSearches o c (searches texts) := by
  rw [render, textClauses_map_escaped, searches]
  rfl

/- Queries of a candidate are told apart by their clauses. -/
theorem render_eq_render_iff
    {terms others : List (String × List String)} :
    render o c terms = render o c others ↔
      lineChars (textClauses o terms) =
        lineChars (textClauses o others) := by
  rw [← String.toList_inj, toList_render, toList_render,
    List.append_cancel_left_eq, List.append_cancel_right_eq]

end Sparql

namespace Candidate

open Sparql

variable {o : Options}
variable {c : Candidate}

/- The searches of the query for single tokens. -/
def fuzzySearches
    (c : Candidate)
    (o : Options) : List TextSearch :=
  searches (c.fuzzyTokens.toList.map fun e => (e.1, fuzzyTexts o e.2))

/- The searches of the query for whole phrases. -/
def exactSearches
    (c : Candidate) : List TextSearch :=
  searches (c.exactPhrases.toList.map fun e => (e.1, exactTexts e.2))

/- The query for single tokens, by its searches. -/
theorem fuzzyQuery_eq
    (c : Candidate)
    (o : Options) :
    c.fuzzyQuery o = withSearches o c (c.fuzzySearches o) := by
  rw [fuzzySearches, ← render_eq, List.map_map]
  simp only [fuzzyQuery, fuzzyTerms_eq]
  rfl

/- The query for whole phrases, by its searches. -/
theorem exactQuery_eq
    (c : Candidate)
    (o : Options) :
    c.exactQuery o = withSearches o c c.exactSearches := by
  rw [exactSearches, ← render_eq, List.map_map]
  simp only [exactQuery, exactTerms_eq]
  rfl

end Candidate

end QuestionQuery

------------------------------------------------------------
-- Tokens That Are Left Out
------------------------------------------------------------

namespace QuestionQuery

/- The same keys, with a function of their values. -/
def SortedMap.mapValues
    {κ ν μ : Type}
    [Ord κ]
    (f : ν → μ)
    (m : SortedMap κ ν) : SortedMap κ μ where
  toList := m.toList.map fun e => (e.1, f e.2)
  ascending := by
    rw [Entries.Ascending, List.pairwise_map]
    exact m.ascending

namespace Candidate

open Sparql

/- A candidate that searches for no token among some words. -/
def withoutTokens
    (c : Candidate)
    (words : SortedSet String) : Candidate :=
  { c with
    fuzzyTokens := c.fuzzyTokens.mapValues (·.filter (· ∉ words)) }

/- Tokens are left out by the query or beforehand. -/
theorem fuzzyQuery_withoutTokens
    (c : Candidate)
    (o : Options) :
    (c.withoutTokens o.stopwords).fuzzyQuery
        { o with stopwords := .empty } =
      c.fuzzyQuery o := by
  have hTerms
      (tokens : SortedSet String) :
      fuzzyTerms { o with stopwords := .empty }
          (tokens.filter (· ∉ o.stopwords)) =
        fuzzyTerms o tokens := by
    simp [fuzzyTerms, SortedSet.filter]
  have hEntries :
      (c.withoutTokens o.stopwords).fuzzyTokens.toList.map
          (fun e =>
            (e.1,
              fuzzyTerms { o with stopwords := .empty } e.2)) =
        c.fuzzyTokens.toList.map
          fun e => (e.1, fuzzyTerms o e.2) := by
    simp only [withoutTokens, SortedMap.mapValues, List.map_map,
      Function.comp_def, hTerms]
  rw [fuzzyQuery, hEntries]
  rfl

end Candidate

end QuestionQuery

------------------------------------------------------------
-- Where Queries Part
------------------------------------------------------------

namespace QuestionQuery

namespace Sparql

/- A search for some terms ends as the last of them. -/
theorem suffix_searchText
    {terms : List String}
    {suffix : List Char}
    (hNonempty : terms ≠ [])
    (hSuffix : ∀ term ∈ terms, suffix <:+ term.toList) :
    suffix <:+ (searchText terms).toList := by
  induction terms with
  | nil => exact absurd rfl hNonempty
  | cons term terms ih =>
      cases terms with
      | nil => simpa [searchText] using hSuffix
      | cons next terms =>
          have hRest :=
            ih (by simp) fun t ht => hSuffix t (.tail _ ht)
          rw [searchText, String.intercalate_cons_cons,
            String.toList_append]
          exact hRest.trans (List.suffix_append _ _)

/- A search for tokens is no search for phrases. -/
theorem searchText_fuzzyTerms_ne
    {o : Options}
    {tokens phrases : SortedSet String}
    (hTokens : fuzzyTerms o tokens ≠ [])
    (hPhrases : exactTerms phrases ≠ []) :
    searchText (fuzzyTerms o tokens) ≠
      searchText (exactTerms phrases) := by
  intro hSame
  have hDigit :
      ['1'] <:+ (searchText (fuzzyTerms o tokens)).toList := by
    apply suffix_searchText hTokens
    intro term hTerm
    rcases List.mem_map.mp hTerm with ⟨token, -, rfl⟩
    exact ⟨(escaped token).toList ++ ['~'], by simp [fuzzyTerm]⟩
  have hQuote :
      ['"'] <:+ (searchText (exactTerms phrases)).toList := by
    apply suffix_searchText hPhrases
    intro term hTerm
    rcases List.mem_map.mp hTerm with ⟨phrase, -, rfl⟩
    exact ⟨'"' :: (escaped phrase).toList, by simp [exactTerm]⟩
  rw [hSame] at hDigit
  have hMarks := List.suffix_of_suffix_length_le hDigit hQuote
      (Nat.le_refl _)
  exact absurd (hMarks.eq_of_length rfl) (by decide)

/- May the terms of a variable stand in a text clause? -/
structure IsClause
    (e : String × List String) : Prop where
  name : e.1 ∈ varNames
  body : IsBody '\'' (searchText e.2).toList

/- The first variable that has terms is one of all of them. -/
private theorem mem_of_filter_eq_cons
    {terms rest : List (String × List String)}
    {e : String × List String}
    (hFirst : terms.filter (!·.2.isEmpty) = e :: rest) :
    e ∈ terms ∧ e.2 ≠ [] := by
  have hMember : e ∈ terms.filter (!·.2.isEmpty) := by
    rw [hFirst]
    exact List.mem_cons_self
  simpa using hMember

/-
  Two blocks of clauses differ if one of them has a clause,
  and no search of one is a search of the other.  They part
  at their first lines, or at the end of the first block.
-/
theorem lineChars_textClauses_ne
    {o : Options}
    {terms others : List (String × List String)}
    (hTerms : ∀ e ∈ terms, IsClause e)
    (hOthers : ∀ e ∈ others, IsClause e)
    (hApart :
      ∀ e ∈ terms, ∀ f ∈ others,
        e.2 ≠ [] → f.2 ≠ [] → searchText e.2 ≠ searchText f.2)
    (hSome : ∃ f ∈ others, f.2 ≠ []) :
    lineChars (textClauses o terms) ≠
      lineChars (textClauses o others) := by
  intro hSame
  have hNonempty : others.filter (!·.2.isEmpty) ≠ [] := by
    simpa using hSome
  unfold textClauses at hSame
  cases hRight : others.filter (!·.2.isEmpty) with
  | nil => exact hNonempty hRight
  | cons f fs =>
      have hYours := mem_of_filter_eq_cons hRight
      cases hLeft : terms.filter (!·.2.isEmpty) with
      | nil => simp [hLeft, hRight] at hSame
      | cons e es =>
          have hMine := mem_of_filter_eq_cons hLeft
          rw [hLeft, hRight, List.map_cons, List.map_cons,
            lineChars_cons, lineChars_cons] at hSame
          have hClauses :=
            eq_of_textClause_append_eq
              (hTerms e hMine.1).name (hOthers f hYours.1).name
              (hTerms e hMine.1).body (hOthers f hYours.1).body
              hSame
          exact hApart e hMine.1 f hYours.1 hMine.2 hYours.2
            hClauses.2.1

end Sparql

namespace Candidate

open Sparql

variable {o : Options}
variable {c : Candidate}

/- A candidate with a phrase has two different queries. -/
theorem InStep.fuzzyQuery_ne_exactQuery
    (hStep : c.InStep)
    (hNames : ∀ name ∈ c.exactPhrases.keys, name ∈ varNames)
    {name phrase : String}
    {phrases : SortedSet String}
    (hPhrases : c.exactPhrases.get? name = some phrases)
    (hPhrase : phrase ∈ phrases) :
    c.fuzzyQuery o ≠ c.exactQuery o := by
  rw [fuzzyQuery, exactQuery, Ne, render_eq_render_iff]
  apply lineChars_textClauses_ne
  · simp only [List.forall_mem_map]
    intro e hEntry
    have hKey : e.1 ∈ c.fuzzyTokens.keys :=
      List.mem_map_of_mem hEntry
    exact ⟨hNames e.1 ((hStep.keys e.1).mp hKey),
      isBody_searchText_fuzzyTerms o e.2⟩
  · simp only [List.forall_mem_map]
    intro e hEntry
    exact ⟨hNames e.1 (List.mem_map_of_mem hEntry),
      isBody_searchText_exactTerms e.2⟩
  · simp only [List.forall_mem_map]
    intro e _ f _ hTokens hOthers
    exact searchText_fuzzyTerms_ne hTokens hOthers
  · refine ⟨(name, exactTerms phrases), ?_, ?_⟩
    · exact List.mem_map_of_mem
        (SortedMap.mem_toList_iff.mpr hPhrases)
    · exact List.ne_nil_of_mem (List.mem_map_of_mem hPhrase)

/- A candidate without phrases has no tokens either. -/
theorem InStep.fuzzyQuery_eq_exactQuery
    (hStep : c.InStep)
    (hNone :
      ∀ name phrases,
        c.exactPhrases.get? name = some phrases →
          phrases = .empty) :
    c.fuzzyQuery o = c.exactQuery o := by
  have hPhrases : c.exactPhrases = .empty := by
    ext1 name
    cases hFound : c.exactPhrases.get? name with
    | none => rfl
    | some phrases =>
        exact absurd (hNone name phrases hFound)
          (hStep.nonempty name phrases hFound)
  have hTokens : c.fuzzyTokens = .empty := by
    ext1 name
    rw [(hStep.get?_eq_none_iff name).mpr (by simp [hPhrases])]
    rfl
  rw [fuzzyQuery, exactQuery, hPhrases, hTokens]
  rfl

end Candidate

end QuestionQuery

------------------------------------------------------------
-- Both Queries
------------------------------------------------------------

namespace QuestionQuery

namespace Candidate

open Sparql

/-
  Both queries of a candidate are the same lines around their
  searches: in front the namespace and the answer that is
  asked for, behind them all patterns and all conditions in
  ascending order, the closing brace and the limit.  The one
  for phrases depends neither on stopwords nor on tokens, and
  the one for tokens is the one that the candidate has
  without stopwords, once these are taken from its tokens.
  If the candidate is put together from nothing and has texts
  for the two variables of questions only, both queries are
  the same just if it has no phrase.
-/
theorem queries_differ_in_searches :
    (∀ (c : Candidate) (o : Options),
      ∃ front behind : List String,
        front =
            ["PREFIX text: <" ++ o.textNamespace ++ ">",
              "SELECT DISTINCT ?proj WHERE \x7b"] ∧
          behind =
            c.constraints.toList.map (fun p => "  " ++ p) ++
              c.filters.toList.map
                (fun f => "  FILTER (" ++ f ++ ").") ++
              ["\x7d", "LIMIT " ++ toString o.limit] ∧
          c.fuzzyQuery o =
            "\n".intercalate
              (front ++ (c.fuzzySearches o).map (·.line o) ++
                behind) ∧
          c.exactQuery o =
            "\n".intercalate
              (front ++ c.exactSearches.map (·.line o) ++
                behind)) ∧
    (∀ (c : Candidate) (o : Options) fuzzyTokens stopwords,
      { c with fuzzyTokens }.exactQuery { o with stopwords } =
        c.exactQuery o) ∧
    (∀ (c : Candidate) (o : Options),
      c.fuzzyQuery o =
        (c.withoutTokens o.stopwords).fuzzyQuery
          { o with stopwords := .empty }) ∧
    ∀ (c : Candidate) (o : Options),
      c.Assembled →
      (∀ name ∈ c.exactPhrases.keys,
        name = "?proj" ∨ name = "?const") →
        (c.fuzzyQuery o = c.exactQuery o ↔
          ¬∃ name phrases phrase,
            c.exactPhrases.get? name = some phrases ∧
              phrase ∈ phrases) := by
  refine
    ⟨fun c o =>
        ⟨_, _, rfl, rfl, c.fuzzyQuery_eq o, c.exactQuery_eq o⟩,
      fun _ _ _ _ => rfl,
      fun c o => (c.fuzzyQuery_withoutTokens o).symm, ?_⟩
  intro c o hAssembled hNames
  constructor
  · rintro hSame ⟨name, phrases, phrase, hPhrases, hPhrase⟩
    have hVars : ∀ name ∈ c.exactPhrases.keys, name ∈ varNames := by
      intro name hName
      rcases hNames name hName with rfl | rfl <;> simp [varNames]
    exact hAssembled.inStep.fuzzyQuery_ne_exactQuery hVars hPhrases
      hPhrase hSame
  · intro hNone
    apply hAssembled.inStep.fuzzyQuery_eq_exactQuery
    intro name phrases hPhrases
    rw [SortedSet.eq_empty_iff_forall_notMem]
    intro phrase hPhrase
    exact hNone ⟨name, phrases, phrase, hPhrases, hPhrase⟩

/- A candidate that searches for stopwords and nothing else. -/
def nameOf : Candidate :=
  (((empty.require "?proj a <uri:Town>.").require
    "?const <uri:twin> ?proj.").restrict
      "?proj IN (<uri:Bath>)").search "?const" "name of"

theorem queries_differ_nameOf :
    nameOf.Assembled ∧
    (∀ name ∈ nameOf.exactPhrases.keys,
      name = "?proj" ∨ name = "?const") ∧
    nameOf.fuzzyQuery .default =
      "\n".intercalate
        ["PREFIX text: <http://jena.apache.org/text#>",
          "SELECT DISTINCT ?proj WHERE \x7b",
          "  ?const <uri:twin> ?proj.",
          "  ?proj a <uri:Town>.",
          "  FILTER (?proj IN (<uri:Bath>)).",
          "\x7d",
          "LIMIT 12"] ∧
    nameOf.exactQuery .default =
      "\n".intercalate
        ["PREFIX text: <http://jena.apache.org/text#>",
          "SELECT DISTINCT ?proj WHERE \x7b",
          "  ?const text:query " ++
            "(<http://dbpedia.org/ontology/abstract> " ++
            "'\"name of\"' 1000).",
          "  ?const <uri:twin> ?proj.",
          "  ?proj a <uri:Town>.",
          "  FILTER (?proj IN (<uri:Bath>)).",
          "\x7d",
          "LIMIT 12"] ∧
    nameOf.fuzzyQuery .default ≠ nameOf.exactQuery .default := by
  have hAssembled : nameOf.Assembled :=
    .search "?const" "name of"
      (.restrict "?proj IN (<uri:Bath>)"
        (.require "?const <uri:twin> ?proj."
          (.require "?proj a <uri:Town>." .empty)))
  have hNames :
      ∀ name ∈ nameOf.exactPhrases.keys,
        name = "?proj" ∨ name = "?const" := by
    decide +kernel
  have hAll := queries_differ_in_searches
  rcases hAll.1 nameOf .default with
    ⟨front, behind, hFront, hBehind, hFuzzy, hExact⟩
  have hLines :
      behind =
        ["  ?const <uri:twin> ?proj.", "  ?proj a <uri:Town>.",
          "  FILTER (?proj IN (<uri:Bath>)).", "\x7d",
          "LIMIT 12"] := by
    rw [hBehind]
    decide +kernel
  refine ⟨hAssembled, hNames, ?_, ?_, ?_⟩
  · rw [hFuzzy, hFront, hLines]
    rfl
  · rw [hExact, hFront, hLines]
    rfl
  · intro hSame
    exact (hAll.2.2.2 nameOf .default hAssembled hNames).mp hSame
      ⟨"?const", .singleton "name of", "name of",
        by decide +kernel, SortedSet.mem_singleton.mpr rfl⟩

end Candidate

end QuestionQuery
