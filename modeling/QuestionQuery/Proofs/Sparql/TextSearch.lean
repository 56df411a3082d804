import Mathlib.Data.List.Forall2
import QuestionQuery.Proofs.Sparql.Literal
import QuestionQuery.Proofs.Sparql.Recovery

/-
  What the searches of a query stand for.

  The marks that are put around terms and between them need
  no escapes.  So the literal of a search, which is made of
  terms that were escaped one by one, is the escaped form of
  the search as it is meant.  It ends where it should, and
  read back it is that search again, whatever the terms are.

  Key definitions include:
    * `Sparql.IsEscapedText`
    * `Sparql.fuzzyTexts`
    * `Sparql.exactTexts`
    * `Sparql.TextSearch`
    * `Sparql.TextSearch.AsksFor`
    * `Sparql.withSearches`
    * `Sparql.SearchesFor`

  Main statements:
    * `Sparql.isEscapedText_escaped`
    * `Sparql.searchText_map_escaped`
    * `Sparql.searchesFor_render`
    * `Candidate.searchesFor_queries`
-/

------------------------------------------------------------
-- Escaped Texts
------------------------------------------------------------

namespace QuestionQuery

namespace Sparql

/-
  Does a text consist of characters that need no escape, and
  of escapes for the four characters that do?
-/
inductive IsEscapedText : List Char → Prop
  | nil : IsEscapedText []
  | plain
      {c : Char}
      {cs : List Char}
      (hPlain : c ∉ ['\'', '\\', '\n', '\r'])
      (hRest : IsEscapedText cs) :
      IsEscapedText (c :: cs)
  | escape
      {c : Char}
      {cs : List Char}
      (hEscape : c ∈ ['\\', '\'', 'n', 'r'])
      (hRest : IsEscapedText cs) :
      IsEscapedText ('\\' :: c :: cs)

/- A character is escaped if it needs to be. -/
private theorem isEscapedText_escapedChar_append
    (c : Char)
    {cs : List Char}
    (hRest : IsEscapedText cs) :
    IsEscapedText (escapedChar c ++ cs) := by
  unfold escapedChar
  split
  · exact .escape (by simp) hRest
  split
  · exact .escape (by simp) hRest
  split
  · exact .escape (by simp) hRest
  split
  · exact .escape (by simp) hRest
  · next hBackslash hQuote hNewline hReturn =>
      have hPlain : c ∉ ['\'', '\\', '\n', '\r'] := by
        simp [hBackslash, hQuote, hNewline, hReturn]
      exact .plain hPlain hRest

/- Whatever a text is, it can be escaped. -/
theorem isEscapedText_escaped
    (s : String) :
    IsEscapedText (escaped s).toList := by
  rw [escaped, String.toList_ofList]
  induction s.toList with
  | nil => exact .nil
  | cons c cs ih =>
      rw [List.flatMap_cons]
      exact isEscapedText_escapedChar_append c ih

/- Texts can be escaped one after the other. -/
theorem escaped_append
    (s t : String) :
    escaped (s ++ t) = escaped s ++ escaped t := by
  rw [← String.toList_inj]
  simp [escaped]

/- Texts can be escaped before they are joined. -/
theorem escaped_intercalate
    (sep : String)
    (ts : List String) :
    escaped (sep.intercalate ts) =
      (escaped sep).intercalate (ts.map escaped) := by
  induction ts with
  | nil => rfl
  | cons t ts ih =>
      cases ts with
      | nil => simp
      | cons u us =>
          rw [List.map_cons] at ih ⊢
          rw [List.map_cons, String.intercalate_cons_cons,
            String.intercalate_cons_cons, escaped_append,
            escaped_append, ih]

------------------------------------------------------------
-- Searches As They Are Meant
------------------------------------------------------------

/- Tokens that are not too common, a misspelling forgiven. -/
def fuzzyTexts
    (o : Options)
    (tokens : SortedSet String) : List String :=
  (tokens.toList.filter (· ∉ o.stopwords)).map (· ++ "~1")

/- Phrases, each between double quotes. -/
def exactTexts
    (phrases : SortedSet String) : List String :=
  phrases.toList.map fun phrase => "\"" ++ phrase ++ "\""

/- The mark of a misspelling needs no escape. -/
theorem fuzzyTerm_eq
    (token : String) :
    fuzzyTerm token = escaped (token ++ "~1") := by
  have hMark : escaped "~1" = "~1" := by
    decide +kernel
  rw [escaped_append, hMark, fuzzyTerm]

/- Double quotes need no escape. -/
theorem exactTerm_eq
    (phrase : String) :
    exactTerm phrase = escaped ("\"" ++ phrase ++ "\"") := by
  have hMark : escaped "\"" = "\"" := by
    decide +kernel
  rw [escaped_append, escaped_append, hMark, exactTerm]

theorem fuzzyTerms_eq
    (o : Options)
    (tokens : SortedSet String) :
    fuzzyTerms o tokens = (fuzzyTexts o tokens).map escaped := by
  simp [fuzzyTerms, fuzzyTexts, fuzzyTerm_eq]

theorem exactTerms_eq
    (phrases : SortedSet String) :
    exactTerms phrases = (exactTexts phrases).map escaped := by
  simp [exactTerms, exactTexts, exactTerm_eq]

/-
  What stands between terms needs no escape, so a search for
  escaped terms is the escaped search.
-/
theorem searchText_map_escaped
    (texts : List String) :
    searchText (texts.map escaped) =
      escaped (" AND ".intercalate texts) := by
  have hMark : escaped " AND " = " AND " := by
    decide +kernel
  rw [escaped_intercalate, hMark, searchText]

------------------------------------------------------------
-- Searches In A Query
------------------------------------------------------------

/-
  A search as it stands in a query: a variable, and what is
  between the single quotes.
-/
structure TextSearch where
  name : String
  body : String

namespace TextSearch

/- The line of a search. -/
def line
    (o : Options)
    (s : TextSearch) : String :=
  "  " ++ s.name ++ " text:query (<" ++ o.textPredicate ++ "> '" ++
    s.body ++ "' " ++ toString o.textHits ++ ")."

/-
  Does a search ask for given texts on behalf of a variable?
  There are such texts.  Its literal has the escapes that it
  needs and ends at the first quote that is not escaped, and
  without escapes it is the texts, joined.
-/
structure AsksFor
    (e : String × List String)
    (s : TextSearch) : Prop where
  name : s.name = e.1
  nonempty : e.2 ≠ []
  body : IsEscapedText s.body.toList
  closes :
    ∀ rest,
      body? ['\''] isPlain (s.body.toList ++ '\'' :: rest) =
        some (s.body.toList, rest)
  text : unescaped s.body.toList = (" AND ".intercalate e.2).toList

/- The search for texts on behalf of a variable. -/
def ofTexts
    (e : String × List String) : TextSearch where
  name := e.1
  body := escaped (" AND ".intercalate e.2)

/- Whatever the texts are, the search for them asks for them. -/
theorem asksFor_ofTexts
    {e : String × List String}
    (hNonempty : e.2 ≠ []) :
    (ofTexts e).AsksFor e where
  name := rfl
  nonempty := hNonempty
  body := isEscapedText_escaped _
  closes := fun _ => body?_append (by decide) (isBody_escaped _)
  text := unescaped_escaped _

/- The line of the search for texts is that of their terms. -/
theorem line_ofTexts
    (o : Options)
    (e : String × List String) :
    (ofTexts e).line o = textClause o e.1 (e.2.map escaped) := by
  rw [textClause, searchText_map_escaped]
  rfl

end TextSearch

/-
  The query with given searches, line by line.  It has the
  namespace and the answer that is asked for in front, and
  behind the searches all patterns and all conditions of the
  candidate, the closing brace and the limit.
-/
def withSearches
    (o : Options)
    (c : Candidate)
    (searches : List TextSearch) : String :=
  "\n".intercalate
    (["PREFIX text: <" ++ o.textNamespace ++ ">",
        "SELECT DISTINCT ?proj WHERE \x7b"] ++
      searches.map (·.line o) ++
      (c.constraints.toList.map (fun p => "  " ++ p) ++
        c.filters.toList.map (fun f => "  FILTER (" ++ f ++ ").") ++
        ["\x7d", "LIMIT " ++ toString o.limit]))

/-
  Does a query have a search for each variable that has
  texts, and no other searches?
-/
def SearchesFor
    (o : Options)
    (c : Candidate)
    (query : String)
    (texts : List (String × List String)) : Prop :=
  ∃ searches : List TextSearch,
    query = withSearches o c searches ∧
    List.Forall₂ TextSearch.AsksFor
      (texts.filter (!·.2.isEmpty)) searches

/- The text clauses of escaped texts search for the texts. -/
theorem textClauses_map_escaped
    (o : Options)
    (texts : List (String × List String)) :
    textClauses o (texts.map fun e => (e.1, e.2.map escaped)) =
      ((texts.filter (!·.2.isEmpty)).map
        TextSearch.ofTexts).map (·.line o) := by
  simp [textClauses, List.filter_map, Function.comp_def,
    TextSearch.line_ofTexts]

/- A query with escaped texts as its terms searches for them. -/
theorem searchesFor_render
    (o : Options)
    (c : Candidate)
    (texts : List (String × List String)) :
    SearchesFor o c
      (render o c (texts.map fun e => (e.1, e.2.map escaped)))
      texts := by
  refine
    ⟨(texts.filter (!·.2.isEmpty)).map TextSearch.ofTexts, ?_, ?_⟩
  · rw [render, textClauses_map_escaped]
    rfl
  · rw [List.forall₂_map_right_iff, List.forall₂_same]
    intro e hEntry
    apply TextSearch.asksFor_ofTexts
    simpa using (List.mem_filter.mp hEntry).2

end Sparql

namespace Candidate

/-
  The searches of queries are closed and lossless.  In both
  queries of a candidate each variable that has terms has one
  search, in the order of variables.  Its literal holds just
  these terms in ascending order, be they tokens without the
  common ones or phrases, and is never without a term.
-/
theorem searchesFor_queries
    (c : Candidate)
    (o : Sparql.Options) :
    Sparql.SearchesFor o c (c.fuzzyQuery o)
      (c.fuzzyTokens.toList.map fun e =>
        (e.1, Sparql.fuzzyTexts o e.2)) ∧
    Sparql.SearchesFor o c (c.exactQuery o)
      (c.exactPhrases.toList.map fun e =>
        (e.1, Sparql.exactTexts e.2)) := by
  constructor
  · have hSearches :=
      Sparql.searchesFor_render o c
        (c.fuzzyTokens.toList.map fun e =>
          (e.1, Sparql.fuzzyTexts o e.2))
    rw [List.map_map] at hSearches
    simp only [fuzzyQuery, Sparql.fuzzyTerms_eq]
    exact hSearches
  · have hSearches :=
      Sparql.searchesFor_render o c
        (c.exactPhrases.toList.map fun e =>
          (e.1, Sparql.exactTexts e.2))
    rw [List.map_map] at hSearches
    simp only [exactQuery, Sparql.exactTerms_eq]
    exact hSearches

/-
  A phrase that ends in a backslash, and one that has nothing
  but quotes, stay between the quotes around them.
-/
example :
    ((empty.search "?proj" "a\\").search "?proj" "''").exactQuery
        .default =
      Sparql.withSearches .default empty
        [⟨"?proj", "\"\\'\\'\" AND \"a\\\\\""⟩] := by
  decide +kernel

end Candidate

end QuestionQuery
