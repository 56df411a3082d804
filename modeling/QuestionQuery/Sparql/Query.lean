import QuestionQuery.Candidate.Basic

/-
  This file writes candidates as SPARQL queries.  Each one
  has two forms, which differ in how texts are searched for:
  by single tokens that may be misspelled, or by phrases.

  Key definitions include:
    * `Sparql.Options`
    * `Sparql.escaped`
    * `Sparql.fuzzyTerms`
    * `Sparql.exactTerms`
    * `Sparql.render`
    * `Candidate.fuzzyQuery`
    * `Candidate.exactQuery`
-/

namespace QuestionQuery

namespace Sparql

------------------------------------------------------------
-- Options
------------------------------------------------------------

/-
  How queries are written: the namespace of the text search,
  the predicate it looks at, how many hits it gives, how
  many answers a query gives, and the words that are too
  common to search for.
-/
structure Options where
  textNamespace : String
  textPredicate : String
  textHits : Nat
  limit : Nat
  stopwords : SortedSet String
deriving DecidableEq

/- The options if nothing else is said. -/
def Options.default : Options where
  textNamespace := "http://jena.apache.org/text#"
  textPredicate := "http://dbpedia.org/ontology/abstract"
  textHits := 1000
  limit := 12
  stopwords := .ofList ["of", "and", "in", "name", "was"]

instance : Inhabited Options :=
  ⟨.default⟩

------------------------------------------------------------
-- Literals
------------------------------------------------------------

/- A character inside a literal in single quotes. -/
def escapedChar
    (c : Char) : List Char :=
  if c = '\\' then ['\\', '\\']
  else if c = '\'' then ['\\', '\'']
  else if c = '\n' then ['\\', 'n']
  else if c = '\r' then ['\\', 'r']
  else [c]

/- A text inside a literal in single quotes. -/
def escaped
    (s : String) : String :=
  String.ofList (s.toList.flatMap escapedChar)

------------------------------------------------------------
-- Text Clauses
------------------------------------------------------------

/- A token, with one misspelling forgiven. -/
def fuzzyTerm
    (token : String) : String :=
  escaped token ++ "~1"

/- A phrase, as it stands. -/
def exactTerm
    (phrase : String) : String :=
  "\"" ++ escaped phrase ++ "\""

/- The terms of the tokens that are not too common. -/
def fuzzyTerms
    (o : Options)
    (tokens : SortedSet String) : List String :=
  (tokens.toList.filter (· ∉ o.stopwords)).map fuzzyTerm

/- The terms of phrases. -/
def exactTerms
    (phrases : SortedSet String) : List String :=
  phrases.toList.map exactTerm

/- The inside of the literal that asks for all terms. -/
def searchText
    (terms : List String) : String :=
  " AND ".intercalate terms

/- The line that searches for terms on behalf of a variable. -/
def textClause
    (o : Options)
    (name : String)
    (terms : List String) : String :=
  "  " ++ name ++ " text:query (<" ++ o.textPredicate ++ "> '" ++
    searchText terms ++ "' " ++ toString o.textHits ++ ")."

/- The lines of all variables that have terms. -/
def textClauses
    (o : Options)
    (terms : List (String × List String)) : List String :=
  (terms.filter (!·.2.isEmpty)).map fun e => textClause o e.1 e.2

------------------------------------------------------------
-- Queries
------------------------------------------------------------

/- The lines in front of all conditions. -/
def header
    (o : Options) : List String :=
  ["PREFIX text: <" ++ o.textNamespace ++ ">",
    "SELECT DISTINCT ?proj WHERE \x7b"]

/- The lines behind the text clauses. -/
def remainder
    (o : Options)
    (c : Candidate) : List String :=
  c.constraints.toList.map ("  " ++ ·) ++
    c.filters.toList.map (fun f => "  FILTER (" ++ f ++ ").") ++
    ["\x7d", "LIMIT " ++ toString o.limit]

/- The query of a candidate that searches for given terms. -/
def render
    (o : Options)
    (c : Candidate)
    (terms : List (String × List String)) : String :=
  "\n".intercalate (header o ++ textClauses o terms ++ remainder o c)

end Sparql

namespace Candidate

/- The query that searches for single tokens. -/
def fuzzyQuery
    (c : Candidate)
    (o : Sparql.Options) : String :=
  Sparql.render o c
    (c.fuzzyTokens.toList.map fun e => (e.1, Sparql.fuzzyTerms o e.2))

/- The query that searches for whole phrases. -/
def exactQuery
    (c : Candidate)
    (o : Sparql.Options) : String :=
  Sparql.render o c
    (c.exactPhrases.toList.map fun e => (e.1, Sparql.exactTerms e.2))

/- Both queries. -/
def queries
    (c : Candidate)
    (o : Sparql.Options) : List String :=
  [c.fuzzyQuery o, c.exactQuery o]

/- A candidate as its two queries by default, in lines. -/
def describe
    (c : Candidate) : String :=
  c.fuzzyQuery .default ++ "\n" ++ c.exactQuery .default

end Candidate

end QuestionQuery
