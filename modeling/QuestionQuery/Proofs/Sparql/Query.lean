import QuestionQuery.Proofs.Sparql.Literal

/-
  The tokens of queries.

  Every line of a query but the last one is read by itself
  as it is read in front of any other text.  So the tokens
  of a query are those of its lines.

  Key definitions include:
    * `Term.token`
    * `Triple.tokens`
    * `Triple.Names`
    * `Sparql.clauseTokens`
    * `Sparql.innerTokens`
    * `Candidate.IsReadable`

  Main statements:
    * `Triple.reads_text`
    * `Sparql.reads_membership`
    * `Sparql.reads_textClause`
    * `Sparql.lex_render`
-/

------------------------------------------------------------
-- Words And Variables
------------------------------------------------------------

namespace QuestionQuery

namespace Sparql

/- The words of queries that are no numerals. -/
def keywords : List String :=
  ["PREFIX", "text:", "SELECT", "DISTINCT", "WHERE",
    "text:query", "a", "IN", "FILTER", "LIMIT"]

/- The variables of queries. -/
def varNames : List String :=
  ["?proj", "?const", "?proot", "?pbridge"]

/- Keywords are sound. -/
theorem isSound_word_of_mem_keywords
    {name : String}
    (hName : name ∈ keywords) :
    (Token.word name).IsSound := by
  have hAll :
      ∀ name ∈ keywords,
        name ≠ "" ∧ name.toList.all isWordChar := by
    decide +kernel
  rcases hAll name hName with ⟨hNonempty, hChars⟩
  exact ⟨hNonempty, List.all_eq_true.mp hChars⟩

/- Variables are sound. -/
theorem isSound_var_of_mem_varNames
    {name : String}
    (hName : name ∈ varNames) :
    (Token.var name).IsSound := by
  simp only [varNames, List.mem_cons, List.not_mem_nil,
    or_false] at hName
  rcases hName with rfl | rfl | rfl | rfl
  · exact ⟨'?', 'p', ['r', 'o', 'j'], .inl rfl, by simp, rfl,
      List.all_eq_true.mp rfl⟩
  · exact ⟨'?', 'c', ['o', 'n', 's', 't'], .inl rfl, by simp,
      rfl, List.all_eq_true.mp rfl⟩
  · exact ⟨'?', 'p', ['r', 'o', 'o', 't'], .inl rfl, by simp,
      rfl, List.all_eq_true.mp rfl⟩
  · exact ⟨'?', 'p', ['b', 'r', 'i', 'd', 'g', 'e'], .inl rfl,
      by simp, rfl, List.all_eq_true.mp rfl⟩

/- Numerals are sound. -/
theorem isSound_word_toString
    (n : Nat) :
    (Token.word (toString n)).IsSound := by
  refine ⟨Nat.repr_ne_empty, ?_⟩
  intro c hDigit
  rw [Nat.toString_eq_repr, Nat.toList_repr] at hDigit
  have hIsDigit : c.isDigit :=
    Nat.isDigit_of_mem_toDigits (by decide) (by decide) hDigit
  simp [isWordChar, isNameChar, isNameStart, hIsDigit]

end Sparql

end QuestionQuery

------------------------------------------------------------
-- Patterns And Conditions
------------------------------------------------------------

namespace QuestionQuery

open Sparql

/- Texts are searched for on behalf of variables of queries. -/
theorem Variable.name_mem_varNames
    (v : Variable) :
    v.name ∈ varNames := by
  cases v <;> simp [name, varNames]

namespace Term

/- The token of a term. -/
def token : Term → Token
  | .var v => .var v.name
  | .rootPredicate => .var "?proot"
  | .bridgePredicate => .var "?pbridge"
  | .isA => .word "a"
  | .iri uri => .iri uri

/- A term is written as its token. -/
theorem chars_token
    (t : Term) :
    t.token.chars = t.text.toList := by
  cases t <;> simp [token, Token.chars, text]

/- A term is sound if the resource in it is an IRI. -/
theorem isSound_token
    {t : Term}
    (hIri : ∀ uri, t = .iri uri → IsIri uri) :
    t.token.IsSound := by
  cases t with
  | var v =>
      exact isSound_var_of_mem_varNames v.name_mem_varNames
  | rootPredicate =>
      exact isSound_var_of_mem_varNames (by simp [varNames])
  | bridgePredicate =>
      exact isSound_var_of_mem_varNames (by simp [varNames])
  | isA => exact isSound_word_of_mem_keywords (by simp [keywords])
  | iri uri => exact hIri uri rfl

end Term

/- The tokens of a triple pattern. -/
def Triple.tokens
    (t : Triple) : List Token :=
  [t.subject.token, t.predicate.token, t.object.token,
    .sign '.']

/- Is a resource written in a triple pattern? -/
def Triple.Names
    (t : Triple)
    (uri : String) : Prop :=
  t.subject = .iri uri ∨ t.predicate = .iri uri ∨
    t.object = .iri uri

/- A triple pattern is read as its terms and a full stop. -/
theorem Triple.reads_text
    {t : Triple}
    (hIri : ∀ uri, t.Names uri → IsIri uri) :
    Reads t.text.toList t.tokens := by
  have hSubject : t.subject.token.IsSound :=
    Term.isSound_token fun uri hUri => hIri uri (.inl hUri)
  have hPredicate : t.predicate.token.IsSound :=
    Term.isSound_token fun uri hUri =>
      hIri uri (.inr (.inl hUri))
  have hObject : t.object.token.IsSound :=
    Term.isSound_token fun uri hUri =>
      hIri uri (.inr (.inr hUri))
  have hText :
      t.text.toList =
        t.subject.token.chars ++
          ' ' :: (t.predicate.token.chars ++
            ' ' :: (t.object.token.chars ++ ['.'])) := by
    simp [text, Term.chars_token]
  rw [hText]
  refine .spaced hSubject ?_
  refine .spaced hPredicate ?_
  exact .token hObject rfl (.sign rfl .nil)

------------------------------------------------------------
-- Lines
------------------------------------------------------------

namespace Sparql

variable {o : Options}

/- The tokens of a condition. -/
def membershipTokens
    (v : Variable)
    (uri : String) : List Token :=
  [.var v.name, .word "IN", .sign '(', .iri uri, .sign ')']

/- The tokens of the line that restricts by a condition. -/
def filterTokens
    (condition : List Token) : List Token :=
  .word "FILTER" :: .sign '(' ::
    (condition ++ [.sign ')', .sign '.'])

/- The tokens of the line that searches for terms. -/
def clauseTokens
    (o : Options)
    (name : String)
    (terms : List String) : List Token :=
  [.var name, .word "text:query", .sign '(',
    .iri o.textPredicate, .literal "'" (searchText terms),
    .word (toString o.textHits), .sign ')', .sign '.']

/- The tokens in front of the braces. -/
def headTokens
    (o : Options) : List Token :=
  [.word "PREFIX", .word "text:", .iri o.textNamespace,
    .word "SELECT", .word "DISTINCT", .var "?proj",
    .word "WHERE"]

/- The tokens behind the braces. -/
def tailTokens
    (o : Options) : List Token :=
  [.word "LIMIT", .word (toString o.limit)]

/-
  The tokens between the braces: a clause for each variable
  that texts are searched for, and then the patterns and the
  conditions as they are read by themselves.
-/
def innerTokens
    (o : Options)
    (c : Candidate)
    (terms : List (String × List String)) : List Token :=
  (terms.filter (!·.2.isEmpty)).flatMap
      (fun e => clauseTokens o e.1 e.2) ++
    (c.constraints.toList.flatMap (lex ·.toList) ++
      c.filters.toList.flatMap
        (fun s => filterTokens (lex s.toList)))

/- A condition is read as its variable and its resource. -/
theorem reads_membership
    {v : Variable}
    {uri : String}
    (hIri : IsIri uri) :
    Reads (membership v uri).toList
      (membershipTokens v uri) := by
  have hVar := isSound_var_of_mem_varNames v.name_mem_varNames
  have hIn : (Token.word "IN").IsSound :=
    isSound_word_of_mem_keywords (by simp [keywords])
  have hText :
      (membership v uri).toList =
        (Token.var v.name).chars ++
          ' ' :: ((Token.word "IN").chars ++
            ' ' :: '(' :: ((Token.iri uri).chars ++ [')'])) := by
    simp [membership, Term.text, Token.chars]
  rw [hText]
  refine .spaced hVar ?_
  refine .spaced hIn ?_
  exact .sign rfl
    (.iri hIri (.sign rfl .nil))

/- The line of a pattern is read as the pattern. -/
theorem reads_indented
    {s : String}
    {tokens : List Token}
    (hReads : Reads s.toList tokens) :
    Reads ("  " ++ s).toList tokens := by
  have hText : ("  " ++ s).toList = ' ' :: ' ' :: s.toList := by
    simp
  rw [hText]
  exact .space rfl (.space rfl hReads)

/- The line of a condition is read as the condition. -/
theorem reads_filterLine
    {s : String}
    {tokens : List Token}
    (hReads : Reads s.toList tokens) :
    Reads ("  FILTER (" ++ s ++ ").").toList
      (filterTokens tokens) := by
  have hFilter : (Token.word "FILTER").IsSound :=
    isSound_word_of_mem_keywords (by simp [keywords])
  have hText :
      ("  FILTER (" ++ s ++ ").").toList =
        ' ' :: ' ' :: ((Token.word "FILTER").chars ++
          ' ' :: '(' :: (s.toList ++ [')', '.'])) := by
    simp [Token.chars]
  have hClose : Reads [')', '.'] [.sign ')', .sign '.'] :=
    .sign rfl (.sign rfl .nil)
  rw [hText]
  refine .space rfl (.space rfl ?_)
  refine .spaced hFilter ?_
  exact .sign rfl (hReads.append hClose)

/- The line that searches for terms has them in a literal. -/
theorem reads_textClause
    {name : String}
    {terms : List String}
    (hPredicate : IsIri o.textPredicate)
    (hName : name ∈ varNames)
    (hTerms : IsBody '\'' (searchText terms).toList) :
    Reads (textClause o name terms).toList
      (clauseTokens o name terms) := by
  have hVar := isSound_var_of_mem_varNames hName
  have hQuery : (Token.word "text:query").IsSound :=
    isSound_word_of_mem_keywords (by simp [keywords])
  have hLiteral :
      (Token.literal "'" (searchText terms)).IsSound :=
    ⟨'\'', .inl rfl, by simp, hTerms⟩
  have hHits := isSound_word_toString o.textHits
  have hText :
      (textClause o name terms).toList =
        ' ' :: ' ' :: ((Token.var name).chars ++
          ' ' :: ((Token.word "text:query").chars ++
            ' ' :: '(' :: ((Token.iri o.textPredicate).chars ++
              ' ' :: ((Token.literal "'" (searchText terms)).chars ++
                ' ' :: ((Token.word (toString o.textHits)).chars ++
                  [')', '.']))))) := by
    simp [textClause, Token.chars]
  rw [hText]
  refine .space rfl (.space rfl ?_)
  refine .spaced hVar ?_
  refine .spaced hQuery ?_
  refine .sign rfl (.iri hPredicate ?_)
  refine .space rfl ?_
  refine .spaced hLiteral ?_
  refine .token hHits rfl (.sign rfl ?_)
  exact .sign rfl .nil

/- The line in front of all others. -/
private theorem reads_namespaceLine
    {uri : String}
    (hIri : IsIri uri) :
    Reads ("PREFIX text: <" ++ uri ++ ">").toList
      [.word "PREFIX", .word "text:", .iri uri] := by
  have hPrefix : (Token.word "PREFIX").IsSound :=
    isSound_word_of_mem_keywords (by simp [keywords])
  have hName : (Token.word "text:").IsSound :=
    isSound_word_of_mem_keywords (by simp [keywords])
  have hText :
      ("PREFIX text: <" ++ uri ++ ">").toList =
        (Token.word "PREFIX").chars ++
          ' ' :: ((Token.word "text:").chars ++
            ' ' :: ((Token.iri uri).chars ++ [])) := by
    simp [Token.chars]
  rw [hText]
  refine .spaced hPrefix ?_
  refine .spaced hName ?_
  exact .iri hIri .nil

/- The line that opens the conditions. -/
private theorem reads_selectLine :
    Reads "SELECT DISTINCT ?proj WHERE \x7b".toList
      [.word "SELECT", .word "DISTINCT", .var "?proj",
        .word "WHERE", .sign '\x7b'] := by
  have hSelect : (Token.word "SELECT").IsSound :=
    isSound_word_of_mem_keywords (by simp [keywords])
  have hDistinct : (Token.word "DISTINCT").IsSound :=
    isSound_word_of_mem_keywords (by simp [keywords])
  have hVar : (Token.var "?proj").IsSound :=
    isSound_var_of_mem_varNames (by simp [varNames])
  have hWhere : (Token.word "WHERE").IsSound :=
    isSound_word_of_mem_keywords (by simp [keywords])
  have hText :
      "SELECT DISTINCT ?proj WHERE \x7b".toList =
        (Token.word "SELECT").chars ++
          ' ' :: ((Token.word "DISTINCT").chars ++
            ' ' :: ((Token.var "?proj").chars ++
              ' ' :: ((Token.word "WHERE").chars ++
                [' ', '\x7b']))) := by
    simp [Token.chars]
  rw [hText]
  refine .spaced hSelect ?_
  refine .spaced hDistinct ?_
  refine .spaced hVar ?_
  refine .spaced hWhere ?_
  exact .sign rfl .nil

/- The last line, behind which nothing follows. -/
private theorem lex_limitLine
    (n : Nat) :
    lex ("LIMIT " ++ toString n).toList =
      [.word "LIMIT", .word (toString n)] := by
  have hLimit : (Token.word "LIMIT").IsSound :=
    isSound_word_of_mem_keywords (by simp [keywords])
  have hNumber := isSound_word_toString n
  have hText :
      ("LIMIT " ++ toString n).toList =
        ((Token.word "LIMIT").chars ++ [' ']) ++
          ((Token.word (toString n)).chars ++ []) := by
    simp [Token.chars]
  have hFirst : Reads ((Token.word "LIMIT").chars ++ [' '])
      [.word "LIMIT"] :=
    .spaced hLimit .nil
  rw [hText, hFirst, lex_chars_append hNumber (by simp), lex,
    List.singleton_append]

end Sparql

------------------------------------------------------------
-- Queries
------------------------------------------------------------

/-
  Can the patterns and conditions of a candidate be written
  in front of any text?
-/
structure Candidate.IsReadable
    (c : Candidate) : Prop where
  constraints :
    ∀ s ∈ c.constraints, Reads s.toList (lex s.toList)
  filters :
    ∀ s ∈ c.filters, Reads s.toList (lex s.toList)

namespace Sparql

variable {o : Options}

/- Are lines read as given tokens in front of other lines? -/
def ReadsLines
    (lines : List String)
    (tokens : List Token) : Prop :=
  ∀ rest : List String,
    rest ≠ [] →
      lex ("\n".intercalate (lines ++ rest)).toList =
        tokens ++ lex ("\n".intercalate rest).toList

namespace ReadsLines

/- A line is read as its text is. -/
theorem single
    {line : String}
    {tokens : List Token}
    (hReads : Reads line.toList tokens) :
    ReadsLines [line] tokens := by
  intro rest hRest
  have hText :
      ("\n".intercalate ([line] ++ rest)).toList =
        line.toList ++ '\n' :: ("\n".intercalate rest).toList := by
    rw [List.singleton_append,
      String.intercalate_cons_of_ne_nil hRest,
      String.toList_append, String.toList_append,
      List.append_assoc]
    rfl
  rw [hText, hReads, lex_cons_of_isSpace rfl]

/- Lines behind others are read behind them. -/
theorem append
    {lines others : List String}
    {tokens otherTokens : List Token}
    (hLeft : ReadsLines lines tokens)
    (hRight : ReadsLines others otherTokens) :
    ReadsLines (lines ++ others) (tokens ++ otherTokens) := by
  intro rest hRest
  have hOthers : others ++ rest ≠ [] := by
    simp [hRest]
  rw [List.append_assoc, hLeft _ hOthers, hRight rest hRest,
    List.append_assoc]

/- Lines of one form are read one by one. -/
theorem map
    {α : Type}
    {xs : List α}
    {line : α → String}
    {tokens : α → List Token}
    (hReads : ∀ x ∈ xs, Reads (line x).toList (tokens x)) :
    ReadsLines (xs.map line) (xs.flatMap tokens) := by
  induction xs with
  | nil =>
      intro rest _
      rfl
  | cons x xs ih =>
      have hFirst := single (hReads x (by simp))
      have hOthers := ih fun y hy => hReads y (by simp [hy])
      exact hFirst.append hOthers

end ReadsLines

/- A query has one pair of braces. -/
theorem lex_render
    {c : Candidate}
    {terms : List (String × List String)}
    (hNamespace : IsIri o.textNamespace)
    (hPredicate : IsIri o.textPredicate)
    (hReadable : c.IsReadable)
    (hTerms :
      ∀ e ∈ terms,
        e.1 ∈ varNames ∧
          IsBody '\'' (searchText e.2).toList) :
    lex (render o c terms).toList =
      headTokens o ++ .sign '\x7b' ::
        (innerTokens o c terms ++
          .sign '\x7d' :: tailTokens o) := by
  have hHeader :
      ReadsLines (header o)
        (headTokens o ++ [.sign '\x7b']) :=
    (ReadsLines.single (reads_namespaceLine hNamespace)).append
      (.single reads_selectLine)
  have hClauses :
      ReadsLines (textClauses o terms)
        ((terms.filter (!·.2.isEmpty)).flatMap
          fun e => clauseTokens o e.1 e.2) := by
    apply ReadsLines.map
    intro e hEntry
    rcases hTerms e (List.mem_filter.mp hEntry).1 with
      ⟨hName, hBody⟩
    exact reads_textClause hPredicate hName hBody
  have hConstraints :
      ReadsLines (c.constraints.toList.map ("  " ++ ·))
        (c.constraints.toList.flatMap (lex ·.toList)) := by
    apply ReadsLines.map
    intro s hMember
    apply reads_indented
    exact hReadable.constraints s
      (SortedSet.mem_toList.mp hMember)
  have hFilters :
      ReadsLines
        (c.filters.toList.map fun s => "  FILTER (" ++ s ++ ").")
        (c.filters.toList.flatMap
          fun s => filterTokens (lex s.toList)) := by
    apply ReadsLines.map
    intro s hMember
    apply reads_filterLine
    exact hReadable.filters s (SortedSet.mem_toList.mp hMember)
  have hBrace : ReadsLines ["\x7d"] [.sign '\x7d'] := by
    apply ReadsLines.single
    exact .sign rfl .nil
  have hLines :=
    (hHeader.append hClauses).append
      ((hConstraints.append hFilters).append hBrace)
      ["LIMIT " ++ toString o.limit] (by simp)
  rw [String.intercalate_singleton, lex_limitLine] at hLines
  simpa only [render, remainder, innerTokens, tailTokens,
    List.append_assoc, List.cons_append,
    List.nil_append] using hLines

end Sparql

end QuestionQuery
