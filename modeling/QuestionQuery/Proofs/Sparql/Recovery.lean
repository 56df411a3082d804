import QuestionQuery.Proofs.Sparql.Query

/-
  What can be read off from a query.

  A text in which a mark does not occur ends where the mark
  stands, and what stands between quotes ends at the first
  quote that is not escaped.  So a query is cut in one way
  only into its clauses and its lines, and a clause into its
  variable and its phrases, unless a phrase has a double
  quote.

  Key definitions include:
    * `Sparql.unescaped`
    * `Sparql.otherPhrases`
    * `Sparql.lineChars`
    * `Sparql.BeginsClause`

  Main statements:
    * `Sparql.unescaped_escaped`
    * `Sparql.IsBody.eq_of_append_eq`
    * `Sparql.toList_intercalate_quoted`
    * `Sparql.eq_of_searchText_eq`
    * `Sparql.eq_of_textClauses_append_eq`
    * `Sparql.eq_of_lineChars_append_eq`
    * `Sparql.toList_render`
-/

------------------------------------------------------------
-- Marks
------------------------------------------------------------

namespace QuestionQuery

namespace Sparql

/- Two texts without a mark are told apart in front of it. -/
theorem eq_of_append_cons_eq
    {mark : Char}
    {xs ys rest others : List Char}
    (hLeft : mark ∉ xs)
    (hRight : mark ∉ ys)
    (hText : xs ++ mark :: rest = ys ++ mark :: others) :
    xs = ys ∧ rest = others := by
  induction xs generalizing ys with
  | nil =>
      cases ys with
      | nil => exact ⟨rfl, (List.cons.inj hText).2⟩
      | cons y ys =>
          rcases List.cons.inj hText with ⟨rfl, -⟩
          exact absurd List.mem_cons_self hRight
  | cons x xs ih =>
      cases ys with
      | nil =>
          rcases List.cons.inj hText with ⟨rfl, -⟩
          exact absurd List.mem_cons_self hLeft
      | cons y ys =>
          simp only [List.cons_append, List.cons.injEq] at hText
          rcases hText with ⟨rfl, hRest⟩
          have hTail :=
            ih (fun hMark => hLeft (.tail _ hMark))
              (fun hMark => hRight (.tail _ hMark)) hRest
          exact ⟨by rw [hTail.1], hTail.2⟩

/- Two bodies of literals are told apart in front of a quote. -/
theorem IsBody.eq_of_append_eq
    {quote : Char}
    {xs ys rest others : List Char}
    (hQuote : quote ≠ '\\')
    (hLeft : IsBody quote xs)
    (hRight : IsBody quote ys)
    (hText : xs ++ quote :: rest = ys ++ quote :: others) :
    xs = ys ∧ rest = others := by
  have hRead :
      body? [quote] isPlain (xs ++ quote :: rest) =
        some (xs, rest) :=
    body?_append hQuote hLeft
  rw [hText, body?_append hQuote hRight] at hRead
  simpa [eq_comm] using hRead

------------------------------------------------------------
-- Escapes
------------------------------------------------------------

/- The characters that escaped characters stand for. -/
def unescaped : List Char → List Char
  | '\\' :: 'n' :: cs => '\n' :: unescaped cs
  | '\\' :: 'r' :: cs => '\r' :: unescaped cs
  | '\\' :: c :: cs => c :: unescaped cs
  | c :: cs => c :: unescaped cs
  | [] => []

/- A character stands for itself once it is escaped. -/
theorem unescaped_escapedChar_append
    (c : Char)
    (cs : List Char) :
    unescaped (escapedChar c ++ cs) = c :: unescaped cs := by
  unfold escapedChar
  split
  · next hBackslash =>
      subst hBackslash
      simp [unescaped]
  split
  · next hQuote =>
      subst hQuote
      simp [unescaped]
  split
  · next hNewline =>
      subst hNewline
      simp [unescaped]
  split
  · next hReturn =>
      subst hReturn
      simp [unescaped]
  · next hBackslash _ _ _ =>
      rw [List.singleton_append, unescaped]
      all_goals simp_all

/- A text stands for itself once it is escaped. -/
theorem unescaped_escaped
    (s : String) :
    unescaped (escaped s).toList = s.toList := by
  rw [escaped, String.toList_ofList]
  induction s.toList with
  | nil => rfl
  | cons c cs ih =>
      rw [List.flatMap_cons, unescaped_escapedChar_append, ih]

/- Escaped texts are told apart. -/
theorem eq_of_escaped_eq
    {s t : String}
    (hText : (escaped s).toList = (escaped t).toList) :
    s = t := by
  rw [← String.toList_inj, ← unescaped_escaped s, hText,
    unescaped_escaped]

/- Escaping adds no double quote. -/
theorem quote_notMem_escaped
    {s : String}
    (hQuote : '"' ∉ s.toList) :
    '"' ∉ (escaped s).toList := by
  rw [escaped, String.toList_ofList]
  intro hMember
  rcases List.mem_flatMap.mp hMember with ⟨c, hChar, hEscaped⟩
  have hOther : '"' ≠ c := by
    rintro rfl
    exact hQuote hChar
  unfold escapedChar at hEscaped
  repeat' split at hEscaped
  all_goals simp [hOther] at hEscaped

------------------------------------------------------------
-- Phrases
------------------------------------------------------------

/- What stands behind the quote that closes a phrase. -/
def otherPhrases : List (List Char) → List Char
  | [] => []
  | p :: ps =>
    [' ', 'A', 'N', 'D', ' ', '"'] ++ (p ++ '"' :: otherPhrases ps)

/- A search opens the first phrase, closes it and goes on. -/
theorem toList_intercalate_quoted
    (p : String)
    (ps : List String) :
    (" AND ".intercalate
        ((p :: ps).map fun q => "\"" ++ q ++ "\"")).toList =
      '"' :: (p.toList ++ '"' ::
        otherPhrases (ps.map String.toList)) := by
  induction ps generalizing p with
  | nil => simp [otherPhrases]
  | cons q ps ih =>
      have hRest := ih q
      rw [List.map_cons] at hRest
      rw [List.map_cons, List.map_cons,
        String.intercalate_cons_cons, String.toList_append, hRest]
      simp [otherPhrases]

/-
  Phrases without double quotes are told apart.  Each ends at
  the first quote, and something follows just if there is
  another phrase.
-/
private theorem eq_of_otherPhrases_eq
    {ps qs : List (List Char)}
    (hLeft : ∀ p ∈ ps, '"' ∉ p)
    (hRight : ∀ q ∈ qs, '"' ∉ q)
    (hText : otherPhrases ps = otherPhrases qs) :
    ps = qs := by
  induction ps generalizing qs with
  | nil =>
      cases qs with
      | nil => rfl
      | cons q qs => simp [otherPhrases] at hText
  | cons p ps ih =>
      cases qs with
      | nil => simp [otherPhrases] at hText
      | cons q qs =>
          rw [otherPhrases, otherPhrases,
            List.append_cancel_left_eq] at hText
          rcases eq_of_append_cons_eq
              (hLeft p List.mem_cons_self)
              (hRight q List.mem_cons_self) hText with
            ⟨hFirst, hOthers⟩
          rw [hFirst,
            ih (fun r hr => hLeft r (.tail _ hr))
              (fun r hr => hRight r (.tail _ hr)) hOthers]

private theorem toList_searchText_exactTerms
    (p : String)
    (ps : List String) :
    (searchText ((p :: ps).map exactTerm)).toList =
      '"' :: ((escaped p).toList ++ '"' ::
        otherPhrases (ps.map fun q => (escaped q).toList)) := by
  have hQuoted :=
    toList_intercalate_quoted (escaped p) (ps.map escaped)
  rw [← List.map_cons, List.map_map, List.map_map] at hQuoted
  exact hQuoted

/-
  Phrases without double quotes are told apart by the search
  for all of them.
-/
theorem eq_of_searchText_eq
    {ps qs : List String}
    (hLeft : ∀ p ∈ ps, '"' ∉ p.toList)
    (hRight : ∀ q ∈ qs, '"' ∉ q.toList)
    (hText :
      searchText (ps.map exactTerm) =
        searchText (qs.map exactTerm)) :
    ps = qs := by
  have hChars := congrArg String.toList hText
  cases ps with
  | nil =>
      cases qs with
      | nil => rfl
      | cons q qs =>
          rw [toList_searchText_exactTerms] at hChars
          simp [searchText] at hChars
  | cons p ps =>
      cases qs with
      | nil =>
          rw [toList_searchText_exactTerms] at hChars
          simp [searchText] at hChars
      | cons q qs =>
          rw [toList_searchText_exactTerms,
            toList_searchText_exactTerms] at hChars
          have hPhrases :
              (p :: ps).map (fun r => (escaped r).toList) =
                (q :: qs).map fun r => (escaped r).toList := by
            apply eq_of_otherPhrases_eq
            · simp only [List.forall_mem_map]
              exact fun r hr => quote_notMem_escaped (hLeft r hr)
            · simp only [List.forall_mem_map]
              exact fun r hr => quote_notMem_escaped (hRight r hr)
            · simpa [otherPhrases] using hChars
          exact (List.map_inj_right fun _ _ => eq_of_escaped_eq).mp
            hPhrases

------------------------------------------------------------
-- Lines
------------------------------------------------------------

/- The characters of lines, each with a line end. -/
def lineChars
    (lines : List String) : List Char :=
  lines.flatMap fun line => line.toList ++ ['\n']

@[simp]
theorem lineChars_nil :
    lineChars [] = [] :=
  rfl

@[simp]
theorem lineChars_cons
    (line : String)
    (lines : List String) :
    lineChars (line :: lines) =
      line.toList ++ '\n' :: lineChars lines := by
  simp [lineChars]

@[simp]
theorem lineChars_append
    (lines others : List String) :
    lineChars (lines ++ others) =
      lineChars lines ++ lineChars others :=
  List.flatMap_append

/- All lines of a text but the last one have a line end. -/
theorem toList_intercalate_concat
    (lines : List String)
    (last : String) :
    ("\n".intercalate (lines ++ [last])).toList =
      lineChars lines ++ last.toList := by
  induction lines with
  | nil => simp
  | cons line lines ih =>
      rw [List.cons_append,
        String.intercalate_cons_of_ne_nil (by simp),
        String.toList_append, String.toList_append, ih]
      simp

/- Lines without line ends in them are told apart. -/
theorem eq_of_lineChars_append_eq
    {lines others : List String}
    {last otherLast : List Char}
    (hLeft : ∀ line ∈ lines, '\n' ∉ line.toList)
    (hRight : ∀ line ∈ others, '\n' ∉ line.toList)
    (hLast : '\n' ∉ last)
    (hOtherLast : '\n' ∉ otherLast)
    (hText : lineChars lines ++ last = lineChars others ++ otherLast) :
    lines = others := by
  induction lines generalizing others with
  | nil =>
      cases others with
      | nil => rfl
      | cons line others =>
          refine absurd ?_ hLast
          rw [lineChars_nil, List.nil_append] at hText
          simp [hText]
  | cons line lines ih =>
      cases others with
      | nil =>
          refine absurd ?_ hOtherLast
          rw [lineChars_nil, List.nil_append] at hText
          simp [← hText]
      | cons other others =>
          simp only [lineChars_cons, List.append_assoc,
            List.cons_append] at hText
          rcases eq_of_append_cons_eq
              (hLeft line List.mem_cons_self)
              (hRight other List.mem_cons_self) hText with
            ⟨hFirst, hOthers⟩
          rw [String.toList_inj.mp hFirst]
          congr 1
          apply ih
          · exact fun l hl => hLeft l (.tail _ hl)
          · exact fun l hl => hRight l (.tail _ hl)
          · exact hOthers

------------------------------------------------------------
-- Clauses
------------------------------------------------------------

variable {o : Options}

/- Does a text begin as a line that searches for terms does? -/
def BeginsClause
    (cs : List Char) : Prop :=
  ∃ name ∈ varNames, ∃ rest,
    cs = ' ' :: ' ' :: (name.toList ++ ' ' :: 't' :: rest)

/- The names of variables have no blank in them. -/
theorem blank_notMem_of_mem_varNames
    {name : String}
    (hName : name ∈ varNames) :
    ' ' ∉ name.toList := by
  have hAll : ∀ name ∈ varNames, ' ' ∉ name.toList := by
    decide +kernel
  exact hAll name hName

/- The names of variables begin with their mark. -/
theorem exists_toList_of_mem_varNames
    {name : String}
    (hName : name ∈ varNames) :
    ∃ cs, name.toList = '?' :: cs := by
  simp only [varNames, List.mem_cons, List.not_mem_nil,
    or_false] at hName
  rcases hName with rfl | rfl | rfl | rfl <;> exact ⟨_, rfl⟩

/- What stands behind the variable in front of a search. -/
private def clauseHead
    (o : Options) : List Char :=
  "ext:query (<".toList ++ o.textPredicate.toList ++ "> '".toList

/- What stands behind a search. -/
private def clauseTail
    (o : Options) : List Char :=
  ' ' :: (toString o.textHits).toList ++ ").\n".toList

private theorem toList_textClause_append
    (name : String)
    (terms : List String)
    (rest : List Char) :
    (textClause o name terms).toList ++ '\n' :: rest =
      ' ' :: ' ' :: (name.toList ++ ' ' :: 't' :: (clauseHead o ++
        ((searchText terms).toList ++ '\'' ::
          (clauseTail o ++ rest)))) := by
  unfold textClause clauseHead clauseTail
  generalize toString o.textHits = hits
  simp

/- A line that searches for terms begins as one. -/
private theorem beginsClause_textClause_append
    {name : String}
    (hName : name ∈ varNames)
    (terms : List String)
    (rest : List Char) :
    BeginsClause
      ((textClause o name terms).toList ++ '\n' :: rest) :=
  ⟨name, hName, _, toList_textClause_append name terms rest⟩

/- The variable, the search and what follows are told apart. -/
theorem eq_of_textClause_append_eq
    {name otherName : String}
    {terms otherTerms : List String}
    {rest others : List Char}
    (hName : name ∈ varNames)
    (hOtherName : otherName ∈ varNames)
    (hBody : IsBody '\'' (searchText terms).toList)
    (hOtherBody : IsBody '\'' (searchText otherTerms).toList)
    (hText :
      (textClause o name terms).toList ++ '\n' :: rest =
        (textClause o otherName otherTerms).toList ++
          '\n' :: others) :
    name = otherName ∧
      searchText terms = searchText otherTerms ∧
      rest = others := by
  rw [toList_textClause_append, toList_textClause_append] at hText
  have hIndented := (List.cons.inj (List.cons.inj hText).2).2
  rcases eq_of_append_cons_eq
      (blank_notMem_of_mem_varNames hName)
      (blank_notMem_of_mem_varNames hOtherName) hIndented with
    ⟨hNames, hBehind⟩
  have hSearch :=
    List.append_cancel_left (List.cons.inj hBehind).2
  rcases hBody.eq_of_append_eq (by decide) hOtherBody hSearch with
    ⟨hTerms, hRest⟩
  exact ⟨String.toList_inj.mp hNames, String.toList_inj.mp hTerms,
    List.append_cancel_left hRest⟩

/-
  Can the phrases of a variable be read off from their
  clause?  There are some, and no phrase has a double quote.
-/
structure IsLegible
    (e : String × SortedSet String) : Prop where
  name : e.1 ∈ varNames
  nonempty : e.2 ≠ .empty
  phrases : ∀ phrase ∈ e.2, '"' ∉ phrase.toList

/- The terms of an entry that searches for whole phrases. -/
def exactEntry
    (e : String × SortedSet String) : String × List String :=
  (e.1, exactTerms e.2)

/- Every variable that has phrases has a clause. -/
theorem textClauses_map_exactEntry
    {es : List (String × SortedSet String)}
    (hLegible : ∀ e ∈ es, IsLegible e) :
    textClauses o (es.map exactEntry) =
      es.map fun e => textClause o e.1 (exactTerms e.2) := by
  have hAll :
      (es.map exactEntry).filter (!·.2.isEmpty) =
        es.map exactEntry := by
    rw [List.filter_eq_self]
    intro e hEntry
    rcases List.mem_map.mp hEntry with ⟨old, hOld, rfl⟩
    have hNe : old.2.toList ≠ [] :=
      fun hNil => (hLegible old hOld).nonempty
        (SortedSet.eq_of_toList_eq hNil)
    simpa [exactEntry, exactTerms] using hNe
  rw [textClauses, hAll, List.map_map]
  rfl

/-
  The variables and their phrases are told apart by their
  clauses, if what follows does not begin as a clause.
-/
theorem eq_of_textClauses_append_eq
    {es fs : List (String × SortedSet String)}
    {rest others : List Char}
    (hLeft : ∀ e ∈ es, IsLegible e)
    (hRight : ∀ e ∈ fs, IsLegible e)
    (hRest : ¬BeginsClause rest)
    (hOthers : ¬BeginsClause others)
    (hText :
      lineChars (textClauses o (es.map exactEntry)) ++ rest =
        lineChars (textClauses o (fs.map exactEntry)) ++ others) :
    es = fs ∧ rest = others := by
  rw [textClauses_map_exactEntry hLeft,
    textClauses_map_exactEntry hRight] at hText
  induction es generalizing fs with
  | nil =>
      cases fs with
      | nil => exact ⟨rfl, hText⟩
      | cons f fs =>
          refine absurd ?_ hRest
          simp only [List.map_nil, List.map_cons, lineChars_nil,
            lineChars_cons, List.nil_append, List.append_assoc,
            List.cons_append] at hText
          rw [hText]
          exact beginsClause_textClause_append
            (hRight f List.mem_cons_self).name _ _
  | cons e es ih =>
      cases fs with
      | nil =>
          refine absurd ?_ hOthers
          simp only [List.map_nil, List.map_cons, lineChars_nil,
            lineChars_cons, List.nil_append, List.append_assoc,
            List.cons_append] at hText
          rw [← hText]
          exact beginsClause_textClause_append
            (hLeft e List.mem_cons_self).name _ _
      | cons f fs =>
          have hMine := hLeft e List.mem_cons_self
          have hYours := hRight f List.mem_cons_self
          simp only [List.map_cons, lineChars_cons,
            List.append_assoc, List.cons_append] at hText
          rcases eq_of_textClause_append_eq hMine.name hYours.name
              (isBody_searchText_exactTerms e.2)
              (isBody_searchText_exactTerms f.2) hText with
            ⟨hName, hSearch, hBehind⟩
          have hPhrases : e.2.toList = f.2.toList :=
            eq_of_searchText_eq hMine.phrases hYours.phrases
              hSearch
          have hSame : e = f :=
            Prod.ext hName (SortedSet.eq_of_toList_eq hPhrases)
          have hOthersSame :=
            ih (fun x hx => hLeft x (.tail _ hx))
              (fun x hx => hRight x (.tail _ hx)) hBehind
          exact ⟨by rw [hSame, hOthersSame.1], hOthersSame.2⟩

------------------------------------------------------------
-- Queries
------------------------------------------------------------

/- The lines of patterns and conditions, and the last brace. -/
def patternLines
    (c : Candidate) : List String :=
  c.constraints.toList.map ("  " ++ ·) ++
    c.filters.toList.map (fun f => "  FILTER (" ++ f ++ ").") ++
    ["\x7d"]

/- A query by its parts. -/
theorem toList_render
    (c : Candidate)
    (terms : List (String × List String)) :
    (render o c terms).toList =
      lineChars (header o) ++
        (lineChars (textClauses o terms) ++
          (lineChars (patternLines c) ++
            ("LIMIT " ++ toString o.limit).toList)) := by
  have hLines :
      header o ++ textClauses o terms ++ remainder o c =
        header o ++ textClauses o terms ++ patternLines c ++
          ["LIMIT " ++ toString o.limit] := by
    simp [remainder, patternLines]
  rw [render, hLines, toList_intercalate_concat]
  simp

end Sparql

end QuestionQuery
