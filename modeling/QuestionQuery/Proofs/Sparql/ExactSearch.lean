import QuestionQuery.Proofs.Sparql.Renderings

/-
  What can be read off from a search for phrases.

  The text index reads a search as phrases between double
  quotes, and a backslash in a phrase as an escape of its
  own.  A candidate escapes the literal of a search, but not
  its phrases.  So a search is read as the phrases it is made
  of just if they have neither double quotes nor backslashes.
  A phrase with a double quote may end early, and be taken
  for several phrases.

  Key definitions include:
    * `Sparql.phrasesBehind?`
    * `Sparql.phrases?`
    * `Sparql.IsVerbatim`

  Main statements:
    * `Sparql.width_of_phrasesBehind?`
    * `Sparql.forall_isVerbatim_of_phrasesBehind?`
    * `Sparql.phrases?_exactTexts_iff`
    * `Candidate.exactSearches_tell_phrases_iff`
-/

------------------------------------------------------------
-- Reading Phrases
------------------------------------------------------------

namespace QuestionQuery

namespace Sparql

/-
  The phrases behind the double quote that opens the first of
  them.  What follows a backslash belongs to the phrase, be
  it a quote.  Any other quote closes it, and behind it the
  search ends or the next phrase is opened.
-/
def phrasesBehind? : List Char → Option (List (List Char))
  | [] => none
  | '\\' :: c :: cs =>
    (phrasesBehind? cs).map (·.modifyHead (c :: ·))
  | '"' :: ' ' :: 'A' :: 'N' :: 'D' :: ' ' :: '"' :: cs =>
    (phrasesBehind? cs).map ([] :: ·)
  | '"' :: cs => if cs = [] then some [[]] else none
  | c :: cs => (phrasesBehind? cs).map (·.modifyHead (c :: ·))

/- The phrases that a search asks for, if it is well formed. -/
def phrases? : List Char → Option (List String)
  | '"' :: cs => (phrasesBehind? cs).map (·.map String.ofList)
  | _ => none

/- Is a phrase read as it stands? -/
def IsVerbatim
    (cs : List Char) : Prop :=
  '"' ∉ cs ∧ '\\' ∉ cs

@[simp]
theorem isVerbatim_nil :
    IsVerbatim [] := by
  simp [IsVerbatim]

theorem isVerbatim_cons
    {c : Char}
    {cs : List Char} :
    IsVerbatim (c :: cs) ↔
      (c ≠ '"' ∧ c ≠ '\\') ∧ IsVerbatim cs := by
  simp only [IsVerbatim, List.mem_cons, not_or, ne_comm (a := c)]
  exact and_and_and_comm

/- The characters of phrases, their marks counted with them. -/
def width : List (List Char) → Nat
  | [] => 0
  | phrase :: phrases => phrase.length + 7 + width phrases

/- A search has at least one phrase. -/
theorem ne_nil_of_phrasesBehind?
    {cs : List Char}
    {phrases : List (List Char)}
    (hRead : phrasesBehind? cs = some phrases) :
    phrases ≠ [] := by
  fun_induction phrasesBehind? cs generalizing phrases with
  | case1 => simp at hRead
  | case2 c cs ih =>
      rcases Option.map_eq_some_iff.mp hRead with ⟨qs, hRest, rfl⟩
      simpa using ih hRest
  | case3 cs ih =>
      rcases Option.map_eq_some_iff.mp hRead with ⟨qs, -, rfl⟩
      simp
  | case4 =>
      rcases Option.some.inj hRead with rfl
      simp
  | case5 => simp at hRead
  | case6 c cs _ _ _ ih =>
      rcases Option.map_eq_some_iff.mp hRead with ⟨qs, hRest, rfl⟩
      simpa using ih hRest

/-
  The phrases that are read are as wide as the text, but for
  the backslashes that are taken off.  If there are none, no
  phrase has one, and each ends at the first double quote.
-/
theorem width_of_phrasesBehind?
    {cs : List Char}
    {phrases : List (List Char)}
    (hRead : phrasesBehind? cs = some phrases) :
    ∃ escapes,
      width phrases + escapes = cs.length + 6 ∧
        (escapes = 0 → ∀ phrase ∈ phrases, IsVerbatim phrase) := by
  fun_induction phrasesBehind? cs generalizing phrases with
  | case1 => simp at hRead
  | case2 c cs ih =>
      rcases Option.map_eq_some_iff.mp hRead with ⟨qs, hRest, rfl⟩
      rcases ih hRest with ⟨escapes, hWidth, -⟩
      rcases List.exists_cons_of_ne_nil
          (ne_nil_of_phrasesBehind? hRest) with
        ⟨q, others, rfl⟩
      refine ⟨escapes + 1, ?_, by simp⟩
      simp [width] at hWidth ⊢
      omega
  | case3 cs ih =>
      rcases Option.map_eq_some_iff.mp hRead with ⟨qs, hRest, rfl⟩
      rcases ih hRest with ⟨escapes, hWidth, hVerbatim⟩
      refine ⟨escapes, ?_, ?_⟩
      · simp [width] at hWidth ⊢
        omega
      · intro hNone
        exact List.forall_mem_cons.mpr
          ⟨isVerbatim_nil, hVerbatim hNone⟩
  | case4 =>
      rcases Option.some.inj hRead with rfl
      exact ⟨0, by simp [width], by simp⟩
  | case5 => simp at hRead
  | case6 c cs hEscape _ hQuote ih =>
      rcases Option.map_eq_some_iff.mp hRead with ⟨qs, hRest, rfl⟩
      rcases ih hRest with ⟨escapes, hWidth, hVerbatim⟩
      rcases List.exists_cons_of_ne_nil
          (ne_nil_of_phrasesBehind? hRest) with
        ⟨q, others, rfl⟩
      have hOther : c ≠ '\\' := by
        rintro rfl
        cases cs with
        | nil => simp [phrasesBehind?] at hRest
        | cons d ds => exact hEscape d ds rfl rfl
      refine ⟨escapes, ?_, ?_⟩
      · simp [width] at hWidth ⊢
        omega
      · intro hNone
        have hAll := List.forall_mem_cons.mp (hVerbatim hNone)
        have hFirst :=
          isVerbatim_cons.mpr ⟨⟨hQuote, hOther⟩, hAll.1⟩
        exact List.forall_mem_cons.mpr ⟨hFirst, hAll.2⟩

------------------------------------------------------------
-- Searches For Phrases
------------------------------------------------------------

/- A search is as wide as its phrases. -/
private theorem length_otherPhrases
    (phrases : List (List Char)) :
    (otherPhrases phrases).length = width phrases := by
  induction phrases with
  | nil => rfl
  | cons phrase phrases ih =>
      simp [otherPhrases, width] at ih ⊢
      omega

/- A character that is no mark belongs to the first phrase. -/
private theorem phrasesBehind?_cons
    {c : Char}
    (hQuote : c ≠ '"')
    (hBackslash : c ≠ '\\')
    (cs : List Char) :
    phrasesBehind? (c :: cs) =
      (phrasesBehind? cs).map (·.modifyHead (c :: ·)) := by
  rw [phrasesBehind?] <;> simp_all

/- So does a text that is read as it stands. -/
private theorem phrasesBehind?_append
    {phrase : List Char}
    (hVerbatim : IsVerbatim phrase)
    (cs : List Char) :
    phrasesBehind? (phrase ++ cs) =
      (phrasesBehind? cs).map (·.modifyHead (phrase ++ ·)) := by
  induction phrase with
  | nil =>
      have hSame :
          (fun ps : List (List Char) => ps.modifyHead ([] ++ ·)) =
            id := by
        funext ps
        cases ps <;> rfl
      rw [hSame, Option.map_id, List.nil_append, id_eq]
  | cons c phrase ih =>
      rcases isVerbatim_cons.mp hVerbatim with ⟨hMarks, hRest⟩
      rw [List.cons_append, phrasesBehind?_cons hMarks.1 hMarks.2,
        ih hRest, Option.map_map]
      simp [Function.comp_def]

/- Phrases that are read as they stand are read back. -/
private theorem phrasesBehind?_otherPhrases
    {phrase : List Char}
    {phrases : List (List Char)}
    (hVerbatim : ∀ p ∈ phrase :: phrases, IsVerbatim p) :
    phrasesBehind? (phrase ++ '"' :: otherPhrases phrases) =
      some (phrase :: phrases) := by
  induction phrases generalizing phrase with
  | nil =>
      rw [phrasesBehind?_append (hVerbatim phrase List.mem_cons_self)]
      simp [otherPhrases, phrasesBehind?]
  | cons next phrases ih =>
      have hRest := ih fun p hp => hVerbatim p (.tail _ hp)
      rw [phrasesBehind?_append (hVerbatim phrase List.mem_cons_self)]
      simp [otherPhrases, phrasesBehind?, hRest]

/-
  A search is read as the phrases it is made of just if they
  are read as they stand.  Otherwise a backslash is missing
  in what is read, or a phrase has ended too early.
-/
theorem phrases?_exactTexts_iff
    {phrases : SortedSet String}
    (hNonempty : phrases ≠ .empty) :
    phrases? (" AND ".intercalate (exactTexts phrases)).toList =
        some phrases.toList ↔
      ∀ phrase ∈ phrases, IsVerbatim phrase.toList := by
  have hSome : phrases.toList ≠ [] :=
    fun hNil => hNonempty (SortedSet.eq_of_toList_eq hNil)
  rcases List.exists_cons_of_ne_nil hSome with
    ⟨first, others, hList⟩
  have hChars :
      (" AND ".intercalate (exactTexts phrases)).toList =
        '"' :: (first.toList ++ '"' ::
          otherPhrases (others.map String.toList)) := by
    rw [exactTexts, hList, toList_intercalate_quoted]
  have hAll :
      (∀ phrase ∈ phrases, IsVerbatim phrase.toList) ↔
        ∀ p ∈ first.toList :: others.map String.toList,
          IsVerbatim p := by
    rw [← List.map_cons, List.forall_mem_map, ← hList]
    rfl
  rw [hChars, hList, hAll, phrases?]
  constructor
  · intro hRead
    rcases Option.map_eq_some_iff.mp hRead with
      ⟨found, hFound, hSame⟩
    have hPhrases :
        found = first.toList :: others.map String.toList := by
      have hBack := congrArg (List.map String.toList) hSame
      rw [List.map_map] at hBack
      simpa [Function.comp_def] using hBack
    rcases width_of_phrasesBehind? hFound with
      ⟨escapes, hWidth, hVerbatim⟩
    have hNone : escapes = 0 := by
      simp [hPhrases, width, length_otherPhrases] at hWidth
      omega
    exact hPhrases ▸ hVerbatim hNone
  · intro hVerbatim
    rw [phrasesBehind?_otherPhrases hVerbatim, Option.map_some]
    simp [Function.comp_def]

end Sparql

end QuestionQuery

------------------------------------------------------------
-- Phrases Of A Candidate
------------------------------------------------------------

namespace QuestionQuery

namespace Candidate

open Sparql

variable {c : Candidate}

/- Every variable with phrases has one search for them. -/
theorem InStep.names_exactSearches
    (hStep : c.InStep) :
    c.exactSearches.map (·.name) = c.exactPhrases.keys := by
  have hAll :
      (c.exactPhrases.toList.map fun e =>
          (e.1, exactTexts e.2)).filter (!·.2.isEmpty) =
        c.exactPhrases.toList.map fun e =>
          (e.1, exactTexts e.2) := by
    rw [List.filter_eq_self, List.forall_mem_map]
    intro e hEntry
    have hNe : e.2.toList ≠ [] := fun hNil =>
      hStep.nonempty e.1 e.2 (SortedMap.mem_toList_iff.mp hEntry)
        (SortedSet.eq_of_toList_eq hNil)
    simpa [exactTexts] using hNe
  rw [exactSearches, searches, hAll, List.map_map, List.map_map]
  rfl

/- A search is the one for the phrases of its variable. -/
theorem exists_phrases_of_mem_exactSearches
    {s : TextSearch}
    (hSearch : s ∈ c.exactSearches) :
    ∃ phrases,
      c.exactPhrases.get? s.name = some phrases ∧
        s.body = searchText (exactTerms phrases) ∧
        unescaped s.body.toList =
          (" AND ".intercalate (exactTexts phrases)).toList := by
  rcases mem_searches_iff.mp hSearch with ⟨e, hEntry, -, rfl⟩
  rcases List.mem_map.mp hEntry with ⟨⟨name, phrases⟩, hOld, rfl⟩
  refine ⟨phrases, SortedMap.mem_toList_iff.mp hOld, ?_, ?_⟩
  · rw [exactTerms_eq, searchText_map_escaped]
    rfl
  · exact unescaped_escaped _

/-
  The searches for phrases can be read back just if there is
  no mark in the phrases.  Let a candidate be put together
  from nothing, with any labels.  Then its query has one
  search for each variable with phrases, and for no other.
  The literal of a search ends at the first quote that is not
  escaped.  Without its escapes it is read as just the phrases
  of the variable if none of them has a double quote or a
  backslash, and else it is not.  Without double quotes no
  other set of phrases, be it of another candidate, has the
  same literal.
-/
theorem exactSearches_tell_phrases_iff
    (c : Candidate)
    (o : Options)
    (hAssembled : c.Assembled) :
    c.exactQuery o = withSearches o c c.exactSearches ∧
      c.exactSearches.map (·.name) = c.exactPhrases.keys ∧
      ∀ s ∈ c.exactSearches,
        (∀ rest,
          body? ['\''] isPlain (s.body.toList ++ '\'' :: rest) =
            some (s.body.toList, rest)) ∧
        ∃ phrases,
          c.exactPhrases.get? s.name = some phrases ∧
            (phrases? (unescaped s.body.toList) =
                some phrases.toList ↔
              ∀ phrase ∈ phrases,
                '"' ∉ phrase.toList ∧ '\\' ∉ phrase.toList) ∧
            ((∀ phrase ∈ phrases, '"' ∉ phrase.toList) →
              ∀ d : Candidate, ∀ r ∈ d.exactSearches,
                r.body = s.body →
                  ∀ others,
                    d.exactPhrases.get? r.name = some others →
                    (∀ phrase ∈ others, '"' ∉ phrase.toList) →
                      others = phrases) := by
  have hStep := hAssembled.inStep
  refine ⟨c.exactQuery_eq o, hStep.names_exactSearches, ?_⟩
  intro s hSearch
  refine ⟨closes_of_mem_searches hSearch, ?_⟩
  rcases exists_phrases_of_mem_exactSearches hSearch with
    ⟨phrases, hPhrases, hTerms, hText⟩
  refine ⟨phrases, hPhrases, ?_, ?_⟩
  · rw [hText]
    exact phrases?_exactTexts_iff
      (hStep.nonempty s.name phrases hPhrases)
  · intro hQuote d r hOther hBody others hOthers hOtherQuote
    rcases exists_phrases_of_mem_exactSearches hOther with
      ⟨found, hFound, hFoundTerms, -⟩
    rw [hOthers, Option.some.injEq] at hFound
    rw [hTerms, hFoundTerms, ← hFound] at hBody
    exact SortedSet.eq_of_toList_eq
      (eq_of_searchText_eq hOtherQuote hQuote hBody)

/- Two phrases, one of them with a single quote. -/
def oNeillsPrize : Candidate :=
  (empty.search "?proj" "O'Neill").search "?proj" "Nobel Prize"

theorem exactSearches_tell_oNeillsPrize :
    oNeillsPrize.Assembled ∧
    ∃ s ∈ oNeillsPrize.exactSearches,
      s.body = "\"Nobel Prize\" AND \"O\\'Neill\"" ∧
      phrases? (unescaped s.body.toList) =
        some ["Nobel Prize", "O'Neill"] ∧
      ∀ others,
        oNeillsPrize.exactPhrases.get? s.name = some others →
        (∀ phrase ∈ others, '"' ∉ phrase.toList) →
          others = .ofList ["O'Neill", "Nobel Prize"] := by
  have hAssembled : oNeillsPrize.Assembled :=
    .search "?proj" "Nobel Prize" (.search "?proj" "O'Neill" .empty)
  have hSearch :
      ⟨"?proj", "\"Nobel Prize\" AND \"O\\'Neill\""⟩ ∈
        oNeillsPrize.exactSearches :=
    List.mem_singleton.mpr rfl
  rcases ((exactSearches_tell_phrases_iff oNeillsPrize .default
      hAssembled).2.2 _ hSearch).2 with
    ⟨phrases, hPhrases, hRead, hOnly⟩
  have hFound :
      oNeillsPrize.exactPhrases.get? "?proj" =
        some (.ofList ["O'Neill", "Nobel Prize"]) := by
    decide +kernel
  rw [hFound, Option.some.injEq] at hPhrases
  have hMarks :
      ∀ phrase ∈ phrases,
        '"' ∉ phrase.toList ∧ '\\' ∉ phrase.toList := by
    rw [← hPhrases]
    simp
  refine ⟨hAssembled, _, hSearch, rfl, ?_, ?_⟩
  · rw [hRead.mpr hMarks, ← hPhrases]
    decide +kernel
  · rw [hPhrases]
    exact hOnly (fun phrase hPhrase => (hMarks phrase hPhrase).1)
      oNeillsPrize _ hSearch rfl

/- A label that ends its own phrase and begins another one. -/
def quotedLabel : Candidate :=
  empty.search "?proj" "a\" AND \"b"

/- Two labels that are searched for one by one. -/
def twoLabels : Candidate :=
  (empty.search "?proj" "a").search "?proj" "b"

theorem exactQuery_quotedLabel :
    quotedLabel.Assembled ∧ twoLabels.Assembled ∧
    quotedLabel.exactPhrases ≠ twoLabels.exactPhrases ∧
    quotedLabel.exactQuery .default =
      twoLabels.exactQuery .default ∧
    ∃ s ∈ quotedLabel.exactSearches,
      quotedLabel.exactPhrases.get? s.name =
        some (.singleton "a\" AND \"b") ∧
      phrases? (unescaped s.body.toList) = some ["a", "b"] := by
  have hSearch :
      ⟨"?proj", "\"a\" AND \"b\""⟩ ∈ quotedLabel.exactSearches :=
    List.mem_singleton.mpr rfl
  refine
    ⟨.search "?proj" "a\" AND \"b" .empty,
      .search "?proj" "b" (.search "?proj" "a" .empty),
      by decide +kernel, by decide +kernel, _, hSearch,
      by decide +kernel, by decide +kernel⟩

end Candidate

end QuestionQuery
