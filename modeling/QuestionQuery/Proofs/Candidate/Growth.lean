import QuestionQuery.Proofs.Candidate.Tokens

/-
  What a candidate gains at a time.

  A candidate grows by one pattern, by one condition, or by
  one label to search for, and keeps all else.  Each kind of
  growth is said by the members of the four parts behind it,
  and these leave no choice: the larger candidate is the one
  that is made by requiring, restricting or searching.

  Key definitions include:
    * `Candidate.AddsPattern`
    * `Candidate.AddsCondition`
    * `Candidate.AddsText`

  Main statements:
    * `Candidate.addsPattern_iff`
    * `Candidate.addsCondition_iff`
    * `Candidate.addsText_iff`
    * `Candidate.search_adds_tokens`
-/

------------------------------------------------------------
-- Patterns And Conditions
------------------------------------------------------------

namespace QuestionQuery

namespace Candidate

/- Candidates with the same four parts are equal. -/
@[ext]
theorem ext
    {c d : Candidate}
    (hConstraints : c.constraints = d.constraints)
    (hFilters : c.filters = d.filters)
    (hTokens : c.fuzzyTokens = d.fuzzyTokens)
    (hPhrases : c.exactPhrases = d.exactPhrases) :
    c = d := by
  cases c
  cases d
  simp_all only

/- Does a candidate require one more pattern than another? -/
structure AddsPattern
    (pattern : String)
    (c d : Candidate) : Prop where
  constraints :
    ∀ p, p ∈ d.constraints ↔ p ∈ c.constraints ∨ p = pattern
  filters : d.filters = c.filters
  fuzzyTokens : d.fuzzyTokens = c.fuzzyTokens
  exactPhrases : d.exactPhrases = c.exactPhrases

/- Does a candidate have one more condition than another? -/
structure AddsCondition
    (condition : String)
    (c d : Candidate) : Prop where
  constraints : d.constraints = c.constraints
  filters :
    ∀ f, f ∈ d.filters ↔ f ∈ c.filters ∨ f = condition
  fuzzyTokens : d.fuzzyTokens = c.fuzzyTokens
  exactPhrases : d.exactPhrases = c.exactPhrases

variable {c d : Candidate}
variable {pattern condition : String}

/- To add a pattern is to require it. -/
theorem addsPattern_iff :
    AddsPattern pattern c d ↔ d = c.require pattern := by
  constructor
  · intro hAdds
    refine ext ?_ hAdds.filters hAdds.fuzzyTokens
      hAdds.exactPhrases
    ext p
    rw [hAdds.constraints, require, SortedSet.mem_insert,
      or_comm]
  · rintro rfl
    refine ⟨?_, rfl, rfl, rfl⟩
    intro p
    rw [require, SortedSet.mem_insert, or_comm]

/- To add a condition is to restrict by it. -/
theorem addsCondition_iff :
    AddsCondition condition c d ↔ d = c.restrict condition := by
  constructor
  · intro hAdds
    refine ext hAdds.constraints ?_ hAdds.fuzzyTokens
      hAdds.exactPhrases
    ext f
    rw [hAdds.filters, restrict, SortedSet.mem_insert, or_comm]
  · rintro rfl
    refine ⟨rfl, ?_, rfl, rfl⟩
    intro f
    rw [restrict, SortedSet.mem_insert, or_comm]

end Candidate

end QuestionQuery

------------------------------------------------------------
-- Texts
------------------------------------------------------------

namespace QuestionQuery

namespace Candidate

/-
  Does a candidate search for one more label than another
  one, on behalf of a variable?  The variable has the tokens
  and phrases from before, the tokens of the label, and the
  label as a phrase.  It has both also if the label has no
  token.
-/
structure AddsText
    (name label : String)
    (c d : Candidate) : Prop where
  tokens :
    ∃ found,
      d.fuzzyTokens.get? name = some found ∧
        ∀ token,
          token ∈ found ↔
            token ∈ (c.fuzzyTokens.get? name).getD .empty ∨
              IsToken label token
  phrases :
    ∃ phrases,
      d.exactPhrases.get? name = some phrases ∧
        ∀ phrase,
          phrase ∈ phrases ↔
            phrase ∈ (c.exactPhrases.get? name).getD .empty ∨
              phrase = label
  others :
    ∀ other,
      other ≠ name →
        d.fuzzyTokens.get? other = c.fuzzyTokens.get? other ∧
          d.exactPhrases.get? other = c.exactPhrases.get? other
  constraints : d.constraints = c.constraints
  filters : d.filters = c.filters

variable {c d e : Candidate}
variable {name label other : String}

/- The tokens of the variable of a search are added to. -/
theorem get?_fuzzyTokens_search :
    (c.search name label).fuzzyTokens.get? other =
      if other = name then
        some
          (((c.fuzzyTokens.get? name).getD .empty).insertAll
            (tokens label))
      else
        c.fuzzyTokens.get? other :=
  SortedMap.get?_alter

/- The label of a search is one more phrase. -/
theorem get?_exactPhrases_search :
    (c.search name label).exactPhrases.get? other =
      if other = name then
        some
          (((c.exactPhrases.get? name).getD .empty).insert label)
      else
        c.exactPhrases.get? other :=
  SortedMap.get?_alter

/- A search adds its label. -/
theorem addsText_search
    (c : Candidate)
    (name label : String) :
    AddsText name label c (c.search name label) where
  tokens := by
    refine ⟨_, get?_fuzzyTokens_search.trans (if_pos rfl), ?_⟩
    intro token
    rw [SortedSet.mem_insertAll, mem_tokens_iff]
  phrases := by
    refine ⟨_, get?_exactPhrases_search.trans (if_pos rfl), ?_⟩
    intro phrase
    rw [SortedSet.mem_insert, or_comm]
  others := by
    intro other hOther
    rw [get?_fuzzyTokens_search, get?_exactPhrases_search]
    exact ⟨if_neg hOther, if_neg hOther⟩
  constraints := rfl
  filters := rfl

/- Maps agree if they have the same members for one key. -/
private theorem eq_of_mem_iff_of_get?_eq
    {m n : SortedMap String (SortedSet String)}
    {mine yours : SortedSet String}
    (hMine : m.get? name = some mine)
    (hYours : n.get? name = some yours)
    (hMembers : ∀ text, text ∈ mine ↔ text ∈ yours)
    (hOthers :
      ∀ other, other ≠ name → m.get? other = n.get? other) :
    m = n := by
  ext1 other
  by_cases hName : other = name
  · rw [hName, hMine, hYours, SortedSet.ext hMembers]
  · exact hOthers other hName

/- What is added to a candidate leaves no choice. -/
theorem AddsText.unique
    (hLeft : AddsText name label c d)
    (hRight : AddsText name label c e) :
    d = e := by
  have hTokens : d.fuzzyTokens = e.fuzzyTokens := by
    rcases hLeft.tokens with ⟨mine, hMine, hLeftTokens⟩
    rcases hRight.tokens with ⟨yours, hYours, hRightTokens⟩
    apply eq_of_mem_iff_of_get?_eq hMine hYours
    · intro token
      rw [hLeftTokens, hRightTokens]
    · intro other hOther
      rw [(hLeft.others other hOther).1,
        (hRight.others other hOther).1]
  have hPhrases : d.exactPhrases = e.exactPhrases := by
    rcases hLeft.phrases with ⟨mine, hMine, hLeftPhrases⟩
    rcases hRight.phrases with ⟨yours, hYours, hRightPhrases⟩
    apply eq_of_mem_iff_of_get?_eq hMine hYours
    · intro phrase
      rw [hLeftPhrases, hRightPhrases]
    · intro other hOther
      rw [(hLeft.others other hOther).2,
        (hRight.others other hOther).2]
  exact ext (hLeft.constraints.trans hRight.constraints.symm)
    (hLeft.filters.trans hRight.filters.symm) hTokens hPhrases

/- To add a text is to search for it. -/
theorem addsText_iff :
    AddsText name label c d ↔ d = c.search name label := by
  constructor
  · intro hAdds
    exact hAdds.unique (addsText_search c name label)
  · rintro rfl
    exact addsText_search c name label

/-
  A search adds just the tokens of its label.  Behind it, its
  variable has the tokens and phrases from before, all texts
  that stand apart in the label, and the label as a phrase.
  Also a label without tokens makes the variable one that is
  searched for.  The other variables have what they had, and
  so have the patterns and the conditions.
-/
theorem search_adds_tokens
    (c : Candidate)
    (name label : String) :
    (∃ found,
      (c.search name label).fuzzyTokens.get? name = some found ∧
        ∀ token,
          token ∈ found ↔
            token ∈ (c.fuzzyTokens.get? name).getD .empty ∨
              IsToken label token) ∧
    (∃ phrases,
      (c.search name label).exactPhrases.get? name =
          some phrases ∧
        ∀ phrase,
          phrase ∈ phrases ↔
            phrase ∈ (c.exactPhrases.get? name).getD .empty ∨
              phrase = label) ∧
    (∀ other,
      other ≠ name →
        (c.search name label).fuzzyTokens.get? other =
            c.fuzzyTokens.get? other ∧
          (c.search name label).exactPhrases.get? other =
            c.exactPhrases.get? other) ∧
    (c.search name label).constraints = c.constraints ∧
    (c.search name label).filters = c.filters := by
  have hAdds := addsText_search c name label
  exact ⟨hAdds.tokens, hAdds.phrases, hAdds.others,
    hAdds.constraints, hAdds.filters⟩

/- A candidate with texts for two variables. -/
def abbey : Candidate :=
  ((empty.require "?proj a <uri:Abbey>.").search "?proj"
    "abbey").search "?const" "Paris"

/-
  A label with separators at its ends and side by side, some
  of them no blanks of ASCII.  The space of no width in it
  separates nothing.
-/
def saintGermain : String :=
  "\u3000Saint-\u00a0Germain--des\u2009Pr\u00e9s\u200b-"

theorem search_adds_saintGermain :
    "?const" ≠ "?proj" ∧
    (∃ found,
      (abbey.search "?proj" saintGermain).fuzzyTokens.get?
          "?proj" = some found ∧
        found.toList =
          ["Germain", "Pr\u00e9s\u200b", "Saint", "abbey",
            "des"]) ∧
    IsToken saintGermain "Pr\u00e9s\u200b" ∧
    ¬ IsToken saintGermain "Saint-\u00a0Germain" ∧
    ¬ IsToken saintGermain "Germ" ∧
    ¬ IsToken saintGermain "" ∧
    (abbey.search "?proj" saintGermain).fuzzyTokens.get?
        "?const" =
      abbey.fuzzyTokens.get? "?const" ∧
    (abbey.search "?proj" saintGermain).exactPhrases.get?
        "?const" =
      abbey.exactPhrases.get? "?const" := by
  have hOther : "?const" ≠ "?proj" := by decide
  rcases search_adds_tokens abbey "?proj" saintGermain with
    ⟨⟨found, hFound, hTokens⟩, -, hFrame, -⟩
  have hListing :
      ((abbey.search "?proj" saintGermain).fuzzyTokens.get?
        "?proj").map SortedSet.toList =
          some
            ["Germain", "Pr\u00e9s\u200b", "Saint", "abbey",
              "des"] := by
    decide +kernel
  rw [hFound, Option.map_some, Option.some.injEq] at hListing
  have hOld :
      ((abbey.fuzzyTokens.get? "?proj").getD .empty).toList =
        ["abbey"] := by
    decide +kernel
  simp only [← SortedSet.mem_toList, hListing, hOld] at hTokens
  refine ⟨hOther, ⟨found, hFound, hListing⟩, ?_, ?_, ?_, ?_,
    hFrame "?const" hOther⟩
  · exact ((hTokens _).mp (by decide)).resolve_left (by decide)
  · intro hToken
    exact absurd ((hTokens _).mpr (.inr hToken)) (by decide)
  · intro hToken
    exact absurd ((hTokens _).mpr (.inr hToken)) (by decide)
  · intro hToken
    exact absurd ((hTokens _).mpr (.inr hToken)) (by decide)

end Candidate

end QuestionQuery
