import QuestionQuery.Sorted.Map
import QuestionQuery.Sparql.Triple
import QuestionQuery.Text.Blank

/-
  This file defines query candidates.  A candidate is one
  reading of a question: the triple patterns and conditions
  that an answer must meet, and the texts to search for on
  behalf of each variable.

  Key definitions include:
    * `Candidate`
    * `Candidate.require`
    * `Candidate.restrict`
    * `Candidate.search`
    * `Candidate.tokens`
-/

namespace QuestionQuery

------------------------------------------------------------
-- Candidates
------------------------------------------------------------

/-
  A reading of a question.  For each variable the tokens of
  its texts are kept for a search that forgives misspelling,
  and the whole texts for an exact one.
-/
structure Candidate where
  constraints : SortedSet String
  filters : SortedSet String
  fuzzyTokens : SortedMap String (SortedSet String)
  exactPhrases : SortedMap String (SortedSet String)
deriving DecidableEq

namespace Candidate

/- Nothing is required and nothing is searched for. -/
def empty : Candidate where
  constraints := .empty
  filters := .empty
  fuzzyTokens := .empty
  exactPhrases := .empty

instance : Inhabited Candidate :=
  ⟨empty⟩

/- Is nothing required and nothing searched for? -/
def isEmpty
    (c : Candidate) : Bool :=
  c.constraints.isEmpty && c.filters.isEmpty &&
    c.fuzzyTokens.isEmpty && c.exactPhrases.isEmpty

------------------------------------------------------------
-- Order
------------------------------------------------------------

/-
  Candidates are ordered by constraints, then filters, then
  tokens, then phrases.
-/
def order : Candidate → Candidate → Ordering :=
  compareLex (compareOn constraints)
    (compareLex (compareOn filters)
      (compareLex (compareOn fuzzyTokens) (compareOn exactPhrases)))

instance : Ord Candidate :=
  ⟨order⟩

instance : Std.TransOrd Candidate :=
  inferInstanceAs (Std.TransCmp (compareLex _ _))

instance : Std.LawfulEqOrd Candidate where
  compare_self := by
    intro c
    change order c c = .eq
    simp only [order, compareLex_eq_eq, compareOn]
    exact ⟨Std.ReflOrd.compare_self, Std.ReflOrd.compare_self,
      Std.ReflOrd.compare_self, Std.ReflOrd.compare_self⟩
  eq_of_compare := by
    intro c d h
    change order c d = .eq at h
    simp only [order, compareLex_eq_eq, compareOn] at h
    obtain ⟨h₁, h₂, h₃, h₄⟩ := h
    cases c
    cases d
    simp only [Candidate.mk.injEq]
    exact ⟨Std.LawfulEqOrd.eq_of_compare h₁,
      Std.LawfulEqOrd.eq_of_compare h₂,
      Std.LawfulEqOrd.eq_of_compare h₃,
      Std.LawfulEqOrd.eq_of_compare h₄⟩

------------------------------------------------------------
-- Growing
------------------------------------------------------------

/- Require one more triple pattern. -/
def require
    (c : Candidate)
    (pattern : String) : Candidate :=
  { c with constraints := c.constraints.insert pattern }

/- Require one more condition. -/
def restrict
    (c : Candidate)
    (condition : String) : Candidate :=
  { c with filters := c.filters.insert condition }

/- Do tokens end at a character? -/
def isTokenBreak
    (ch : Char) : Bool :=
  Text.isBlank ch || ch = '-'

/- The tokens of a label. -/
def tokens
    (label : String) : List String :=
  Text.pieces isTokenBreak label

/-
  Search for one more label on behalf of a variable, by its
  tokens and as a whole.  Also a label without tokens makes
  the variable one that is searched for.
-/
def search
    (c : Candidate)
    (name label : String) : Candidate :=
  { c with
    fuzzyTokens :=
      c.fuzzyTokens.alter name fun old =>
        (old.getD .empty).insertAll (tokens label)
    exactPhrases :=
      c.exactPhrases.alter name fun old =>
        (old.getD .empty).insert label }

/- Does a text occur in some triple pattern? -/
def mentions
    (c : Candidate)
    (fragment : String) : Bool :=
  c.constraints.toList.any fun pattern =>
    Text.occursIn fragment.toList pattern.toList

end Candidate

end QuestionQuery
