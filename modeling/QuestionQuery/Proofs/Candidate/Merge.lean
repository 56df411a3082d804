import QuestionQuery.Proofs.Generation.Choice
import QuestionQuery.Proofs.Sorted.Union

/-
  What a seed contributes to the candidates of a tree.

  Two candidates are merged by uniting all that they require
  and search for.  Every move adds the same small candidate
  to whatever it is applied to.  So a run of moves adds what
  it makes of nothing, and a tree adds to each seed what it
  makes of the empty candidate.  The seeds may be of any
  kind, also such as no moves lead to.

  Key definitions include:
    * `Candidate.merge`

  Main statements:
    * `Candidate.merge_assoc`
    * `Move.apply_eq_merge`
    * `Move.apply_merge`
    * `Move.foldl_apply_eq_merge`
    * `Generation.mem_candidates_ofTree_iff_merge`
-/

------------------------------------------------------------
-- Merged Candidates
------------------------------------------------------------

namespace QuestionQuery

namespace Candidate

/-
  All that two candidates require, and for each variable all
  that they search for.
-/
def merge
    (c d : Candidate) : Candidate where
  constraints := c.constraints ∪ d.constraints
  filters := c.filters ∪ d.filters
  fuzzyTokens := c.fuzzyTokens.mergeWith (· ∪ ·) d.fuzzyTokens
  exactPhrases := c.exactPhrases.mergeWith (· ∪ ·) d.exactPhrases

/- Nothing is added by the empty candidate. -/
@[simp]
theorem empty_merge
    (c : Candidate) :
    empty.merge c = c := by
  simp [merge, empty]

/- Nothing is added to a candidate by the empty one. -/
@[simp]
theorem merge_empty
    (c : Candidate) :
    c.merge empty = c := by
  simp [merge, empty]

theorem merge_assoc
    (c d e : Candidate) :
    (c.merge d).merge e = c.merge (d.merge e) := by
  simp [merge, SortedSet.union_assoc, SortedMap.mergeWith_assoc]

/- To require a pattern is to merge with the pattern alone. -/
theorem require_eq_merge
    (c : Candidate)
    (pattern : String) :
    c.require pattern = c.merge (empty.require pattern) := by
  simp only [require, merge, mk.injEq]
  exact ⟨SortedSet.insert_eq_union _ _,
    (SortedSet.union_empty _).symm, rfl, rfl⟩

/- To require a condition is to merge with it alone. -/
theorem restrict_eq_merge
    (c : Candidate)
    (condition : String) :
    c.restrict condition = c.merge (empty.restrict condition) := by
  simp only [restrict, merge, mk.injEq]
  exact ⟨(SortedSet.union_empty _).symm,
    SortedSet.insert_eq_union _ _, rfl, rfl⟩

/-
  To search for a label is to merge with the search for it
  alone, also for a variable that has no texts so far.
-/
theorem search_eq_merge
    (c : Candidate)
    (name label : String) :
    c.search name label = c.merge (empty.search name label) := by
  simp only [search, merge, mk.injEq]
  refine ⟨(SortedSet.union_empty _).symm,
    (SortedSet.union_empty _).symm, ?_, ?_⟩
  · apply SortedMap.alter_eq_mergeWith
    intro old
    simp [SortedSet.insertAll]
  · apply SortedMap.alter_eq_mergeWith
    intro old
    exact SortedSet.insert_eq_union old label

/- What is searched for need not be in step to be merged. -/
example :
    ({ empty with
        exactPhrases := .ofList [("?proj", .empty)] } :
      Candidate).merge (empty.search "?proj" "Dune") =
      empty.search "?proj" "Dune" := by
  decide +kernel

end Candidate

end QuestionQuery

------------------------------------------------------------
-- Moves
------------------------------------------------------------

namespace QuestionQuery

namespace Move

/- A move adds what it makes of nothing. -/
theorem apply_eq_merge
    (m : Move)
    (c : Candidate) :
    m.apply c = c.merge (m.apply .empty) := by
  cases m with
  | keep => exact c.merge_empty.symm
  | require pattern => exact c.require_eq_merge pattern.text
  | restrict v uri =>
      exact c.restrict_eq_merge (Sparql.membership v uri)
  | search v label => exact c.search_eq_merge v.name label

/- What a move adds to a part it adds to the whole. -/
theorem apply_merge
    (m : Move)
    (c d : Candidate) :
    m.apply (c.merge d) = c.merge (m.apply d) := by
  calc
    m.apply (c.merge d)
        = (c.merge d).merge (m.apply .empty) :=
          m.apply_eq_merge _
    _ = c.merge (d.merge (m.apply .empty)) :=
          c.merge_assoc d _
    _ = c.merge (m.apply d) := by
          rw [← m.apply_eq_merge d]

/- So do moves that are made one after another. -/
theorem foldl_apply_merge
    (ms : List Move)
    (c d : Candidate) :
    ms.foldl apply (c.merge d) = c.merge (ms.foldl apply d) := by
  induction ms generalizing d with
  | nil => rfl
  | cons m ms ih =>
      rw [List.foldl_cons, apply_merge, ih, List.foldl_cons]

/- Moves add what they make of nothing. -/
theorem foldl_apply_eq_merge
    (ms : List Move)
    (c : Candidate) :
    ms.foldl apply c = c.merge (ms.foldl apply .empty) := by
  rw [← foldl_apply_merge, Candidate.merge_empty]

end Move

end QuestionQuery

------------------------------------------------------------
-- Seeds
------------------------------------------------------------

namespace QuestionQuery

namespace Generation

variable {source : LabelSource}
variable {t : ParseTree}

/- By default a tree has what its moves make of nothing. -/
theorem mem_candidates_ofTree_seed_iff
    {g : Candidate} :
    g ∈ (ofTree source seed t).candidates ↔
      ∃ ms, Word.Choice source t.words ms ∧
        ms.foldl Move.apply .empty = g := by
  rw [mem_candidates_ofTree_iff_choice]
  simp [seed]

/-
  A seed factors out.  From any seeds, the candidates of a
  tree are those seeds merged with the candidates that the
  tree has by default.
-/
theorem mem_candidates_ofTree_iff_merge
    (source : LabelSource)
    (seeds : SortedSet Candidate)
    (t : ParseTree)
    (d : Candidate) :
    d ∈ (ofTree source seeds t).candidates ↔
      ∃ s ∈ seeds, ∃ g ∈ (ofTree source seed t).candidates,
        d = s.merge g := by
  rw [mem_candidates_ofTree_iff_choice]
  constructor
  · rintro ⟨s, hSeed, ms, hChoice, rfl⟩
    exact ⟨s, hSeed, ms.foldl Move.apply .empty,
      mem_candidates_ofTree_seed_iff.mpr ⟨ms, hChoice, rfl⟩,
      Move.foldl_apply_eq_merge ms s⟩
  · rintro ⟨s, hSeed, g, hMember, rfl⟩
    rcases mem_candidates_ofTree_seed_iff.mp hMember with
      ⟨ms, hChoice, rfl⟩
    exact ⟨s, hSeed, ms, hChoice,
      Move.foldl_apply_eq_merge ms s⟩

end Generation

end QuestionQuery
