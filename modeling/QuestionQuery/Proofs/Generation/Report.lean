import QuestionQuery.Proofs.Generation.Independence
import QuestionQuery.Proofs.Generation.Order

/-
  What the report of a generation says.

  A visit notes how many candidates it leaves, and reports
  its word if there is no rule for it.  The first such word
  drops all candidates, so that later ones have none left to
  drop.  A report thus tells how many candidates there ever
  were, and which words are to blame if there are none.

  Key definitions include:
    * `Word.isRuled`
    * `Generation.behind`

  Main statements:
    * `Generation.candidates_foldl_visit_start`
    * `Generation.unhandled_foldl_visit_of_candidates_eq_empty`
    * `Generation.unhandled_foldl_visit_of_first`
    * `Generation.exists_peakCandidates_foldl_visit`
    * `Generation.report_ofTree`
-/

------------------------------------------------------------
-- Candidates On The Way
------------------------------------------------------------

namespace QuestionQuery

/-
  Is there a rule for a word?  Its part of speech tells, and
  whether it has annotations.
-/
def Word.isRuled
    (w : Word) : Bool :=
  hasRule w.isAnnotated w.partOfSpeech

/- A word has moves just if there is a rule for it. -/
theorem Word.isRuled_iff
    (source : LabelSource)
    {w : Word} :
    w.isRuled ↔ w.moves? source ≠ none := by
  rw [isRuled, ← isSome_moves? source, Option.isSome_iff_ne_none]

/- A word has no move just if there is no rule for it. -/
theorem Word.isRuled_eq_false_iff
    (source : LabelSource)
    {w : Word} :
    w.isRuled = false ↔ w.moves? source = none := by
  rw [← Bool.not_eq_true, isRuled_iff source, not_not]

namespace Generation

variable {source : LabelSource}

/- The candidates right behind some words, word by word. -/
def behind
    (source : LabelSource)
    (seeds : SortedSet Candidate)
    (ws : List Word) : SortedSet Candidate :=
  (ws.foldl (branch source) (start seeds)).candidates

/- Counting has no effect on the candidates. -/
private theorem candidates_foldl_branch
    {g h : Generation}
    (ws : List Word)
    (hSame : g.candidates = h.candidates) :
    (ws.foldl (branch source) g).candidates =
      (ws.foldl (visit source) h).candidates := by
  induction ws generalizing g h with
  | nil => exact hSame
  | cons w ws ih =>
      apply ih
      change (g.branch source w).candidates =
        (h.branch source w).candidates
      unfold branch
      rw [hSame]
      cases w.moves? source <;> rfl

/- Visits leave the candidates that are behind the words. -/
theorem candidates_foldl_visit_start
    (seeds : SortedSet Candidate)
    (ws : List Word) :
    (ws.foldl (visit source) (start seeds)).candidates =
      behind source seeds ws :=
  (candidates_foldl_branch ws rfl).symm

/- Some seed gets past words that all have rules. -/
theorem behind_ne_empty
    {seeds : SortedSet Candidate}
    {ws : List Word}
    (hSeeds : seeds ≠ .empty)
    (hRules : ∀ w ∈ ws, w.isRuled) :
    behind source seeds ws ≠ .empty := by
  rw [← candidates_foldl_visit_start]
  rcases SortedSet.ne_empty_iff_exists_mem.mp hSeeds with
    ⟨c, hSeed⟩
  rcases Word.exists_choice
      (fun w hw => (Word.isRuled_iff source).mp (hRules w hw)) with
    ⟨ms, hChoice⟩
  apply SortedSet.ne_empty_iff_exists_mem.mpr
  exact ⟨ms.foldl Move.apply c,
    mem_candidates_foldl_visit.mpr ⟨c, hSeed, ms, hChoice, rfl⟩⟩

end Generation

end QuestionQuery

------------------------------------------------------------
-- Words Without A Rule
------------------------------------------------------------

namespace QuestionQuery

/- A set has a size just if it has members. -/
theorem SortedSet.size_pos_iff
    {α : Type}
    [Ord α]
    {s : SortedSet α} :
    0 < s.size ↔ s ≠ .empty := by
  rw [size, List.length_pos_iff, ne_eq, ne_eq, not_iff_not]
  exact ⟨fun hNil => eq_of_toList_eq (t := .empty) hNil,
    congrArg toList⟩

namespace Generation

variable {source : LabelSource}

/- A word with a rule is not reported. -/
theorem unhandled_visit_of_isRuled
    {w : Word}
    (g : Generation)
    (hRule : w.isRuled) :
    (g.visit source w).report.unhandled = g.report.unhandled := by
  rcases Option.ne_none_iff_exists'.mp
      ((Word.isRuled_iff source).mp hRule) with
    ⟨ms, hMoves⟩
  simp [visit, count, branch, hMoves]

/- A word without a rule is reported with what it drops. -/
theorem unhandled_visit_of_not_isRuled
    {w : Word}
    (g : Generation)
    (hRule : w.isRuled = false) :
    (g.visit source w).report.unhandled =
      g.report.unhandled ++ [unhandled w g.candidates] := by
  have hMoves := (Word.isRuled_eq_false_iff source).mp hRule
  simp [visit, count, branch, hMoves]

/- A word without a rule leaves no candidate. -/
theorem candidates_visit_of_not_isRuled
    {w : Word}
    (g : Generation)
    (hRule : w.isRuled = false) :
    (g.visit source w).candidates = .empty := by
  have hMoves := (Word.isRuled_eq_false_iff source).mp hRule
  simp [visit, count, branch, hMoves]

/- Without candidates no visit finds any. -/
theorem candidates_visit_of_candidates_eq_empty
    {g : Generation}
    (w : Word)
    (hEmpty : g.candidates = .empty) :
    (g.visit source w).candidates = .empty := by
  ext d
  simp [mem_candidates_visit, hEmpty]

/- Words with rules are not reported. -/
theorem unhandled_foldl_visit_of_isRuled
    {ws : List Word}
    (g : Generation)
    (hRules : ∀ w ∈ ws, w.isRuled) :
    (ws.foldl (visit source) g).report.unhandled =
      g.report.unhandled := by
  induction ws generalizing g with
  | nil => rfl
  | cons w ws ih =>
      rw [List.forall_mem_cons] at hRules
      rw [List.foldl_cons, ih _ hRules.2,
        unhandled_visit_of_isRuled g hRules.1]

/-
  Once there are no candidates, the words without a rule are
  still reported, but they drop nothing.
-/
theorem unhandled_foldl_visit_of_candidates_eq_empty
    {g : Generation}
    (ws : List Word)
    (hEmpty : g.candidates = .empty) :
    (ws.foldl (visit source) g).report.unhandled =
      g.report.unhandled ++
        (ws.filter (!·.isRuled)).map (unhandled · .empty) := by
  induction ws generalizing g with
  | nil => simp
  | cons w ws ih =>
      rw [List.foldl_cons,
        ih (candidates_visit_of_candidates_eq_empty w hEmpty)]
      cases hRule : w.isRuled with
      | true => simp [unhandled_visit_of_isRuled g hRule, hRule]
      | false =>
          simp [unhandled_visit_of_not_isRuled g hRule, hRule,
            hEmpty]

/-
  The first word without a rule is reported with all of the
  candidates that got there, and later ones with none.
-/
theorem unhandled_foldl_visit_of_first
    {before after : List Word}
    {w : Word}
    (seeds : SortedSet Candidate)
    (hBefore : ∀ v ∈ before, v.isRuled)
    (hFirst : w.isRuled = false) :
    ((before ++ w :: after).foldl (visit source)
        (start seeds)).report.unhandled =
      unhandled w (behind source seeds before) ::
        (after.filter (!·.isRuled)).map (unhandled · .empty) := by
  rw [List.foldl_append, List.foldl_cons,
    unhandled_foldl_visit_of_candidates_eq_empty _
      (candidates_visit_of_not_isRuled _ hFirst),
    unhandled_visit_of_not_isRuled _ hFirst,
    unhandled_foldl_visit_of_isRuled _ hBefore,
    candidates_foldl_visit_start]
  rfl

/- Either all words have rules, or there is a first without. -/
theorem forall_isRuled_or_exists_first
    (ws : List Word) :
    (∀ w ∈ ws, w.isRuled) ∨
      ∃ before w after,
        ws = before ++ w :: after ∧
          (∀ v ∈ before, v.isRuled) ∧ w.isRuled = false := by
  cases hFind : ws.find? (!·.isRuled) with
  | none =>
      left
      simpa using hFind
  | some w =>
      right
      rcases List.find?_eq_some_iff_append.mp hFind with
        ⟨hRule, before, after, hSplit, hBefore⟩
      exact ⟨before, w, after, hSplit, by simpa using hBefore,
        by simpa using hRule⟩

end Generation

end QuestionQuery

------------------------------------------------------------
-- The Peak
------------------------------------------------------------

namespace QuestionQuery

namespace Generation

variable {source : LabelSource}
variable {seeds : SortedSet Candidate}

/- The last of some visits notes the candidates behind it. -/
private theorem peakCandidates_foldl_visit_concat
    (ws : List Word)
    (w : Word) :
    ((ws ++ [w]).foldl (visit source)
        (start seeds)).report.peakCandidates =
      max (ws.foldl (visit source)
          (start seeds)).report.peakCandidates
        (behind source seeds (ws ++ [w])).size := by
  rw [← candidates_foldl_visit_start, List.foldl_concat,
    peakCandidates_visit]

/- The peak is at least what there is behind any word. -/
theorem size_behind_le_peakCandidates
    {ws before after : List Word}
    {w : Word}
    (hSplit : ws = before ++ w :: after) :
    (behind source seeds (before ++ [w])).size ≤
      (ws.foldl (visit source)
        (start seeds)).report.peakCandidates := by
  subst hSplit
  induction after using List.reverseRecOn with
  | nil =>
      rw [peakCandidates_foldl_visit_concat]
      exact Nat.le_max_right _ _
  | append_singleton after v ih =>
      have hLast :
          before ++ w :: (after ++ [v]) =
            (before ++ w :: after) ++ [v] := by
        simp
      rw [hLast, peakCandidates_foldl_visit_concat]
      exact ih.trans (Nat.le_max_left _ _)

/- The peak is what there is behind some word. -/
theorem exists_peakCandidates_foldl_visit
    {ws : List Word}
    (hNe : ws ≠ []) :
    ∃ before w after,
      ws = before ++ w :: after ∧
        (ws.foldl (visit source)
            (start seeds)).report.peakCandidates =
          (behind source seeds (before ++ [w])).size := by
  -- the last word sets a new peak, or the old one was set before
  induction ws using List.reverseRecOn with
  | nil => exact absurd rfl hNe
  | append_singleton ws v ih =>
      rw [peakCandidates_foldl_visit_concat]
      rcases ws.eq_nil_or_concat with rfl | hConcat
      · refine ⟨[], v, [], rfl, ?_⟩
        simp [start, Report.start]
      rcases ih (by rcases hConcat with ⟨_, _, rfl⟩; simp) with
        ⟨before, w, after, hSplit, hPeak⟩
      rcases Nat.le_total
          (behind source seeds (ws ++ [v])).size
          (ws.foldl (visit source)
            (start seeds)).report.peakCandidates with
        hOld | hNew
      · refine ⟨before, w, after ++ [v], by simp [hSplit], ?_⟩
        rw [Nat.max_eq_left hOld, hPeak]
      · exact ⟨ws, v, [], rfl, Nat.max_eq_right hNew⟩

end Generation

end QuestionQuery

------------------------------------------------------------
-- Reports Of Trees
------------------------------------------------------------

namespace QuestionQuery

namespace Generation

variable {source : LabelSource}
variable {seeds : SortedSet Candidate}

/- The entries of words, but for the counts. -/
theorem filterMap_unhandled?
    (ws : List Word) :
    ws.filterMap (Word.unhandled? source) =
      (ws.filter (!·.isRuled)).map fun w =>
        { label := w.label
          tag := w.tag
          annotated := w.isAnnotated
          dropped := 0 } := by
  induction ws with
  | nil => rfl
  | cons w ws ih =>
      cases hRule : w.isRuled with
      | true =>
          have hMoves := (Word.isRuled_iff source).mp hRule
          simp [Word.unhandled?, hMoves, hRule, ih]
      | false =>
          have hMoves := (Word.isRuled_eq_false_iff source).mp hRule
          simp [Word.unhandled?, hMoves, hRule, ih, unhandled,
            SortedSet.size, SortedSet.empty]

/-
  The first entry is of the first word without a rule and
  counts the candidates that got there; there are some.  All
  other entries count none.
-/
theorem dropped_foldl_visit
    {ws : List Word}
    {u : Unhandled}
    {rest : List Unhandled}
    (hSeeds : seeds ≠ .empty)
    (hReport :
      (ws.foldl (visit source) (start seeds)).report.unhandled =
        u :: rest) :
    (∃ before w after,
      ws = before ++ w :: after ∧
        (∀ v ∈ before, v.isRuled) ∧ w.isRuled = false ∧
          u.dropped = (behind source seeds before).size) ∧
      1 ≤ u.dropped ∧ ∀ v ∈ rest, v.dropped = 0 := by
  rcases forall_isRuled_or_exists_first ws with
    hRules | ⟨before, w, after, rfl, hBefore, hFirst⟩
  · rw [unhandled_foldl_visit_of_isRuled _ hRules] at hReport
    contradiction
  · rw [unhandled_foldl_visit_of_first seeds hBefore hFirst,
      List.cons.injEq] at hReport
    rcases hReport with ⟨rfl, rfl⟩
    refine ⟨⟨before, w, after, rfl, hBefore, hFirst, rfl⟩, ?_, ?_⟩
    · exact SortedSet.size_pos_iff.mpr
        (behind_ne_empty hSeeds hBefore)
    · intro v hEntry
      rcases List.mem_map.mp hEntry with ⟨x, -, rfl⟩
      rfl

/- All candidates are lost just if some word is reported. -/
theorem candidates_ofTree_eq_empty_iff_unhandled
    {t : ParseTree}
    (hSeeds : seeds ≠ .empty) :
    (ofTree source seeds t).candidates = .empty ↔
      (ofTree source seeds t).report.unhandled ≠ [] := by
  have hListed :
      (ofTree source seeds t).report.unhandled = [] ↔
        ∀ w ∈ t.words, w.isRuled := by
    rw [← List.map_eq_nil_iff, unhandled_ofTree,
      filterMap_unhandled?, List.map_eq_nil_iff,
      List.filter_eq_nil_iff]
    simp
  rw [candidates_ofTree_eq_empty_iff hSeeds, ne_eq, hListed]
  simp only [← Word.isRuled_eq_false_iff source, not_forall,
    exists_prop, Bool.not_eq_true]

/-
  The report of a tree is exact.  It counts the words, and
  lists those without a rule in their order.  The first of
  them dropped all candidates that got there, the others had
  none left.  The peak is the largest number of candidates
  there ever were right behind a word.
-/
theorem report_ofTree
    (source : LabelSource)
    (seeds : SortedSet Candidate)
    (t : ParseTree)
    (hSeeds : seeds ≠ .empty) :
    (ofTree source seeds t).report.nodesVisited = t.size ∧
    (ofTree source seeds t).report.unhandled.map
        Unhandled.withoutCount =
      ((t.words.filter (!·.isRuled)).map fun w =>
        { label := w.label
          tag := w.tag
          annotated := w.isAnnotated
          dropped := 0 }) ∧
    (∀ u rest,
      (ofTree source seeds t).report.unhandled = u :: rest →
        (∃ before w after,
          t.words = before ++ w :: after ∧
            (∀ v ∈ before, v.isRuled) ∧ w.isRuled = false ∧
              u.dropped = (behind source seeds before).size) ∧
          1 ≤ u.dropped ∧ ∀ v ∈ rest, v.dropped = 0) ∧
    ((ofTree source seeds t).candidates = .empty ↔
      (ofTree source seeds t).report.unhandled ≠ []) ∧
    (∀ before w after,
      t.words = before ++ w :: after →
        (behind source seeds (before ++ [w])).size ≤
          (ofTree source seeds t).report.peakCandidates) ∧
    ∃ before w after,
      t.words = before ++ w :: after ∧
        (ofTree source seeds t).report.peakCandidates =
          (behind source seeds (before ++ [w])).size := by
  have hNe : t.words ≠ [] := by
    cases t
    simp [ParseTree.words]
  refine ⟨nodesVisited_ofTree source seeds t, ?_, ?_,
    candidates_ofTree_eq_empty_iff_unhandled hSeeds, ?_, ?_⟩
  · rw [unhandled_ofTree, filterMap_unhandled?]
  · intro u rest hReport
    rw [ofTree_eq_foldl_visit] at hReport
    exact dropped_foldl_visit hSeeds hReport
  · intro before w after hSplit
    rw [ofTree_eq_foldl_visit]
    exact size_behind_le_peakCandidates hSplit
  · rw [ofTree_eq_foldl_visit]
    exact exists_peakCandidates_foldl_visit hNe

/-
  A question that names somebody twice, which gives three
  candidates and not four, and then has two words without a
  rule, one below the other.
-/
def duneByDune : ParseTree :=
  .node (.plain "Dune" "NNP")
    [.leaf (.plain "Dune" "NNP"),
      .node (.plain "by" "IN") [.leaf (.plain "the" "DT")],
      .leaf (.plain "Who" "WP")]

theorem report_ofTree_duneByDune :
    seed ≠ .empty ∧
    (ofTree .empty seed duneByDune).report =
      { nodesVisited := 5
        peakCandidates := 3
        unhandled :=
          [⟨"by", "IN", false, 3⟩, ⟨"the", "DT", false, 0⟩] } ∧
    duneByDune.words =
      [.plain "Dune" "NNP", .plain "Dune" "NNP"] ++
        .plain "by" "IN" ::
          [.plain "the" "DT", .plain "Who" "WP"] ∧
    1 ≤ 3 ∧
    (ofTree .empty seed duneByDune).candidates = .empty ∧
    (behind .empty seed
        ([.plain "Dune" "NNP", .plain "Dune" "NNP"] ++
          [.plain "by" "IN"])).size ≤ 3 := by
  have hSeed : seed ≠ .empty := by
    decide
  have hReport :
      (ofTree .empty seed duneByDune).report =
        { nodesVisited := 5
          peakCandidates := 3
          unhandled :=
            [⟨"by", "IN", false, 3⟩, ⟨"the", "DT", false, 0⟩] } := by
    decide +kernel
  have hWords :
      duneByDune.words =
        [.plain "Dune" "NNP", .plain "Dune" "NNP"] ++
          .plain "by" "IN" ::
            [.plain "the" "DT", .plain "Who" "WP"] :=
    rfl
  have hExact := report_ofTree .empty seed duneByDune hSeed
  rw [hReport] at hExact
  exact
    ⟨hSeed, hReport, hWords, (hExact.2.2.1 _ _ rfl).2.1,
      hExact.2.2.2.1.mpr (by simp),
      hExact.2.2.2.2.1 _ _ _ hWords⟩

end Generation

end QuestionQuery
