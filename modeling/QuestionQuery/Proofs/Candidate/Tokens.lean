import QuestionQuery.Candidate.Basic

/-
  The tokens of a label.

  Cutting a text at its separators leaves the stretches that
  are as long as can be: there is no separator in them, and
  they reach from one separator, or the beginning, to the
  next one, or the end.  The tokens of a label are those of
  its stretches that are not empty, if white space and
  hyphens separate.

  Key definitions include:
    * `Text.IsStretch`
    * `Text.whiteSpace`
    * `Candidate.IsToken`

  Main statements:
    * `Text.segments_eq_splitOnP`
    * `Text.mem_segments_iff`
    * `Text.mem_pieces_iff`
    * `Text.isBlank_iff_mem_whiteSpace`
    * `Candidate.mem_tokens_iff`
-/

------------------------------------------------------------
-- Stretches
------------------------------------------------------------

namespace QuestionQuery

namespace Text

/-
  Does a text without separators stand in another one
  between two of them, or at an end?
-/
def IsStretch
    (Separates : Char → Prop)
    (cs segment : List Char) : Prop :=
  (∀ c ∈ segment, ¬ Separates c) ∧
    ∃ before behind,
      cs = before ++ segment ++ behind ∧
        (before = [] ∨
          ∃ earlier c, before = earlier ++ [c] ∧ Separates c) ∧
        (behind = [] ∨
          ∃ c later, behind = c :: later ∧ Separates c)

variable {isSeparator : Char → Bool}
variable {cs segment : List Char}

/- Cutting at separators is splitting a list at them. -/
theorem segments_eq_splitOnP :
    segments isSeparator cs = cs.splitOnP isSeparator := by
  induction cs with
  | nil => rfl
  | cons c cs ih =>
      rw [segments, List.splitOnP_cons_eq_if_modifyHead, ih]
      cases hStretches : cs.splitOnP isSeparator with
      | nil => exact absurd hStretches (List.splitOnP_ne_nil _ _)
      | cons first others => rfl

/- At a separator a text falls into two that are cut alone. -/
theorem segments_append_cons
    {c : Char}
    (hSeparator : isSeparator c)
    (before behind : List Char) :
    segments isSeparator (before ++ c :: behind) =
      segments isSeparator before ++
        segments isSeparator behind := by
  simp only [segments_eq_splitOnP]
  exact List.splitOnP_append_cons before behind hSeparator

/- A text without separators is a stretch as a whole. -/
theorem segments_eq_singleton
    (hPlain : ∀ c ∈ cs, ¬ isSeparator c) :
    segments isSeparator cs = [cs] := by
  rw [segments_eq_splitOnP]
  apply List.splitOnP_eq_singleton
  simpa using hPlain

/- What stands apart in a text stands apart behind a separator. -/
theorem IsStretch.append_cons
    {c : Char}
    (hStretch : IsStretch (isSeparator ·) cs segment)
    (hSeparator : isSeparator c)
    (before : List Char) :
    IsStretch (isSeparator ·) (before ++ c :: cs) segment := by
  rcases hStretch with
    ⟨hPlain, earlier, behind, rfl, hEarlier, hBehind⟩
  refine ⟨hPlain, before ++ c :: earlier, behind, by simp, ?_,
    hBehind⟩
  rcases hEarlier with rfl | ⟨others, last, rfl, hLast⟩
  · exact .inr ⟨before, c, rfl, hSeparator⟩
  · exact .inr ⟨before ++ c :: others, last, by simp, hLast⟩

/-
  What cutting leaves of a text stands apart in it, also if
  some characters without separators come first.
-/
private theorem isStretch_of_mem_segments_append
    (run : List Char)
    (hRun : ∀ c ∈ run, ¬ isSeparator c)
    (hSegment : segment ∈ segments isSeparator (run ++ cs)) :
    IsStretch (isSeparator ·) (run ++ cs) segment := by
  -- `run` is what was read since the last separator
  induction cs generalizing run with
  | nil =>
      rw [List.append_nil] at hSegment ⊢
      rw [segments_eq_singleton hRun,
        List.mem_singleton] at hSegment
      subst hSegment
      exact ⟨hRun, [], [], by simp, .inl rfl, .inl rfl⟩
  | cons c cs ih =>
      by_cases hSeparator : isSeparator c
      · rw [segments_append_cons hSeparator,
          segments_eq_singleton hRun] at hSegment
        rcases List.mem_cons.mp hSegment with rfl | hLater
        · exact
            ⟨hRun, [], c :: cs, by simp, .inl rfl,
              .inr ⟨c, cs, rfl, hSeparator⟩⟩
        · have hRest : IsStretch (isSeparator ·) cs segment :=
            ih [] (by simp) hLater
          exact hRest.append_cons hSeparator run
      · have hLonger : ∀ d ∈ run ++ [c], ¬ isSeparator d := by
          rw [List.forall_mem_append, List.forall_mem_singleton]
          exact ⟨hRun, hSeparator⟩
        rw [List.append_cons] at hSegment ⊢
        exact ih (run ++ [c]) hLonger hSegment

/- The stretches between separators are just those apart. -/
theorem mem_segments_iff :
    segment ∈ segments isSeparator cs ↔
      IsStretch (isSeparator ·) cs segment := by
  constructor
  · exact isStretch_of_mem_segments_append [] (by simp)
  · rintro ⟨hPlain, before, behind, rfl, hBefore, hBehind⟩
    have hOpen :
        segment ∈ segments isSeparator (segment ++ behind) := by
      rcases hBehind with rfl | ⟨c, later, rfl, hSeparator⟩
      · simp [segments_eq_singleton hPlain]
      · simp [segments_append_cons hSeparator,
          segments_eq_singleton hPlain]
    rcases hBefore with rfl | ⟨earlier, c, rfl, hSeparator⟩
    · exact hOpen
    · have hCut :
          earlier ++ [c] ++ segment ++ behind =
            earlier ++ c :: (segment ++ behind) := by
        simp
      rw [hCut, segments_append_cons hSeparator]
      exact List.mem_append_right _ hOpen

/- Pieces are the stretches that are not empty. -/
theorem mem_pieces_iff
    {s piece : String} :
    piece ∈ pieces isSeparator s ↔
      piece ≠ "" ∧
        IsStretch (isSeparator ·) s.toList piece.toList := by
  simp only [pieces, List.mem_map, List.mem_filter,
    decide_eq_true_eq, mem_segments_iff]
  constructor
  · rintro ⟨segment, ⟨hStretch, hNonempty⟩, rfl⟩
    rw [String.toList_ofList]
    exact ⟨by simpa using hNonempty, hStretch⟩
  · rintro ⟨hNonempty, hStretch⟩
    exact
      ⟨piece.toList, ⟨hStretch, by simpa using hNonempty⟩,
        String.ofList_toList⟩

end Text

end QuestionQuery

------------------------------------------------------------
-- White Space
------------------------------------------------------------

namespace QuestionQuery

namespace Text

/- The code points with the Unicode property White_Space. -/
def whiteSpace : List Nat :=
  [0x0009, 0x000A, 0x000B, 0x000C, 0x000D, 0x0020, 0x0085,
    0x00A0, 0x1680, 0x2000, 0x2001, 0x2002, 0x2003, 0x2004,
    0x2005, 0x2006, 0x2007, 0x2008, 0x2009, 0x200A, 0x2028,
    0x2029, 0x202F, 0x205F, 0x3000]

/- The ranges of blank characters hold all white space. -/
theorem isBlank_iff_mem_whiteSpace
    {c : Char} :
    isBlank c ↔ c.toNat ∈ whiteSpace := by
  simp only [isBlank, inRanges, blankRanges, whiteSpace,
    List.any_cons, List.any_nil, Bool.or_eq_true,
    Bool.and_eq_true, decide_eq_true_eq, Bool.false_eq_true,
    or_false, List.mem_cons, List.not_mem_nil]
  omega

end Text

end QuestionQuery

------------------------------------------------------------
-- Tokens Of A Label
------------------------------------------------------------

namespace QuestionQuery

namespace Candidate

/- White space and hyphens separate tokens. -/
def Separates
    (ch : Char) : Prop :=
  ch.toNat ∈ Text.whiteSpace ∨ ch = '-'

/-
  Is a text a token of a label?  There is something in it,
  but nothing that separates tokens, and it stands in the
  label between two separators, or at an end.
-/
structure IsToken
    (label token : String) : Prop where
  nonempty : token ≠ ""
  apart : Text.IsStretch Separates label.toList token.toList

variable {label token : String}

/- Tokens end just at what separates them. -/
theorem isTokenBreak_eq_separates :
    (fun ch => isTokenBreak ch = true) = Separates := by
  funext ch
  simp [isTokenBreak, Separates, Text.isBlank_iff_mem_whiteSpace]

/- The tokens of a label are just the texts apart in it. -/
theorem mem_tokens_iff :
    token ∈ tokens label ↔ IsToken label token := by
  rw [tokens, Text.mem_pieces_iff, isTokenBreak_eq_separates]
  exact ⟨fun h => ⟨h.1, h.2⟩, fun h => ⟨h.nonempty, h.apart⟩⟩

/- There is no blank in a token of a label. -/
theorem IsToken.blank_notMem
    (hToken : IsToken label token) :
    ' ' ∉ token.toList := by
  intro hBlank
  exact hToken.apart.1 ' ' hBlank (.inl (by decide))

end Candidate

end QuestionQuery
