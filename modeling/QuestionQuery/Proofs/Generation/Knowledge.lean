import QuestionQuery.Proofs.Generation.Report

/-
  What a generation gains by more knowledge.

  Two generations run side by side over trees of one shape.
  The second one starts from more seeds, has more annotations
  for words that have any, and more labels for words that are
  resources.  Then every move of a word in the first run is
  also a move in the second one, and the second run is never
  behind the first one.  A word that gets its first annotation
  is left out, for it may lose moves.

  Runs with the same knowledge are never behind each other,
  and so are the same.  A source that fails has no labels, so
  it is as good as one that knows of none.

  Key definitions include:
    * `Word.ExtendedBy`
    * `ParseTree.ExtendedBy`
    * `Unhandled.AtMost`
    * `Generation.Within`

  Main statements:
    * `Word.mem_moves_of_extendedBy`
    * `Generation.Within.visit`
    * `Generation.Within.foldl_visit`
    * `Generation.Within.antisymm`
    * `Generation.ofTree_mono`
-/

------------------------------------------------------------
-- Words And Trees With More Annotations
------------------------------------------------------------

namespace QuestionQuery

/-
  Are there more annotations of a word?  A word without any
  gets none.  The base form does not matter.
-/
structure Word.ExtendedBy
    (v w : Word) : Prop where
  label : v.label = w.label
  tag : v.tag = w.tag
  annotated : v.isAnnotated = w.isAnnotated
  annotations : ∀ uri ∈ v.annotations, uri ∈ w.annotations

/-
  Does another source have all labels that a source has for a
  word?  It is asked for resources without annotations only,
  and a failure counts as no labels.
-/
def LabelSource.ExtendedAt
    (source other : LabelSource)
    (w : Word) : Prop :=
  w.annotations = .empty → w.partOfSpeech = .resolved →
    ∀ label ∈ source.labels w.label, label ∈ other.labels w.label

/- Are there more annotations of the words of a tree? -/
inductive ParseTree.ExtendedBy : ParseTree → ParseTree → Prop
  | node
      {v w : Word}
      {ss ts : List ParseTree}
      (hWord : v.ExtendedBy w)
      (hChildren : List.Forall₂ ExtendedBy ss ts) :
      ExtendedBy (.node v ss) (.node w ts)

namespace Word

variable {v w : Word}

/- No more annotations are needed than there are. -/
theorem ExtendedBy.refl
    (w : Word) :
    w.ExtendedBy w :=
  ⟨rfl, rfl, rfl, fun _ => id⟩

/- The part of speech is that of the tag. -/
theorem ExtendedBy.partOfSpeech
    (hWord : v.ExtendedBy w) :
    v.partOfSpeech = w.partOfSpeech := by
  rw [Word.partOfSpeech, hWord.tag, Word.partOfSpeech]

/- Words stay without annotations. -/
theorem ExtendedBy.annotations_eq_empty_iff
    (hWord : v.ExtendedBy w) :
    v.annotations = .empty ↔ w.annotations = .empty := by
  rw [← isAnnotated_eq_false_iff, hWord.annotated,
    isAnnotated_eq_false_iff]

/-
  A move of a word is one of the word with more annotations,
  and more labels if it is a resource.
-/
theorem mem_moves_of_extendedBy
    {source other : LabelSource}
    (hWord : v.ExtendedBy w)
    (hLabels : source.ExtendedAt other v) :
    ∀ m ∈ v.moves source, m ∈ w.moves other := by
  intro m hMove
  by_cases hPlain : v.annotations = .empty
  · have hOther := hWord.annotations_eq_empty_iff.mp hPlain
    rw [mem_moves_of_plain hPlain] at hMove
    rw [mem_moves_of_plain hOther, ← hWord.label,
      ← hWord.partOfSpeech]
    rcases hMove with hSearch | hKeep | ⟨hTag, hResource⟩
    · exact .inl hSearch
    · exact .inr (.inl hKeep)
    · refine .inr (.inr ⟨hTag, ?_⟩)
      rcases hResource with
        hBridge | hAnswer | ⟨name, hName, hSearch⟩
      · exact .inl hBridge
      · exact .inr (.inl hAnswer)
      · exact .inr (.inr
          ⟨name, hLabels hPlain hTag name hName, hSearch⟩)
  · have hOther : w.annotations ≠ .empty :=
      hWord.annotations_eq_empty_iff.not.mp hPlain
    rw [mem_moves_of_annotated hPlain] at hMove
    rw [mem_moves_of_annotated hOther, ← hWord.partOfSpeech]
    rcases hMove with ⟨uri, hUri, hRule⟩
    exact ⟨uri, hWord.annotations uri hUri, hRule⟩

end Word

/- The words of a tree have more annotations one by one. -/
theorem ParseTree.ExtendedBy.forall₂_words
    {s t : ParseTree}
    (hTrees : s.ExtendedBy t) :
    List.Forall₂ Word.ExtendedBy s.words t.words := by
  induction s using ParseTree.rec
      (motive_2 := fun ss =>
        ∀ ts, List.Forall₂ ExtendedBy ss ts →
          List.Forall₂ Word.ExtendedBy (wordsOf ss) (wordsOf ts))
      generalizing t with
  | node v ss ih =>
      cases hTrees with
      | node hWord hChildren => exact .cons hWord (ih _ hChildren)
  | nil ts hTrees =>
      cases hTrees with
      | nil => exact .nil
  | cons s ss ih ihs ts hTrees =>
      cases hTrees with
      | cons hFirst hOthers =>
          exact List.rel_append (ih hFirst) (ihs _ hOthers)

end QuestionQuery

------------------------------------------------------------
-- Runs That Are Not Behind
------------------------------------------------------------

namespace QuestionQuery

/- A smaller set has no more members. -/
theorem SortedSet.size_le_of_forall_mem
    {α : Type}
    [Ord α] [Std.LawfulEqOrd α]
    {s t : SortedSet α}
    (hSubset : ∀ a ∈ s, a ∈ t) :
    s.size ≤ t.size :=
  (s.ascending.nodup.subperm hSubset).length_le

/- Do two entries name the same word, which dropped no more? -/
structure Unhandled.AtMost
    (u v : Unhandled) : Prop where
  label : u.label = v.label
  tag : u.tag = v.tag
  annotated : u.annotated = v.annotated
  dropped : u.dropped ≤ v.dropped

/- Entries that drop no more than each other are the same. -/
theorem Unhandled.AtMost.antisymm
    {u v : Unhandled}
    (hLeft : u.AtMost v)
    (hRight : v.AtMost u) :
    u = v := by
  cases u
  cases v
  simp only [mk.injEq]
  exact ⟨hLeft.label, hLeft.tag, hLeft.annotated,
    Nat.le_antisymm hLeft.dropped hRight.dropped⟩

/- Entries that differ in counts only are named alike. -/
theorem Unhandled.AtMost.withoutCount_eq
    {u v : Unhandled}
    (hEntries : u.AtMost v) :
    u.withoutCount = v.withoutCount := by
  rw [withoutCount, withoutCount, hEntries.label, hEntries.tag,
    hEntries.annotated]

namespace Generation

/-
  Has a generation got no further than another one?  The
  words without a rule are the same for both of them.
-/
structure Within
    (g h : Generation) : Prop where
  candidates : ∀ c ∈ g.candidates, c ∈ h.candidates
  nodesVisited : g.report.nodesVisited = h.report.nodesVisited
  peakCandidates :
    g.report.peakCandidates ≤ h.report.peakCandidates
  unhandled :
    List.Forall₂ Unhandled.AtMost g.report.unhandled
      h.report.unhandled

/- More moves from more candidates lead to more candidates. -/
theorem expand_subset
    {ms ns : List Move}
    {running others : SortedSet Candidate}
    (hMoves : ∀ m ∈ ms, m ∈ ns)
    (hRunning : ∀ c ∈ running, c ∈ others) :
    ∀ d ∈ expand ms running, d ∈ expand ns others := by
  intro d hMember
  rcases mem_expand.mp hMember with ⟨c, hSeed, m, hMove, hApply⟩
  exact mem_expand.mpr
    ⟨c, hRunning c hSeed, m, hMoves m hMove, hApply⟩

namespace Within

variable {g h : Generation}
variable {v w : Word}
variable {source other : LabelSource}

/- Generations that are within each other are the same. -/
theorem antisymm
    (hLeft : g.Within h)
    (hRight : h.Within g) :
    g = h := by
  have hCandidates : g.candidates = h.candidates := by
    ext c
    exact ⟨hLeft.candidates c, hRight.candidates c⟩
  have hPeak :
      g.report.peakCandidates = h.report.peakCandidates :=
    Nat.le_antisymm hLeft.peakCandidates hRight.peakCandidates
  have hUnhandled : g.report.unhandled = h.report.unhandled := by
    have hEntries :
        List.Forall₂ (· = ·) g.report.unhandled
          h.report.unhandled :=
      List.Forall₂.mp (fun _ _ => Unhandled.AtMost.antisymm)
        hLeft.unhandled hRight.unhandled.flip
    rwa [List.forall₂_eq_eq_eq] at hEntries
  rcases g with ⟨_, _, _, _⟩
  rcases h with ⟨_, _, _, _⟩
  simp only [mk.injEq, Report.mk.injEq]
  exact ⟨hCandidates, hLeft.nodesVisited, hPeak, hUnhandled⟩

/- The same words are reported, in the same order. -/
theorem unhandled_eq
    (hWithin : g.Within h) :
    g.report.unhandled.map Unhandled.withoutCount =
      h.report.unhandled.map Unhandled.withoutCount := by
  have hNames :
      List.Forall₂
        (fun u v : Unhandled => u.withoutCount = v.withoutCount)
        g.report.unhandled h.report.unhandled :=
    hWithin.unhandled.imp fun _ _ => Unhandled.AtMost.withoutCount_eq
  rwa [← List.forall₂_eq_eq_eq, List.forall₂_map_left_iff,
    List.forall₂_map_right_iff]

/- Words have rules alike, and the moves of more knowledge. -/
theorem branch
    (hWithin : g.Within h)
    (hWord : v.ExtendedBy w)
    (hLabels : source.ExtendedAt other v) :
    (g.branch source v).Within (h.branch other w) := by
  have hMoves := Word.mem_moves_of_extendedBy hWord hLabels
  have hRules :
      (v.moves? source).isSome = (w.moves? other).isSome := by
    rw [Word.isSome_moves?, Word.isSome_moves?, hWord.annotated,
      hWord.partOfSpeech]
  unfold Generation.branch
  unfold Word.moves at hMoves
  cases hFirst : v.moves? source with
  | none =>
      have hSecond : w.moves? other = none := by
        simpa [hFirst] using hRules
      have hEntry :
          (Generation.unhandled v g.candidates).AtMost
            (Generation.unhandled w h.candidates) :=
        ⟨hWord.label, hWord.tag, hWord.annotated,
          SortedSet.size_le_of_forall_mem hWithin.candidates⟩
      rw [hSecond]
      exact
        { candidates := fun _ => id
          nodesVisited := hWithin.nodesVisited
          peakCandidates := hWithin.peakCandidates
          unhandled :=
            List.rel_append hWithin.unhandled
              (.cons hEntry .nil) }
  | some ms =>
      have hSome : (w.moves? other).isSome := by
        rw [← hRules, hFirst, Option.isSome_some]
      rcases Option.isSome_iff_exists.mp hSome with ⟨ns, hSecond⟩
      rw [hSecond]
      rw [hFirst, hSecond] at hMoves
      exact
        { hWithin with
          candidates := expand_subset hMoves hWithin.candidates }

/- More candidates set a higher peak. -/
theorem count
    (hWithin : g.Within h) :
    g.count.Within h.count where
  candidates := hWithin.candidates
  nodesVisited := congrArg (· + 1) hWithin.nodesVisited
  peakCandidates :=
    max_le_max hWithin.peakCandidates
      (SortedSet.size_le_of_forall_mem hWithin.candidates)
  unhandled := hWithin.unhandled

/- A visit with more knowledge is not behind. -/
theorem visit
    (hWithin : g.Within h)
    (hWord : v.ExtendedBy w)
    (hLabels : source.ExtendedAt other v) :
    (g.visit source v).Within (h.visit other w) :=
  (hWithin.branch hWord hLabels).count

/- Visits with more knowledge do not fall behind. -/
theorem foldl_visit
    {vs ws : List Word}
    (hWithin : g.Within h)
    (hWords : List.Forall₂ Word.ExtendedBy vs ws)
    (hLabels : ∀ v ∈ vs, source.ExtendedAt other v) :
    (vs.foldl (Generation.visit source) g).Within
      (ws.foldl (Generation.visit other) h) := by
  induction hWords generalizing g h with
  | nil => exact hWithin
  | cons hWord _ ih =>
      rw [List.forall_mem_cons] at hLabels
      exact ih (hWithin.visit hWord hLabels.1) hLabels.2

/- All runs start without a report. -/
theorem start
    {seeds others : SortedSet Candidate}
    (hSeeds : ∀ c ∈ seeds, c ∈ others) :
    (Generation.start seeds).Within (Generation.start others) where
  candidates := hSeeds
  nodesVisited := rfl
  peakCandidates := le_rfl
  unhandled := .nil

end Within

end Generation

end QuestionQuery

------------------------------------------------------------
-- Trees With More Annotations
------------------------------------------------------------

namespace QuestionQuery

namespace Generation

/- More knowledge of the words of a tree is never behind. -/
theorem within_ofTree
    {source other : LabelSource}
    {seeds others : SortedSet Candidate}
    {s t : ParseTree}
    (hTrees : List.Forall₂ Word.ExtendedBy s.words t.words)
    (hSeeds : ∀ c ∈ seeds, c ∈ others)
    (hLabels : ∀ w ∈ s.words, source.ExtendedAt other w) :
    (ofTree source seeds s).Within (ofTree other others t) := by
  rw [ofTree_eq_foldl_visit, ofTree_eq_foldl_visit]
  exact (Within.start hSeeds).foldl_visit hTrees hLabels

/-
  Generation is monotone in what is known.  With more seeds,
  more annotations of the words that have any and more labels
  of resources there are no fewer candidates and no lower
  peak, and the same words are reported to have no rule.
  Sources that have the same labels for those resources, be
  it none by a failure, are the same to a generation.
-/
theorem ofTree_mono :
    (∀ (source other : LabelSource)
        (seeds others : SortedSet Candidate) (s t : ParseTree),
      s.ExtendedBy t →
      (∀ c ∈ seeds, c ∈ others) →
      (∀ w ∈ s.words, source.ExtendedAt other w) →
        (∀ c ∈ (ofTree source seeds s).candidates,
          c ∈ (ofTree other others t).candidates) ∧
        (ofTree source seeds s).report.unhandled.map
            Unhandled.withoutCount =
          (ofTree other others t).report.unhandled.map
            Unhandled.withoutCount ∧
        (ofTree source seeds s).report.peakCandidates ≤
          (ofTree other others t).report.peakCandidates) ∧
    ∀ (source other : LabelSource)
        (seeds : SortedSet Candidate) (t : ParseTree),
      (∀ w ∈ t.words,
        w.annotations = .empty → w.partOfSpeech = .resolved →
          source.labels w.label = other.labels w.label) →
        ofTree source seeds t = ofTree other seeds t := by
  constructor
  · intro source other seeds others s t hTrees hSeeds hLabels
    have hWithin :=
      within_ofTree hTrees.forall₂_words hSeeds hLabels
    exact ⟨hWithin.candidates, hWithin.unhandled_eq,
      hWithin.peakCandidates⟩
  · intro source other seeds t hLabels
    have hWords : List.Forall₂ Word.ExtendedBy t.words t.words :=
      List.forall₂_same.mpr fun w _ => .refl w
    apply Within.antisymm
    · apply within_ofTree hWords fun _ => id
      intro w hWord hPlain hTag label hLabel
      rwa [← hLabels w hWord hPlain hTag]
    · apply within_ofTree hWords fun _ => id
      intro w hWord hPlain hTag label hLabel
      rwa [hLabels w hWord hPlain hTag]

/- A question that names two resources. -/
def whoFounded
    (uris : List String)
    (others : List ParseTree) : ParseTree :=
  .node ((Word.plain "founded" "VBD").annotate uris)
    (.leaf (.plain "uri:Apple" "ADD") ::
      .leaf (.plain "uri:Pear" "ADD") :: others)

/- A source that has labels of one resource, or else fails. -/
def appleOnly : LabelSource :=
  fun uri =>
    if uri = "uri:Apple" then
      .ok (.singleton "Apple")
    else
      .error (.status "uri:labels" 503)

/- A source with labels of both resources. -/
def bothLabels : LabelTable :=
  .ofPairs
    [("uri:Apple", "Apple"), ("uri:Apple", "Apple Inc."),
      ("uri:Pear", "Pear")]

/- A source with one more resource, which nobody asks for. -/
def appleAndPlum : LabelTable :=
  .ofPairs [("uri:Apple", "Apple"), ("uri:Plum", "Plum")]

/- The candidate that searches for the one label. -/
def searchesApple : Candidate :=
  ((Candidate.empty.require "?proj <uri:founder> ?const.").search
    "?proj" "Apple").restrict "?proj IN (<uri:Pear>)"

theorem ofTree_mono_whoFounded :
    (whoFounded ["uri:founder"] []).ExtendedBy
      (whoFounded ["uri:founder", "uri:ceo"] []) ∧
    (∀ c ∈ seed, c ∈ seed.insert searchesApple) ∧
    (∀ w, appleOnly.ExtendedAt bothLabels.toSource w) ∧
    searchesApple ∈
      (ofTree bothLabels.toSource (seed.insert searchesApple)
        (whoFounded ["uri:founder", "uri:ceo"] [])).candidates ∧
    (ofTree bothLabels.toSource (seed.insert searchesApple)
          (whoFounded ["uri:founder", "uri:ceo"]
            [.leaf (.plain "the" "DT")])).report.unhandled.map
        Unhandled.withoutCount =
      [⟨"the", "DT", false, 0⟩] ∧
    45 ≤
      (ofTree bothLabels.toSource (seed.insert searchesApple)
        (whoFounded ["uri:founder", "uri:ceo"]
          [])).report.peakCandidates ∧
    (∀ w ∈ (whoFounded ["uri:founder"] []).words,
      w.annotations = .empty → w.partOfSpeech = .resolved →
        appleOnly.labels w.label =
          appleAndPlum.toSource.labels w.label) ∧
    ofTree appleOnly seed (whoFounded ["uri:founder"] []) =
      ofTree appleAndPlum.toSource seed
        (whoFounded ["uri:founder"] []) := by
  have hFounded :
      ((Word.plain "founded" "VBD").annotate
          ["uri:founder"]).ExtendedBy
        ((Word.plain "founded" "VBD").annotate
          ["uri:founder", "uri:ceo"]) := by
    refine ⟨rfl, rfl, by decide +kernel, ?_⟩
    intro uri hUri
    rw [Word.mem_annotations_annotate] at hUri ⊢
    exact hUri.imp id (List.mem_append_left ["uri:ceo"])
  have hTrees
      (others : List ParseTree)
      (hOthers : List.Forall₂ ParseTree.ExtendedBy others others) :
      (whoFounded ["uri:founder"] others).ExtendedBy
        (whoFounded ["uri:founder", "uri:ceo"] others) :=
    .node hFounded
      (.cons (.node (.refl _) .nil)
        (.cons (.node (.refl _) .nil) hOthers))
  have hSeeds : ∀ c ∈ seed, c ∈ seed.insert searchesApple := by
    intro c hSeed
    simp [hSeed]
  have hLabels :
      ∀ w, appleOnly.ExtendedAt bothLabels.toSource w := by
    intro w _ _ label hLabel
    by_cases hApple : w.label = "uri:Apple"
    · have hOnly : appleOnly.labels w.label = .singleton "Apple" := by
        simp [LabelSource.labels, appleOnly, hApple]
      rw [hOnly, SortedSet.mem_singleton] at hLabel
      rw [hLabel, hApple]
      decide +kernel
    · have hNone : appleOnly.labels w.label = .empty := by
        simp [LabelSource.labels, appleOnly, hApple]
      rw [hNone] at hLabel
      exact absurd hLabel SortedSet.notMem_empty
  have hMore := ofTree_mono.1 appleOnly bothLabels.toSource seed
    (seed.insert searchesApple)
  have hPlain :=
    hMore _ _ (hTrees [] .nil) hSeeds fun w _ => hLabels w
  have hThe :=
    hMore _ _
      (hTrees [.leaf (.plain "the" "DT")]
        (.cons (.node (.refl _) .nil) .nil))
      hSeeds fun w _ => hLabels w
  have hSame :
      ∀ w ∈ (whoFounded ["uri:founder"] []).words,
        w.annotations = .empty → w.partOfSpeech = .resolved →
          appleOnly.labels w.label =
            appleAndPlum.toSource.labels w.label := by
    decide +kernel
  refine ⟨hTrees [] .nil, hSeeds, hLabels, ?_, ?_, ?_, hSame,
    ofTree_mono.2 _ _ _ _ hSame⟩
  · exact hPlain.1 searchesApple (by decide +kernel)
  · rw [← hThe.2.1]
    decide +kernel
  · have hPeak :
        (ofTree appleOnly seed
          (whoFounded ["uri:founder"] [])).report.peakCandidates =
            45 := by
      decide +kernel
    rw [← hPeak]
    exact hPlain.2.2

end Generation

end QuestionQuery
