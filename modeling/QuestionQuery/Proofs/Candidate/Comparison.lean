import QuestionQuery.Proofs.Generation.Choice

/-
  The order of candidates, and listings in that order.

  Candidates are compared by constraints, conditions, tokens
  and phrases, in turn.  Sets of texts are compared text by
  text, and maps entry by entry; what ends first precedes
  all that goes on.  Texts are compared by code points.  The
  order is total, and only equal candidates are on a par in
  it.  So there is one way to list candidates in ascending
  order, and it tells nothing about how they were found.

  Key definitions include:
    * `Text.Precedes`
    * `SortedSet.Precedes`
    * `SortedMap.Precedes`
    * `Candidate.Precedes`
    * `SortedSet.insertEach`
    * `Candidate.IsListing`

  Main statements:
    * `compareLex_eq_lt_iff`
    * `Candidate.compare_eq_lt_iff`
    * `Candidate.isListing_toList`
    * `Generation.listed_in_total_order`
-/

------------------------------------------------------------
-- Lexicographic Comparison
------------------------------------------------------------

namespace QuestionQuery

/-
  Comparing lists item by item tells which one precedes the
  other, if comparing items does.
-/
theorem compareLex_eq_lt_iff
    {α : Type}
    {cmp : α → α → Ordering}
    [Std.LawfulEqCmp cmp]
    {Before : α → α → Prop}
    (hItems : ∀ a b, cmp a b = .lt ↔ Before a b)
    {xs ys : List α} :
    List.compareLex cmp xs ys = .lt ↔ List.Lex Before xs ys := by
  induction xs generalizing ys with
  | nil => cases ys <;> simp [List.compareLex]
  | cons x xs ih =>
      cases ys with
      | nil => simp [List.compareLex]
      | cons y ys =>
          rw [List.compareLex_cons_cons, Ordering.then_eq_lt,
            Std.LawfulEqCmp.compare_eq_iff_eq, hItems, ih,
            List.cons_lex_cons_iff]

/- Texts are compared by the code points of their characters. -/
def Text.Precedes
    (s t : String) : Prop :=
  List.Lex (fun c d => c.toNat < d.toNat) s.toList t.toList

theorem Text.compare_eq_lt_iff
    {s t : String} :
    compare s t = .lt ↔ Precedes s t := by
  change compareOfLessAndEq s t = .lt ↔ Precedes s t
  rw [compareOfLessAndEq_eq_lt, String.lt_iff, ← List.lex_lt]
  rfl

/- Sets of texts are compared text by text. -/
def SortedSet.Precedes
    (s t : SortedSet String) : Prop :=
  List.Lex Text.Precedes s.toList t.toList

theorem SortedSet.compare_eq_lt_iff
    {s t : SortedSet String} :
    compare s t = .lt ↔ s.Precedes t := by
  rw [SortedSet.compare_eq, List.compare_eq_compareLex]
  exact compareLex_eq_lt_iff fun _ _ => Text.compare_eq_lt_iff

/-
  Maps are compared entry by entry, and two entries by their
  keys before their texts.
-/
def SortedMap.Precedes
    (m n : SortedMap String (SortedSet String)) : Prop :=
  List.Lex (Prod.Lex Text.Precedes SortedSet.Precedes)
    m.toList n.toList

theorem SortedMap.compare_eq_lt_iff
    {m n : SortedMap String (SortedSet String)} :
    compare m n = .lt ↔ m.Precedes n := by
  have := compareEntry_lawful (κ := String) (ν := SortedSet String)
  apply compareLex_eq_lt_iff
  intro p q
  rw [compareEntry, compareLex, Ordering.then_eq_lt]
  simp only [compareOn, Text.compare_eq_lt_iff,
    SortedSet.compare_eq_lt_iff, Prod.lex_def,
    Std.LawfulEqOrd.compare_eq_iff_eq]

end QuestionQuery

------------------------------------------------------------
-- Candidates
------------------------------------------------------------

namespace QuestionQuery

namespace Candidate

/-
  Candidates are compared by the first of their four parts
  in which they differ.
-/
def Precedes
    (c d : Candidate) : Prop :=
  c.constraints.Precedes d.constraints ∨
    c.constraints = d.constraints ∧
      (c.filters.Precedes d.filters ∨
        c.filters = d.filters ∧
          (c.fuzzyTokens.Precedes d.fuzzyTokens ∨
            c.fuzzyTokens = d.fuzzyTokens ∧
              c.exactPhrases.Precedes d.exactPhrases))

variable {c d : Candidate}

theorem compare_eq_lt_iff :
    compare c d = .lt ↔ c.Precedes d := by
  change order c d = .lt ↔ c.Precedes d
  simp only [order, compareLex, compareOn, Ordering.then_eq_lt,
    SortedSet.compare_eq_lt_iff, SortedMap.compare_eq_lt_iff,
    Std.LawfulEqOrd.compare_eq_iff_eq, Precedes]

/- Only candidates that agree in all parts are on a par. -/
theorem compare_eq_eq_iff :
    compare c d = .eq ↔
      c.constraints = d.constraints ∧
        c.filters = d.filters ∧
          c.fuzzyTokens = d.fuzzyTokens ∧
            c.exactPhrases = d.exactPhrases := by
  rw [Std.LawfulEqOrd.compare_eq_iff_eq]
  cases c
  cases d
  exact Iff.of_eq (mk.injEq ..)

end Candidate

end QuestionQuery

------------------------------------------------------------
-- Listings
------------------------------------------------------------

namespace QuestionQuery

namespace SortedSet

variable {α : Type}
variable [Ord α] [Std.TransOrd α] [Std.LawfulEqOrd α]

/- The set that comes of inserting items one by one. -/
def insertEach
    (xs : List α) : SortedSet α :=
  xs.foldl (fun s a => s.insert a) .empty

/- The order in which items are inserted is forgotten. -/
@[simp]
theorem mem_insertEach
    {a : α}
    {xs : List α} :
    a ∈ insertEach xs ↔ a ∈ xs := by
  have hFrom :
      ∀ s : SortedSet α,
        a ∈ xs.foldl (fun s b => s.insert b) s ↔
          a ∈ s ∨ a ∈ xs := by
    induction xs with
    | nil => simp
    | cons x xs ih =>
        intro s
        rw [List.foldl_cons, ih, mem_insert, List.mem_cons]
        tauto
  rw [insertEach, hFrom]
  simp

end SortedSet

namespace Candidate

/-
  Is a list how a set lists the candidates with a property?
  It is the one list of them that ascends strictly, and what
  comes of inserting them one by one, in any order and with
  any repeats.
-/
structure IsListing
    (IsMember : Candidate → Prop)
    (listing : List Candidate) : Prop where
  ascending : listing.Pairwise Precedes
  nodup : listing.Nodup
  mem_iff : ∀ d, d ∈ listing ↔ IsMember d
  unique :
    ∀ other,
      other.Pairwise Precedes →
      (∀ d, d ∈ other ↔ IsMember d) →
        other = listing
  inserted :
    ∀ found,
      (∀ d, d ∈ found ↔ IsMember d) →
        (SortedSet.insertEach found).toList = listing

/- A list ascends if each candidate precedes all after it. -/
theorem pairwise_precedes_iff
    {cs : List Candidate} :
    cs.Pairwise Precedes ↔ Ascending cs := by
  simp only [Ascending, compare_eq_lt_iff]

/- A set of candidates is listed in the order of candidates. -/
theorem isListing_toList
    {IsMember : Candidate → Prop}
    {s : SortedSet Candidate}
    (hMembers : ∀ d, d ∈ s ↔ IsMember d) :
    IsListing IsMember s.toList where
  ascending := pairwise_precedes_iff.mpr s.ascending
  nodup := s.ascending.nodup
  mem_iff := hMembers
  unique := by
    intro other hAscending hOther
    apply Ascending.eq_of_mem_iff
      (pairwise_precedes_iff.mp hAscending) s.ascending
    intro d
    rw [hOther, SortedSet.mem_toList, hMembers]
  inserted := by
    intro found hFound
    have hSame : SortedSet.insertEach found = s := by
      ext d
      rw [SortedSet.mem_insertEach, hFound, hMembers]
    rw [hSame]

end Candidate

namespace Generation

/-
  Candidates are in a total order.  The comparison goes by
  code points, texts, entries and parts as `Precedes` says,
  and answers that two candidates are on a par just if they
  agree in all four parts.  What a word makes of candidates,
  and what a tree does, is listed in this order, without
  repeats: as the one strictly ascending list of the members,
  in whatever order these are inserted.
-/
theorem listed_in_total_order :
    (∀ a b : Candidate,
      (compare a b = .lt ↔ a.Precedes b) ∧
      (compare a b = .eq ↔
        a.constraints = b.constraints ∧
          a.filters = b.filters ∧
            a.fuzzyTokens = b.fuzzyTokens ∧
              a.exactPhrases = b.exactPhrases) ∧
      (compare a b = .gt ↔ b.Precedes a)) ∧
    (∀ a b : Candidate,
      (compare a b).isLE → (compare b a).isLE → a = b) ∧
    (∀ a b c : Candidate,
      (compare a b).isLE → (compare b c).isLE →
        (compare a c).isLE) ∧
    (∀ a b : Candidate,
      (compare a b).isLE ∨ (compare b a).isLE) ∧
    ∀ source : LabelSource,
      (∀ (g : Generation) (w : Word),
        Candidate.IsListing
          (fun d =>
            ∃ c ∈ g.candidates,
              ∃ m ∈ w.moves source, m.apply c = d)
          (g.branch source w).candidates.toList) ∧
      ∀ (seeds : SortedSet Candidate) (t : ParseTree),
        Candidate.IsListing
          (fun d =>
            ∃ c ∈ seeds, ∃ ms,
              Word.Choice source t.words ms ∧
                ms.foldl Move.apply c = d)
          (ofTree source seeds t).candidates.toList := by
  refine ⟨?_, ?_, ?_, ?_, ?_⟩
  · intro a b
    refine
      ⟨Candidate.compare_eq_lt_iff, Candidate.compare_eq_eq_iff,
        ?_⟩
    rw [Std.OrientedCmp.gt_iff_lt, Candidate.compare_eq_lt_iff]
  · intro a b hBelow hAbove
    exact
      Std.LawfulEqCmp.eq_of_compare
        (Std.OrientedCmp.isLE_antisymm hBelow hAbove)
  · intro a b c hFirst hSecond
    exact Std.TransCmp.isLE_trans hFirst hSecond
  · intro a b
    cases hOrder : compare a b with
    | lt => exact .inl rfl
    | eq => exact .inl rfl
    | gt =>
        right
        rw [Std.OrientedCmp.lt_of_gt hOrder]
        rfl
  · intro source
    constructor
    · intro g w
      exact Candidate.isListing_toList
        fun d => mem_candidates_visit
    · intro seeds t
      exact Candidate.isListing_toList
        fun d => mem_candidates_ofTree_iff_choice

/- A search for one token, a wide letter of the basic plane. -/
def wide : Candidate :=
  Candidate.empty.search "?proj" "\uff21"

/-
  A search for a token beyond the basic plane.  Its first
  half in UTF-16 would come before the letter.
-/
def smiling : Candidate :=
  Candidate.empty.search "?proj" "😀"

/- A search for both tokens, put together either way. -/
def wideSmiling : Candidate :=
  wide.search "?proj" "😀"

def smilingWide : Candidate :=
  (smiling.search "?proj" "😀").search "?proj" "\uff21"

/- A verb with two resources. -/
def founded : Word :=
  (Word.plain "founded" "VBD").annotate
    ["uri:founder", "uri:creator"]

/- What the verb makes of no constraints, in another order. -/
def foundedTurned : List Candidate :=
  ["?const ?proot ?proj.", "?proj <uri:founder> ?const.",
    "?const <uri:founder> ?proj.", "?const ?proot ?proj.",
    "?proj <uri:creator> ?const.",
    "?const <uri:creator> ?proj."].map Candidate.empty.require

theorem listed_in_total_order_founded :
    (compare wide wideSmiling).isLE ∧
    (compare wideSmiling smiling).isLE ∧
    (compare wide smiling).isLE ∧
    wideSmiling.Precedes smiling ∧
    (compare wideSmiling smilingWide).isLE ∧
    (compare smilingWide wideSmiling).isLE ∧
    wideSmiling = smilingWide ∧
    (∀ d,
      d ∈ foundedTurned ↔
        ∃ c ∈ seed, ∃ m ∈ founded.moves .empty,
          m.apply c = d) ∧
    (SortedSet.insertEach foundedTurned).toList =
      ((start seed).branch .empty founded).candidates.toList := by
  rcases listed_in_total_order with
    ⟨hCompare, hAntisymm, hTrans, -, hListings⟩
  have hPrefix : (compare wide wideSmiling).isLE := by
    decide +kernel
  have hLess : compare wideSmiling smiling = .lt := by
    decide +kernel
  have hBelow : (compare wideSmiling smiling).isLE := by
    rw [hLess]
    rfl
  have hOne : (compare wideSmiling smilingWide).isLE := by
    decide +kernel
  have hOther : (compare smilingWide wideSmiling).isLE := by
    decide +kernel
  have hListing := (hListings .empty).1 (start seed) founded
  have hInside :
      ∀ d ∈ foundedTurned,
        d ∈ ((start seed).branch .empty
          founded).candidates.toList := by
    decide +kernel
  have hAll :
      ∀ d ∈ ((start seed).branch .empty
          founded).candidates.toList,
        d ∈ foundedTurned := by
    decide +kernel
  have hFound :
      ∀ d,
        d ∈ foundedTurned ↔
          ∃ c ∈ seed, ∃ m ∈ founded.moves .empty,
            m.apply c = d := fun d =>
    ⟨fun hMember => (hListing.mem_iff d).mp (hInside d hMember),
      fun hMove => hAll d ((hListing.mem_iff d).mpr hMove)⟩
  exact
    ⟨hPrefix, hBelow, hTrans _ _ _ hPrefix hBelow,
      (hCompare _ _).1.mp hLess, hOne, hOther,
      hAntisymm _ _ hOne hOther, hFound,
      hListing.inserted foundedTurned hFound⟩

end Generation

end QuestionQuery
