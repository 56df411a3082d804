import Mathlib.Data.Finset.NAry
import Mathlib.Data.Finset.Card
import Mathlib.Algebra.BigOperators.Group.List.Basic
import QuestionQuery.Proofs.Generation.Choice

/-
  How many candidates a tree can have.

  The weight of a word is the number of its different moves.
  A visit multiplies the number of candidates by no more than
  that, so a tree has at most as many candidates for each
  seed as the product of the weights says.

  Key definitions include:
    * `SortedSet.toFinset`
    * `Word.weight`

  Main statements:
    * `Word.card_moves`
    * `Generation.toFinset_candidates_visit`
    * `Generation.size_candidates_foldl_visit_le`
-/

------------------------------------------------------------
-- Finite Sets
------------------------------------------------------------

namespace QuestionQuery

namespace SortedSet

variable {α : Type}
variable [Ord α] [DecidableEq α]

/- The members, without their order. -/
def toFinset
    (s : SortedSet α) : Finset α :=
  s.toList.toFinset

@[simp]
theorem mem_toFinset
    {a : α}
    {s : SortedSet α} :
    a ∈ s.toFinset ↔ a ∈ s :=
  List.mem_toFinset

/- No member is listed twice. -/
omit [DecidableEq α] in
theorem nodup_toList
    [Std.LawfulEqOrd α]
    (s : SortedSet α) :
    s.toList.Nodup :=
  s.ascending.nodup

/- The size counts the members. -/
theorem card_toFinset
    [Std.LawfulEqOrd α]
    (s : SortedSet α) :
    s.toFinset.card = s.size :=
  List.toFinset_card_of_nodup s.nodup_toList

end SortedSet

end QuestionQuery

------------------------------------------------------------
-- Weights
------------------------------------------------------------

namespace QuestionQuery

namespace Word

/-
  The number of different moves of a word.  A resource that
  no labels can be found for has the three that need none.
-/
def weight
    (source : LabelSource)
    (w : Word) : Nat :=
  if w.isAnnotated then
    match w.partOfSpeech with
    | .verb
    | .whPronoun => 2 * w.annotations.size + 1
    | .noun
    | .pluralNoun
    | .properNoun
    | .otherNoun
    | .whAdverb => 3 * w.annotations.size + 1
    | _ => 0
  else
    match w.partOfSpeech with
    | .combinedNoun
    | .properNoun
    | .adjective
    | .cardinal => 2
    | .verb
    | .noun
    | .pluralNoun => 3
    | .resolved =>
      match source w.label with
      | .ok labels => 3 + 2 * labels.size
      | .error _ => 3
    | .whPronoun => 1
    | _ => 0

end Word

namespace Move

/-
  Rules that make moves of their own for each resource, and
  one move that all resources share.
-/
private theorem card_flatMap_shared
    (rules : List (String → Move))
    {shared : Move}
    {uris : List String}
    (hInjective : ∀ f ∈ rules, Function.Injective f)
    (hApart :
      rules.Pairwise fun f g => ∀ uri other, f uri ≠ g other)
    (hShared : ∀ f ∈ rules, ∀ uri, f uri ≠ shared)
    (hNodup : uris.Nodup)
    (hNe : uris ≠ []) :
    (uris.flatMap fun uri =>
        rules.map (· uri) ++ [shared]).toFinset.card =
      rules.length * uris.length + 1 := by
  let distinct : List Move :=
    shared :: rules.flatMap fun f => uris.map f
  have hSame :
      (uris.flatMap fun uri =>
        rules.map (· uri) ++ [shared]).toFinset =
          distinct.toFinset := by
    rcases List.exists_mem_of_ne_nil _ hNe with ⟨first, hFirst⟩
    ext m
    simp only [distinct, List.mem_toFinset, List.mem_flatMap,
      List.mem_append, List.mem_map, List.mem_cons,
      List.not_mem_nil, or_false]
    constructor
    · rintro ⟨uri, hUri, ⟨f, hRule, rfl⟩ | rfl⟩
      · exact .inr ⟨f, hRule, uri, hUri, rfl⟩
      · exact .inl rfl
    · rintro (rfl | ⟨f, hRule, uri, hUri, rfl⟩)
      · exact ⟨first, hFirst, .inr rfl⟩
      · exact ⟨uri, hUri, .inl ⟨f, hRule, rfl⟩⟩
  have hDistinct : distinct.Nodup := by
    refine List.nodup_cons.mpr ⟨?_, List.nodup_flatMap.mpr ⟨?_, ?_⟩⟩
    · intro hMember
      rcases List.mem_flatMap.mp hMember with ⟨f, hRule, hMap⟩
      rcases List.mem_map.mp hMap with ⟨uri, _, hEq⟩
      exact hShared f hRule uri hEq
    · intro f hRule
      exact hNodup.map (hInjective f hRule)
    · apply hApart.imp
      intro f g hDifferent m hLeft hRight
      rcases List.mem_map.mp hLeft with ⟨uri, _, rfl⟩
      rcases List.mem_map.mp hRight with ⟨other, _, hEq⟩
      exact hDifferent uri other hEq.symm
  rw [hSame, List.toFinset_card_of_nodup hDistinct]
  simp [distinct]

variable {uris : List String}

private theorem card_flatMap_ofVerb
    (hNodup : uris.Nodup)
    (hNe : uris ≠ []) :
    (uris.flatMap ofVerb).toFinset.card =
      2 * uris.length + 1 :=
  card_flatMap_shared
    [fun uri => forward (.iri uri), fun uri => backward (.iri uri)]
    (by simp [Function.Injective, forward, backward])
    (by simp [forward, backward])
    (by simp [forward, backward]) hNodup hNe

private theorem card_flatMap_ofType
    (hNodup : uris.Nodup)
    (hNe : uris ≠ []) :
    (uris.flatMap ofType).toFinset.card =
      2 * uris.length + 1 :=
  card_flatMap_shared
    [instanceOf .const, instanceOf .proj]
    (by simp [Function.Injective, instanceOf])
    (by simp [instanceOf])
    (by simp [instanceOf]) hNodup hNe

private theorem card_flatMap_ofNoun
    (hNodup : uris.Nodup)
    (hNe : uris ≠ []) :
    (uris.flatMap ofNoun).toFinset.card =
      3 * uris.length + 1 :=
  card_flatMap_shared
    [fun uri => backward (.iri uri), instanceOf .const,
      instanceOf .proj]
    (by simp [Function.Injective, backward, instanceOf])
    (by simp [backward, instanceOf])
    (by simp [backward, instanceOf]) hNodup hNe

/- No search is made twice for different labels. -/
private theorem nodup_flatMap_ofLabel
    {labels : List String}
    (hNodup : labels.Nodup) :
    (labels.flatMap ofLabel).Nodup := by
  refine List.nodup_flatMap.mpr ⟨?_, ?_⟩
  · intro label _
    simp [ofLabel, Variable.all]
  · apply hNodup.imp
    intro label other hNe m hLeft hRight
    rcases mem_ofLabel_iff.mp hLeft with ⟨v, rfl⟩
    rcases mem_ofLabel_iff.mp hRight with ⟨v', hMove⟩
    injection hMove with _ hLabel
    exact hNe hLabel

/- A resource is bridged to, picked, left or searched for. -/
private theorem card_ofResource
    {uri : String}
    {labels : List String}
    (hNodup : labels.Nodup) :
    (ofResource uri labels).toFinset.card =
      3 + 2 * labels.length := by
  have hDistinct : (ofResource uri labels).Nodup := by
    refine List.nodup_append.mpr
      ⟨by simp, nodup_flatMap_ofLabel hNodup, ?_⟩
    rintro m hFirst _ hSearch rfl
    rcases List.mem_flatMap.mp hSearch with ⟨label, _, hLabel⟩
    rcases mem_ofLabel_iff.mp hLabel with ⟨v, rfl⟩
    simp at hFirst
  rw [List.toFinset_card_of_nodup hDistinct]
  simp [ofResource, ofLabel, Variable.all]
  omega

end Move

namespace Word

/- The weight of a word counts its different moves. -/
theorem card_moves
    (source : LabelSource)
    (w : Word) :
    (w.moves source).toFinset.card = w.weight source := by
  by_cases hPlain : w.annotations = .empty
  · have hNot : ¬ w.isAnnotated :=
      fun hAnnotated => isAnnotated_iff.mp hAnnotated hPlain
    rw [moves, moves?_of_plain hPlain, plainMoves?, weight,
      if_neg hNot]
    cases hTag : w.partOfSpeech with
    | resolved =>
        simp only [Option.getD_some]
        rw [Move.card_ofResource (SortedSet.nodup_toList _)]
        unfold LabelSource.labels
        cases source w.label <;> rfl
    | _ => simp [Move.ofLabel, Variable.all]
  · have hAnnotated := isAnnotated_iff.mpr hPlain
    have hNodup := SortedSet.nodup_toList w.annotations
    have hNe : w.annotations.toList ≠ [] :=
      fun hNil => hPlain (SortedSet.eq_of_toList_eq hNil)
    rw [moves, moves?, weight, if_pos hAnnotated,
      if_pos hAnnotated]
    cases hTag : w.partOfSpeech with
    | verb => exact Move.card_flatMap_ofVerb hNodup hNe
    | whPronoun => exact Move.card_flatMap_ofType hNodup hNe
    | noun
    | pluralNoun
    | properNoun
    | otherNoun
    | whAdverb => exact Move.card_flatMap_ofNoun hNodup hNe
    | _ => rfl

/- A word that has a rule has some weight. -/
theorem weight_pos
    {source : LabelSource}
    {w : Word}
    (hRule : (w.moves? source).isSome) :
    0 < w.weight source := by
  rw [← card_moves, Finset.card_pos]
  rcases List.exists_mem_of_ne_nil (w.moves source)
      (moves_eq_nil_iff.not.mpr (Option.isSome_iff_ne_none.mp hRule)) with
    ⟨m, hMove⟩
  exact ⟨m, List.mem_toFinset.mpr hMove⟩

end Word

end QuestionQuery

------------------------------------------------------------
-- Growth
------------------------------------------------------------

namespace QuestionQuery

namespace Generation

variable {source : LabelSource}

/- A visit pairs the running candidates with the moves. -/
theorem toFinset_candidates_visit
    (g : Generation)
    (w : Word) :
    (g.visit source w).candidates.toFinset =
      Finset.image₂ (fun c m => m.apply c)
        g.candidates.toFinset (w.moves source).toFinset := by
  ext d
  simp [mem_candidates_visit, Finset.mem_image₂]

/- A visit multiplies candidates by the weight at most. -/
theorem size_candidates_visit_le
    (g : Generation)
    (w : Word) :
    (g.visit source w).candidates.size ≤
      g.candidates.size * w.weight source := by
  rw [← SortedSet.card_toFinset, ← SortedSet.card_toFinset,
    ← Word.card_moves, toFinset_candidates_visit]
  exact Finset.card_image₂_le _ _ _

/- Visits multiply candidates by all weights at most. -/
theorem size_candidates_foldl_visit_le
    (g : Generation)
    (ws : List Word) :
    (ws.foldl (visit source) g).candidates.size ≤
      g.candidates.size *
        (ws.map (Word.weight source)).prod := by
  induction ws generalizing g with
  | nil => simp
  | cons w ws ih =>
      rw [List.foldl_cons, List.map_cons, List.prod_cons]
      calc
        _ ≤ (g.visit source w).candidates.size *
              (ws.map (Word.weight source)).prod := ih _
        _ ≤ g.candidates.size * w.weight source *
              (ws.map (Word.weight source)).prod :=
            Nat.mul_le_mul_right _ (size_candidates_visit_le g w)
        _ = _ := Nat.mul_assoc _ _ _

end Generation

end QuestionQuery
