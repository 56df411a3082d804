import Mathlib.Logic.Function.Basic
import Mathlib.Logic.Relation
import QuestionQuery.Proofs.Generation.Choice
import QuestionQuery.Proofs.Tree.Rearrangement

/-
  The order of words does not matter.

  Moves commute, since sets and maps forget in which order
  they grew.  So the candidates of a tree depend on what its
  words are and not on where they stand, and of a word only
  on its kind.

  Key definitions include:
    * `Word.kind`
    * `Word.face`
    * `Unhandled.withoutCount`
    * `Word.unhandled?`

  Main statements:
    * `Move.apply_comm`
    * `Generation.candidates_foldl_visit`
    * `Generation.unhandled_foldl_visit`
    * `Generation.ofTree_congr_of_perm`
-/

------------------------------------------------------------
-- Moves Commute
------------------------------------------------------------

namespace QuestionQuery

/- Members can be added in any order. -/
theorem SortedSet.insert_comm
    {α : Type}
    [Ord α] [Std.TransOrd α] [Std.LawfulEqOrd α]
    (s : SortedSet α)
    (a b : α) :
    (s.insert a).insert b = (s.insert b).insert a := by
  ext c
  simp only [mem_insert]
  tauto

/- Items can be added in any order. -/
theorem SortedSet.insertAll_comm
    {α : Type}
    [Ord α] [Std.TransOrd α] [Std.LawfulEqOrd α]
    (s : SortedSet α)
    (xs ys : List α) :
    (s.insertAll xs).insertAll ys =
      (s.insertAll ys).insertAll xs := by
  ext c
  simp only [mem_insertAll]
  tauto

/-
  Values can be changed in any order, if the changes of one
  value can be.
-/
theorem SortedMap.alter_comm
    {κ ν : Type}
    [Ord κ] [Std.TransOrd κ] [Std.LawfulEqOrd κ] [DecidableEq κ]
    {m : SortedMap κ ν}
    {key other : κ}
    {f g : Option ν → ν}
    (hChanges : ∀ old, g (some (f old)) = f (some (g old))) :
    (m.alter key f).alter other g =
      (m.alter other g).alter key f := by
  ext1 k
  by_cases hSame : key = other
  · subst hSame
    by_cases hKey : k = key <;> simp [hKey, hChanges]
  · have hOther : ¬ other = key := fun hEq => hSame hEq.symm
    by_cases hKey : k = key
    · subst hKey
      simp [hSame]
    · simp [hKey, hOther]

/- Texts can be searched for in any order. -/
theorem Candidate.search_comm
    (c : Candidate)
    (name label other phrase : String) :
    (c.search name label).search other phrase =
      (c.search other phrase).search name label := by
  simp only [search, mk.injEq, true_and]
  constructor
  · apply SortedMap.alter_comm
    intro old
    exact SortedSet.insertAll_comm _ _ _
  · apply SortedMap.alter_comm
    intro old
    exact SortedSet.insert_comm _ _ _

/- Two moves can be made in any order. -/
theorem Move.apply_comm
    (m n : Move)
    (c : Candidate) :
    m.apply (n.apply c) = n.apply (m.apply c) := by
  cases m with
  | keep => rfl
  | require pattern =>
      cases n with
      | require other =>
          simp [apply, Candidate.require, SortedSet.insert_comm]
      | _ => rfl
  | restrict v uri =>
      cases n with
      | restrict v' other =>
          simp [apply, Candidate.restrict, SortedSet.insert_comm]
      | _ => rfl
  | search v label =>
      cases n with
      | search v' phrase => exact Candidate.search_comm c _ _ _ _
      | _ => rfl

end QuestionQuery

------------------------------------------------------------
-- Words Commute
------------------------------------------------------------

namespace QuestionQuery

namespace Generation

variable {source : LabelSource}

/- Candidates can be extended in any order. -/
theorem expand_comm
    (ms ns : List Move)
    (running : SortedSet Candidate) :
    expand ms (expand ns running) =
      expand ns (expand ms running) := by
  ext d
  simp only [mem_expand]
  constructor
  · rintro ⟨_, ⟨c, hSeed, n, hFirst, rfl⟩, m, hSecond, rfl⟩
    exact ⟨m.apply c, ⟨c, hSeed, m, hSecond, rfl⟩, n, hFirst,
      Move.apply_comm n m c⟩
  · rintro ⟨_, ⟨c, hSeed, m, hFirst, rfl⟩, n, hSecond, rfl⟩
    exact ⟨n.apply c, ⟨c, hSeed, n, hSecond, rfl⟩, m, hFirst,
      Move.apply_comm m n c⟩

/- A visit extends the candidates by the moves of the word. -/
theorem candidates_visit
    (g : Generation)
    (w : Word) :
    (g.visit source w).candidates =
      expand (w.moves source) g.candidates := by
  ext d
  rw [mem_candidates_visit, mem_expand]

/- Visits look only at the moves of the words. -/
theorem candidates_foldl_visit
    (g : Generation)
    (ws : List Word) :
    (ws.foldl (visit source) g).candidates =
      (ws.map (Word.moves source)).foldl
        (fun running ms => expand ms running) g.candidates := by
  induction ws generalizing g with
  | nil => rfl
  | cons w ws ih =>
      rw [List.foldl_cons, ih, candidates_visit, List.map_cons,
        List.foldl_cons]

/- The moves of words can be made in any order of the words. -/
theorem candidates_foldl_visit_of_perm
    {g : Generation}
    {ws vs : List Word}
    (hPerm :
      (ws.map (Word.moves source)).Perm
        (vs.map (Word.moves source))) :
    (ws.foldl (visit source) g).candidates =
      (vs.foldl (visit source) g).candidates := by
  rw [candidates_foldl_visit, candidates_foldl_visit]
  apply hPerm.foldl_eq'
  intro ms _ ns _ running
  exact expand_comm ns ms running

/- Visits count the words. -/
theorem nodesVisited_foldl_visit
    (g : Generation)
    (ws : List Word) :
    (ws.foldl (visit source) g).report.nodesVisited =
      g.report.nodesVisited + ws.length := by
  induction ws generalizing g with
  | nil => rfl
  | cons w ws ih =>
      have hVisit :
          (g.visit source w).report.nodesVisited =
            g.report.nodesVisited + 1 := by
        cases hMoves : w.moves? source <;>
          simp [visit, count, branch, hMoves]
      rw [List.foldl_cons, ih, hVisit, List.length_cons]
      omega

end Generation

end QuestionQuery

------------------------------------------------------------
-- Words Without Rules
------------------------------------------------------------

namespace QuestionQuery

/- An entry of a report, but for what was dropped. -/
def Unhandled.withoutCount
    (u : Unhandled) : Unhandled :=
  { u with dropped := 0 }

/- The entry of a word without a rule, but for the count. -/
def Word.unhandled?
    (source : LabelSource)
    (w : Word) : Option Unhandled :=
  if w.moves? source = none then
    some (Generation.unhandled w .empty)
  else
    none

namespace Generation

variable {source : LabelSource}

/- A visit reports the word if it has no rule. -/
theorem unhandled_visit
    (g : Generation)
    (w : Word) :
    (g.visit source w).report.unhandled.map .withoutCount =
      g.report.unhandled.map .withoutCount ++
        (w.unhandled? source).toList := by
  unfold visit count branch Word.unhandled?
  cases hMoves : w.moves? source with
  | none => simp [unhandled, Unhandled.withoutCount,
      SortedSet.size, SortedSet.empty]
  | some ms => simp

/- Visits report the words without a rule in their order. -/
theorem unhandled_foldl_visit
    (g : Generation)
    (ws : List Word) :
    (ws.foldl (visit source) g).report.unhandled.map
        .withoutCount =
      g.report.unhandled.map .withoutCount ++
        ws.filterMap (Word.unhandled? source) := by
  induction ws generalizing g with
  | nil => simp
  | cons w ws ih =>
      rw [List.foldl_cons, ih, unhandled_visit]
      cases hEntry : w.unhandled? source <;> simp [hEntry]

end Generation

end QuestionQuery

------------------------------------------------------------
-- Kinds Of Words
------------------------------------------------------------

namespace QuestionQuery

namespace Word

variable {source : LabelSource}

/- What the candidates of a tree depend on in a word. -/
def kind
    (w : Word) : PartOfSpeech × String × SortedSet String :=
  (w.partOfSpeech, w.label, w.annotations)

/- What the report on a tree depends on in a word. -/
def face
    (w : Word) : String × String × SortedSet String :=
  (w.tag, w.label, w.annotations)

/- The moves of a word are those of its kind. -/
theorem moves?_eq_of_kind_eq
    {v w : Word}
    (hKind : v.kind = w.kind) :
    v.moves? source = w.moves? source := by
  simp only [kind, Prod.mk.injEq] at hKind
  rcases hKind with ⟨hTag, hLabel, hAnnotations⟩
  unfold moves? plainMoves? isAnnotated
  rw [hTag, hLabel, hAnnotations]

/- Words of one face are of one kind. -/
theorem kind_eq_of_face_eq
    {v w : Word}
    (hFace : v.face = w.face) :
    v.kind = w.kind := by
  simp only [face, Prod.mk.injEq] at hFace
  rcases hFace with ⟨hTag, hLabel, hAnnotations⟩
  simp only [kind, partOfSpeech, hTag, hLabel, hAnnotations]

/- Words of one face have one entry. -/
theorem unhandled?_eq_of_face_eq
    {v w : Word}
    (hFace : v.face = w.face) :
    v.unhandled? source = w.unhandled? source := by
  have hMoves : v.moves? source = w.moves? source :=
    moves?_eq_of_kind_eq (kind_eq_of_face_eq hFace)
  simp only [face, Prod.mk.injEq] at hFace
  rcases hFace with ⟨hTag, hLabel, hAnnotations⟩
  simp only [unhandled?, Generation.unhandled, isAnnotated,
    hMoves, hTag, hLabel, hAnnotations]

end Word

/- What a view determines is the same up to order as well. -/
theorem perm_map_of_perm_map
    {α β γ : Type}
    [Nonempty γ]
    {view : α → β}
    {f : α → γ}
    {xs ys : List α}
    (hView : ∀ x y, view x = view y → f x = f y)
    (hPerm : (xs.map view).Perm (ys.map view)) :
    (xs.map f).Perm (ys.map f) := by
  have hFactors : Function.FactorsThrough f view :=
    fun x y hEq => hView x y hEq
  have hThrough :=
    hFactors.extend_comp (fun _ => Classical.arbitrary γ)
  rw [← hThrough, ← List.map_map, ← List.map_map]
  exact hPerm.map _

end QuestionQuery

------------------------------------------------------------
-- Trees Of The Same Words
------------------------------------------------------------

namespace QuestionQuery

namespace Generation

variable {source : LabelSource}

/- Trees of the same kinds of words have the same candidates. -/
theorem candidates_ofTree_of_perm
    {seeds : SortedSet Candidate}
    {s t : ParseTree}
    (hKinds :
      (s.words.map Word.kind).Perm (t.words.map Word.kind)) :
    (ofTree source seeds s).candidates =
      (ofTree source seeds t).candidates := by
  rw [ofTree_eq_foldl_visit, ofTree_eq_foldl_visit]
  apply candidates_foldl_visit_of_perm
  apply perm_map_of_perm_map _ hKinds
  intro v w hKind
  simp only [Word.moves, Word.moves?_eq_of_kind_eq hKind]

/- Every word of a tree is visited once. -/
theorem nodesVisited_ofTree
    (source : LabelSource)
    (seeds : SortedSet Candidate)
    (t : ParseTree) :
    (ofTree source seeds t).report.nodesVisited = t.size := by
  rw [ofTree_eq_foldl_visit, nodesVisited_foldl_visit,
    ParseTree.length_words]
  simp [start, Report.start]

/- The words without a rule are reported in their order. -/
theorem unhandled_ofTree
    (source : LabelSource)
    (seeds : SortedSet Candidate)
    (t : ParseTree) :
    (ofTree source seeds t).report.unhandled.map .withoutCount =
      t.words.filterMap (Word.unhandled? source) := by
  rw [ofTree_eq_foldl_visit, unhandled_foldl_visit]
  simp [start, Report.start]

/- A rearranged tree has the same candidates. -/
theorem candidates_ofTree_of_rearranges
    {seeds : SortedSet Candidate}
    {s t : ParseTree}
    (hRearranges : Relation.ReflTransGen ParseTree.Rearranges s t) :
    (ofTree source seeds s).candidates =
      (ofTree source seeds t).candidates := by
  induction hRearranges with
  | refl => rfl
  | tail _ hStep ih =>
      rw [ih]
      apply candidates_ofTree_of_perm
      exact hStep.perm_map_words fun _ _ => rfl

/-
  Trees with the same kinds of words have the same candidates
  and as many words visited, however the words are ordered
  and nested.  If the tags agree as well, the same words are
  reported to have no rule.  So neither the order of siblings
  nor the place of a subtree nor a base form ever matters.
-/
theorem ofTree_congr_of_perm
    (source : LabelSource)
    (seeds : SortedSet Candidate) :
    (∀ s t : ParseTree,
      (s.words.map Word.kind).Perm (t.words.map Word.kind) →
        (ofTree source seeds s).candidates =
          (ofTree source seeds t).candidates ∧
        (ofTree source seeds s).report.nodesVisited =
          (ofTree source seeds t).report.nodesVisited) ∧
    (∀ s t : ParseTree,
      (s.words.map Word.face).Perm (t.words.map Word.face) →
        ((ofTree source seeds s).report.unhandled.map
            Unhandled.withoutCount).Perm
          ((ofTree source seeds t).report.unhandled.map
            Unhandled.withoutCount)) ∧
    ∀ s t : ParseTree,
      Relation.ReflTransGen ParseTree.Rearranges s t →
        (ofTree source seeds s).candidates =
          (ofTree source seeds t).candidates := by
  refine ⟨?_, ?_, ?_⟩
  · intro s t hKinds
    refine ⟨candidates_ofTree_of_perm hKinds, ?_⟩
    have hLength : s.words.length = t.words.length := by
      simpa using hKinds.length_eq
    rw [nodesVisited_ofTree, nodesVisited_ofTree,
      ← ParseTree.length_words, ← ParseTree.length_words, hLength]
  · intro s t hFaces
    rw [unhandled_ofTree, unhandled_ofTree]
    have hEntries :
        (s.words.map (Word.unhandled? source)).Perm
          (t.words.map (Word.unhandled? source)) := by
      apply perm_map_of_perm_map _ hFaces
      intro v w hFace
      exact Word.unhandled?_eq_of_face_eq hFace
    simpa [List.filterMap_map] using hEntries.filterMap id
  · intro s t hRearranges
    exact candidates_ofTree_of_rearranges hRearranges

/- A question of three words with a rule. -/
def whoWroteDune : ParseTree :=
  .node (.plain "wrote" "VBD")
    [.leaf (.plain "Who" "WP"), .leaf (.plain "Dune" "NNP")]

/- Words of the same kinds, each below the next one. -/
def duneWhoWrote : ParseTree :=
  .node (.plain "Dune" "NNPS")
    [.node (.plain "Who" "WP")
      [.leaf (.withBaseForm "write" (.plain "wrote" "VBZ"))]]

/- A question with two words that have no rule. -/
def whoTheOf : ParseTree :=
  .node (.plain "Who" "WP")
    [.leaf (.plain "the" "DT"), .leaf (.plain "of" "IN")]

/- The same words in another order. -/
def whoOfThe : ParseTree :=
  .node (.plain "Who" "WP")
    [.leaf (.plain "of" "IN"), .leaf (.plain "the" "DT")]

theorem ofTree_congr_duneWhoWrote :
    (whoWroteDune.words.map Word.kind).Perm
      (duneWhoWrote.words.map Word.kind) ∧
    (ofTree .empty seed whoWroteDune).candidates =
      (ofTree .empty seed duneWhoWrote).candidates ∧
    (whoTheOf.words.map Word.face).Perm
      (whoOfThe.words.map Word.face) ∧
    ((ofTree .empty seed whoTheOf).report.unhandled.map
        Unhandled.withoutCount).Perm
      ((ofTree .empty seed whoOfThe).report.unhandled.map
        Unhandled.withoutCount) ∧
    Relation.ReflTransGen ParseTree.Rearranges whoTheOf
      whoOfThe ∧
    (ofTree .empty seed whoTheOf).candidates =
      (ofTree .empty seed whoOfThe).candidates := by
  have hKinds :
      (whoWroteDune.words.map Word.kind).Perm
        (duneWhoWrote.words.map Word.kind) := by
    decide
  have hFaces :
      (whoTheOf.words.map Word.face).Perm
        (whoOfThe.words.map Word.face) := by
    decide
  have hRearranges :
      Relation.ReflTransGen ParseTree.Rearranges whoTheOf
        whoOfThe := by
    apply Relation.ReflTransGen.single
    exact @ParseTree.Rearranges.siblings whoTheOf whoTheOf []
      whoOfThe.children rfl (List.Perm.swap _ _ _)
  have hSame := ofTree_congr_of_perm .empty seed
  exact
    ⟨hKinds, (hSame.1 whoWroteDune duneWhoWrote hKinds).1,
      hFaces, hSame.2.1 whoTheOf whoOfThe hFaces, hRearranges,
      hSame.2.2 whoTheOf whoOfThe hRearranges⟩

end Generation

end QuestionQuery
