import QuestionQuery.Sorted.Map

/-
  Laws of unions of sets, and maps that are put together.

  A map that is put together of two has the keys of both, and
  joins the two values of a key they have in common.  Like
  unions of sets this is associative, if joining values is.

  Key definitions include:
    * `SortedMap.mergeWith`

  Main statements:
    * `SortedSet.union_assoc`
    * `SortedMap.get?_mergeWith`
    * `SortedMap.mergeWith_assoc`
    * `SortedMap.alter_eq_mergeWith`
-/

------------------------------------------------------------
-- Sets
------------------------------------------------------------

namespace QuestionQuery

namespace SortedSet

variable {α : Type}
variable [Ord α] [Std.TransOrd α] [Std.LawfulEqOrd α]

/- Nothing is added by the empty set. -/
@[simp]
theorem empty_union
    (s : SortedSet α) :
    empty ∪ s = s := by
  ext a
  simp

/- Nothing is added to a set by the empty one. -/
@[simp]
theorem union_empty
    (s : SortedSet α) :
    s ∪ empty = s := by
  ext a
  simp

/- Nothing is added to a set by the set itself. -/
@[simp]
theorem union_self
    (s : SortedSet α) :
    s ∪ s = s := by
  ext a
  simp

theorem union_assoc
    (s t u : SortedSet α) :
    s ∪ t ∪ u = s ∪ (t ∪ u) := by
  ext a
  simp [or_assoc]

instance :
    Std.Associative (α := SortedSet α) (· ∪ ·) where
  assoc := union_assoc

/- To add one member is to unite with the set of it. -/
theorem insert_eq_union
    (s : SortedSet α)
    (a : α) :
    s.insert a = s ∪ empty.insert a := by
  ext b
  simp [or_comm]

end SortedSet

end QuestionQuery

------------------------------------------------------------
-- Maps
------------------------------------------------------------

namespace QuestionQuery

namespace SortedMap

variable {κ ν : Type}
variable [Ord κ] [Std.TransOrd κ] [Std.LawfulEqOrd κ]
variable [DecidableEq κ]
variable {f : ν → ν → ν}

/-
  The entries of two maps; the values of a key that both of
  them have are joined.
-/
def mergeWith
    (f : ν → ν → ν)
    (m n : SortedMap κ ν) : SortedMap κ ν :=
  n.toList.foldl
    (fun merged e =>
      merged.alter e.1 fun old => old.elim e.2 (f · e.2))
    m

/- One entry after another is joined with what there is. -/
private theorem get?_foldl_alter
    {entries : List (κ × ν)}
    (hAscending : Entries.Ascending entries)
    (m : SortedMap κ ν)
    (key : κ) :
    (entries.foldl
        (fun merged e =>
          merged.alter e.1 fun old => old.elim e.2 (f · e.2))
        m).get? key =
      Option.merge f (m.get? key) (entries.lookup key) := by
  induction entries generalizing m with
  | nil => simp
  | cons e rest ih =>
      rcases e with ⟨k, v⟩
      have hParts := List.pairwise_cons.mp hAscending
      rw [List.foldl_cons, ih hParts.2, get?_alter]
      by_cases hKey : key = k
      · subst hKey
        -- no later entry has the key once more
        have hLater : rest.lookup key = none := by
          rw [List.lookup_eq_none_iff]
          intro e hEntry
          have hBelow := hParts.1 e hEntry
          simp only [bne_iff_ne, ne_eq]
          rintro rfl
          simp at hBelow
        rw [if_pos rfl, hLater, List.lookup_cons_self]
        cases m.get? key <;> rfl
      · rw [if_neg hKey, List.lookup_cons, beq_false_of_ne hKey]

/- A key has the values of both maps, joined. -/
@[simp]
theorem get?_mergeWith
    {m n : SortedMap κ ν}
    {key : κ} :
    (m.mergeWith f n).get? key =
      Option.merge f (m.get? key) (n.get? key) :=
  get?_foldl_alter n.ascending m key

/- Nothing is added by the empty map. -/
@[simp]
theorem empty_mergeWith
    (m : SortedMap κ ν) :
    empty.mergeWith f m = m := by
  ext1 key
  simp

omit [DecidableEq κ] in
/- Nothing is added to a map by the empty one. -/
@[simp]
theorem mergeWith_empty
    (m : SortedMap κ ν) :
    m.mergeWith f empty = m :=
  rfl

theorem mergeWith_assoc
    [Std.Associative f]
    (m n o : SortedMap κ ν) :
    (m.mergeWith f n).mergeWith f o =
      m.mergeWith f (n.mergeWith f o) := by
  ext1 key
  simp only [get?_mergeWith]
  exact Std.Associative.assoc _ _ _

/-
  To change the value of a key is to join it with the value
  that a key without one would get.
-/
theorem alter_eq_mergeWith
    {g : Option ν → ν}
    (hJoin : ∀ old, g (some old) = f old (g none))
    (m : SortedMap κ ν)
    (key : κ) :
    m.alter key g = m.mergeWith f (empty.alter key g) := by
  ext1 k
  by_cases hKey : k = key
  · subst hKey
    cases hOld : m.get? k <;> simp [hOld, hJoin, Option.merge]
  · simp [hKey]

end SortedMap

end QuestionQuery
