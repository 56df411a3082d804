/-
  This file defines finite sets kept as strictly ascending
  lists.  The order is part of the type, so two sets with
  the same members are the same value, and listing a set
  never depends on how it was built.

  Key definitions include:
    * `Ascending`
    * `SortedSet`
    * `SortedSet.union`
    * `SortedSet.insert`
    * `SortedSet.ofList`
    * `SortedSet.filter`

  Key theorems include:
    * `Ascending.eq_of_mem_iff`
    * `SortedSet.isEmpty_iff`
    * `SortedSet.ext`
    * `SortedSet.mem_union`
    * `SortedSet.mem_insert`
    * `SortedSet.mem_ofList`
-/

namespace QuestionQuery

------------------------------------------------------------
-- Ascending Lists
------------------------------------------------------------

/- Each item is strictly below all items after it. -/
def Ascending
    {α : Type}
    [Ord α]
    (xs : List α) : Prop :=
  xs.Pairwise fun a b => compare a b = .lt

namespace Ascending

variable {α : Type}
variable [Ord α]

/- The head of an ascending list is not in its tail. -/
private theorem head_notMem
    [Std.LawfulEqOrd α]
    {x : α}
    {xs : List α}
    (h : Ascending (x :: xs)) :
    x ∉ xs := by
  intro hx
  have hlt := (List.pairwise_cons.mp h).1 x hx
  simp at hlt

/- Two ascending lists with the same members have one head. -/
private theorem head_eq
    [Std.TransOrd α]
    {x y : α}
    {xs ys : List α}
    (hx : Ascending (x :: xs))
    (hy : Ascending (y :: ys))
    (h : ∀ a, a ∈ x :: xs ↔ a ∈ y :: ys) :
    x = y := by
  rcases List.mem_cons.mp ((h x).mp (by simp)) with e | hm
  · exact e
  rcases List.mem_cons.mp ((h y).mpr (by simp)) with e | hn
  · exact e.symm
  exact absurd
    ((List.pairwise_cons.mp hx).1 y hn)
    (Std.OrientedCmp.not_lt_of_lt
      ((List.pairwise_cons.mp hy).1 x hm))

/- Two ascending lists with the same members are equal. -/
theorem eq_of_mem_iff
    [Std.TransOrd α]
    [Std.LawfulEqOrd α]
    {xs ys : List α}
    (hx : Ascending xs)
    (hy : Ascending ys)
    (h : ∀ a, a ∈ xs ↔ a ∈ ys) :
    xs = ys := by
  induction xs generalizing ys with
  | nil =>
      cases ys with
      | nil => rfl
      | cons y ys => simpa using h y
  | cons x xs ih =>
      cases ys with
      | nil => simpa using h x
      | cons y ys =>
          have hxy := head_eq hx hy h
          subst hxy
          have hxn := head_notMem hx
          have hyn := head_notMem hy
          congr 1
          apply ih hx.tail hy.tail
          intro a
          have ha := h a
          by_cases hax : a = x
          · subst hax
            simp [hxn, hyn]
          · simpa [hax] using ha

/- No item of an ascending list is repeated. -/
theorem nodup
    [Std.LawfulEqOrd α]
    {xs : List α}
    (h : Ascending xs) :
    xs.Nodup := by
  induction xs with
  | nil => simp
  | cons x xs ih =>
      exact List.nodup_cons.mpr ⟨head_notMem h, ih h.tail⟩

end Ascending

------------------------------------------------------------
-- Merging
------------------------------------------------------------

namespace Ascending

variable {α : Type}
variable [Ord α]

/-
  Put `x` at its place in a list and go on with `next` from
  there.  An item equal to `x` is taken once.
-/
def weave
    (x : α)
    (next : List α → List α) :
    List α → List α
  | [] => x :: next []
  | y :: ys =>
    match compare x y with
    | .lt => x :: next (y :: ys)
    | .eq => x :: next ys
    | .gt => y :: weave x next ys

/- Merge two ascending lists; common items are kept once. -/
def merge : List α → List α → List α
  | [], ys => ys
  | x :: xs, ys => weave x (merge xs) ys

private theorem mem_weave
    [Std.LawfulEqOrd α]
    {x a : α}
    {next : List α → List α}
    {P : Prop}
    (hnext : ∀ zs, a ∈ next zs ↔ P ∨ a ∈ zs)
    (ys : List α) :
    a ∈ weave x next ys ↔ a = x ∨ P ∨ a ∈ ys := by
  induction ys with
  | nil => simp [weave, hnext]
  | cons y ys ih =>
      rw [weave]
      split
      · simp [hnext]
      · next h =>
          have hxy := Std.LawfulEqOrd.compare_eq_iff_eq.mp h
          subst hxy
          simp only [List.mem_cons, hnext]
          grind
      · simp only [List.mem_cons, ih]
        grind

/- A merged list has the items of both lists. -/
theorem mem_merge
    [Std.LawfulEqOrd α]
    {a : α}
    {xs ys : List α} :
    a ∈ merge xs ys ↔ a ∈ xs ∨ a ∈ ys := by
  induction xs generalizing ys with
  | nil => simp [merge]
  | cons x xs ih =>
      rw [merge, mem_weave (fun _ => ih)]
      simp [or_assoc]

private theorem weave_ascending
    [Std.TransOrd α]
    [Std.LawfulEqOrd α]
    {x : α}
    {xs ys : List α}
    (hx : Ascending (x :: xs))
    (hy : Ascending ys)
    (hnext :
      ∀ zs, Ascending zs → Ascending (merge xs zs)) :
    Ascending (weave x (merge xs) ys) := by
  have hxs := List.pairwise_cons.mp hx
  induction ys with
  | nil =>
      apply List.pairwise_cons.mpr
      refine ⟨fun a ha => hxs.1 a ?_, hnext [] .nil⟩
      simpa [mem_merge] using ha
  | cons y ys ih =>
      have hys := List.pairwise_cons.mp hy
      rw [weave]
      split
      · next h =>
          apply List.pairwise_cons.mpr
          refine ⟨fun a ha => ?_, hnext _ hy⟩
          rcases mem_merge.mp ha with ha | ha
          · exact hxs.1 a ha
          · rcases List.mem_cons.mp ha with e | ha
            · exact e ▸ h
            · exact Std.TransCmp.lt_trans h (hys.1 a ha)
      · next h =>
          have hxy := Std.LawfulEqOrd.compare_eq_iff_eq.mp h
          subst hxy
          apply List.pairwise_cons.mpr
          refine ⟨fun a ha => ?_, hnext _ hys.2⟩
          rcases mem_merge.mp ha with ha | ha
          · exact hxs.1 a ha
          · exact hys.1 a ha
      · next h =>
          have hyx := Std.OrientedCmp.lt_of_gt h
          apply List.pairwise_cons.mpr
          refine ⟨fun a ha => ?_, ih hys.2⟩
          rcases (mem_weave (fun _ => mem_merge) ys).mp ha
            with e | ha | ha
          · exact e ▸ hyx
          · exact Std.TransCmp.lt_trans hyx (hxs.1 a ha)
          · exact hys.1 a ha

/- Merging ascending lists gives an ascending list. -/
theorem merge_ascending
    [Std.TransOrd α]
    [Std.LawfulEqOrd α]
    {xs ys : List α}
    (hx : Ascending xs)
    (hy : Ascending ys) :
    Ascending (merge xs ys) := by
  induction xs generalizing ys with
  | nil => exact hy
  | cons x xs ih =>
      exact weave_ascending hx hy (fun _ => ih hx.tail)

end Ascending

------------------------------------------------------------
-- Sets
------------------------------------------------------------

/- A finite set, listed in strictly ascending order. -/
structure SortedSet
    (α : Type)
    [Ord α] where
  toList : List α
  ascending : Ascending toList

namespace SortedSet

variable {α : Type}
variable [Ord α]

/- The set without members. -/
def empty : SortedSet α :=
  ⟨[], .nil⟩

instance : Inhabited (SortedSet α) :=
  ⟨empty⟩

instance : Membership α (SortedSet α) where
  mem s a := a ∈ s.toList

instance
    [DecidableEq α] :
    DecidableEq (SortedSet α) :=
  fun s t =>
    match decEq s.toList t.toList with
    | .isTrue h => .isTrue (by cases s; cases t; simp_all)
    | .isFalse h => .isFalse fun e => h (congrArg toList e)

instance
    [DecidableEq α]
    (a : α)
    (s : SortedSet α) :
    Decidable (a ∈ s) :=
  inferInstanceAs (Decidable (a ∈ s.toList))

/- Number of members. -/
def size
    (s : SortedSet α) : Nat :=
  s.toList.length

/- Does the set have no member? -/
def isEmpty
    (s : SortedSet α) : Bool :=
  s.toList.isEmpty

/- Sets are ordered as their listings, item by item. -/
instance : Ord (SortedSet α) where
  compare s t := compare s.toList t.toList

@[simp]
theorem mem_toList
    {a : α}
    {s : SortedSet α} :
    a ∈ s.toList ↔ a ∈ s :=
  Iff.rfl

@[simp]
theorem notMem_empty
    {a : α} :
    a ∉ (empty : SortedSet α) :=
  List.not_mem_nil

/- A set is determined by its listing. -/
theorem eq_of_toList_eq
    {s t : SortedSet α}
    (h : s.toList = t.toList) :
    s = t := by
  cases s
  cases t
  simp_all

/- Only the empty set has no member. -/
@[simp]
theorem isEmpty_iff
    {s : SortedSet α} :
    s.isEmpty ↔ s = empty := by
  constructor
  · intro h
    exact eq_of_toList_eq (by simpa [isEmpty, empty] using h)
  · rintro rfl
    rfl

theorem ne_empty_iff_exists_mem
    {s : SortedSet α} :
    s ≠ empty ↔ ∃ a, a ∈ s := by
  constructor
  · intro h
    apply List.exists_mem_of_ne_nil
    exact fun e => h (eq_of_toList_eq e)
  · rintro ⟨a, ha⟩ rfl
    exact notMem_empty ha

theorem eq_empty_iff_forall_notMem
    {s : SortedSet α} :
    s = empty ↔ ∀ a, a ∉ s := by
  constructor
  · rintro rfl a
    exact notMem_empty
  · intro h
    exact eq_of_toList_eq (List.eq_nil_iff_forall_not_mem.mpr h)

theorem compare_eq
    {s t : SortedSet α} :
    compare s t = compare s.toList t.toList :=
  rfl

instance
    [Std.TransOrd α] :
    Std.TransOrd (SortedSet α) where
  eq_swap := Std.OrientedOrd.eq_swap (α := List α)
  isLE_trans := Std.TransOrd.isLE_trans (α := List α)

instance
    [Std.LawfulEqOrd α] :
    Std.LawfulEqOrd (SortedSet α) where
  compare_self := Std.ReflOrd.compare_self (α := List α)
  eq_of_compare h :=
    eq_of_toList_eq
      (Std.LawfulEqOrd.eq_of_compare (α := List α) h)

variable [Std.TransOrd α] [Std.LawfulEqOrd α]

/- Sets with the same members are equal. -/
@[ext]
theorem ext
    {s t : SortedSet α}
    (h : ∀ a, a ∈ s ↔ a ∈ t) :
    s = t :=
  eq_of_toList_eq
    (Ascending.eq_of_mem_iff s.ascending t.ascending h)

/- The set with one member. -/
def singleton
    (a : α) : SortedSet α :=
  ⟨[a], List.pairwise_singleton _ a⟩

/- All members of both sets. -/
def union
    (s t : SortedSet α) : SortedSet α :=
  ⟨Ascending.merge s.toList t.toList,
    Ascending.merge_ascending s.ascending t.ascending⟩

instance : Union (SortedSet α) :=
  ⟨union⟩

/- Add one member. -/
def insert
    (a : α)
    (s : SortedSet α) : SortedSet α :=
  singleton a ∪ s

/- The members that pass a test. -/
def filter
    (keep : α → Bool)
    (s : SortedSet α) : SortedSet α :=
  ⟨s.toList.filter keep, s.ascending.filter keep⟩

omit [Std.TransOrd α] [Std.LawfulEqOrd α] in
@[simp]
theorem mem_singleton
    {a b : α} :
    a ∈ singleton b ↔ a = b :=
  List.mem_singleton

@[simp]
theorem mem_union
    {a : α}
    {s t : SortedSet α} :
    a ∈ s ∪ t ↔ a ∈ s ∨ a ∈ t :=
  Ascending.mem_merge

@[simp]
theorem mem_insert
    {a b : α}
    {s : SortedSet α} :
    a ∈ s.insert b ↔ a = b ∨ a ∈ s := by
  simp [insert]

omit [Std.TransOrd α] [Std.LawfulEqOrd α] in
@[simp]
theorem mem_filter
    {a : α}
    {keep : α → Bool}
    {s : SortedSet α} :
    a ∈ s.filter keep ↔ a ∈ s ∧ keep a :=
  List.mem_filter

------------------------------------------------------------
-- Sets From Lists
------------------------------------------------------------

/-
  Add a set to a row of sets in which place `k` is empty or
  unites `2 ^ k` earlier sets, as one is added to a binary
  number.  Sets of like age are united, so a list of `n`
  items takes about `n * log n` comparisons.
-/
def carry
    (s : SortedSet α) :
    List (SortedSet α) → List (SortedSet α)
  | [] => [s]
  | t :: row =>
    if t.isEmpty then
      s :: row
    else
      empty :: carry (t ∪ s) row

/- The set of the items of a list, in any order. -/
def ofList
    (xs : List α) : SortedSet α :=
  (xs.foldl (fun row x => carry (singleton x) row) []).foldr
    (· ∪ ·)
    empty

omit [Std.TransOrd α] [Std.LawfulEqOrd α] in
private theorem notMem_of_isEmpty
    {a : α}
    {s : SortedSet α}
    (h : s.isEmpty) :
    a ∉ s := by
  have hs : s.toList = [] := by simpa [isEmpty] using h
  simp [← mem_toList, hs]

private theorem mem_carry
    {a : α}
    {s : SortedSet α}
    {row : List (SortedSet α)} :
    (∃ t ∈ carry s row, a ∈ t) ↔ a ∈ s ∨ ∃ t ∈ row, a ∈ t := by
  induction row generalizing s with
  | nil => simp [carry]
  | cons t row ih =>
      rw [carry]
      split
      · next h =>
          have := notMem_of_isEmpty (a := a) h
          simp [this]
      · simp only [List.mem_cons, exists_eq_or_imp, ih]
        simp
        grind

private theorem mem_unite
    {a : α}
    {row : List (SortedSet α)} :
    a ∈ row.foldr (· ∪ ·) empty ↔ ∃ t ∈ row, a ∈ t := by
  induction row with
  | nil => simp
  | cons t row ih => simp [ih]

private theorem mem_collect
    {a : α}
    {xs : List α}
    {row : List (SortedSet α)} :
    (∃ t ∈ xs.foldl (fun r x => carry (singleton x) r) row, a ∈ t) ↔
      a ∈ xs ∨ ∃ t ∈ row, a ∈ t := by
  induction xs generalizing row with
  | nil => simp
  | cons x xs ih =>
      rw [List.foldl_cons, ih, mem_carry]
      simp only [mem_singleton, List.mem_cons]
      grind

/- A set made of a list has the items of the list. -/
@[simp]
theorem mem_ofList
    {a : α}
    {xs : List α} :
    a ∈ ofList xs ↔ a ∈ xs := by
  rw [ofList, mem_unite, mem_collect]
  simp

/- Listing a set and collecting the listing is no change. -/
@[simp]
theorem ofList_toList
    (s : SortedSet α) :
    ofList s.toList = s := by
  ext a
  simp

/- Add all items of a list. -/
def insertAll
    (s : SortedSet α)
    (xs : List α) : SortedSet α :=
  s ∪ ofList xs

@[simp]
theorem mem_insertAll
    {a : α}
    {s : SortedSet α}
    {xs : List α} :
    a ∈ s.insertAll xs ↔ a ∈ s ∨ a ∈ xs := by
  simp [insertAll]

end SortedSet

end QuestionQuery
