import QuestionQuery.Sorted.Set

/-
  This file defines finite maps kept as lists of entries
  with strictly ascending keys.  As for sorted sets, two
  maps with the same look-ups are the same value.

  Key definitions include:
    * `SortedMap`
    * `SortedMap.get?`
    * `SortedMap.alter`
    * `SortedMap.insert`
    * `SortedMap.ofList`

  Key theorems include:
    * `SortedMap.compareEntry_lawful`
    * `SortedMap.ext`
    * `SortedMap.get?_alter`
    * `SortedMap.get?_insert`
    * `SortedMap.mem_toList_iff`
    * `SortedMap.get?_ofList_eq_some_iff`
    * `SortedMap.ofList_eq_of_perm`
-/

namespace QuestionQuery

------------------------------------------------------------
-- Entry Lists
------------------------------------------------------------

namespace Entries

variable {κ ν : Type}
variable [Ord κ]

/- Each key is strictly below all keys after it. -/
def Ascending
    (entries : List (κ × ν)) : Prop :=
  entries.Pairwise fun p q => compare p.1 q.1 = .lt

/-
  Replace the value of a key in an ascending list; a key that
  has no value gets one at its place.
-/
def alter
    (key : κ)
    (f : Option ν → ν) :
    List (κ × ν) → List (κ × ν)
  | [] => [(key, f none)]
  | (k, v) :: rest =>
    match compare key k with
    | .lt => (key, f none) :: (k, v) :: rest
    | .eq => (key, f (some v)) :: rest
    | .gt => (k, v) :: alter key f rest

private theorem mem_alter
    {key : κ}
    {f : Option ν → ν}
    {entries : List (κ × ν)}
    {e : κ × ν}
    (h : e ∈ alter key f entries) :
    e.1 = key ∨ e ∈ entries := by
  induction entries with
  | nil => simp_all [alter]
  | cons p rest ih =>
      rw [alter] at h
      split at h <;> grind

private theorem alter_ascending
    [Std.TransOrd κ]
    [Std.LawfulEqOrd κ]
    {key : κ}
    {f : Option ν → ν}
    {entries : List (κ × ν)}
    (h : Ascending entries) :
    Ascending (alter key f entries) := by
  induction entries with
  | nil => exact List.pairwise_singleton _ _
  | cons p rest ih =>
      obtain ⟨k, v⟩ := p
      have hp := List.pairwise_cons.mp h
      rw [alter]
      split
      · next hlt =>
          refine List.pairwise_cons.mpr ⟨fun e he => ?_, h⟩
          rcases List.mem_cons.mp he with rfl | he
          · exact hlt
          · exact Std.TransCmp.lt_trans hlt (hp.1 e he)
      · next heq =>
          have hk := Std.LawfulEqOrd.compare_eq_iff_eq.mp heq
          subst hk
          exact List.pairwise_cons.mpr ⟨hp.1, hp.2⟩
      · next hgt =>
          refine List.pairwise_cons.mpr ⟨fun e he => ?_, ih hp.2⟩
          rcases mem_alter he with hk | he
          · simpa [hk] using Std.OrientedCmp.lt_of_gt hgt
          · exact hp.1 e he

/- Looking a key up, by cases on the first key. -/
omit [Ord κ] in
private theorem lookup_cons_eq
    [DecidableEq κ]
    {key k : κ}
    {v : ν}
    {rest : List (κ × ν)} :
    List.lookup key ((k, v) :: rest) =
      if key = k then some v else List.lookup key rest := by
  rw [List.lookup_cons]
  by_cases h : key = k
  · simp [h]
  · simp [h, beq_false_of_ne h]

/- A key below all keys of a list has no value in it. -/
private theorem lookup_eq_none
    [Std.LawfulEqOrd κ]
    [DecidableEq κ]
    {key : κ}
    {entries : List (κ × ν)}
    (h : ∀ e ∈ entries, compare key e.1 = .lt) :
    entries.lookup key = none := by
  induction entries with
  | nil => rfl
  | cons p rest ih =>
      have hne : key ≠ p.1 := by
        intro e
        have := h p (by simp)
        simp [e] at this
      obtain ⟨k, v⟩ := p
      rw [lookup_cons_eq, if_neg hne]
      exact ih fun e he => h e (by simp [he])

private theorem lookup_alter
    [Std.TransOrd κ]
    [Std.LawfulEqOrd κ]
    [DecidableEq κ]
    {key key' : κ}
    {f : Option ν → ν}
    {entries : List (κ × ν)}
    (h : Ascending entries) :
    (alter key f entries).lookup key' =
      if key' = key then
        some (f (entries.lookup key))
      else
        entries.lookup key' := by
  induction entries with
  | nil =>
      by_cases hkey : key' = key <;> simp [hkey, alter, lookup_cons_eq]
  | cons p rest ih =>
      obtain ⟨k, v⟩ := p
      have hp := List.pairwise_cons.mp h
      rw [alter]
      split
      · next hlt =>
          have hnone : List.lookup key ((k, v) :: rest) = none := by
            apply lookup_eq_none
            intro e he
            rcases List.mem_cons.mp he with rfl | he
            · exact hlt
            · exact Std.TransCmp.lt_trans hlt (hp.1 e he)
          rw [lookup_cons_eq, hnone]
      · next heq =>
          have hk := Std.LawfulEqOrd.compare_eq_iff_eq.mp heq
          subst hk
          by_cases hkey : key' = key <;> simp [hkey, lookup_cons_eq]
      · next hgt =>
          simp only [lookup_cons_eq, ih hp.2]
          by_cases hkey : key' = key
          · subst hkey
            have hne : key' ≠ k := by
              intro e
              simp [e] at hgt
            simp [hne]
          · simp [hkey]

/- In an ascending list an entry is found by its key. -/
private theorem lookup_eq_some_iff
    [Std.LawfulEqOrd κ]
    [DecidableEq κ]
    {key : κ}
    {value : ν}
    {entries : List (κ × ν)}
    (h : Ascending entries) :
    entries.lookup key = some value ↔ (key, value) ∈ entries := by
  induction entries with
  | nil => simp
  | cons p rest ih =>
      obtain ⟨k, v⟩ := p
      have hp := List.pairwise_cons.mp h
      rw [lookup_cons_eq]
      by_cases hk : key = k
      · subst hk
        have hnot : (key, value) ∉ rest := by
          intro hm
          have := hp.1 _ hm
          simp at this
        simp [hnot, eq_comm]
      · simp [hk, ih hp.2]

end Entries

------------------------------------------------------------
-- Maps
------------------------------------------------------------

/- A finite map, listed in strictly ascending order of keys. -/
structure SortedMap
    (κ ν : Type)
    [Ord κ] where
  toList : List (κ × ν)
  ascending : Entries.Ascending toList

namespace SortedMap

variable {κ ν : Type}
variable [Ord κ]

/- The map without entries. -/
def empty : SortedMap κ ν :=
  ⟨[], .nil⟩

instance : Inhabited (SortedMap κ ν) :=
  ⟨empty⟩

instance
    [DecidableEq κ]
    [DecidableEq ν] :
    DecidableEq (SortedMap κ ν) :=
  fun s t =>
    match decEq s.toList t.toList with
    | .isTrue h => .isTrue (by cases s; cases t; simp_all)
    | .isFalse h => .isFalse fun e => h (congrArg toList e)

/- Number of entries. -/
def size
    (m : SortedMap κ ν) : Nat :=
  m.toList.length

/- Does the map have no entry? -/
def isEmpty
    (m : SortedMap κ ν) : Bool :=
  m.toList.isEmpty

/- The keys, ascending. -/
def keys
    (m : SortedMap κ ν) : List κ :=
  m.toList.map Prod.fst

/- The value of a key. -/
def get?
    [DecidableEq κ]
    (m : SortedMap κ ν)
    (key : κ) : Option ν :=
  m.toList.lookup key

/- A map is determined by its listing. -/
theorem eq_of_toList_eq
    {m n : SortedMap κ ν}
    (h : m.toList = n.toList) :
    m = n := by
  cases m
  cases n
  simp_all

@[simp]
theorem get?_empty
    [DecidableEq κ]
    {key : κ} :
    (empty : SortedMap κ ν).get? key = none :=
  rfl

------------------------------------------------------------
-- Order
------------------------------------------------------------

/- Entries are ordered by key, and by value for one key. -/
def compareEntry
    [Ord ν] :
    κ × ν → κ × ν → Ordering :=
  compareLex (compareOn Prod.fst) (compareOn Prod.snd)

/- Maps are ordered as their listings, entry by entry. -/
instance
    [Ord ν] :
    Ord (SortedMap κ ν) where
  compare m n := List.compareLex compareEntry m.toList n.toList

/- The order of listings is transitive. -/
private theorem compareEntries_trans
    [Ord ν]
    [Std.TransOrd κ]
    [Std.TransOrd ν] :
    Std.TransCmp (List.compareLex (compareEntry (κ := κ) (ν := ν))) :=
  inferInstanceAs
    (Std.TransCmp (List.compareLex (compareLex _ _)))

/- The order of entries tells all entries apart. -/
theorem compareEntry_lawful
    [Ord ν]
    [Std.LawfulEqOrd κ]
    [Std.LawfulEqOrd ν] :
    Std.LawfulEqCmp (compareEntry (κ := κ) (ν := ν)) where
  compare_self := by
    intro p
    simp only [compareEntry, compareLex_eq_eq, compareOn]
    exact ⟨Std.ReflOrd.compare_self, Std.ReflOrd.compare_self⟩
  eq_of_compare := by
    intro p q h
    simp only [compareEntry, compareLex_eq_eq, compareOn] at h
    exact Prod.ext
      (Std.LawfulEqOrd.eq_of_compare h.1)
      (Std.LawfulEqOrd.eq_of_compare h.2)

/- The order of listings tells all listings apart. -/
private theorem compareEntries_lawful
    [Ord ν]
    [Std.LawfulEqOrd κ]
    [Std.LawfulEqOrd ν] :
    Std.LawfulEqCmp (List.compareLex (compareEntry (κ := κ) (ν := ν))) :=
  have := compareEntry_lawful (κ := κ) (ν := ν)
  inferInstance

instance
    [Ord ν]
    [Std.TransOrd κ]
    [Std.TransOrd ν] :
    Std.TransOrd (SortedMap κ ν) where
  eq_swap := compareEntries_trans.eq_swap
  isLE_trans := compareEntries_trans.isLE_trans

instance
    [Ord ν]
    [Std.LawfulEqOrd κ]
    [Std.LawfulEqOrd ν] :
    Std.LawfulEqOrd (SortedMap κ ν) where
  compare_self := compareEntries_lawful.compare_self
  eq_of_compare h :=
    eq_of_toList_eq (compareEntries_lawful.eq_of_compare h)

------------------------------------------------------------
-- Look-Ups
------------------------------------------------------------

variable [Std.LawfulEqOrd κ]
variable [DecidableEq κ]

/- The entries are the keys with their values. -/
theorem mem_toList_iff
    {m : SortedMap κ ν}
    {key : κ}
    {value : ν} :
    (key, value) ∈ m.toList ↔ m.get? key = some value :=
  (Entries.lookup_eq_some_iff m.ascending).symm

theorem mem_keys_iff
    {m : SortedMap κ ν}
    {key : κ} :
    key ∈ m.keys ↔ (m.get? key).isSome := by
  simp only [keys, List.mem_map, Prod.exists, exists_and_right,
    exists_eq_right, mem_toList_iff, Option.isSome_iff_exists]

omit [DecidableEq κ] in
/- No key has two values. -/
theorem nodup_keys
    (m : SortedMap κ ν) :
    m.keys.Nodup := by
  rw [keys, List.Nodup, List.pairwise_map]
  apply m.ascending.imp
  intro p q hlt hkey
  simp [hkey] at hlt

/- Maps with the same look-ups are equal. -/
@[ext]
theorem ext
    [Std.TransOrd κ]
    {m n : SortedMap κ ν}
    (h : ∀ key, m.get? key = n.get? key) :
    m = n := by
  have hmem : ∀ e, e ∈ m.toList ↔ e ∈ n.toList := by
    rintro ⟨k, v⟩
    rw [mem_toList_iff, mem_toList_iff, h]
  apply eq_of_toList_eq
  have hnodup
      (m : SortedMap κ ν) :
      m.toList.Nodup := by
    apply m.ascending.imp
    intro p q hlt e
    subst e
    simp at hlt
  have hperm : m.toList.Perm n.toList :=
    (List.perm_ext_iff_of_nodup (hnodup m) (hnodup n)).mpr hmem
  apply hperm.eq_of_pairwise _ m.ascending n.ascending
  intro p q _ _ h₁ h₂
  exact absurd h₁ (Std.OrientedCmp.not_lt_of_lt h₂)

variable [Std.TransOrd κ]

/-
  Replace the value of one key by a function of the value it
  has, if any.
-/
def alter
    (m : SortedMap κ ν)
    (key : κ)
    (f : Option ν → ν) : SortedMap κ ν :=
  ⟨Entries.alter key f m.toList, Entries.alter_ascending m.ascending⟩

/- Set the value of one key. -/
def insert
    (m : SortedMap κ ν)
    (key : κ)
    (value : ν) : SortedMap κ ν :=
  m.alter key fun _ => value

/- Enter a list of entries in turn; the last one of a key wins. -/
def ofList
    (entries : List (κ × ν)) : SortedMap κ ν :=
  entries.foldl (fun m e => m.insert e.1 e.2) empty

@[simp]
theorem get?_alter
    {m : SortedMap κ ν}
    {key key' : κ}
    {f : Option ν → ν} :
    (m.alter key f).get? key' =
      if key' = key then some (f (m.get? key)) else m.get? key' :=
  Entries.lookup_alter m.ascending

@[simp]
theorem get?_insert
    {m : SortedMap κ ν}
    {key key' : κ}
    {value : ν} :
    (m.insert key value).get? key' =
      if key' = key then some value else m.get? key' :=
  get?_alter

------------------------------------------------------------
-- Maps From Lists
------------------------------------------------------------

/- Entries with distinct keys are found behind all others. -/
private theorem get?_foldl_insert_eq_some_iff
    {m : SortedMap κ ν}
    {entries : List (κ × ν)}
    {key : κ}
    {value : ν}
    (hKeys : (entries.map Prod.fst).Nodup) :
    (entries.foldl (fun m e => m.insert e.1 e.2) m).get? key =
        some value ↔
      (key, value) ∈ entries ∨
        key ∉ entries.map Prod.fst ∧ m.get? key = some value := by
  induction entries generalizing m with
  | nil => simp
  | cons e entries ih =>
      rw [List.map_cons, List.nodup_cons] at hKeys
      rw [List.foldl_cons, ih hKeys.2, get?_insert]
      rcases e with ⟨first, _⟩
      by_cases hFirst : key = first
      · subst hFirst
        have hOnce : (key, value) ∉ entries := fun hMember =>
          hKeys.1 (List.mem_map.mpr ⟨_, hMember, rfl⟩)
        simp [hOnce, hKeys.1, eq_comm]
      · simp [hFirst]

/- A map of entries with distinct keys has just these. -/
theorem get?_ofList_eq_some_iff
    {entries : List (κ × ν)}
    {key : κ}
    {value : ν}
    (hKeys : (entries.map Prod.fst).Nodup) :
    (ofList entries).get? key = some value ↔
      (key, value) ∈ entries := by
  rw [ofList, get?_foldl_insert_eq_some_iff hKeys]
  simp

/- A map is made of its entries, in whatever order. -/
theorem ofList_eq_of_perm
    {entries : List (κ × ν)}
    {m : SortedMap κ ν}
    (hEntries : entries.Perm m.toList) :
    ofList entries = m := by
  have hKeys : (entries.map Prod.fst).Nodup :=
    (hEntries.map Prod.fst).nodup_iff.mpr m.nodup_keys
  ext key value
  rw [get?_ofList_eq_some_iff hKeys, hEntries.mem_iff,
    mem_toList_iff]

/- Listing a map and collecting the listing is no change. -/
@[simp]
theorem ofList_toList
    (m : SortedMap κ ν) :
    ofList m.toList = m :=
  ofList_eq_of_perm (.refl m.toList)

end SortedMap

end QuestionQuery
