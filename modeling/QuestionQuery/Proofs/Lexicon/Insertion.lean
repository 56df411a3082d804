import Mathlib.Data.Finset.Card
import QuestionQuery.Lexicon.Index

/-
  Indexes over whole runs of insertions.

  An insertion puts a resource behind the others of its label
  unless it is there, and leaves all other labels alone.  So
  a run of insertions keeps every list as it was and puts the
  new resources of its label behind it, each where it was
  inserted first.  This holds for any lists to start with,
  also for lists with repeats and for empty ones, which no
  insertion makes.

  Key definitions include:
    * `Index.insertAll`
    * `Index.resourcesOf`
    * `Index.IsTidy`

  Main statements:
    * `Index.search_insertAll`
    * `Index.mem_search_ofPairs`
    * `Index.mem_keys_insertAll`
    * `Index.IsTidy.insertAll`
    * `Index.insertAll_appends_unseen`
-/

------------------------------------------------------------
-- One Insertion
------------------------------------------------------------

namespace QuestionQuery

namespace Index

variable {index : Index}
variable {label uri other : String}

/- What is stored under a label behind an insertion. -/
theorem get?_insert :
    (index.insert label uri).entries.get? other =
      if other = label then
        some
          (if uri ∈ index.search label then
            index.search label
          else
            index.search label ++ [uri])
      else
        index.entries.get? other :=
  SortedMap.get?_alter

/- An insertion stores its label. -/
theorem mem_keys_insert :
    other ∈ (index.insert label uri).entries.keys ↔
      other = label ∨ other ∈ index.entries.keys := by
  rw [SortedMap.mem_keys_iff, SortedMap.mem_keys_iff, get?_insert]
  by_cases hLabel : other = label <;> simp [hLabel]

/-
  Is there a resource under every label that is stored, and
  none of them twice?
-/
def IsTidy
    (index : Index) : Prop :=
  ∀ label uris,
    index.entries.get? label = some uris → uris ≠ [] ∧ uris.Nodup

theorem isTidy_empty :
    empty.IsTidy := by
  intro label uris hStored
  cases hStored

/- What is found in a tidy index is not repeated. -/
theorem IsTidy.nodup_search
    (hTidy : index.IsTidy) :
    (index.search label).Nodup := by
  rw [search]
  cases hStored : index.entries.get? label with
  | none => exact List.nodup_nil
  | some uris => exact (hTidy label uris hStored).2

/- A tidy index stays tidy. -/
theorem IsTidy.insert
    (hTidy : index.IsTidy) :
    (index.insert label uri).IsTidy := by
  intro other uris hStored
  rw [get?_insert] at hStored
  split at hStored
  · cases hStored
    split
    · next hKnown =>
        exact ⟨List.ne_nil_of_mem hKnown, hTidy.nodup_search⟩
    · next hNew =>
        exact
          ⟨by simp,
            List.nodup_append_comm.mpr
              (hTidy.nodup_search.cons hNew)⟩
  · exact hTidy other uris hStored

end Index

end QuestionQuery

------------------------------------------------------------
-- Runs Of Insertions
------------------------------------------------------------

namespace QuestionQuery

namespace Index

variable {index : Index}
variable {pairs : List (String × String)}
variable {label : String}

/- Insert pairs of a label and a resource, in turn. -/
def insertAll
    (index : Index)
    (pairs : List (String × String)) : Index :=
  pairs.foldl (fun index p => index.insert p.1 p.2) index

/- The resources that pairs have for a label, in turn. -/
def resourcesOf
    (label : String)
    (pairs : List (String × String)) : List String :=
  (pairs.filter (·.1 = label)).map Prod.snd

/- An index of pairs is what a run makes of the empty one. -/
theorem ofPairs_eq_insertAll
    (pairs : List (String × String)) :
    ofPairs pairs = empty.insertAll pairs :=
  rfl

theorem insertAll_cons
    (index : Index)
    (p : String × String)
    (pairs : List (String × String)) :
    index.insertAll (p :: pairs) =
      (index.insert p.1 p.2).insertAll pairs :=
  rfl

/- Two runs after each other are one run. -/
theorem insertAll_append
    (index : Index)
    (first second : List (String × String)) :
    index.insertAll (first ++ second) =
      (index.insertAll first).insertAll second :=
  List.foldl_append

theorem resourcesOf_cons
    (label : String)
    (p : String × String)
    (pairs : List (String × String)) :
    resourcesOf label (p :: pairs) =
      if p.1 = label then
        p.2 :: resourcesOf label pairs
      else
        resourcesOf label pairs := by
  by_cases hLabel : p.1 = label <;> simp [resourcesOf, hLabel]

/-
  The items of a list that some others lack may be put behind
  the others with the first item of the list put there first.
-/
private theorem append_eraseDups_filter_cons
    (known new : List String)
    (uri : String) :
    known ++ ((uri :: new).filter (· ∉ known)).eraseDups =
      (if uri ∈ known then known else known ++ [uri]) ++
        (new.filter
          (· ∉ if uri ∈ known then known else known ++ [uri])).eraseDups := by
  by_cases hKnown : uri ∈ known
  · simp [hKnown]
  · have hOthers :
        (new.filter (· ∉ known)).filter (fun other => !other == uri) =
          new.filter (· ∉ known ++ [uri]) := by
      rw [List.filter_filter]
      apply List.filter_congr
      intro other _
      by_cases hSame : other = uri <;> simp [hSame]
    simp only [if_neg hKnown]
    rw [List.filter_cons_of_pos (by simpa using hKnown),
      List.eraseDups_cons, hOthers, List.append_assoc,
      List.singleton_append]

/-
  Behind a run a label has the resources that it had, and
  then those that it did not have, as they were inserted and
  each once.
-/
theorem search_insertAll
    (index : Index)
    (pairs : List (String × String))
    (label : String) :
    (index.insertAll pairs).search label =
      index.search label ++
        ((resourcesOf label pairs).filter
          (· ∉ index.search label)).eraseDups := by
  induction pairs generalizing index with
  | nil => simp [insertAll, resourcesOf]
  | cons p pairs ih =>
      rw [insertAll_cons, ih, resourcesOf_cons]
      by_cases hLabel : p.1 = label
      · have hStep :
            (index.insert p.1 p.2).search label =
              if p.2 ∈ index.search label then
                index.search label
              else
                index.search label ++ [p.2] := by
          rw [search_insert]
          by_cases hKnown : p.2 ∈ index.search label <;>
            simp [hLabel, hKnown]
        rw [if_pos hLabel, append_eraseDups_filter_cons, hStep]
      · have hStep :
            (index.insert p.1 p.2).search label =
              index.search label := by
          rw [search_insert]
          simp [Ne.symm hLabel]
        rw [if_neg hLabel, hStep]

/- A label that is not inserted has no new resources. -/
theorem resourcesOf_eq_nil
    (hLabel : label ∉ pairs.map Prod.fst) :
    resourcesOf label pairs = [] := by
  rw [resourcesOf, List.map_eq_nil_iff, List.filter_eq_nil_iff]
  intro p hPair hSame
  exact hLabel
    (List.mem_map.mpr ⟨p, hPair, of_decide_eq_true hSame⟩)

theorem mem_resourcesOf
    {uri : String} :
    uri ∈ resourcesOf label pairs ↔ (label, uri) ∈ pairs := by
  simp [resourcesOf]

/- Pairs are found in the index of them, and nothing else. -/
theorem mem_search_ofPairs
    {uri : String} :
    uri ∈ (ofPairs pairs).search label ↔ (label, uri) ∈ pairs := by
  have hNone : empty.search label = [] := rfl
  rw [ofPairs_eq_insertAll, search_insertAll, hNone,
    List.nil_append, List.mem_eraseDups, List.mem_filter,
    mem_resourcesOf]
  simp

/- The labels behind a run. -/
theorem mem_keys_insertAll :
    label ∈ (index.insertAll pairs).entries.keys ↔
      label ∈ index.entries.keys ∨ label ∈ pairs.map Prod.fst := by
  induction pairs generalizing index with
  | nil => simp [insertAll]
  | cons p pairs ih =>
      rw [insertAll_cons, ih, mem_keys_insert, List.map_cons,
        List.mem_cons]
      tauto

/- The labels are counted, each once. -/
theorem size_insertAll
    (index : Index)
    (pairs : List (String × String)) :
    (index.insertAll pairs).size =
      (index.entries.keys ++ pairs.map Prod.fst).toFinset.card := by
  have hKeys :
      (index.entries.keys ++ pairs.map Prod.fst).toFinset =
        (index.insertAll pairs).entries.keys.toFinset := by
    ext label
    simp only [List.mem_toFinset, List.mem_append,
      mem_keys_insertAll]
  rw [hKeys,
    List.toFinset_card_of_nodup (SortedMap.nodup_keys _),
    SortedMap.keys, List.length_map]
  rfl

/- There is no label just if no label is stored. -/
theorem isEmpty_iff :
    index.isEmpty ↔ ∀ label, label ∉ index.entries.keys := by
  rw [← List.eq_nil_iff_forall_not_mem, SortedMap.keys,
    List.map_eq_nil_iff]
  exact List.isEmpty_iff

/- A run that inserts anything leaves a label. -/
theorem isEmpty_insertAll_iff :
    (index.insertAll pairs).isEmpty ↔
      index.isEmpty ∧ pairs = [] := by
  simp only [isEmpty_iff, mem_keys_insertAll, not_or, forall_and,
    ← List.eq_nil_iff_forall_not_mem, List.map_eq_nil_iff]

/- A run leaves a tidy index tidy. -/
theorem IsTidy.insertAll
    (hTidy : index.IsTidy)
    (pairs : List (String × String)) :
    (index.insertAll pairs).IsTidy := by
  induction pairs generalizing index with
  | nil => exact hTidy
  | cons p pairs ih => exact ih hTidy.insert

end Index

end QuestionQuery

------------------------------------------------------------
-- What A Run Leaves
------------------------------------------------------------

namespace QuestionQuery

namespace Index

/-
  Whatever an index holds, a run of insertions puts the new
  resources of each label behind those that it had, each once
  and where it was inserted first.  Other labels are found as
  before, the labels are those that were stored or inserted,
  and there are none only if there were none and none came.
  An index of pairs has no empty list and no repeats, however
  many pairs come behind.
-/
theorem insertAll_appends_unseen
    (index : Index)
    (pairs : List (String × String)) :
    (∀ label,
      (index.insertAll pairs).search label =
        index.search label ++
          ((resourcesOf label pairs).filter
            (· ∉ index.search label)).eraseDups) ∧
    (∀ label,
      label ∉ pairs.map Prod.fst →
        (index.insertAll pairs).search label =
          index.search label) ∧
    (index.insertAll pairs).size =
      (index.entries.keys ++ pairs.map Prod.fst).toFinset.card ∧
    ((index.insertAll pairs).isEmpty ↔
      index.isEmpty ∧ pairs = []) ∧
    ∀ first label uris,
      ((ofPairs first).insertAll pairs).entries.get? label =
          some uris →
        uris ≠ [] ∧ uris.Nodup := by
  refine ⟨search_insertAll index pairs, ?_,
    size_insertAll index pairs, isEmpty_insertAll_iff, ?_⟩
  · intro label hLabel
    rw [search_insertAll, resourcesOf_eq_nil hLabel]
    simp
  · intro first label uris hStored
    rw [ofPairs_eq_insertAll, ← insertAll_append] at hStored
    exact isTidy_empty.insertAll (first ++ pairs) label uris
      hStored

/- An index with a repeated resource and an empty list. -/
def waters : Index :=
  ⟨.ofList [("lake", []), ("river", ["uri:River", "uri:River"])]⟩

/- Insertions under an old label and a new one. -/
def watersAndSea : List (String × String) :=
  [("river", "uri:Stream"), ("sea", "uri:Sea"),
    ("river", "uri:River"), ("river", "uri:Creek"),
    ("river", "uri:Stream")]

theorem search_waters_insertAll :
    (waters.insertAll watersAndSea).search "river" =
      ["uri:River", "uri:River", "uri:Stream", "uri:Creek"] ∧
    "lake" ∉ watersAndSea.map Prod.fst ∧
    (waters.insertAll watersAndSea).search "lake" = [] ∧
    (waters.insertAll watersAndSea).size = 3 ∧
    (waters.insertAll watersAndSea).isEmpty = false ∧
    ((ofPairs [("river", "uri:Creek")]).insertAll
          watersAndSea).entries.get? "river" =
      some ["uri:Creek", "uri:Stream", "uri:River"] ∧
    ["uri:Creek", "uri:Stream", "uri:River"].Nodup := by
  have hRun := insertAll_appends_unseen waters watersAndSea
  have hLake : "lake" ∉ watersAndSea.map Prod.fst := by
    decide
  have hCreek :
      ((ofPairs [("river", "uri:Creek")]).insertAll
            watersAndSea).entries.get? "river" =
        some ["uri:Creek", "uri:Stream", "uri:River"] := by
    decide +kernel
  refine ⟨?_, hLake, ?_, ?_, ?_, hCreek,
    (hRun.2.2.2.2 _ _ _ hCreek).2⟩
  · rw [hRun.1]
    decide +kernel
  · rw [hRun.2.1 "lake" hLake]
    decide +kernel
  · rw [hRun.2.2.1]
    decide +kernel
  · rw [Bool.eq_false_iff, ne_eq, hRun.2.2.2.1]
    simp [watersAndSea]

end Index

end QuestionQuery
