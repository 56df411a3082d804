import Mathlib.Data.List.Nodup
import QuestionQuery.Proofs.Json.Reading
import QuestionQuery.Tree.Document

/-
  Which JSON values are nodes of trees.

  A record is read field by field, and each part of a node is
  filled by the values of its keys alone.  So a part is there
  just if one of its keys is, and is refused if there are two
  values for it or if the value has another shape.  What a
  node has to look like is thereby told without the reading:
  `IsNode` relates a value to the tree it stands for.

  Key definitions include:
    * `ParseTree.Field.keys`
    * `ParseTree.Field.values`
    * `ParseTree.Fills`
    * `ParseTree.AreAnnotations`
    * `Json.HasDistinctKeys`
    * `ParseTree.IsNode`

  Main statements:
    * `ParseTree.partsOf?_eq_some_iff`
    * `ParseTree.fills_list_iff`
    * `ParseTree.ofJson?_record_eq_some_iff`
    * `ParseTree.ofJson?_list`
    * `ParseTree.ofJson?_eq_some_iff`
-/

------------------------------------------------------------
-- Values Of Fields
------------------------------------------------------------

namespace QuestionQuery

namespace ParseTree

/- The keys that the tag of a node goes by. -/
def tagKeys : List String :=
  ["pos_tag", "posTag", "pos"]

/- The keys that a field goes by. -/
def Field.keys : Field → List String
  | .label => ["label"]
  | .tag => tagKeys
  | .baseForm => ["lemma"]
  | .children => ["children"]
  | .annotations => ["annotations"]

/- A field is found by its keys. -/
theorem Field.ofKey?_eq_some_iff
    {key : String}
    {k : Field} :
    ofKey? key = some k ↔ key ∈ k.keys := by
  unfold ofKey?
  split <;> cases k <;> simp_all [keys, tagKeys]

/- The values of a field in a record, under any of its keys. -/
def Field.values
    (k : Field)
    (fields : List (String × Json)) : List Json :=
  (fields.filter fun e => ofKey? e.1 = some k).map Prod.snd

theorem Field.values_nil
    {k : Field} :
    k.values [] = [] :=
  rfl

/- The first field counts for the part with its key. -/
theorem Field.values_cons
    {k : Field}
    {key : String}
    {v : Json}
    {fields : List (String × Json)} :
    k.values ((key, v) :: fields) =
      if ofKey? key = some k then
        v :: k.values fields
      else
        k.values fields := by
  by_cases hKey : ofKey? key = some k <;> simp [values, hKey]

/-
  What a part of a node is once some values are read for it.
  There is one value at most, also with what is there before.
-/
inductive Fills
    {α : Type}
    (read : Json → Option α) :
    Option α → List Json → Option α → Prop
  | keep
      (old : Option α) :
      Fills read old [] old
  | take
      {v : Json}
      {a : α}
      (hRead : read v = some a) :
      Fills read none [v] (some a)

variable {α : Type}
variable {read : Json → Option α}
variable {old new : Option α}

theorem fills_nil_iff :
    Fills read old [] new ↔ old = new := by
  constructor
  · rintro ⟨⟩
    rfl
  · rintro rfl
    exact .keep old

/- The first value is read, and no other one may follow. -/
theorem fills_cons_iff
    {v : Json}
    {vs : List Json} :
    Fills read old (v :: vs) new ↔
      ∃ mid,
        fill? old (read v) = some mid ∧ Fills read mid vs new := by
  constructor
  · rintro ⟨⟩
    next a hRead => exact ⟨some a, by simp [fill?, hRead], .keep _⟩
  · rintro ⟨mid, hFill, hRest⟩
    cases old with
    | some a => simp [fill?] at hFill
    | none =>
        cases hRead : read v with
        | none => simp [fill?, hRead] at hFill
        | some a =>
            simp only [fill?, hRead, Option.some.injEq] at hFill
            subst hFill
            cases hRest
            exact .take hRead

/- What is filled from nothing is one value or none. -/
theorem fills_none_iff
    {vs : List Json} :
    Fills read none vs new ↔
      (vs = [] ∧ new = none) ∨
        ∃ v a, vs = [v] ∧ read v = some a ∧ new = some a := by
  constructor
  · rintro (_ | hRead)
    · exact .inl ⟨rfl, rfl⟩
    · exact .inr ⟨_, _, rfl, hRead, rfl⟩
  · rintro (⟨rfl, rfl⟩ | ⟨v, a, rfl, hRead, rfl⟩)
    · exact .keep none
    · exact .take hRead

/-
  The fields of a record fill the parts of a node, each part
  by the values of its own keys.
-/
theorem partsOf?_eq_some_iff
    {p q : Parts}
    {fields : List (String × Json)} :
    partsOf? p fields = some q ↔
      Fills textOf? p.label (Field.label.values fields) q.label ∧
      Fills textOf? p.tag (Field.tag.values fields) q.tag ∧
      Fills baseFormOf? p.baseForm
        (Field.baseForm.values fields) q.baseForm ∧
      Fills childrenOf? p.children
        (Field.children.values fields) q.children ∧
      Fills annotationsOf? p.annotations
        (Field.annotations.values fields) q.annotations := by
  induction fields generalizing p with
  | nil =>
      cases p
      cases q
      simp [partsOf?, Field.values_nil, fills_nil_iff]
  | cons field fields ih =>
      rcases field with ⟨key, v⟩
      simp only [Field.values_cons]
      cases hKey : Field.ofKey? key with
      | none => simp [partsOf?, hKey, ih]
      | some k =>
          cases k <;>
            simp [partsOf?, hKey, ih, fills_cons_iff,
              Option.bind_eq_some_iff] <;>
            grind

end ParseTree

end QuestionQuery

------------------------------------------------------------
-- Shapes Of Fields
------------------------------------------------------------

namespace QuestionQuery

/- One item of a list passes a test if it is the only one. -/
theorem filter_eq_singleton_iff
    {α : Type}
    {p : α → Bool}
    {xs : List α}
    {x : α}
    (hNodup : xs.Nodup) :
    xs.filter p = [x] ↔
      x ∈ xs ∧ p x ∧ ∀ y ∈ xs, p y → y = x := by
  constructor
  · intro hFilter
    have hMember (y : α) :
        y ∈ xs ∧ p y ↔ y = x := by
      rw [← List.mem_filter, hFilter, List.mem_singleton]
    have hSelf := (hMember x).mpr rfl
    refine ⟨hSelf.1, hSelf.2, ?_⟩
    intro y hy hTest
    exact (hMember y).mp ⟨hy, hTest⟩
  · rintro ⟨hMember, hTest, hOnly⟩
    apply List.perm_singleton.mp
    rw [List.perm_ext_iff_of_nodup (hNodup.filter p)
      (List.nodup_singleton x)]
    intro y
    rw [List.mem_filter, List.mem_singleton]
    constructor
    · rintro ⟨hy, hPass⟩
      exact hOnly y hy hPass
    · rintro rfl
      exact ⟨hMember, hTest⟩

namespace ParseTree

variable {fields : List (String × Json)}
variable {v : Json}

/- A field has no value if none of its keys is there. -/
theorem Field.values_eq_nil_iff
    {k : Field} :
    k.values fields = [] ↔
      ∀ key ∈ k.keys, key ∉ fields.map Prod.fst := by
  simp only [values, List.map_eq_nil_iff, List.filter_eq_nil_iff,
    decide_eq_true_eq, ofKey?_eq_some_iff, List.mem_map]
  grind

/- A field has one value if one of its keys is there. -/
theorem Field.values_eq_singleton_iff
    {k : Field}
    (hKeys : (fields.map Prod.fst).Nodup) :
    k.values fields = [v] ↔
      ∃ key ∈ k.keys,
        (key, v) ∈ fields ∧
          ∀ other ∈ k.keys,
            other ∈ fields.map Prod.fst → other = key := by
  rw [values, List.map_eq_singleton_iff]
  simp only [filter_eq_singleton_iff hKeys.of_map,
    decide_eq_true_eq, ofKey?_eq_some_iff]
  constructor
  · rintro ⟨⟨key, w⟩, ⟨hMember, hKey, hOnly⟩, rfl⟩
    refine ⟨key, hKey, hMember, ?_⟩
    intro other hOther hThere
    rcases List.mem_map.mp hThere with ⟨e, hEntry, rfl⟩
    rw [hOnly e hEntry hOther]
  · rintro ⟨key, hKey, hMember, hOnly⟩
    refine ⟨(key, v), ⟨hMember, hKey, ?_⟩, rfl⟩
    intro e hEntry hOther
    have hSame : e.1 = key :=
      hOnly e.1 hOther (List.mem_map_of_mem hEntry)
    exact List.inj_on_of_nodup_map hKeys hEntry hMember hSame

/- A field with one key is filled by what stands there. -/
theorem fills_values_iff
    {α : Type}
    {read : Json → Option α}
    {new : Option α}
    {k : Field}
    {key : String}
    (hKeys : (fields.map Prod.fst).Nodup)
    (hKey : k.keys = [key]) :
    Fills read none (k.values fields) new ↔
      (key ∉ fields.map Prod.fst ∧ new = none) ∨
        ∃ v a,
          (key, v) ∈ fields ∧ read v = some a ∧ new = some a := by
  simp only [fills_none_iff, Field.values_eq_nil_iff,
    Field.values_eq_singleton_iff hKeys, hKey,
    List.mem_singleton, forall_eq, exists_eq_left]
  simp

/- A text is read of a text. -/
theorem textOf?_eq_some_iff
    {s : String} :
    textOf? v = some s ↔ v = .text s := by
  cases v <;> simp [textOf?]

/- Texts are read of a list of them. -/
theorem textsOf?_eq_some_iff
    {items : List Json}
    {texts : List String} :
    textsOf? items = some texts ↔ items = texts.map .text := by
  induction items generalizing texts with
  | nil => cases texts <;> simp [textsOf?]
  | cons v items ih =>
      cases texts with
      | nil => simp [textsOf?, Option.bind_eq_some_iff]
      | cons s texts =>
          simp [textsOf?, Option.bind_eq_some_iff, ih,
            textOf?_eq_some_iff]

/- A base form is a text, or null if there is none. -/
theorem baseFormOf?_eq_some_iff
    {base : Option String} :
    baseFormOf? v = some base ↔
      (v = .null ∧ base = none) ∨
        ∃ form, v = .text form ∧ base = some form := by
  cases v <;> simp [baseFormOf?, eq_comm]

/- Children are read of a list of nodes. -/
theorem childrenOf?_eq_some_iff
    {ts : List ParseTree} :
    childrenOf? v = some ts ↔
      ∃ items, v = .list items ∧ treesOf? items = some ts := by
  cases v <;> simp [childrenOf?]

/-
  Do some values list a set of texts?  They may stand in any
  order, and more than once.
-/
def AreAnnotations
    (items : List Json)
    (annotations : SortedSet String) : Prop :=
  ∃ uris : List String,
    items = uris.map .text ∧
      ∀ uri, uri ∈ annotations ↔ uri ∈ uris

/- Annotations are read of a list of texts. -/
theorem annotationsOf?_eq_some_iff
    {annotations : SortedSet String} :
    annotationsOf? v = some annotations ↔
      ∃ items,
        v = .list items ∧ AreAnnotations items annotations := by
  cases v with
  | list items =>
      simp only [annotationsOf?, Option.map_eq_some_iff,
        textsOf?_eq_some_iff, Json.list.injEq, exists_eq_left',
        AreAnnotations]
      constructor
      · rintro ⟨uris, hItems, rfl⟩
        exact ⟨uris, hItems, fun uri => SortedSet.mem_ofList⟩
      · rintro ⟨uris, hItems, hMembers⟩
        refine ⟨uris, hItems, ?_⟩
        ext uri
        rw [SortedSet.mem_ofList, hMembers]
  | _ => simp [annotationsOf?]

/- No values list the empty set, and nothing else. -/
theorem areAnnotations_nil_iff
    {annotations : SortedSet String} :
    AreAnnotations [] annotations ↔ .empty = annotations := by
  rw [eq_comm, SortedSet.eq_empty_iff_forall_notMem]
  simp [AreAnnotations]

end ParseTree

end QuestionQuery

------------------------------------------------------------
-- Nodes
------------------------------------------------------------

namespace QuestionQuery

/- Does no record in a value have a key twice? -/
inductive Json.HasDistinctKeys : Json → Prop
  | null : HasDistinctKeys .null
  | bool
      (b : Bool) :
      HasDistinctKeys (.bool b)
  | number
      (n : Number) :
      HasDistinctKeys (.number n)
  | text
      (s : String) :
      HasDistinctKeys (.text s)
  | list
      {items : List Json}
      (hItems : ∀ v ∈ items, HasDistinctKeys v) :
      HasDistinctKeys (.list items)
  | record
      {fields : List (String × Json)}
      (hKeys : (fields.map Prod.fst).Nodup)
      (hFields : ∀ field ∈ fields, HasDistinctKeys field.2) :
      HasDistinctKeys (.record fields)

attribute [simp] Json.HasDistinctKeys.null
attribute [simp] Json.HasDistinctKeys.bool
attribute [simp] Json.HasDistinctKeys.number
attribute [simp] Json.HasDistinctKeys.text

@[simp]
theorem Json.hasDistinctKeys_list_iff
    {items : List Json} :
    HasDistinctKeys (.list items) ↔
      ∀ v ∈ items, v.HasDistinctKeys := by
  constructor
  · intro hList
    cases hList with
    | list hItems => exact hItems
  · exact .list

@[simp]
theorem Json.hasDistinctKeys_record_iff
    {fields : List (String × Json)} :
    HasDistinctKeys (.record fields) ↔
      (fields.map Prod.fst).Nodup ∧
        ∀ field ∈ fields, field.2.HasDistinctKeys := by
  constructor
  · intro hRecord
    cases hRecord with
    | record hKeys hFields => exact ⟨hKeys, hFields⟩
  · intro hRecord
    exact .record hRecord.1 hRecord.2

namespace ParseTree

/- The keys of the parts of a node, in their order. -/
def listKeys : List String :=
  ["label", "pos_tag", "lemma", "children", "annotations"]

/- Does a record give a tag, under just one of its keys? -/
def GivesTag
    (fields : List (String × Json))
    (tag : String) : Prop :=
  ∃ key ∈ tagKeys,
    (key, .text tag) ∈ fields ∧
      ∀ other ∈ tagKeys,
        other ∈ fields.map Prod.fst → other = key

/- Does a record give a base form, or null or nothing for none? -/
def GivesBaseForm
    (fields : List (String × Json)) : Option String → Prop
  | some form => ("lemma", .text form) ∈ fields
  | none =>
    ("lemma", .null) ∈ fields ∨ "lemma" ∉ fields.map Prod.fst

/- Does a record give a list, or nothing for an empty one? -/
def GivesList
    (fields : List (String × Json))
    (key : String)
    (items : List Json) : Prop :=
  (key, .list items) ∈ fields ∨
    (key ∉ fields.map Prod.fst ∧ items = [])

mutual

/-
  Does a value have the shape of a node, with the label, the
  tag, the base form, the children and the annotations of a
  tree?  It is a record of them, whatever other keys it has,
  or a list of the first two to five of them.
-/
inductive IsNode : Json → ParseTree → Prop
  | record
      {fields : List (String × Json)}
      {items uris : List Json}
      {w : Word}
      {ts : List ParseTree}
      (hLabel : ("label", .text w.label) ∈ fields)
      (hTag : GivesTag fields w.tag)
      (hBaseForm : GivesBaseForm fields w.baseForm)
      (hChildren : GivesList fields "children" items)
      (hTrees : AreNodes items ts)
      (hAnnotations : GivesList fields "annotations" uris)
      (hUris : AreAnnotations uris w.annotations) :
      IsNode (.record fields) (.node w ts)
  | list
      {values : List Json}
      {t : ParseTree}
      (hLength : 2 ≤ values.length ∧ values.length ≤ 5)
      (hNode : IsNode (.record (listKeys.zip values)) t) :
      IsNode (.list values) t

/- Do values have the shape of nodes, one for each tree? -/
inductive AreNodes : List Json → List ParseTree → Prop
  | nil : AreNodes [] []
  | cons
      {v : Json}
      {t : ParseTree}
      {items : List Json}
      {ts : List ParseTree}
      (hFirst : IsNode v t)
      (hRest : AreNodes items ts) :
      AreNodes (v :: items) (t :: ts)

end

variable {fields : List (String × Json)}

/-
  A record is the node that its fields fill the parts of.
  What may be missing is empty then.
-/
theorem ofJson?_record_eq_some_iff
    {w : Word}
    {ts : List ParseTree} :
    ofJson? (.record fields) = some (.node w ts) ↔
      Fills textOf? none (Field.label.values fields)
        (some w.label) ∧
      Fills textOf? none (Field.tag.values fields) (some w.tag) ∧
      (∃ base,
        Fills baseFormOf? none (Field.baseForm.values fields)
            base ∧
          base.getD none = w.baseForm) ∧
      (∃ trees,
        Fills childrenOf? none (Field.children.values fields)
            trees ∧
          trees.getD [] = ts) ∧
      ∃ annotations,
        Fills annotationsOf? none
            (Field.annotations.values fields) annotations ∧
          annotations.getD .empty = w.annotations := by
  rw [ofJson?, Option.bind_eq_some_iff]
  constructor
  · rintro ⟨q, hParts, hTree⟩
    rcases partsOf?_eq_some_iff.mp hParts with
      ⟨hLabel, hTag, hBase, hChildren, hAnnotations⟩
    simp only [Parts.tree?, Option.bind_eq_bind,
      Option.bind_eq_some_iff, Option.pure_def,
      Option.some.injEq, node.injEq] at hTree
    rcases hTree with ⟨label, hHasLabel, tag, hHasTag, rfl, rfl⟩
    exact
      ⟨hHasLabel ▸ hLabel, hHasTag ▸ hTag, ⟨_, hBase, rfl⟩,
        ⟨_, hChildren, rfl⟩, ⟨_, hAnnotations, rfl⟩⟩
  · rintro ⟨hLabel, hTag, ⟨base, hBase, hHasBase⟩,
      ⟨trees, hChildren, rfl⟩,
      ⟨annotations, hAnnotations, hHasAnnotations⟩⟩
    refine
      ⟨⟨some w.label, some w.tag, base, trees, annotations⟩,
        partsOf?_eq_some_iff.mpr
          ⟨hLabel, hTag, hBase, hChildren, hAnnotations⟩, ?_⟩
    simp [Parts.tree?, hHasBase, hHasAnnotations]

/- A list is read as the record of its parts. -/
theorem ofJson?_list
    {values : List Json}
    (hLength : 2 ≤ values.length ∧ values.length ≤ 5) :
    ofJson? (.list values) =
      ofJson? (.record (listKeys.zip values)) := by
  rcases values with
    _ | ⟨l, _ | ⟨t, _ | ⟨b, _ | ⟨c, _ | ⟨a, _ | ⟨_, _⟩⟩⟩⟩⟩⟩
  · simp at hLength
  · simp at hLength
  · cases hLabel : textOf? l <;>
      cases hTag : textOf? t <;>
      simp [ofJson?, partsOf?, listKeys, Field.ofKey?, fill?,
        hLabel, hTag, Parts.none, Parts.tree?]
  · cases hLabel : textOf? l <;>
      cases hTag : textOf? t <;>
      cases hBase : baseFormOf? b <;>
      simp [ofJson?, partsOf?, listKeys, Field.ofKey?, fill?,
        hLabel, hTag, hBase, Parts.none, Parts.tree?]
  · cases hLabel : textOf? l <;>
      cases hTag : textOf? t <;>
      cases hBase : baseFormOf? b <;>
      cases hChildren : childrenOf? c <;>
      simp [ofJson?, partsOf?, listKeys, Field.ofKey?, fill?,
        hLabel, hTag, hBase, hChildren, Parts.none, Parts.tree?]
  · cases hLabel : textOf? l <;>
      cases hTag : textOf? t <;>
      cases hBase : baseFormOf? b <;>
      cases hChildren : childrenOf? c <;>
      cases hAnnotations : annotationsOf? a <;>
      simp [ofJson?, partsOf?, listKeys, Field.ofKey?, fill?,
        hLabel, hTag, hBase, hChildren, hAnnotations,
        Parts.none, Parts.tree?]
  · simp only [List.length_cons] at hLength
    omega

/- A list of one part, or of too many, is no node. -/
theorem ofJson?_list_eq_none
    {values : List Json}
    (hLength : ¬(2 ≤ values.length ∧ values.length ≤ 5)) :
    ofJson? (.list values) = none := by
  rcases values with
    _ | ⟨l, _ | ⟨t, _ | ⟨b, _ | ⟨c, _ | ⟨a, _ | ⟨_, _⟩⟩⟩⟩⟩⟩
  · rfl
  · rfl
  · simp at hLength
  · simp at hLength
  · simp at hLength
  · simp at hLength
  · rfl

end ParseTree

end QuestionQuery

------------------------------------------------------------
-- Reading Nodes
------------------------------------------------------------

namespace QuestionQuery

namespace ParseTree

variable {fields : List (String × Json)}

/- The label is the text at its key. -/
theorem fills_label_iff
    {label : String}
    (hKeys : (fields.map Prod.fst).Nodup) :
    Fills textOf? none (Field.label.values fields) (some label) ↔
      ("label", .text label) ∈ fields := by
  simp [fills_values_iff hKeys (k := .label) rfl,
    textOf?_eq_some_iff]

/- The tag is the text at the one of its keys that is there. -/
theorem fills_tag_iff
    {tag : String}
    (hKeys : (fields.map Prod.fst).Nodup) :
    Fills textOf? none (Field.tag.values fields) (some tag) ↔
      GivesTag fields tag := by
  simp only [fills_none_iff, Field.values_eq_singleton_iff hKeys,
    textOf?_eq_some_iff, GivesTag, Field.keys]
  constructor
  · rintro (⟨-, ⟨⟩⟩ | ⟨v, a, hOne, rfl, ⟨⟩⟩)
    exact hOne
  · intro hOne
    exact .inr ⟨_, tag, hOne, rfl, rfl⟩

/- The base form is the text at its key; null gives none. -/
theorem fills_baseForm_iff
    {baseForm : Option String}
    (hKeys : (fields.map Prod.fst).Nodup) :
    (∃ base,
      Fills baseFormOf? none (Field.baseForm.values fields) base ∧
        base.getD none = baseForm) ↔
      GivesBaseForm fields baseForm := by
  simp only [fills_values_iff hKeys (k := .baseForm) rfl,
    baseFormOf?_eq_some_iff]
  cases baseForm <;> grind [GivesBaseForm]

/-
  A part that is a list is read of the list at its key.  It
  is empty if there is none, as if the list were empty.
-/
theorem fills_list_iff
    {α : Type}
    {read : Json → Option α}
    {k : Field}
    {key : String}
    {empty a : α}
    (IsReading : List Json → α → Prop)
    (hKeys : (fields.map Prod.fst).Nodup)
    (hKey : k.keys = [key])
    (hRead :
      ∀ v b,
        read v = some b ↔
          ∃ items, v = .list items ∧ IsReading items b)
    (hEmpty : ∀ b, IsReading [] b ↔ empty = b) :
    (∃ new,
      Fills read none (k.values fields) new ∧
        new.getD empty = a) ↔
      ∃ items, GivesList fields key items ∧ IsReading items a := by
  simp only [fills_values_iff hKeys hKey, hRead, GivesList]
  constructor
  · rintro ⟨new, ⟨hMissing, rfl⟩ | ⟨v, b, hThere, hList, rfl⟩, rfl⟩
    · exact ⟨[], .inr ⟨hMissing, rfl⟩, (hEmpty _).mpr rfl⟩
    · rcases hList with ⟨items, rfl, hReading⟩
      exact ⟨items, .inl hThere, hReading⟩
  · rintro ⟨items, hThere | ⟨hMissing, rfl⟩, hReading⟩
    · exact ⟨some a,
        .inr ⟨_, a, hThere, ⟨items, rfl, hReading⟩, rfl⟩, rfl⟩
    · exact ⟨none, .inl ⟨hMissing, rfl⟩, (hEmpty a).mp hReading⟩

/- The children are read of the list at their key. -/
theorem fills_children_iff
    {ts : List ParseTree}
    (hKeys : (fields.map Prod.fst).Nodup) :
    (∃ trees,
      Fills childrenOf? none (Field.children.values fields) trees ∧
        trees.getD [] = ts) ↔
      ∃ items,
        GivesList fields "children" items ∧
          treesOf? items = some ts := by
  refine fills_list_iff (k := .children)
    (fun items trees => treesOf? items = some trees)
    hKeys rfl ?_ ?_
  · exact fun v trees => childrenOf?_eq_some_iff
  · intro trees
    rw [treesOf?, Option.some.injEq]

/- The annotations are read of the list at their key. -/
theorem fills_annotations_iff
    {annotations : SortedSet String}
    (hKeys : (fields.map Prod.fst).Nodup) :
    (∃ known,
      Fills annotationsOf? none (Field.annotations.values fields)
          known ∧
        known.getD .empty = annotations) ↔
      ∃ items,
        GivesList fields "annotations" items ∧
          AreAnnotations items annotations := by
  refine fills_list_iff (k := .annotations) AreAnnotations
    hKeys rfl ?_ ?_
  · exact fun v known => annotationsOf?_eq_some_iff
  · exact fun known => areAnnotations_nil_iff

/- Is a value read as the trees it is a node for? -/
def IsLegible
    (v : Json) : Prop :=
  ∀ t, ofJson? v = some t ↔ IsNode v t

/- Values are read one by one. -/
theorem treesOf?_eq_some_iff
    {items : List Json}
    (hItems : ∀ v ∈ items, IsLegible v)
    (ts : List ParseTree) :
    treesOf? items = some ts ↔ AreNodes items ts := by
  induction items generalizing ts with
  | nil =>
      rw [treesOf?, Option.some.injEq]
      constructor
      · rintro rfl
        exact .nil
      · rintro ⟨⟩
        rfl
  | cons v items ih =>
      rw [List.forall_mem_cons] at hItems
      have hFirst := hItems.1
      have hRest := ih hItems.2
      simp only [treesOf?, Option.bind_eq_bind,
        Option.bind_eq_some_iff, Option.pure_def,
        Option.some.injEq, hRest]
      constructor
      · rintro ⟨t, hRead, ts, hTrees, rfl⟩
        exact .cons ((hFirst t).mp hRead) hTrees
      · rintro (_ | ⟨hNode, hTrees⟩)
        exact ⟨_, (hFirst _).mpr hNode, _, hTrees, rfl⟩

/-
  A record is read as the node it has the shape of, if its
  children are.
-/
theorem isLegible_record
    (hKeys : (fields.map Prod.fst).Nodup)
    (hChildren :
      ∀ items,
        ("children", .list items) ∈ fields →
          ∀ v ∈ items, IsLegible v) :
    IsLegible (.record fields) := by
  rintro ⟨w, ts⟩
  have hTrees
      {items : List Json}
      (hGives : GivesList fields "children" items) :
      treesOf? items = some ts ↔ AreNodes items ts := by
    apply treesOf?_eq_some_iff
    rcases hGives with hThere | ⟨-, rfl⟩
    · exact hChildren items hThere
    · simp
  rw [ofJson?_record_eq_some_iff, fills_label_iff hKeys,
    fills_tag_iff hKeys, fills_baseForm_iff hKeys,
    fills_children_iff hKeys, fills_annotations_iff hKeys]
  constructor
  · rintro ⟨hLabel, hTag, hBase, ⟨items, hItems, hRead⟩, uris,
      hList, hUris⟩
    exact .record hLabel hTag hBase hItems
      ((hTrees hItems).mp hRead) hList hUris
  · rintro (⟨hLabel, hTag, hBase, hItems, hNodes, hList, hUris⟩ | _)
    exact ⟨hLabel, hTag, hBase,
      ⟨_, hItems, (hTrees hItems).mpr hNodes⟩, _, hList, hUris⟩

/- A list is read as the node it has the shape of. -/
theorem isLegible_list
    {values : List Json}
    (hRecord :
      IsLegible (.record (listKeys.zip values))) :
    IsLegible (.list values) := by
  intro t
  by_cases hLength : 2 ≤ values.length ∧ values.length ≤ 5
  · rw [ofJson?_list hLength, hRecord t]
    constructor
    · exact .list hLength
    · rintro (_ | ⟨-, hNode⟩)
      exact hNode
  · rw [ofJson?_list_eq_none hLength]
    constructor
    · rintro ⟨⟩
    · rintro (_ | ⟨hFits, -⟩)
      exact absurd hFits hLength

/- The parts in a list have different keys. -/
theorem nodup_keys_zip_listKeys
    (values : List Json) :
    ((listKeys.zip values).map Prod.fst).Nodup := by
  have hKeys : listKeys.Nodup := by decide
  rw [List.zip_eq_zip_take_min, List.map_fst_zip (by simp)]
  exact (List.take_sublist _ listKeys).nodup hKeys

/-
  A value is read as the tree that it is a node for.  The
  children of a node are in a list inside of it, so what is
  kept on the way down is also that the items are legible if
  the value is a list.
-/
theorem ofJson?_eq_some_iff
    {v : Json}
    {t : ParseTree}
    (hKeys : v.HasDistinctKeys) :
    ofJson? v = some t ↔ IsNode v t := by
  have hLegible :
      IsLegible v ∧
        ∀ items, v = .list items → ∀ x ∈ items, IsLegible x := by
    clear t
    induction v with
    | list items ih =>
        rw [Json.hasDistinctKeys_list_iff] at hKeys
        have hMembers (x : Json) (hMember : x ∈ items) :=
          ih x hMember (hKeys x hMember)
        -- the children of a node that is a list are one level down
        refine ⟨isLegible_list (isLegible_record ?_ ?_), ?_⟩
        · exact nodup_keys_zip_listKeys items
        · intro inner hInner
          exact (hMembers _ (List.of_mem_zip hInner).2).2 inner rfl
        · rintro _ ⟨rfl⟩ x hMember
          exact (hMembers x hMember).1
    | record fields ih =>
        rw [Json.hasDistinctKeys_record_iff] at hKeys
        refine ⟨isLegible_record hKeys.1 ?_, by simp⟩
        intro items hItems
        exact (ih _ hItems (hKeys.2 _ hItems)).2 items rfl
    | _ =>
        refine ⟨?_, by simp⟩
        intro t
        constructor
        · rintro ⟨⟩
        · rintro ⟨⟩
  exact hLegible.1 t

end ParseTree

end QuestionQuery
