import QuestionQuery.Proofs.Tree.Acceptance

/-
  Trees are read back from the texts that are written for
  them.

  The fields of a node are written in their order, with the
  empty ones left out.  Each is read back as what it is
  written for, and what is left out is empty again.  A text
  is only refused if it is nested deeper than a reader goes,
  which is told by the tree: each level of words costs two
  levels, and the annotations of a word cost one.

  Key definitions include:
    * `ParseTree.given`
    * `ParseTree.filled?`
    * `ParseTree.nesting`

  Main statements:
    * `ParseTree.ofJson?_toJson`
    * `ParseTree.depth_toJson`
    * `ParseTree.ofText_compact`
    * `ParseTree.ofText_toText`
-/

------------------------------------------------------------
-- Fields As Written
------------------------------------------------------------

namespace QuestionQuery

namespace ParseTree

/- A field with a value, or no field without one. -/
def given
    (key : String) : Option Json → List (String × Json)
  | some v => [(key, v)]
  | none => []

/- A list, if something is in it. -/
def filled? : List Json → Option Json
  | [] => none
  | v :: rest => some (.list (v :: rest))

/- A node is written as its label, its tag and what it has. -/
theorem toJson_node
    (w : Word)
    (ts : List ParseTree) :
    toJson (.node w ts) =
      .record
        ([("label", .text w.label), ("pos_tag", .text w.tag)] ++
          given "lemma" (w.baseForm.map .text) ++
          given "children" (filled? (toJsonAll ts)) ++
          given "annotations"
            (filled? (w.annotations.toList.map .text))) := by
  rcases w with ⟨label, tag, baseForm, annotations⟩
  cases baseForm <;> cases ts <;>
    cases hUris : annotations.toList <;>
    simp [toJson, toJsonAll, given, filled?, hUris]

/- Values of fields are found in front and behind. -/
theorem Field.values_append
    {k : Field}
    {es fs : List (String × Json)} :
    k.values (es ++ fs) = k.values es ++ k.values fs := by
  rw [values, List.filter_append, List.map_append]
  rfl

theorem Field.values_given
    {k : Field}
    {key : String}
    {v : Option Json} :
    k.values (given key v) =
      if ofKey? key = some k then v.toList else [] := by
  cases v with
  | none => simp [given, values]
  | some v => rw [given, values_cons, values_nil, Option.toList_some]

/-
  A part that is written as a list is filled with what is
  read of the list.  A list with nothing in it is left out.
-/
theorem exists_fills_filled
    {α : Type}
    {read : Json → Option α}
    {items : List Json}
    {empty a : α}
    (hEmpty : items = [] → empty = a)
    (hRead : read (.list items) = some a) :
    ∃ new,
      Fills read none (filled? items).toList new ∧
        new.getD empty = a := by
  cases items with
  | nil => exact ⟨none, .keep none, hEmpty rfl⟩
  | cons v rest => exact ⟨some a, .take hRead, rfl⟩

/- A base form is read back; without one there is none. -/
theorem exists_fills_baseForm
    (baseForm : Option String) :
    ∃ base,
      Fills baseFormOf? none (baseForm.map .text).toList base ∧
        base.getD none = baseForm := by
  cases baseForm with
  | none => exact ⟨none, .keep none, rfl⟩
  | some form => exact ⟨some (some form), .take rfl, rfl⟩

/- A tree is read back from its node. -/
theorem ofJson?_toJson
    (t : ParseTree) :
    ofJson? t.toJson = some t := by
  induction t using ParseTree.rec
      (motive_2 := fun ts => treesOf? (toJsonAll ts) = some ts) with
  | node w ts ih =>
      have hChildren : toJsonAll ts = [] → [] = ts := by
        cases ts <;> simp [toJsonAll]
      have hUris :
          w.annotations.toList.map Json.text = [] →
            .empty = w.annotations := by
        intro hNil
        rw [List.map_eq_nil_iff] at hNil
        exact (SortedSet.eq_of_toList_eq hNil).symm
      have hAnnotations :
          annotationsOf?
              (.list (w.annotations.toList.map .text)) =
            some w.annotations :=
        annotationsOf?_eq_some_iff.mpr
          ⟨_, rfl, _, rfl, fun uri => SortedSet.mem_toList.symm⟩
      rw [toJson_node, ofJson?_record_eq_some_iff]
      simp only [Field.values_append, Field.values_cons,
        Field.values_nil, Field.values_given, Field.ofKey?,
        Option.some.injEq, reduceCtorEq, if_true, if_false,
        List.nil_append, List.append_nil]
      exact
        ⟨.take rfl, .take rfl, exists_fills_baseForm w.baseForm,
          exists_fills_filled hChildren ih,
          exists_fills_filled hUris hAnnotations⟩
  | nil => rw [toJsonAll, treesOf?]
  | cons t ts ihFirst ihRest =>
      simp [toJsonAll, treesOf?, ihFirst, ihRest]

end ParseTree

end QuestionQuery

------------------------------------------------------------
-- Nesting
------------------------------------------------------------

namespace QuestionQuery

namespace ParseTree

mutual

/- How deep the node of a tree is nested as it is written. -/
def nesting : ParseTree → Nat
  | .node w ts =>
    max (nestingBelow ts) (if w.isAnnotated then 1 else 0) + 1

/- How deep the list of the nodes of some trees is nested. -/
def nestingBelow : List ParseTree → Nat
  | [] => 0
  | t :: ts => max (nesting t + 1) (nestingBelow ts)

end

/- Fields are as deep as the deepest of them. -/
theorem depthOfFields_append
    (es fs : List (String × Json)) :
    Json.depthOfFields (es ++ fs) =
      max (Json.depthOfFields es) (Json.depthOfFields fs) := by
  induction es with
  | nil => simp [Json.depthOfFields]
  | cons field es ih =>
      simp [Json.depthOfFields, ih, Nat.max_assoc]

/- A list that is left out costs nothing, another one a level. -/
theorem depthOfFields_given_filled
    (key : String)
    (items : List Json) :
    Json.depthOfFields (given key (filled? items)) =
      if items = [] then 0 else Json.depthOfItems items + 1 := by
  cases items <;>
    simp [given, filled?, Json.depthOfFields, Json.depth]

/- Texts are not nested. -/
theorem depthOfItems_map_text
    (texts : List String) :
    Json.depthOfItems (texts.map .text) = 0 := by
  induction texts with
  | nil => rfl
  | cons s texts ih => simp [Json.depthOfItems, Json.depth, ih]

/- The node of a tree is nested as deep as the tree tells. -/
theorem depth_toJson
    (t : ParseTree) :
    t.toJson.depth = t.nesting := by
  induction t using ParseTree.rec
      (motive_2 := fun ts =>
        Json.depthOfFields
            (given "children" (filled? (toJsonAll ts))) =
          nestingBelow ts) with
  | node w ts ih =>
      have hBase :
          Json.depthOfFields
            (given "lemma" (w.baseForm.map .text)) = 0 := by
        cases w.baseForm <;>
          simp [given, Json.depthOfFields, Json.depth]
      have hUris :
          Json.depthOfFields
              (given "annotations"
                (filled? (w.annotations.toList.map .text))) =
            if w.isAnnotated then 1 else 0 := by
        rw [depthOfFields_given_filled, depthOfItems_map_text]
        cases hList : w.annotations.toList <;>
          simp [Word.isAnnotated, SortedSet.isEmpty, hList]
      rw [toJson_node, Json.depth, depthOfFields_append,
        depthOfFields_append, depthOfFields_append, hBase, ih,
        hUris, nesting]
      simp [Json.depthOfFields, Json.depth]
  | nil => rfl
  | cons t ts ihFirst ihRest =>
      rw [depthOfFields_given_filled] at ihRest ⊢
      rw [toJsonAll, if_neg (by simp), Json.depthOfItems,
        ihFirst, nestingBelow, ← ihRest]
      cases ts <;> simp [toJsonAll, Json.depthOfItems]

/- The document is nested one level deeper. -/
theorem depth_toDocument
    (t : ParseTree) :
    t.toDocument.depth = t.nesting + 1 := by
  simp [toDocument, Json.depth, Json.depthOfFields, depth_toJson]

end ParseTree

end QuestionQuery

------------------------------------------------------------
-- Texts As Written
------------------------------------------------------------

namespace QuestionQuery

namespace ParseTree

open Json.Reader
  (depthLimit read_value_compact_of_depth_le takes_value within)

/- The fields of a node have no numbers in them. -/
theorem forall_mem_given_isWordy
    {key : String}
    {v : Option Json}
    (hWordy : ∀ w ∈ v, w.IsWordy) :
    ∀ field ∈ given key v, field.2.IsWordy := by
  cases v with
  | none => simp [given]
  | some v => simpa [given] using hWordy

theorem forall_mem_filled_isWordy
    {items : List Json}
    (hItems : ∀ v ∈ items, v.IsWordy) :
    ∀ v ∈ filled? items, v.IsWordy := by
  cases items with
  | nil => simp [filled?]
  | cons v rest => simpa [filled?] using hItems

/- The node of a tree has no numbers in it. -/
theorem isWordy_toJson
    (t : ParseTree) :
    t.toJson.IsWordy := by
  induction t using ParseTree.rec
      (motive_2 := fun ts =>
        Json.IsWordy (.list (toJsonAll ts))) with
  | node w ts ih =>
      have hBase : ∀ v ∈ w.baseForm.map Json.text, v.IsWordy := by
        simp
      have hUris :
          ∀ v ∈ w.annotations.toList.map Json.text, v.IsWordy := by
        simp
      rw [Json.isWordy_list_iff] at ih
      rw [toJson_node, Json.isWordy_record_iff,
        List.forall_mem_append, List.forall_mem_append,
        List.forall_mem_append]
      exact
        ⟨⟨⟨by simp, forall_mem_given_isWordy hBase⟩,
          forall_mem_given_isWordy (forall_mem_filled_isWordy ih)⟩,
          forall_mem_given_isWordy
            (forall_mem_filled_isWordy hUris)⟩
  | nil => simp [toJsonAll]
  | cons t ts ihFirst ihRest =>
      rw [Json.isWordy_list_iff] at ihRest ⊢
      exact List.forall_mem_cons.mpr ⟨ihFirst, ihRest⟩

/- A document has no numbers in it either. -/
theorem isWordy_toDocument
    (t : ParseTree) :
    t.toDocument.IsWordy := by
  simpa [toDocument] using isWordy_toJson t

/-
  The text of a value is read as the value documents a tree,
  unless it is nested too deep.
-/
theorem ofText_compact
    {v : Json}
    (hWordy : v.IsWordy) :
    ofText v.compact =
      if v.depth ≤ depthLimit then
        match ofDocument? v with
        | some t => .ok t
        | none => .error (.json (.shape (.noShapeFits "Doc")))
      else
        .error (.json (.text .malformed)) := by
  split
  next hDepth =>
    exact ofText_of_read
      (read_value_compact_of_depth_le hWordy hDepth)
  next hDepth =>
    have hRun := takes_value depthLimit v []
    rw [List.append_nil, within, if_neg hDepth] at hRun
    rw [ofText, Json.Reader.read, Json.tokensOf_compact hWordy,
      reader, StateT.run_bind, hRun]
    rfl

/- A tree is read back from its document. -/
theorem ofDocument?_toDocument
    (t : ParseTree) :
    ofDocument? t.toDocument = some t := by
  simp [ofDocument?, toDocument, only?, ofJson?_toJson]

/- A record without a root documents what it is a node for. -/
theorem ofDocument?_of_forall_ne
    {fields : List (String × Json)}
    (hKeys : ∀ field ∈ fields, field.1 ≠ "root") :
    ofDocument? (.record fields) = ofJson? (.record fields) := by
  have hNone : fields.filter (·.1 = "root") = [] := by
    rw [List.filter_eq_nil_iff]
    simpa using hKeys
  rw [ofDocument?, only?, hNone]
  rfl

theorem fst_ne_of_mem_given
    {key other : String}
    {v : Option Json}
    (hKey : key ≠ other) :
    ∀ field ∈ given key v, field.1 ≠ other := by
  cases v with
  | none => simp [given]
  | some v => simpa [given] using hKey

/- A tree is read back from its node alone. -/
theorem ofDocument?_toJson
    (t : ParseTree) :
    ofDocument? t.toJson = some t := by
  rw [← ofJson?_toJson t]
  rcases t with ⟨w, ts⟩
  rw [toJson_node]
  apply ofDocument?_of_forall_ne
  rw [List.forall_mem_append, List.forall_mem_append,
    List.forall_mem_append]
  exact
    ⟨⟨⟨by simp, fst_ne_of_mem_given (by decide)⟩,
      fst_ne_of_mem_given (by decide)⟩,
      fst_ne_of_mem_given (by decide)⟩

/-
  A tree is read back from the text of its document, and from
  the text of its node alone, just if that is nested at most
  127 levels deep.  A deeper text is refused.
-/
theorem ofText_toText
    (t : ParseTree) :
    ofText t.toText =
      (if t.toDocument.depth ≤ 127 then
        .ok t
      else
        .error (.json (.text .malformed))) ∧
    ofText t.toJson.compact =
      (if t.toJson.depth ≤ 127 then
        .ok t
      else
        .error (.json (.text .malformed))) := by
  constructor
  · rw [toText, ofText_compact (isWordy_toDocument t),
      ofDocument?_toDocument]
    rfl
  · rw [ofText_compact (isWordy_toJson t), ofDocument?_toJson]
    rfl

end ParseTree

end QuestionQuery
