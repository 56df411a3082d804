import QuestionQuery.Json.Reader
import QuestionQuery.Proofs.Json.Scanning

/-
  Values are read back from their tokens.

  A reader of lists reads the items one by one, and a reader
  of records the fields, whatever is read of each.  So what
  is read of the tokens of a value is told by what is read of
  its parts.  A reader of values that are nested to a given
  depth reads a value of at most that depth as it is, and
  refuses a deeper one where it gets too deep.

  Key definitions include:
    * `Json.Reader.Takes`
    * `Json.Reader.TakesField`
    * `Json.Reader.within`

  Main statements:
    * `Json.induction`
    * `Json.Reader.run_itemsOf`
    * `Json.Reader.run_fields`
    * `Json.Reader.takes_value`
    * `Json.Reader.read_value_compact`
-/

------------------------------------------------------------
-- Induction
------------------------------------------------------------

namespace QuestionQuery

/-
  What lists and records take over from the values in them
  holds of all values.
-/
@[induction_eliminator]
theorem Json.induction
    {motive : Json → Prop}
    (null : motive .null)
    (bool : ∀ b, motive (.bool b))
    (number : ∀ n, motive (.number n))
    (text : ∀ s, motive (.text s))
    (list :
      ∀ items, (∀ v ∈ items, motive v) → motive (.list items))
    (record :
      ∀ fields,
        (∀ field ∈ fields, motive field.2) →
          motive (.record fields))
    (v : Json) :
    motive v :=
  Json.rec
    (motive_1 := motive)
    (motive_2 := fun items => ∀ v ∈ items, motive v)
    (motive_3 := fun fields => ∀ field ∈ fields, motive field.2)
    (motive_4 := fun field => motive field.2)
    null bool number text list record
    (by simp)
    (fun _ _ hFirst hRest => List.forall_mem_cons.mpr ⟨hFirst, hRest⟩)
    (by simp)
    (fun _ _ hFirst hRest => List.forall_mem_cons.mpr ⟨hFirst, hRest⟩)
    (fun _ _ hValue => hValue)
    v

end QuestionQuery

------------------------------------------------------------
-- Lists And Records
------------------------------------------------------------

namespace QuestionQuery

namespace Json

namespace Reader

variable {α σ : Type}

/-
  Does a reader take the tokens of a value from the front,
  with the result that a function gives for the value?
-/
def Takes
    (reader : Reader α)
    (f : Json → Except Error α)
    (v : Json) : Prop :=
  ∀ rest,
    reader.run (v.tokens ++ rest) =
      (f v).map fun a => (a, rest)

/- The tokens of a list behind its opening bracket. -/
def itemTokens : List Json → List Token
  | [] => [.closeList]
  | v :: rest => v.tokens ++ moreItems rest

theorem tokens_list
    (items : List Json) :
    tokens (.list items) = .openList :: itemTokens items := by
  cases items <;> rfl

/- The tokens of a record behind its opening brace. -/
def fieldTokens : List (String × Json) → List Token
  | [] => [.closeRecord]
  | (k, v) :: rest =>
    .text k :: .colon :: (v.tokens ++ moreFields rest)

theorem tokens_record
    (fields : List (String × Json)) :
    tokens (.record fields) = .openRecord :: fieldTokens fields := by
  cases fields <;> rfl

/- A value does not begin with a bracket that closes. -/
theorem exists_tokens_cons
    (v : Json) :
    ∃ t rest,
      v.tokens = t :: rest ∧ t ≠ .closeList ∧ t ≠ .closeRecord := by
  cases v with
  | list items => exact ⟨_, _, tokens_list items, by simp⟩
  | record fields => exact ⟨_, _, tokens_record fields, by simp⟩
  | _ => exact ⟨_, _, rfl, by simp⟩

/- There are more tokens than items. -/
private theorem length_lt_length_moreItems
    (items : List Json) :
    items.length < (moreItems items).length := by
  induction items with
  | nil => simp [moreItems]
  | cons v rest ih =>
      simp only [moreItems, List.length_cons, List.length_append]
      omega

private theorem length_lt_length_moreFields
    (fields : List (String × Json)) :
    fields.length < (moreFields fields).length := by
  induction fields with
  | nil => simp [moreFields]
  | cons field rest ih =>
      simp only [moreFields, List.length_cons, List.length_append]
      omega

/- The items behind the first one are read one by one. -/
private theorem run_moreItemsOf
    {item : Reader α}
    {f : Json → Except Error α}
    {items : List Json}
    {fuel : Nat}
    (hItems : ∀ v ∈ items, item.Takes f v)
    (hFuel : items.length < fuel)
    (rest : List Token) :
    (moreItemsOf item fuel).run (moreItems items ++ rest) =
      (items.mapM f).map fun as => (as, rest) := by
  induction items generalizing fuel with
  | nil =>
      obtain ⟨fuel, rfl⟩ := Nat.exists_eq_succ_of_ne_zero
        (Nat.ne_of_gt hFuel)
      rfl
  | cons v items ih =>
      obtain ⟨fuel, rfl⟩ := Nat.exists_eq_succ_of_ne_zero
        (Nat.ne_zero_of_lt hFuel)
      rw [List.forall_mem_cons] at hItems
      have hStep :
          (moreItemsOf item (fuel + 1)).run
              (moreItems (v :: items) ++ rest) =
            (do
              let p ←
                item.run (v.tokens ++ (moreItems items ++ rest))
              let q ← (moreItemsOf item fuel).run p.2
              return (p.1 :: q.1, q.2)) := by
        rw [moreItems, List.cons_append, List.append_assoc]
        rfl
      rw [hStep, hItems.1, List.mapM_cons]
      cases f v with
      | error e => rfl
      | ok a =>
          change
            ((moreItemsOf item fuel).run (moreItems items ++ rest) >>=
              fun p => .ok (a :: p.1, p.2)) = _
          rw [ih hItems.2 (Nat.lt_of_succ_lt_succ hFuel)]
          cases items.mapM f <;> rfl

/- The items of a list are read one by one. -/
theorem run_itemsOf
    {item : Reader α}
    {f : Json → Except Error α}
    {items : List Json}
    (hItems : ∀ v ∈ items, item.Takes f v)
    (rest : List Token) :
    (itemsOf item).run (itemTokens items ++ rest) =
      (items.mapM f).map fun as => (as, rest) := by
  cases items with
  | nil => rfl
  | cons v items =>
      rw [List.forall_mem_cons] at hItems
      rcases exists_tokens_cons v with ⟨t, ts, hTokens, hOpen, -⟩
      have hStep :
          (itemsOf item).run (itemTokens (v :: items) ++ rest) =
            (do
              let p ←
                item.run (v.tokens ++ (moreItems items ++ rest))
              let q ←
                (moreItemsOf item (p.2.length + 1)).run p.2
              return (p.1 :: q.1, q.2)) := by
        rw [itemTokens, hTokens, List.append_assoc,
          List.cons_append]
        simp only [itemsOf, closes, StateT.run_bind,
          StateT.run_get, pure_bind, if_neg hOpen,
          StateT.run_pure, Bool.false_eq_true, if_false]
      rw [hStep, hItems.1, List.mapM_cons]
      cases f v with
      | error e => rfl
      | ok a =>
          have hFuel :
              items.length <
                (moreItems items ++ rest).length + 1 := by
            have := length_lt_length_moreItems items
            rw [List.length_append]
            omega
          change
            ((moreItemsOf item
                ((moreItems items ++ rest).length + 1)).run
                (moreItems items ++ rest) >>=
              fun p => .ok (a :: p.1, p.2)) = _
          rw [run_moreItemsOf hItems.2 hFuel]
          cases items.mapM f <;> rfl

/-
  Does a reader of fields take the tokens of a field behind
  its key, with the result that a function gives for it?
-/
def TakesField
    (reader : σ → String → Reader σ)
    (f : σ → String × Json → Except Error σ)
    (field : String × Json) : Prop :=
  ∀ known rest,
    (reader known field.1).run
        (.colon :: (field.2.tokens ++ rest)) =
      (f known field).map fun s => (s, rest)

/- The fields behind the first one are read one by one. -/
private theorem run_moreFieldsOf
    {reader : σ → String → Reader σ}
    {f : σ → String × Json → Except Error σ}
    {fields : List (String × Json)}
    {fuel : Nat}
    (hFields : ∀ field ∈ fields, TakesField reader f field)
    (hFuel : fields.length < fuel)
    (known : σ)
    (rest : List Token) :
    (moreFieldsOf key reader fuel known).run
        (moreFields fields ++ rest) =
      (fields.foldlM f known).map fun s => (s, rest) := by
  induction fields generalizing fuel known with
  | nil =>
      obtain ⟨fuel, rfl⟩ := Nat.exists_eq_succ_of_ne_zero
        (Nat.ne_of_gt hFuel)
      rfl
  | cons field fields ih =>
      obtain ⟨fuel, rfl⟩ := Nat.exists_eq_succ_of_ne_zero
        (Nat.ne_zero_of_lt hFuel)
      rw [List.forall_mem_cons] at hFields
      have hStep :
          (moreFieldsOf key reader (fuel + 1) known).run
              (moreFields (field :: fields) ++ rest) =
            (do
              let p ←
                (reader known field.1).run
                  (.colon :: (field.2.tokens ++
                    (moreFields fields ++ rest)))
              (moreFieldsOf key reader fuel p.1).run p.2) := by
        rw [moreFields]
        simp only [List.cons_append, List.append_assoc]
        rfl
      rw [hStep, hFields.1, List.foldlM_cons]
      cases f known field with
      | error e => rfl
      | ok s => exact ih hFields.2 (Nat.lt_of_succ_lt_succ hFuel) s

/- The fields of a record are read one by one. -/
theorem run_fields
    {reader : σ → String → Reader σ}
    {f : σ → String × Json → Except Error σ}
    {es : List (String × Json)}
    (hFields : ∀ field ∈ es, TakesField reader f field)
    (known : σ)
    (rest : List Token) :
    (fields reader known).run (fieldTokens es ++ rest) =
      (es.foldlM f known).map fun s => (s, rest) := by
  cases es with
  | nil => rfl
  | cons field es =>
      rw [List.forall_mem_cons] at hFields
      have hStep :
          (fields reader known).run
              (fieldTokens (field :: es) ++ rest) =
            (do
              let p ←
                (reader known field.1).run
                  (.colon :: (field.2.tokens ++
                    (moreFields es ++ rest)))
              (moreFieldsOf key reader (p.2.length + 1) p.1).run
                p.2) := by
        rw [fieldTokens]
        simp only [List.cons_append, List.append_assoc]
        rfl
      rw [hStep, hFields.1, List.foldlM_cons]
      cases f known field with
      | error e => rfl
      | ok s =>
          apply run_moreFieldsOf hFields.2
          have := length_lt_length_moreFields es
          rw [List.length_append]
          omega

end Reader

end Json

end QuestionQuery

------------------------------------------------------------
-- Values
------------------------------------------------------------

namespace QuestionQuery

namespace Json

namespace Reader

/- A value that is not too deep, and a refusal of others. -/
def within
    (depth : Nat)
    (v : Json) : Except Error Json :=
  if v.depth ≤ depth then .ok v else .error (.text .malformed)

/- Items are not too deep just if each of them is not. -/
private theorem mapM_within
    (depth : Nat)
    (items : List Json) :
    items.mapM (within depth) =
      if depthOfItems items ≤ depth then
        .ok items
      else
        .error (.text .malformed) := by
  induction items with
  | nil => simp [depthOfItems, pure, Except.pure]
  | cons v items ih =>
      rw [List.mapM_cons, ih, within, depthOfItems]
      simp only [Nat.max_le]
      by_cases hFirst : v.depth ≤ depth <;>
        by_cases hRest : depthOfItems items ≤ depth <;>
        simp [hFirst, hRest, bind, Except.bind, pure, Except.pure]

/- One more field of a record with fields that are known. -/
private def fieldWithin
    (depth : Nat)
    (known : List (String × Json))
    (field : String × Json) :
    Except Error (List (String × Json)) :=
  (within depth field.2).map fun v => (field.1, v) :: known

/- Fields are not too deep just if each of them is not. -/
private theorem foldlM_fieldWithin
    (depth : Nat)
    (known fields : List (String × Json)) :
    fields.foldlM (fieldWithin depth) known =
      if depthOfFields fields ≤ depth then
        .ok (fields.reverse ++ known)
      else
        .error (.text .malformed) := by
  induction fields generalizing known with
  | nil => simp [depthOfFields, pure, Except.pure]
  | cons field fields ih =>
      rcases field with ⟨k, v⟩
      rw [List.foldlM_cons, fieldWithin, within, depthOfFields]
      simp only [Nat.max_le]
      by_cases hFirst : v.depth ≤ depth
      · simp [hFirst, ih, bind, Except.bind, Except.map]
      · simp [hFirst, bind, Except.bind, Except.map]

/- The reader of the fields of a record. -/
private theorem takesField_value
    {depth : Nat}
    {field : String × Json}
    (hValue : (value depth).Takes (within depth) field.2) :
    TakesField
      (fun fs k => do
        colon
        return (k, ← value depth) :: fs)
      (fieldWithin depth) field := by
  intro known rest
  have hStep :
      (do
          colon
          return (field.1, ← value depth) :: known :
            Reader (List (String × Json))).run
          (.colon :: (field.2.tokens ++ rest)) =
        (do
          let p ← (value depth).run (field.2.tokens ++ rest)
          return ((field.1, p.1) :: known, p.2)) :=
    rfl
  rw [hStep, hValue, fieldWithin]
  cases within depth field.2 <;> rfl

/-
  A value is read from its tokens if it is not nested too
  deep; otherwise the first bracket that opens too deep a
  level is refused.
-/
theorem takes_value
    (depth : Nat)
    (v : Json) :
    (value depth).Takes (within depth) v := by
  induction v generalizing depth with
  | list items ih =>
      intro rest
      rw [tokens_list]
      cases depth with
      | zero => rfl
      | succ depth =>
          change
            ((itemsOf (value depth)).run
                (itemTokens items ++ rest) >>=
              fun p => .ok (Json.list p.1, p.2)) = _
          rw [run_itemsOf fun v hv => ih v hv depth, mapM_within,
            within, Json.depth]
          by_cases hDeep : depthOfItems items ≤ depth
          · simp [hDeep, bind, Except.bind, Except.map]
          · simp [hDeep, bind, Except.bind, Except.map]
  | record es ih =>
      intro rest
      rw [tokens_record]
      cases depth with
      | zero => rfl
      | succ depth =>
          change
            ((fields
                (fun fs k => do
                  colon
                  return (k, ← value depth) :: fs)
                []).run (fieldTokens es ++ rest) >>=
              fun p => .ok (Json.record p.1.reverse, p.2)) = _
          rw [run_fields fun field hField =>
              takesField_value (ih field hField depth),
            foldlM_fieldWithin, within, Json.depth]
          by_cases hDeep : depthOfFields es ≤ depth
          · simp [hDeep, bind, Except.bind, Except.map]
          · simp [hDeep, bind, Except.bind, Except.map]
  | _ => cases depth <;> exact fun rest => rfl

/- A text is read as the value that it is the text of. -/
theorem read_value_compact
    {v : Json}
    (depth : Nat)
    (hWordy : v.IsWordy) :
    (value depth).read v.compact = within depth v := by
  have hRun := takes_value depth v []
  rw [List.append_nil] at hRun
  rw [read, tokensOf_compact hWordy, hRun]
  cases within depth v <;> rfl

theorem read_value_compact_of_depth_le
    {depth : Nat}
    {v : Json}
    (hWordy : v.IsWordy)
    (hDepth : v.depth ≤ depth) :
    (value depth).read v.compact = .ok v := by
  rw [read_value_compact depth hWordy, within, if_pos hDepth]

end Reader

end Json

end QuestionQuery
