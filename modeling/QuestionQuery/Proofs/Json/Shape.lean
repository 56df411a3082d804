import QuestionQuery.Proofs.Json.Reading

/-
  What is written in some shape is read back in this shape.

  A reader of texts, lists, sets, maps or the fields of a
  structure takes the tokens of a value from the front and
  leaves what follows.  So if the parts of a value are read
  back, then so is the value.  The entries of a map may stand
  in any order, for no key is there twice.

  Key definitions include:
    * `Json.Reader.Reads`
    * `Json.Reader.once`

  Main statements:
    * `Json.Reader.reads_listOf`
    * `Json.Reader.reads_setOf`
    * `Json.Reader.run_fields_map`
    * `Json.Reader.reads_mapOf`
    * `Json.Reader.run_fieldOnce`
    * `Json.Reader.Reads.read_compact`
-/

------------------------------------------------------------
-- Texts And Lists
------------------------------------------------------------

namespace QuestionQuery

namespace Json

namespace Reader

variable {α β σ : Type}
variable {reader item : Reader α}
variable {v : Json}
variable {a : α}

/- Is a value read as something, whatever stands behind it? -/
def Reads
    (reader : Reader α)
    (v : Json)
    (a : α) : Prop :=
  ∀ rest, reader.run (v.tokens ++ rest) = .ok (a, rest)

/- What a reader makes of a value that stands alone. -/
private def alone
    (reader : Reader α)
    (v : Json) : Except Error α :=
  (reader.run v.tokens).map Prod.fst

private theorem Reads.alone_eq
    (hReads : reader.Reads v a) :
    alone reader v = .ok a := by
  have hRun := hReads []
  rw [List.append_nil] at hRun
  rw [alone, hRun]
  rfl

private theorem Reads.takes
    (hReads : reader.Reads v a) :
    reader.Takes (alone reader) v := by
  intro rest
  rw [hReads rest, hReads.alone_eq]
  rfl

/- Results that are all there are listed. -/
private theorem mapM_eq_ok
    {f : β → Except Error α}
    {g : β → α}
    {bs : List β}
    (hResults : ∀ b ∈ bs, f b = .ok (g b)) :
    bs.mapM f = .ok (bs.map g) := by
  induction bs with
  | nil => rfl
  | cons b bs ih =>
      rw [List.forall_mem_cons] at hResults
      rw [List.mapM_cons, hResults.1, ih hResults.2]
      rfl

/- A reader may be followed by a change of what it reads. -/
theorem Reads.map
    (hReads : reader.Reads v a)
    (f : α → β) :
    Reads (f <$> reader) v (f a) := by
  intro rest
  rw [StateT.run_map, hReads rest]
  rfl

theorem reads_text
    (s : String) :
    text.Reads (.text s) s :=
  fun _ => rfl

/- A list is read back if each of its items is. -/
theorem reads_listOf
    {toJson : α → Json}
    {items : List α}
    (hItems : ∀ a ∈ items, item.Reads (toJson a) a) :
    (listOf item).Reads (.list (items.map toJson)) items := by
  have hTakes :
      ∀ v ∈ items.map toJson, item.Takes (alone item) v := by
    intro v hValue
    rcases List.mem_map.mp hValue with ⟨a, hItem, rfl⟩
    exact (hItems a hItem).takes
  have hResults :
      items.mapM (alone item ∘ toJson) = .ok (items.map id) :=
    mapM_eq_ok fun a hItem => (hItems a hItem).alone_eq
  intro rest
  rw [tokens_list]
  change (itemsOf item).run (itemTokens _ ++ rest) = _
  rw [run_itemsOf hTakes, List.mapM_map, hResults, List.map_id]
  rfl

/- A set is read back from its listing. -/
theorem reads_setOf
    [Ord α] [Std.TransOrd α] [Std.LawfulEqOrd α]
    {toJson : α → Json}
    {s : SortedSet α}
    (hItems : ∀ a ∈ s, item.Reads (toJson a) a) :
    (setOf item).Reads (.list (s.toList.map toJson)) s := by
  have hSet := (reads_listOf hItems).map SortedSet.ofList
  rwa [SortedSet.ofList_toList] at hSet

end Reader

end Json

end QuestionQuery

------------------------------------------------------------
-- Fields And Maps
------------------------------------------------------------

namespace QuestionQuery

namespace Json

namespace Reader

variable {α β σ : Type}
variable {item : Reader α}
variable {v : Json}
variable {a : α}

/- Steps that lead to the same lead to the same in the end. -/
private theorem foldlM_congr
    {f g : σ → β → Except Error σ}
    {bs : List β}
    (hSteps : ∀ b ∈ bs, ∀ known, f known b = g known b)
    (known : σ) :
    bs.foldlM f known = bs.foldlM g known := by
  induction bs generalizing known with
  | nil => rfl
  | cons b bs ih =>
      rw [List.forall_mem_cons] at hSteps
      rw [List.foldlM_cons, List.foldlM_cons, hSteps.1]
      cases g known b with
      | error e => rfl
      | ok s => exact ih hSteps.2 s

/- What a reader of fields makes of one that stands alone. -/
private def fieldAlone
    (reader : σ → String → Reader σ)
    (known : σ)
    (field : String × Json) : Except Error σ :=
  ((reader known field.1).run (.colon :: field.2.tokens)).map
    Prod.fst

/-
  Fields that are written for a list of things are read one
  by one.  What is known after each is told by the thing that
  the field is written for.
-/
theorem run_fields_map
    {reader : σ → String → Reader σ}
    {toField : β → String × Json}
    {next : σ → β → Except Error σ}
    {bs : List β}
    (hFields :
      ∀ b ∈ bs, ∀ known rest,
        (reader known (toField b).1).run
            (.colon :: ((toField b).2.tokens ++ rest)) =
          (next known b).map fun s => (s, rest))
    (known : σ)
    (rest : List Token) :
    (fields reader known).run
        (fieldTokens (bs.map toField) ++ rest) =
      (bs.foldlM next known).map fun s => (s, rest) := by
  -- by itself a field leads to the same as with something behind it
  have hAlone :
      ∀ b ∈ bs, ∀ known,
        fieldAlone reader known (toField b) = next known b := by
    intro b hMember known
    have hRun := hFields b hMember known []
    rw [List.append_nil] at hRun
    rw [fieldAlone, hRun]
    cases next known b <;> rfl
  have hTakes :
      ∀ field ∈ bs.map toField,
        TakesField reader (fieldAlone reader) field := by
    intro field hField
    rcases List.mem_map.mp hField with ⟨b, hMember, rfl⟩
    intro known rest
    rw [hFields b hMember, hAlone b hMember]
  rw [run_fields hTakes, List.foldlM_map, foldlM_congr hAlone]

/- The entry of a map behind its key. -/
private def entryOf
    (item : Reader α)
    (known : SortedMap String α)
    (key : String) : Reader (SortedMap String α) := do
  colon
  return known.insert key (← item)

/- What is known of a map after one more entry. -/
private def withEntry
    (known : SortedMap String α)
    (e : String × α) : Except Error (SortedMap String α) :=
  pure (known.insert e.1 e.2)

/- A map is read from its entries, in whatever order. -/
theorem reads_mapOf
    {toJson : α → Json}
    {entries : List (String × α)}
    {m : SortedMap String α}
    (hEntries : entries.Perm m.toList)
    (hItems : ∀ e ∈ entries, item.Reads (toJson e.2) e.2) :
    (mapOf item).Reads
      (.record (entries.map fun e => (e.1, toJson e.2))) m := by
  have hFields :
      ∀ e ∈ entries, ∀ known rest,
        (entryOf item known e.1).run
            (.colon :: ((toJson e.2).tokens ++ rest)) =
          (withEntry known e).map fun m => (m, rest) := by
    intro e hEntry known rest
    change
      (item.run ((toJson e.2).tokens ++ rest) >>=
        fun p => .ok (known.insert e.1 p.1, p.2)) = _
    rw [hItems e hEntry rest]
    rfl
  have hMap : entries.foldlM withEntry .empty = .ok m := by
    rw [← SortedMap.ofList_eq_of_perm hEntries]
    exact List.foldlM_pure
  intro rest
  rw [tokens_record]
  change (fields (entryOf item) .empty).run (fieldTokens _ ++ rest) = _
  rw [run_fields_map hFields, hMap]
  rfl

/- What is known of a part that is given, if for the first time. -/
def once
    (name : String)
    (old : Option α)
    (a : α) : Except Error (Option α) :=
  if old.isSome then
    .error (.shape (.repeatedField name))
  else
    .ok (some a)

/- A part of a structure is read unless it was there before. -/
theorem run_fieldOnce
    (hReads : item.Reads v a)
    (name : String)
    (old : Option α)
    (put : Option α → σ)
    (rest : List Token) :
    (do
        let new ← fieldOnce name old item
        return put new : Reader σ).run
        (.colon :: (v.tokens ++ rest)) =
      ((once name old a).map put).map fun s => (s, rest) := by
  cases old with
  | some _ => rfl
  | none =>
      change
        ((item.run (v.tokens ++ rest) >>=
            fun p => .ok (some p.1, p.2)) >>=
          fun p => .ok (put p.1, p.2)) = _
      rw [hReads rest]
      rfl

end Reader

end Json

end QuestionQuery

------------------------------------------------------------
-- Whole Texts
------------------------------------------------------------

namespace QuestionQuery

namespace Json

namespace Reader

/- A record that is written for a list of things is wordy. -/
theorem isWordy_record_map_iff
    {β : Type}
    {toField : β → String × Json}
    {bs : List β} :
    IsWordy (.record (bs.map toField)) ↔
      ∀ b ∈ bs, (toField b).2.IsWordy := by
  rw [isWordy_record_iff, List.forall_mem_map]

/- The compact text of a value is read as the value is. -/
theorem Reads.read_compact
    {α : Type}
    {reader : Reader α}
    {v : Json}
    {a : α}
    (hReads : reader.Reads v a)
    (hWordy : v.IsWordy) :
    reader.read v.compact = .ok a := by
  have hRun := hReads []
  rw [List.append_nil] at hRun
  rw [read, tokensOf_compact hWordy, hRun]
  rfl

end Reader

end Json

end QuestionQuery
