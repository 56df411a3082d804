import QuestionQuery.Lexicon.Basic
import QuestionQuery.Proofs.Json.Shape

/-
  Lexicons are read back from the texts that are written for
  them.

  A document has a section for each of the three indexes, and
  a section has a list for each label.  The lists are read as
  they stand, with their order and their repeats.  Sections
  and labels are told apart by their keys, so it does not
  matter in which order they stand, and a section that is left
  out is as good as an empty one.

  Key definitions include:
    * `Lexicon.Section`
    * `Lexicon.Tables.index`
    * `Index.WrittenAs`
    * `Lexicon.Tables.WrittenAs`
    * `Lexicon.Answers`

  Main statements:
    * `Lexicon.Tables.run_section`
    * `Lexicon.Tables.foldlM_fill`
    * `Lexicon.Tables.reads_of_writtenAs`
    * `Lexicon.Tables.text_tells_answers`
-/

------------------------------------------------------------
-- Indexes
------------------------------------------------------------

namespace QuestionQuery

namespace Index

variable {index : Index}
variable {v : Json}

/- A list of resources as it is written. -/
def listToJson
    (uris : List String) : Json :=
  .list (uris.map .text)

/-
  Is a value the record of the lists of an index, with the
  labels in any order?
-/
def WrittenAs
    (index : Index)
    (v : Json) : Prop :=
  ∃ entries : List (String × List String),
    entries.Perm index.entries.toList ∧
      v = .record (entries.map fun e => (e.1, listToJson e.2))

theorem writtenAs_toJson
    (index : Index) :
    index.WrittenAs index.toJson :=
  ⟨index.entries.toList, .refl _, rfl⟩

/- An index is read back, its lists as they stand. -/
theorem reads_of_writtenAs
    (hWritten : index.WrittenAs v) :
    reader.Reads v index := by
  rcases hWritten with ⟨entries, hEntries, rfl⟩
  have hLists :
      ∀ e ∈ entries,
        (Json.Reader.listOf Json.Reader.text).Reads
          (listToJson e.2) e.2 :=
    fun e _ =>
      Json.Reader.reads_listOf fun uri _ => Json.Reader.reads_text uri
  exact (Json.Reader.reads_mapOf hEntries hLists).map Index.mk

/- There is no number in an index. -/
theorem WrittenAs.isWordy
    (hWritten : index.WrittenAs v) :
    v.IsWordy := by
  rcases hWritten with ⟨entries, -, rfl⟩
  rw [Json.Reader.isWordy_record_map_iff]
  simp [listToJson]

end Index

end QuestionQuery

------------------------------------------------------------
-- Sections
------------------------------------------------------------

namespace QuestionQuery

namespace Lexicon

/- A section of the document of a lexicon. -/
inductive Section where
  | classes
  | properties
  | entities
deriving DecidableEq

namespace Section

/- The sections as they are written. -/
def all : List Section :=
  [.classes, .properties, .entities]

/- The key of a section. -/
def key : Section → String
  | .classes => "classes"
  | .properties => "properties"
  | .entities => "entities"

end Section

namespace Tables

variable {tables others : Tables}
variable {s : Section}
variable {v : Json}

/- The index of a section. -/
def index
    (tables : Tables) : Section → Index
  | .classes => tables.classes
  | .properties => tables.properties
  | .entities => tables.entities

/- Tables with the same indexes are equal. -/
theorem eq_of_index_eq
    (hIndexes : ∀ s, tables.index s = others.index s) :
    tables = others := by
  cases tables
  cases others
  simp only [mk.injEq]
  exact ⟨hIndexes .classes, hIndexes .properties, hIndexes .entities⟩

/- Tables are written section by section. -/
theorem toJson_eq
    (tables : Tables) :
    tables.toJson =
      .record
        (Section.all.map fun s =>
          (s.key, (tables.index s).toJson)) :=
  rfl

namespace Parts

/- The index of a section, if it is known. -/
def index?
    (p : Parts) : Section → Option Index
  | .classes => p.classes
  | .properties => p.properties
  | .entities => p.entities

/- What is known after one more index. -/
def put
    (p : Parts)
    (s : Section)
    (new : Option Index) : Parts :=
  match s with
  | .classes => { p with classes := new }
  | .properties => { p with properties := new }
  | .entities => { p with entities := new }

theorem index?_none
    (s : Section) :
    none.index? s = .none := by
  cases s <;> rfl

theorem index?_put
    (p : Parts)
    (s other : Section)
    (new : Option Index) :
    (p.put s new).index? other =
      if other = s then new else p.index? other := by
  cases s <;> cases other <;> rfl

theorem index_tables
    (p : Parts)
    (s : Section) :
    p.tables.index s = (p.index? s).getD .empty := by
  cases s <;> rfl

/- What is known once a section is read for some tables. -/
def fill
    (tables : Tables)
    (known : Parts)
    (s : Section) : Except Json.Error Parts :=
  (Json.Reader.once s.key (known.index? s) (tables.index s)).map
    (known.put s)

end Parts

/- A section is read back behind its key, if it is the first. -/
theorem run_section
    (hWritten : (tables.index s).WrittenAs v)
    (known : Parts)
    (rest : List Json.Token) :
    (Parts.field known s.key).run (.colon :: (v.tokens ++ rest)) =
      (Parts.fill tables known s).map fun p => (p, rest) := by
  have hReads := Index.reads_of_writtenAs hWritten
  cases s <;> exact Json.Reader.run_fieldOnce hReads _ _ _ rest

/-
  Sections that are not known before and do not come twice
  are known in the end, and no other ones are.
-/
theorem foldlM_fill
    {kept : List Section}
    {known : Parts}
    (hOnce : kept.Nodup)
    (hNew : ∀ s ∈ kept, known.index? s = none) :
    ∃ p,
      kept.foldlM (Parts.fill tables) known = .ok p ∧
        ∀ s,
          p.index? s =
            if s ∈ kept then
              some (tables.index s)
            else
              known.index? s := by
  induction kept generalizing known with
  | nil => exact ⟨known, rfl, fun s => rfl⟩
  | cons first kept ih =>
      rw [List.nodup_cons] at hOnce
      rw [List.forall_mem_cons] at hNew
      let next := known.put first (some (tables.index first))
      have hStep : Parts.fill tables known first = .ok next := by
        rw [Parts.fill, hNew.1]
        rfl
      have hOthers : ∀ s ∈ kept, next.index? s = none := by
        intro s hMember
        have hOther : s ≠ first := fun hSame =>
          hOnce.1 (hSame ▸ hMember)
        rw [Parts.index?_put, if_neg hOther, hNew.2 s hMember]
      rcases ih hOnce.2 hOthers with ⟨p, hFold, hIndexes⟩
      refine ⟨p, ?_, ?_⟩
      · rw [List.foldlM_cons, hStep]
        exact hFold
      · intro s
        rw [hIndexes, Parts.index?_put]
        by_cases hFirst : s = first
        · simp [hFirst, hOnce.1]
        · simp [hFirst]

end Tables

end Lexicon

end QuestionQuery

------------------------------------------------------------
-- Documents
------------------------------------------------------------

namespace QuestionQuery

namespace Lexicon

namespace Tables

variable {tables : Tables}
variable {v : Json}

/-
  Is a value a document of tables?  Sections stand in any
  order, each at most once, and so do the labels inside them;
  only empty sections may be left out.
-/
inductive WrittenAs
    (tables : Tables) : Json → Prop
  | sections
      {kept : List Section}
      {doc : Section → Json}
      (hOnce : kept.Nodup)
      (hLeftOut : ∀ s, s ∉ kept → tables.index s = .empty)
      (hSections : ∀ s ∈ kept, (tables.index s).WrittenAs (doc s)) :
      WrittenAs tables
        (.record (kept.map fun s => (s.key, doc s)))

/- The usual document has all sections and labels in order. -/
theorem writtenAs_toJson
    (tables : Tables) :
    tables.WrittenAs tables.toJson := by
  rw [toJson_eq]
  refine .sections (by decide) ?_ fun s _ =>
    Index.writtenAs_toJson (tables.index s)
  intro s hLeftOut
  cases s <;> exact absurd (by decide) hLeftOut

/- Tables are read back from any document of them. -/
theorem reads_of_writtenAs
    (hWritten : tables.WrittenAs v) :
    reader.Reads v tables := by
  rcases hWritten with @⟨kept, doc, hOnce, hLeftOut, hSections⟩
  rcases @foldlM_fill tables kept .none hOnce
      fun s _ => Parts.index?_none s with
    ⟨p, hFold, hIndexes⟩
  have hTables : p.tables = tables := by
    apply eq_of_index_eq
    intro s
    rw [Parts.index_tables, hIndexes, Parts.index?_none]
    by_cases hKept : s ∈ kept
    · simp [hKept]
    · simp [hKept, hLeftOut s hKept]
  intro rest
  rw [Json.Reader.tokens_record]
  change
    ((Json.Reader.fields Parts.field .none).run
        (Json.Reader.fieldTokens _ ++ rest) >>=
      fun q => .ok (q.1.tables, q.2)) = _
  rw [Json.Reader.run_fields_map fun s hKept =>
      run_section (hSections s hKept), hFold, ← hTables]
  rfl

/- There is no number in a document of tables. -/
theorem WrittenAs.isWordy
    (hWritten : tables.WrittenAs v) :
    v.IsWordy := by
  rcases hWritten with ⟨_, _, hSections⟩
  rw [Json.Reader.isWordy_record_map_iff]
  exact fun s hKept => (hSections s hKept).isWordy

/- Tables are read back from the text of any document. -/
theorem WrittenAs.ofText_compact
    (hWritten : tables.WrittenAs v) :
    ofText v.compact = .ok tables := by
  rw [ofText,
    (reads_of_writtenAs hWritten).read_compact hWritten.isWordy]
  rfl

theorem WrittenAs.lexicon_ofText_compact
    (hWritten : tables.WrittenAs v) :
    Lexicon.ofText v.compact = .ok tables.toLexicon := by
  rw [Lexicon.ofText, hWritten.ofText_compact]
  rfl

end Tables

/- Does a lexicon find the lists of tables, as they stand? -/
structure Answers
    (lexicon : Lexicon)
    (tables : Tables) : Prop where
  classes :
    ∀ label,
      lexicon.classes label =
        (tables.classes.entries.get? label).getD []
  properties :
    ∀ label,
      lexicon.properties label =
        (tables.properties.entries.get? label).getD []
  entities :
    ∀ label,
      lexicon.entities label =
        (tables.entities.entries.get? label).getD []

namespace Tables

theorem answers_toLexicon
    (tables : Tables) :
    tables.toLexicon.Answers tables :=
  ⟨fun _ => rfl, fun _ => rfl, fun _ => rfl⟩

/-
  Whatever lists tables have, the text that is written for
  them is read back as the same tables, and as a lexicon that
  finds just these lists.  So is the text of a document with
  empty sections left out, and with sections and labels in
  another order.
-/
theorem text_tells_answers
    (tables : Tables) :
    ofText tables.toText = .ok tables ∧
    (∃ lexicon,
      Lexicon.ofText tables.toText = .ok lexicon ∧
        lexicon.Answers tables) ∧
    ∀ v,
      tables.WrittenAs v →
        ofText v.compact = .ok tables ∧
        ∃ lexicon,
          Lexicon.ofText v.compact = .ok lexicon ∧
            lexicon.Answers tables := by
  have hAnswers := answers_toLexicon tables
  have hUsual := writtenAs_toJson tables
  refine ⟨hUsual.ofText_compact,
    ⟨_, hUsual.lexicon_ofText_compact, hAnswers⟩, ?_⟩
  intro v hWritten
  exact ⟨hWritten.ofText_compact, _,
    hWritten.lexicon_ofText_compact, hAnswers⟩

/- Tables with a repeat, an empty list and an empty index. -/
def islands : Tables where
  classes :=
    ⟨.ofList
      [("atoll", []), ("isle", ["uri:Island", "uri:Isle"]),
        ("key", ["uri:Key", "uri:Island", "uri:Key"])]⟩
  properties := .empty
  entities := ⟨.ofList [("\"Man\"", ["uri:Isle_of_Man"])]⟩

/- Their document without the empty index, and turned round. -/
def islandsTurned : Json :=
  .record
    [("entities",
        .record
          [("\"Man\"", .list (["uri:Isle_of_Man"].map .text))]),
      ("classes",
        .record
          [("key",
              .list
                (["uri:Key", "uri:Island", "uri:Key"].map .text)),
            ("atoll", .list ([].map .text)),
            ("isle",
              .list (["uri:Island", "uri:Isle"].map .text))])]

/- The lists of each section as they stand there. -/
def islandsTurnedLists : Section → List (String × List String)
  | .classes =>
    [("key", ["uri:Key", "uri:Island", "uri:Key"]), ("atoll", []),
      ("isle", ["uri:Island", "uri:Isle"])]
  | .properties => []
  | .entities => [("\"Man\"", ["uri:Isle_of_Man"])]

theorem writtenAs_islandsTurned :
    islands.WrittenAs islandsTurned := by
  have hLists
      (s : Section) :
      (islandsTurnedLists s).Perm
        (islands.index s).entries.toList := by
    cases s <;> decide +kernel
  have hLeftOut :
      ∀ s, s ∉ [Section.entities, .classes] →
        islands.index s = .empty := by
    intro s hNot
    cases s with
    | properties => rfl
    | _ => exact absurd (by decide) hNot
  exact
    @WrittenAs.sections islands [.entities, .classes]
      (fun s =>
        .record
          ((islandsTurnedLists s).map fun e =>
            (e.1, Index.listToJson e.2)))
      (by decide) hLeftOut
      fun s _ => ⟨islandsTurnedLists s, hLists s, rfl⟩

theorem ofText_islandsTurned :
    islands.WrittenAs islandsTurned ∧
    ofText islandsTurned.compact = .ok islands ∧
    ∃ lexicon,
      Lexicon.ofText islandsTurned.compact = .ok lexicon ∧
        lexicon.classes "key" =
          ["uri:Key", "uri:Island", "uri:Key"] ∧
        lexicon.classes "atoll" = [] ∧
        lexicon.properties "key" = [] ∧
        lexicon.entities "\"Man\"" = ["uri:Isle_of_Man"] := by
  have hTurned := writtenAs_islandsTurned
  rcases (text_tells_answers islands).2.2 _ hTurned with
    ⟨hTables, lexicon, hLexicon, hAnswers⟩
  refine ⟨hTurned, hTables, lexicon, hLexicon, ?_, ?_, ?_, ?_⟩
  · rw [hAnswers.classes]
    decide +kernel
  · rw [hAnswers.classes]
    decide +kernel
  · rw [hAnswers.properties]
    rfl
  · rw [hAnswers.entities]
    decide +kernel

end Tables

end Lexicon

end QuestionQuery
