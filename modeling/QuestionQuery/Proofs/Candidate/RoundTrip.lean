import QuestionQuery.Candidate.Document
import QuestionQuery.Proofs.Json.Shape
import QuestionQuery.Sparql.Query

/-
  Candidates are read back from the texts that are written
  for them.

  Each of the four fields is read back as what it is written
  for, and no field stands in a document twice.  This needs
  nothing of the candidate: its tokens may have nothing to do
  with its phrases, and a variable may have no texts at all.
  So the text of a candidate tells all of it.

  Key definitions include:
    * `Candidate.Field`
    * `Candidate.Field.json`
    * `Candidate.Field.fill`

  Main statements:
    * `Candidate.run_field`
    * `Candidate.reads_toJson`
    * `Candidate.text_tells_candidate`
-/

------------------------------------------------------------
-- Fields
------------------------------------------------------------

namespace QuestionQuery

namespace Candidate

/- A field of a candidate. -/
inductive Field where
  | constraints
  | filters
  | fuzzyTokens
  | exactPhrases
deriving DecidableEq

namespace Field

/- The fields as they are written. -/
def all : List Field :=
  [.constraints, .filters, .fuzzyTokens, .exactPhrases]

/- The key of a field. -/
def key : Field → String
  | .constraints => "constraints"
  | .filters => "filters"
  | .fuzzyTokens => "fuzzy_tokens"
  | .exactPhrases => "exact_phrases"

/- What is written for a field of a candidate. -/
def json
    (c : Candidate) : Field → Json
  | .constraints => setToJson c.constraints
  | .filters => setToJson c.filters
  | .fuzzyTokens => mapToJson c.fuzzyTokens
  | .exactPhrases => mapToJson c.exactPhrases

/- What is known once a field is read for a candidate. -/
def fill
    (c : Candidate)
    (known : Parts)
    (k : Field) : Except Json.Error Parts :=
  match k with
  | .constraints =>
    (Json.Reader.once k.key known.constraints c.constraints).map
      fun constraints => { known with constraints }
  | .filters =>
    (Json.Reader.once k.key known.filters c.filters).map
      fun filters => { known with filters }
  | .fuzzyTokens =>
    (Json.Reader.once k.key known.fuzzyTokens c.fuzzyTokens).map
      fun fuzzyTokens => { known with fuzzyTokens }
  | .exactPhrases =>
    (Json.Reader.once k.key known.exactPhrases c.exactPhrases).map
      fun exactPhrases => { known with exactPhrases }

end Field

/- A candidate is written field by field. -/
theorem toJson_eq
    (c : Candidate) :
    c.toJson =
      .record (Field.all.map fun k => (k.key, k.json c)) :=
  rfl

/- Sets of texts are read back, and maps to them. -/
theorem reads_setToJson
    (s : SortedSet String) :
    textSet.Reads (setToJson s) s :=
  Json.Reader.reads_setOf fun text _ => Json.Reader.reads_text text

theorem reads_mapToJson
    (m : SortedMap String (SortedSet String)) :
    textSets.Reads (mapToJson m) m :=
  Json.Reader.reads_mapOf (.refl m.toList)
    fun e _ => reads_setToJson e.2

/- A field is read back behind its key, if it is the first. -/
theorem run_field
    (c : Candidate)
    (k : Field)
    (known : Parts)
    (rest : List Json.Token) :
    (Parts.field known k.key).run
        (.colon :: ((k.json c).tokens ++ rest)) =
      (k.fill c known).map fun p => (p, rest) := by
  cases k with
  | constraints
  | filters =>
      exact Json.Reader.run_fieldOnce (reads_setToJson _) _ _ _ rest
  | fuzzyTokens
  | exactPhrases =>
      exact Json.Reader.run_fieldOnce (reads_mapToJson _) _ _ _ rest

end Candidate

end QuestionQuery

------------------------------------------------------------
-- Documents
------------------------------------------------------------

namespace QuestionQuery

namespace Candidate

/- A candidate is read back from its document. -/
theorem reads_toJson
    (c : Candidate) :
    reader.Reads c.toJson c := by
  intro rest
  rw [toJson_eq, Json.Reader.tokens_record]
  change
    ((Json.Reader.fields Parts.field .none).run
        (Json.Reader.fieldTokens _ ++ rest) >>=
      fun p => p.1.candidate.run p.2) = _
  rw [Json.Reader.run_fields_map fun k _ => run_field c k]
  rfl

/- There is no number in the document of a candidate. -/
theorem isWordy_toJson
    (c : Candidate) :
    c.toJson.IsWordy := by
  have hSet (s : SortedSet String) : (setToJson s).IsWordy := by
    simp [setToJson]
  have hMap (m : SortedMap String (SortedSet String)) :
      (mapToJson m).IsWordy :=
    Json.Reader.isWordy_record_map_iff.mpr fun e _ => hSet e.2
  simp [toJson, hSet, hMap]

/- A candidate is read back from its text. -/
theorem ofText_toText_eq
    (c : Candidate) :
    ofText c.toText = .ok c :=
  (reads_toJson c).read_compact (isWordy_toJson c)

/-
  Whatever a candidate requires and searches for, the text
  that is written for it is read back as the same candidate,
  which has the same queries.  Candidates with one text are
  one candidate.
-/
theorem text_tells_candidate :
    (∀ c : Candidate, ofText c.toText = .ok c) ∧
    (∀ (c : Candidate) (o : Sparql.Options),
      (ofText c.toText).map
          (fun d => (d.fuzzyQuery o, d.exactQuery o)) =
        .ok (c.fuzzyQuery o, c.exactQuery o)) ∧
    ∀ c d : Candidate, c.toText = d.toText ↔ c = d := by
  refine ⟨ofText_toText_eq, ?_, ?_⟩
  · intro c o
    rw [ofText_toText_eq]
    rfl
  · intro c d
    constructor
    · intro hTexts
      have hRead : (.ok c : Except Json.Error Candidate) = .ok d := by
        rw [← ofText_toText_eq c, hTexts, ofText_toText_eq d]
      exact Except.ok.inj hRead
    · exact congrArg toText

end Candidate

end QuestionQuery
