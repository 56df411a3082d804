import QuestionQuery.Proofs.Candidate.Growth
import QuestionQuery.Proofs.Generation.Choice

/-
  The tokens of a candidate are those of its phrases.

  A search notes the tokens of a label in one map and the
  whole label in another one.  Whatever is searched for, the
  two maps keep in step, so the phrases of a candidate tell
  its tokens.  This holds of every candidate that is put
  together from nothing, and a generation keeps it.

  Key definitions include:
    * `Candidate.InStep`
    * `Candidate.Assembled`

  Main statements:
    * `Candidate.InStep.search`
    * `Candidate.InStep.fuzzyTokens_eq`
    * `Candidate.inStep_of_assembled_of_generated`
-/

------------------------------------------------------------
-- Tokens In Step With Phrases
------------------------------------------------------------

namespace QuestionQuery

namespace Candidate

/-
  Are the texts of a candidate searched for alike by tokens
  and as a whole?  The same variables have texts, each has
  some phrase, and its tokens are those of its phrases, as
  white space and hyphens separate them.
-/
structure InStep
    (c : Candidate) : Prop where
  keys :
    ∀ name, name ∈ c.fuzzyTokens.keys ↔ name ∈ c.exactPhrases.keys
  nonempty :
    ∀ name phrases,
      c.exactPhrases.get? name = some phrases →
        phrases ≠ .empty
  tokens :
    ∀ name found phrases,
      c.fuzzyTokens.get? name = some found →
      c.exactPhrases.get? name = some phrases →
        ∀ token,
          token ∈ found ↔
            ∃ phrase ∈ phrases, IsToken phrase token

/-
  Is a candidate put together from nothing?  What starts with
  a pattern is the empty candidate once that is required.
-/
inductive Assembled : Candidate → Prop
  | empty : Assembled .empty
  | require
      {c : Candidate}
      (pattern : String)
      (hBefore : Assembled c) :
      Assembled (c.require pattern)
  | restrict
      {c : Candidate}
      (condition : String)
      (hBefore : Assembled c) :
      Assembled (c.restrict condition)
  | search
      {c : Candidate}
      (name label : String)
      (hBefore : Assembled c) :
      Assembled (c.search name label)

variable {c d : Candidate}

/- A search makes its variable one that has texts. -/
theorem mem_keys_fuzzyTokens_search
    {name label other : String} :
    other ∈ (c.search name label).fuzzyTokens.keys ↔
      other = name ∨ other ∈ c.fuzzyTokens.keys := by
  simp only [SortedMap.mem_keys_iff, get?_fuzzyTokens_search]
  by_cases hName : other = name <;> simp [hName]

theorem mem_keys_exactPhrases_search
    {name label other : String} :
    other ∈ (c.search name label).exactPhrases.keys ↔
      other = name ∨ other ∈ c.exactPhrases.keys := by
  simp only [SortedMap.mem_keys_iff, get?_exactPhrases_search]
  by_cases hName : other = name <;> simp [hName]

/- The empty candidate has no texts. -/
theorem inStep_empty :
    empty.InStep where
  keys := by
    intro name
    rfl
  nonempty := by
    intro name phrases hPhrases
    simp [empty] at hPhrases
  tokens := by
    intro name found phrases hFound
    simp [empty] at hFound

namespace InStep

/- Patterns and conditions are no texts. -/
theorem require
    (hStep : c.InStep)
    (pattern : String) :
    (c.require pattern).InStep :=
  ⟨hStep.keys, hStep.nonempty, hStep.tokens⟩

theorem restrict
    (hStep : c.InStep)
    (condition : String) :
    (c.restrict condition).InStep :=
  ⟨hStep.keys, hStep.nonempty, hStep.tokens⟩

/- Variables without tokens are those without phrases. -/
theorem get?_eq_none_iff
    (hStep : c.InStep)
    (name : String) :
    c.fuzzyTokens.get? name = none ↔
      c.exactPhrases.get? name = none := by
  have hKeys := hStep.keys name
  simp only [SortedMap.mem_keys_iff,
    Option.isSome_iff_ne_none] at hKeys
  exact not_iff_not.mp hKeys

/- The tokens of a variable are those of its phrases. -/
private theorem mem_getD_tokens_iff
    (hStep : c.InStep)
    (name token : String) :
    token ∈ (c.fuzzyTokens.get? name).getD .empty ↔
      ∃ phrase ∈ (c.exactPhrases.get? name).getD .empty,
        IsToken phrase token := by
  cases hPhrases : c.exactPhrases.get? name with
  | none => simp [(hStep.get?_eq_none_iff name).mpr hPhrases]
  | some phrases =>
      cases hFound : c.fuzzyTokens.get? name with
      | none =>
          have hNone := (hStep.get?_eq_none_iff name).mp hFound
          simp [hPhrases] at hNone
      | some found =>
          exact hStep.tokens name found phrases hFound hPhrases
            token

/-
  One more search adds the tokens of the label for the label
  itself, whether or not its variable has had texts before.
-/
theorem search
    (hStep : c.InStep)
    (name label : String) :
    (c.search name label).InStep where
  keys := by
    intro other
    rw [mem_keys_fuzzyTokens_search,
      mem_keys_exactPhrases_search, hStep.keys]
  nonempty := by
    intro other phrases hPhrases
    rw [get?_exactPhrases_search] at hPhrases
    by_cases hName : other = name
    · rw [if_pos hName, Option.some.injEq] at hPhrases
      apply SortedSet.ne_empty_iff_exists_mem.mpr
      exact ⟨label, by simp [← hPhrases]⟩
    · rw [if_neg hName] at hPhrases
      exact hStep.nonempty other phrases hPhrases
  tokens := by
    intro other found phrases hFound hPhrases token
    rw [get?_fuzzyTokens_search] at hFound
    rw [get?_exactPhrases_search] at hPhrases
    by_cases hName : other = name
    · rw [if_pos hName, Option.some.injEq] at hFound hPhrases
      rw [← hFound, ← hPhrases, SortedSet.mem_insertAll,
        mem_tokens_iff, hStep.mem_getD_tokens_iff]
      simp only [SortedSet.mem_insert]
      constructor
      · rintro (⟨phrase, hPhrase, hToken⟩ | hToken)
        · exact ⟨phrase, .inr hPhrase, hToken⟩
        · exact ⟨label, .inl rfl, hToken⟩
      · rintro ⟨phrase, rfl | hPhrase, hToken⟩
        · exact .inr hToken
        · exact .inl ⟨phrase, hPhrase, hToken⟩
    · rw [if_neg hName] at hFound hPhrases
      exact hStep.tokens other found phrases hFound hPhrases token

/- A move keeps tokens and phrases in step. -/
theorem apply
    (hStep : c.InStep)
    (m : Move) :
    (m.apply c).InStep := by
  cases m with
  | keep => exact hStep
  | require pattern => exact hStep.require pattern.text
  | restrict v uri =>
      exact hStep.restrict (Sparql.membership v uri)
  | search v label => exact hStep.search v.name label

/- The phrases of a candidate tell its tokens. -/
theorem fuzzyTokens_eq
    (hLeft : c.InStep)
    (hRight : d.InStep)
    (hPhrases : c.exactPhrases = d.exactPhrases) :
    c.fuzzyTokens = d.fuzzyTokens := by
  ext1 name
  have hNone :
      c.fuzzyTokens.get? name = none ↔
        d.fuzzyTokens.get? name = none := by
    rw [hLeft.get?_eq_none_iff, hRight.get?_eq_none_iff,
      hPhrases]
  have hSame :
      (c.fuzzyTokens.get? name).getD .empty =
        (d.fuzzyTokens.get? name).getD .empty := by
    ext token
    rw [hLeft.mem_getD_tokens_iff, hRight.mem_getD_tokens_iff,
      hPhrases]
  cases hFound : c.fuzzyTokens.get? name <;>
    cases hOther : d.fuzzyTokens.get? name <;>
    simp_all

end InStep

/- Whatever is put together keeps tokens and phrases in step. -/
theorem Assembled.inStep
    (hAssembled : c.Assembled) :
    c.InStep := by
  induction hAssembled with
  | empty => exact inStep_empty
  | require pattern _ ih => exact ih.require pattern
  | restrict condition _ ih => exact ih.restrict condition
  | search name label _ ih => exact ih.search name label

end Candidate

end QuestionQuery

------------------------------------------------------------
-- Generated Candidates
------------------------------------------------------------

namespace QuestionQuery

namespace Generation

variable {source : LabelSource}
variable {seeds : SortedSet Candidate}
variable {t : ParseTree}

/- A generation keeps tokens and phrases in step. -/
theorem inStep_of_mem_candidates
    (hSeeds : ∀ c ∈ seeds, c.InStep) :
    ∀ d ∈ (ofTree source seeds t).candidates, d.InStep := by
  apply forall_mem_candidates_ofTree hSeeds
  intro w _ m _ c hStep
  exact hStep.apply m

/-
  Texts are searched for on behalf of the two variables that
  questions have, but for those of the seeds.
-/
theorem name_of_mem_keys :
    ∀ d ∈ (ofTree source seeds t).candidates,
      ∀ name ∈ d.exactPhrases.keys,
        name = "?proj" ∨ name = "?const" ∨
          ∃ c ∈ seeds, name ∈ c.exactPhrases.keys := by
  apply forall_mem_candidates_ofTree
  · intro c hSeed name hName
    exact .inr (.inr ⟨c, hSeed, hName⟩)
  · intro w _ m _ c hNames name hName
    cases m with
    | search v label =>
        rcases Candidate.mem_keys_exactPhrases_search.mp hName
          with rfl | hBefore
        · cases v with
          | proj => exact .inl rfl
          | const => exact .inr (.inl rfl)
        · exact hNames name hBefore
    | _ => exact hNames name hName

/- The empty candidate is the only seed by default. -/
theorem inStep_of_mem_seed :
    ∀ c ∈ seed, c.InStep := by
  intro c hSeed
  rw [SortedSet.mem_singleton.mp hSeed]
  exact Candidate.inStep_empty

end Generation

namespace Candidate

/-
  Tokens and phrases are in step in every candidate that is
  put together from nothing, in those that a question has,
  and in all that a generation makes of candidates in which
  they are.  A generation gives texts to no variables but the
  two of questions.
-/
theorem inStep_of_assembled_of_generated :
    (∀ c : Candidate, c.Assembled → c.InStep) ∧
    (∀ source t,
      ∀ d ∈ (Generation.ofTree source Generation.seed
          t).candidates,
        d.InStep ∧
          ∀ name ∈ d.exactPhrases.keys,
            name = "?proj" ∨ name = "?const") ∧
    ∀ source seeds t,
      (∀ c ∈ seeds, c.InStep) →
        ∀ d ∈ (Generation.ofTree source seeds t).candidates,
          d.InStep ∧
            ∀ name ∈ d.exactPhrases.keys,
              name = "?proj" ∨ name = "?const" ∨
                ∃ c ∈ seeds, name ∈ c.exactPhrases.keys := by
  refine ⟨fun c hAssembled => hAssembled.inStep, ?_, ?_⟩
  · intro source t d hMember
    have hStep : d.InStep :=
      Generation.inStep_of_mem_candidates
        Generation.inStep_of_mem_seed d hMember
    refine ⟨hStep, ?_⟩
    intro name hName
    rcases Generation.name_of_mem_keys d hMember name hName with
      hProj | hConst | ⟨c, hSeed, hOld⟩
    · exact .inl hProj
    · exact .inr hConst
    · rw [SortedSet.mem_singleton.mp hSeed] at hOld
      exact absurd hOld List.not_mem_nil
  · intro source seeds t hSeeds d hMember
    exact
      ⟨Generation.inStep_of_mem_candidates hSeeds d hMember,
        Generation.name_of_mem_keys d hMember⟩

/- A candidate with a label of its own and one without tokens. -/
def activist : Candidate :=
  (empty.search "?x" "anti-apartheid  activist").search "?y" " -"

/- A question for somebody by name. -/
def oNeill : ParseTree :=
  .leaf (.plain "O'Neill-Smith" "NNP")

/-
  The candidate once it has become part of that question,
  with all of its texts written out.
-/
def activistSmith : Candidate where
  constraints := .empty
  filters := .empty
  fuzzyTokens :=
    .ofList
      [("?const", .ofList ["O'Neill", "Smith"]),
        ("?x", .ofList ["activist", "anti", "apartheid"]),
        ("?y", .empty)]
  exactPhrases :=
    .ofList
      [("?const", .singleton "O'Neill-Smith"),
        ("?x", .singleton "anti-apartheid  activist"),
        ("?y", .singleton " -")]

theorem inStep_activist :
    activist.Assembled ∧ activist.InStep ∧
    (∀ c ∈ SortedSet.singleton activist, c.InStep) ∧
    activistSmith ∈
      (Generation.ofTree .empty (.singleton activist)
        oNeill).candidates ∧
    activistSmith.InStep ∧
    (∀ token,
      IsToken "anti-apartheid  activist" token ↔
        token ∈ ["activist", "anti", "apartheid"]) ∧
    (∀ token,
      IsToken "O'Neill-Smith" token ↔
        token ∈ ["O'Neill", "Smith"]) ∧
    ∀ token, ¬ IsToken " -" token := by
  have hAssembled : activist.Assembled :=
    .search "?y" " -"
      (.search "?x" "anti-apartheid  activist" .empty)
  have hAll := inStep_of_assembled_of_generated
  have hStep : activist.InStep := hAll.1 activist hAssembled
  have hSeeds :
      ∀ c ∈ SortedSet.singleton activist, c.InStep := by
    intro c hSeed
    rwa [SortedSet.mem_singleton.mp hSeed]
  have hMember :
      activistSmith ∈
        (Generation.ofTree .empty (.singleton activist)
          oNeill).candidates := by
    decide +kernel
  have hGenerated : activistSmith.InStep :=
    (hAll.2.2 .empty (.singleton activist) oNeill hSeeds _
      hMember).1
  -- the tokens that were noted are those of the only phrase
  have hTokens
      (name phrase : String)
      (found : List String)
      (hFound :
        activistSmith.fuzzyTokens.get? name =
          some (.ofList found))
      (hPhrase :
        activistSmith.exactPhrases.get? name =
          some (.singleton phrase))
      (token : String) :
      IsToken phrase token ↔ token ∈ found := by
    simpa using
      (hGenerated.tokens name _ _ hFound hPhrase token).symm
  refine
    ⟨hAssembled, hStep, hSeeds, hMember, hGenerated, ?_, ?_, ?_⟩
  · exact hTokens "?x" _ _ (by decide +kernel)
      (by decide +kernel)
  · exact hTokens "?const" _ _ (by decide +kernel)
      (by decide +kernel)
  · intro token
    simpa using
      hTokens "?y" " -" [] (by decide +kernel)
        (by decide +kernel) token

end Candidate

end QuestionQuery
