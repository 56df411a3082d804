import QuestionQuery.Proofs.Candidate.Growth
import QuestionQuery.Proofs.Generation.Weight

/-
  When no two choices make the same candidate.

  A candidate shows the moves that led to it, since different
  patterns are written differently whatever the resources
  are called.  Only the moves that keep a candidate, and the
  pattern that leaves its predicate open, do not tell whose
  they are.  If words share no resource and no phrase, each
  move of a candidate can be given back to its word, so
  different choices make different candidates.

  Key definitions include:
    * `Triple.IsTemplate`
    * `Move.ShownBy`
    * `Word.Key`
    * `Word.Apart`

  Main statements:
    * `Triple.IsTemplate.eq_of_text_eq`
    * `Move.shownBy_foldl_empty_iff`
    * `Word.Choice.eq_of_foldl_eq`
    * `Generation.size_candidates_ofTree`
-/

------------------------------------------------------------
-- Texts Of Patterns
------------------------------------------------------------

namespace QuestionQuery

/- The patterns that moves require. -/
inductive Triple.IsTemplate : Triple → Prop
  | forward
      (uri : String) :
      IsTemplate ⟨.var .proj, .iri uri, .var .const⟩
  | backward
      (uri : String) :
      IsTemplate ⟨.var .const, .iri uri, .var .proj⟩
  | anyPredicate :
      IsTemplate ⟨.var .const, .rootPredicate, .var .proj⟩
  | instanceOf
      (v : Variable)
      (uri : String) :
      IsTemplate ⟨.var v, .isA, .iri uri⟩
  | bridge
      (uri : String) :
      IsTemplate ⟨.var .proj, .bridgePredicate, .iri uri⟩

/-
  Patterns are told apart by their texts, whatever characters
  the resources have.  Patterns of different form differ no
  later than behind the first space.
-/
theorem Triple.IsTemplate.eq_of_text_eq
    {s t : Triple}
    (hLeft : s.IsTemplate)
    (hRight : t.IsTemplate)
    (hText : s.text = t.text) :
    s = t := by
  have hChars := congrArg String.toList hText
  simp only [text, Term.text, Variable.name,
    String.toList_append] at hChars
  clear hText
  cases hLeft with
  | forward uri =>
      cases hRight with
      | forward other => simp_all [String.toList_inj]
      | instanceOf v => cases v <;> simp at hChars
      | _ => simp at hChars
  | backward uri =>
      cases hRight with
      | backward other => simp_all [String.toList_inj]
      | instanceOf v => cases v <;> simp at hChars
      | _ => simp at hChars
  | anyPredicate =>
      cases hRight with
      | anyPredicate => rfl
      | instanceOf v => cases v <;> simp at hChars
      | _ => simp at hChars
  | instanceOf v uri =>
      cases hRight with
      | instanceOf v' other =>
          cases v <;> cases v' <;>
            simp_all [String.toList_inj]
      | _ => cases v <;> simp at hChars
  | bridge uri =>
      cases hRight with
      | bridge other => simp_all [String.toList_inj]
      | instanceOf v => cases v <;> simp at hChars
      | _ => simp at hChars

end QuestionQuery

------------------------------------------------------------
-- Moves That A Candidate Shows
------------------------------------------------------------

namespace QuestionQuery

namespace Candidate

/- Is a whole text searched for on behalf of a variable? -/
def HasPhrase
    (c : Candidate)
    (name label : String) : Prop :=
  ∃ phrases,
    c.exactPhrases.get? name = some phrases ∧ label ∈ phrases

/- One more search adds one phrase of one variable. -/
theorem hasPhrase_search_iff
    {c : Candidate}
    {name label other phrase : String} :
    (c.search name label).HasPhrase other phrase ↔
      (other = name ∧ phrase = label) ∨
        c.HasPhrase other phrase := by
  by_cases hName : other = name
  · subst hName
    cases hOld : c.exactPhrases.get? other <;>
      simp [HasPhrase, get?_exactPhrases_search, hOld]
  · simp [HasPhrase, get?_exactPhrases_search, hName]

end Candidate

namespace Move

/- Does a candidate have what a move adds? -/
def ShownBy
    (d : Candidate) : Move → Prop
  | .keep => True
  | .require pattern => pattern.text ∈ d.constraints
  | .restrict v uri => Sparql.membership v uri ∈ d.filters
  | .search v label => d.HasPhrase v.name label

/- Does a move require one of the patterns, if any? -/
def IsRegular : Move → Prop
  | .require pattern => pattern.IsTemplate
  | _ => True

private theorem isRegular_of_mem_ofLabel
    {m : Move}
    {label : String}
    (hMove : m ∈ ofLabel label) :
    m.IsRegular := by
  rcases Move.mem_ofLabel_iff.mp hMove with ⟨v, rfl⟩
  trivial

private theorem isRegular_of_mem_ofType
    {m : Move}
    {uri : String}
    (hMove : m ∈ ofType uri) :
    m.IsRegular := by
  rcases Move.mem_ofType_iff.mp hMove with rfl | rfl | rfl
  · exact .instanceOf .const uri
  · exact .instanceOf .proj uri
  · trivial

/- The moves of a word require only the patterns. -/
theorem isRegular_of_mem_moves
    {source : LabelSource}
    {w : Word}
    {m : Move}
    (hMove : m ∈ w.moves source) :
    m.IsRegular := by
  by_cases hPlain : w.annotations = .empty
  · rcases (Word.mem_moves_of_plain hPlain).mp hMove with
      ⟨_, hLabel⟩ | ⟨_, rfl⟩ |
        ⟨_, rfl | rfl | ⟨found, _, hLabel⟩⟩
    · exact isRegular_of_mem_ofLabel hLabel
    · trivial
    · exact .bridge w.label
    · trivial
    · exact isRegular_of_mem_ofLabel hLabel
  · rcases (Word.mem_moves_of_annotated hPlain).mp hMove with
      ⟨uri, _, hRule⟩
    rcases hRule with ⟨_, hVerb⟩ | ⟨_, hNoun⟩ | ⟨_, hType⟩
    · rcases Move.mem_ofVerb_iff.mp hVerb with rfl | rfl | rfl
      · exact .forward uri
      · exact .backward uri
      · exact .anyPredicate
    · rcases Move.mem_ofNoun_iff.mp hNoun with rfl | hType
      · exact .backward uri
      · exact isRegular_of_mem_ofType hType
    · exact isRegular_of_mem_ofType hType

private theorem membership_inj
    {v v' : Variable}
    {uri other : String} :
    Sparql.membership v uri = Sparql.membership v' other ↔
      v = v' ∧ uri = other := by
  constructor
  · intro hText
    have hChars := congrArg String.toList hText
    simp only [Sparql.membership, Term.text,
      String.toList_append] at hChars
    clear hText
    cases v <;> cases v' <;>
      simp_all [Variable.name, String.toList_inj]
  · rintro ⟨rfl, rfl⟩
    rfl

private theorem name_inj
    {v v' : Variable} :
    v.name = v'.name ↔ v = v' := by
  cases v <;> cases v' <;> simp [Variable.name]

/- A move adds itself to what is shown, and nothing else. -/
theorem shownBy_apply_iff
    {m n : Move}
    {c : Candidate}
    (hMine : m.IsRegular)
    (hOther : n.IsRegular)
    (hKeep : m ≠ .keep) :
    m.ShownBy (n.apply c) ↔ m = n ∨ m.ShownBy c := by
  cases m with
  | keep => exact absurd rfl hKeep
  | require pattern =>
      cases n with
      | require other =>
          have hText :
              pattern.text = other.text ↔ pattern = other :=
            ⟨hMine.eq_of_text_eq hOther, congrArg Triple.text⟩
          simp [ShownBy, apply, Candidate.require, hText]
      | _ =>
          simp [ShownBy, apply, Candidate.restrict,
            Candidate.search]
  | restrict v uri =>
      cases n with
      | restrict v' other =>
          simp [ShownBy, apply, Candidate.restrict,
            membership_inj]
      | _ =>
          simp [ShownBy, apply, Candidate.require,
            Candidate.search]
  | search v label =>
      cases n with
      | search v' other =>
          simp [ShownBy, apply, Candidate.hasPhrase_search_iff,
            name_inj]
      | _ =>
          simp [ShownBy, apply, Candidate.require,
            Candidate.restrict, Candidate.HasPhrase]

/- A candidate shows the moves that led to it. -/
theorem shownBy_foldl_iff
    {m : Move}
    {ms : List Move}
    {c : Candidate}
    (hMine : m.IsRegular)
    (hOthers : ∀ n ∈ ms, n.IsRegular)
    (hKeep : m ≠ .keep) :
    m.ShownBy (ms.foldl apply c) ↔ m ∈ ms ∨ m.ShownBy c := by
  induction ms generalizing c with
  | nil => simp
  | cons n ms ih =>
      rw [List.foldl_cons,
        ih fun k hk => hOthers k (by simp [hk]),
        shownBy_apply_iff hMine (hOthers n (by simp)) hKeep,
        List.mem_cons]
      tauto

/- From the empty candidate nothing else is shown. -/
theorem shownBy_foldl_empty_iff
    {m : Move}
    {ms : List Move}
    (hMine : m.IsRegular)
    (hOthers : ∀ n ∈ ms, n.IsRegular)
    (hKeep : m ≠ .keep) :
    m.ShownBy (ms.foldl apply .empty) ↔ m ∈ ms := by
  have hEmpty : ¬ m.ShownBy .empty := by
    cases m <;>
      simp_all [ShownBy, Candidate.empty, Candidate.HasPhrase]
  simp [shownBy_foldl_iff hMine hOthers hKeep, hEmpty]

end Move

end QuestionQuery

------------------------------------------------------------
-- Moves That Tell Their Word
------------------------------------------------------------

namespace QuestionQuery

namespace Word

/- What a move of a word is about. -/
inductive Key where
  | meaning (uri : String)
  | resource (uri : String)
  | phrase (label : String)

/- The phrases that a word is searched for by. -/
def phrases
    (source : LabelSource)
    (w : Word) : List String :=
  if w.isAnnotated then
    []
  else
    match w.partOfSpeech with
    | .combinedNoun
    | .properNoun
    | .adjective
    | .cardinal
    | .verb
    | .noun
    | .pluralNoun => [w.label]
    | .resolved => (source.labels w.label).toList
    | _ => []

/- Is a word labelled with a resource to look labels up for? -/
def IsResource
    (w : Word) : Prop :=
  ¬ w.isAnnotated ∧ w.partOfSpeech = .resolved

/- May a move of a word be about something? -/
def Uses
    (source : LabelSource)
    (w : Word) : Key → Prop
  | .meaning uri => uri ∈ w.annotations
  | .resource uri => w.IsResource ∧ uri = w.label
  | .phrase label => label ∈ w.phrases source

/- Two words share no annotation, no resource and no phrase. -/
structure Apart
    (source : LabelSource)
    (v w : Word) : Prop where
  annotations : ∀ uri ∈ v.annotations, uri ∉ w.annotations
  resources : v.IsResource → w.IsResource → v.label ≠ w.label
  phrases : ∀ label ∈ v.phrases source, label ∉ w.phrases source

instance
    (w : Word) :
    Decidable w.IsResource :=
  inferInstanceAs (Decidable (_ ∧ _))

instance
    (source : LabelSource)
    (v w : Word) :
    Decidable (v.Apart source w) :=
  decidable_of_iff
    ((∀ uri ∈ v.annotations.toList, uri ∉ w.annotations) ∧
      (v.IsResource → w.IsResource → v.label ≠ w.label) ∧
      ∀ label ∈ v.phrases source, label ∉ w.phrases source)
    ⟨fun h => ⟨h.1, h.2.1, h.2.2⟩,
      fun h => ⟨h.annotations, h.resources, h.phrases⟩⟩

/- Words that are apart use different things. -/
theorem Apart.not_uses
    {source : LabelSource}
    {v w : Word}
    {k : Key}
    (hApart : v.Apart source w)
    (hLeft : v.Uses source k) :
    ¬ w.Uses source k := by
  intro hRight
  cases k with
  | meaning uri => exact hApart.annotations uri hLeft hRight
  | resource uri =>
      exact hApart.resources hLeft.1 hRight.1
        (hLeft.2.symm.trans hRight.2)
  | phrase label => exact hApart.phrases label hLeft hRight

end Word

namespace Move

/-
  What a move is about.  Keeping a candidate, and the pattern
  with an open predicate, are about nothing.
-/
def key? : Move → Option Word.Key
  | .require ⟨_, .iri uri, _⟩ => some (.meaning uri)
  | .require ⟨_, .isA, .iri uri⟩ => some (.meaning uri)
  | .require ⟨_, .bridgePredicate, .iri uri⟩ =>
    some (.resource uri)
  | .restrict _ uri => some (.resource uri)
  | .search _ label => some (.phrase label)
  | _ => none

end Move

namespace Word

variable {source : LabelSource}
variable {w : Word}

/- The one move of a word that may be about nothing. -/
def neutral
    (w : Word) : Move :=
  if w.isAnnotated && w.partOfSpeech = .verb then
    .backward .rootPredicate
  else
    .keep

theorem key?_neutral
    (w : Word) :
    w.neutral.key? = none := by
  rw [neutral]
  split <;> rfl

private theorem key?_of_mem_ofLabel
    {m : Move}
    {label : String}
    (hMove : m ∈ Move.ofLabel label) :
    m.key? = some (.phrase label) := by
  rcases Move.mem_ofLabel_iff.mp hMove with ⟨v, rfl⟩
  rfl

private theorem key?_of_mem_ofType
    {m : Move}
    {uri : String}
    (hMove : m ∈ Move.ofType uri) :
    m = .keep ∨ m.key? = some (.meaning uri) := by
  rcases Move.mem_ofType_iff.mp hMove with rfl | rfl | rfl
  · exact .inr rfl
  · exact .inr rfl
  · exact .inl rfl

/- Moves of an annotation are about it, but for one. -/
private theorem eq_neutral_or_uses_of_annotated
    {m : Move}
    (hAnnotated : w.annotations ≠ .empty)
    (hMove : m ∈ w.moves source) :
    m = w.neutral ∨
      ∃ k, m.key? = some k ∧ w.Uses source k := by
  rcases (mem_moves_of_annotated hAnnotated).mp hMove with
    ⟨uri, hUri, hRule⟩
  have hUses : w.Uses source (.meaning uri) := hUri
  rcases hRule with ⟨hTag, hVerb⟩ | ⟨hTag, hNoun⟩ | ⟨hTag, hType⟩
  · have hNeutral : w.neutral = .backward .rootPredicate := by
      simp [neutral, isAnnotated_iff.mpr hAnnotated, hTag]
    rcases Move.mem_ofVerb_iff.mp hVerb with rfl | rfl | rfl
    · exact .inr ⟨_, rfl, hUses⟩
    · exact .inr ⟨_, rfl, hUses⟩
    · exact .inl hNeutral.symm
  · have hNeutral : w.neutral = .keep := by
      rcases hTag with hTag | hTag
      · cases hPart : w.partOfSpeech <;>
          simp_all [neutral, PartOfSpeech.isNoun]
      · simp [neutral, hTag]
    rcases Move.mem_ofNoun_iff.mp hNoun with rfl | hType
    · exact .inr ⟨_, rfl, hUses⟩
    · rcases key?_of_mem_ofType hType with rfl | hKey
      · exact .inl hNeutral.symm
      · exact .inr ⟨_, hKey, hUses⟩
  · have hNeutral : w.neutral = .keep := by
      simp [neutral, hTag]
    rcases key?_of_mem_ofType hType with rfl | hKey
    · exact .inl hNeutral.symm
    · exact .inr ⟨_, hKey, hUses⟩

/- Moves of a label are about it, but for keeping. -/
private theorem eq_neutral_or_uses_of_plain
    {m : Move}
    (hPlain : w.annotations = .empty)
    (hMove : m ∈ w.moves source) :
    m = w.neutral ∨
      ∃ k, m.key? = some k ∧ w.Uses source k := by
  have hNot : ¬ w.isAnnotated :=
    fun hAnnotated => isAnnotated_iff.mp hAnnotated hPlain
  rcases (mem_moves_of_plain hPlain).mp hMove with
    ⟨hTag, hLabel⟩ | ⟨_, rfl⟩ |
      ⟨hTag, rfl | rfl | ⟨found, hFound, hLabel⟩⟩
  · have hPhrase : w.label ∈ w.phrases source := by
      rw [phrases, if_neg hNot]
      cases hPart : w.partOfSpeech <;> simp_all
    exact .inr ⟨_, key?_of_mem_ofLabel hLabel, hPhrase⟩
  · left
    simp [neutral, hNot]
  · exact .inr ⟨.resource w.label, rfl, ⟨hNot, hTag⟩, rfl⟩
  · exact .inr ⟨.resource w.label, rfl, ⟨hNot, hTag⟩, rfl⟩
  · have hPhrase : found ∈ w.phrases source := by
      rw [phrases, if_neg hNot, hTag]
      exact hFound
    exact .inr ⟨_, key?_of_mem_ofLabel hLabel, hPhrase⟩

/- All moves but one are about what the word may use. -/
theorem eq_neutral_or_uses
    {m : Move}
    (hMove : m ∈ w.moves source) :
    m = w.neutral ∨
      ∃ k, m.key? = some k ∧ w.Uses source k := by
  by_cases hPlain : w.annotations = .empty
  · exact eq_neutral_or_uses_of_plain hPlain hMove
  · exact eq_neutral_or_uses_of_annotated hPlain hMove

/- A move of one word is no move of a word apart from it. -/
theorem Apart.not_mem_moves
    {v : Word}
    {m : Move}
    (hApart : v.Apart source w)
    (hMove : m ∈ v.moves source)
    (hKey : m.key? ≠ none) :
    m ∉ w.moves source := by
  intro hOther
  rcases eq_neutral_or_uses hMove with rfl | ⟨k, hMine, hUses⟩
  · exact hKey (key?_neutral v)
  rcases eq_neutral_or_uses hOther with rfl | ⟨k', hYours, hUses'⟩
  · exact hKey (key?_neutral w)
  have hEq := Option.some.inj (hMine.symm.trans hYours)
  subst hEq
  exact hApart.not_uses hUses hUses'

/- Only one move of a word is about nothing. -/
theorem eq_neutral_of_key?_eq_none
    {m : Move}
    (hMove : m ∈ w.moves source)
    (hKey : m.key? = none) :
    m = w.neutral := by
  rcases eq_neutral_or_uses hMove with rfl | ⟨k, hSome, _⟩
  · rfl
  · simp [hSome] at hKey

end Word

end QuestionQuery

------------------------------------------------------------
-- Choices That Tell Themselves
------------------------------------------------------------

namespace QuestionQuery

namespace Word

variable {source : LabelSource}

/- A move that is chosen is one of some word's. -/
theorem Choice.exists_word
    {ws : List Word}
    {ms : List Move}
    {m : Move}
    (hChoice : Choice source ws ms)
    (hMember : m ∈ ms) :
    ∃ w ∈ ws, m ∈ w.moves source := by
  induction hChoice with
  | nil => simp at hMember
  | @cons w n ws ms hMove _ ih =>
      rcases List.mem_cons.mp hMember with rfl | hMember
      · exact ⟨w, by simp, hMove⟩
      · rcases ih hMember with ⟨v, hWord, hMine⟩
        exact ⟨v, by simp [hWord], hMine⟩

/- Moves of a word are not chosen for words apart from it. -/
private theorem Choice.not_mem
    {w : Word}
    {ws : List Word}
    {ms : List Move}
    {m : Move}
    (hApart : ∀ v ∈ ws, w.Apart source v)
    (hChoice : Choice source ws ms)
    (hMove : m ∈ w.moves source)
    (hKey : m.key? ≠ none) :
    m ∉ ms := by
  intro hMember
  rcases hChoice.exists_word hMember with ⟨v, hWord, hOther⟩
  exact (hApart v hWord).not_mem_moves hMove hKey hOther

/- The first moves of two choices that share their moves. -/
private theorem Choice.head_eq
    {w : Word}
    {ws : List Word}
    {m n : Move}
    {ms ns : List Move}
    (hApart : ∀ v ∈ ws, w.Apart source v)
    (hMove : m ∈ w.moves source)
    (hOther : n ∈ w.moves source)
    (hLeft : Choice source ws ms)
    (hRight : Choice source ws ns)
    (hSame :
      ∀ k, k.key? ≠ none → (k ∈ m :: ms ↔ k ∈ n :: ns)) :
    m = n := by
  by_cases hMine : m.key? = none
  · by_cases hYours : n.key? = none
    · rw [eq_neutral_of_key?_eq_none hMove hMine,
        eq_neutral_of_key?_eq_none hOther hYours]
    · rcases List.mem_cons.mp
          ((hSame n hYours).mpr List.mem_cons_self) with
        hEq | hMember
      · exact hEq.symm
      · exact absurd hMember
          (hLeft.not_mem hApart hOther hYours)
  · rcases List.mem_cons.mp
        ((hSame m hMine).mp List.mem_cons_self) with
      hEq | hMember
    · exact hEq
    · exact absurd hMember
        (hRight.not_mem hApart hMove hMine)

/-
  If words are apart, a choice is known from the moves in it
  that are about something.  Each word gets back those of
  its own moves, and else has made its neutral one.
-/
theorem Choice.eq_of_mem_iff
    {ws : List Word}
    {ms ns : List Move}
    (hApart : ws.Pairwise (Apart source))
    (hLeft : Choice source ws ms)
    (hRight : Choice source ws ns)
    (hSame : ∀ k, k.key? ≠ none → (k ∈ ms ↔ k ∈ ns)) :
    ms = ns := by
  induction ws generalizing ms ns with
  | nil =>
      cases hLeft
      cases hRight
      rfl
  | cons w ws ih =>
      rcases List.pairwise_cons.mp hApart with ⟨hHead, hTail⟩
      rcases List.forall₂_cons_left_iff.mp hLeft with
        ⟨m, ms, hMove, hMs, rfl⟩
      rcases List.forall₂_cons_left_iff.mp hRight with
        ⟨n, ns, hOther, hNs, rfl⟩
      have hEq := head_eq hHead hMove hOther hMs hNs hSame
      subst hEq
      congr 1
      apply ih hTail hMs hNs
      intro k hKey
      by_cases hFirst : k = m
      · subst hFirst
        have hNotLeft := not_mem hHead hMs hMove hKey
        have hNotRight := not_mem hHead hNs hMove hKey
        simp [hNotLeft, hNotRight]
      · simpa [hFirst] using hSame k hKey

/- Different choices of words apart make different candidates. -/
theorem Choice.eq_of_foldl_eq
    {ws : List Word}
    {ms ns : List Move}
    (hApart : ws.Pairwise (Apart source))
    (hLeft : Choice source ws ms)
    (hRight : Choice source ws ns)
    (hApply :
      ms.foldl Move.apply .empty = ns.foldl Move.apply .empty) :
    ms = ns := by
  have hRegular
      {ks : List Move}
      (hChoice : Choice source ws ks) :
      ∀ k ∈ ks, k.IsRegular := by
    intro k hMember
    rcases hChoice.exists_word hMember with ⟨w, _, hMove⟩
    exact Move.isRegular_of_mem_moves hMove
  apply hLeft.eq_of_mem_iff hApart hRight
  intro k hKey
  have hKeep : k ≠ .keep := by
    rintro rfl
    exact hKey rfl
  constructor
  · intro hMember
    have hMine := hRegular hLeft k hMember
    rw [← Move.shownBy_foldl_empty_iff hMine (hRegular hRight)
      hKeep, ← hApply]
    exact (Move.shownBy_foldl_empty_iff hMine (hRegular hLeft)
      hKeep).mpr hMember
  · intro hMember
    have hMine := hRegular hRight k hMember
    rw [← Move.shownBy_foldl_empty_iff hMine (hRegular hLeft)
      hKeep, hApply]
    exact (Move.shownBy_foldl_empty_iff hMine (hRegular hRight)
      hKeep).mpr hMember

end Word

end QuestionQuery

------------------------------------------------------------
-- Exact Sizes
------------------------------------------------------------

namespace QuestionQuery

namespace Generation

variable {source : LabelSource}

/- The words behind which a visit comes, and its own one. -/
private theorem choice_concat
    {ws : List Word}
    {w : Word}
    {ms : List Move}
    {m : Move}
    (hChoice : Word.Choice source ws ms)
    (hMove : m ∈ w.moves source) :
    Word.Choice source (ws ++ [w]) (ms ++ [m]) :=
  List.rel_append hChoice (.cons hMove .nil)

/-
  Words apart have as many candidates as there are choices.
  The step is at the last word, where the candidate tells
  both the moves before and the move there.
-/
theorem size_candidates_foldl_visit
    {ws : List Word}
    (hApart : ws.Pairwise (Word.Apart source)) :
    (ws.foldl (visit source) (start seed)).candidates.size =
      (ws.map (Word.weight source)).prod := by
  induction ws using List.reverseRecOn with
  | nil => rfl
  | append_singleton ws w ih =>
      have hBefore :=
        ih (hApart.sublist (List.sublist_append_left ws [w]))
      rw [List.foldl_concat, List.map_append, List.prod_append,
        ← hBefore, List.map_singleton, List.prod_singleton,
        ← Word.card_moves, ← SortedSet.card_toFinset,
        ← SortedSet.card_toFinset, toFinset_candidates_visit,
        Finset.card_image₂_iff]
      rintro ⟨c, m⟩ hPair ⟨d, n⟩ hOther hEq
      simp only [Set.mem_prod, Finset.mem_coe,
        SortedSet.mem_toFinset, List.mem_toFinset,
        mem_candidates_foldl_visit] at hPair hOther
      rcases hPair with ⟨⟨_, hSeed, ms, hChoice, rfl⟩, hMove⟩
      rcases hOther with ⟨⟨_, hSeed', ns, hChoice', rfl⟩, hMove'⟩
      have hEmpty := SortedSet.mem_singleton.mp hSeed
      have hEmpty' := SortedSet.mem_singleton.mp hSeed'
      subst hEmpty
      subst hEmpty'
      have hMoves : ms ++ [m] = ns ++ [n] := by
        apply (choice_concat hChoice hMove).eq_of_foldl_eq hApart
          (choice_concat hChoice' hMove')
        rw [List.foldl_concat, List.foldl_concat]
        exact hEq
      rcases List.append_inj' hMoves rfl with ⟨rfl, hLast⟩
      rcases List.singleton_inj.mp hLast with rfl
      rfl

/- A visit notes how many candidates it leaves. -/
theorem peakCandidates_visit
    (g : Generation)
    (w : Word) :
    (g.visit source w).report.peakCandidates =
      max g.report.peakCandidates
        (g.visit source w).candidates.size := by
  cases hMoves : w.moves? source <;>
    simp [visit, count, branch, hMoves]

/- If words are apart and have rules, candidates never get fewer. -/
private theorem peakCandidates_foldl_visit_le
    {ws : List Word}
    (hRules : ∀ w ∈ ws, (w.moves? source).isSome)
    (hApart : ws.Pairwise (Word.Apart source)) :
    (ws.foldl (visit source) (start seed)).report.peakCandidates ≤
      (ws.map (Word.weight source)).prod := by
  induction ws using List.reverseRecOn with
  | nil => simp [start, Report.start]
  | append_singleton ws w ih =>
      have hSize := size_candidates_foldl_visit hApart
      have hBefore :=
        ih (fun v hv => hRules v (by simp [hv]))
          (hApart.sublist (List.sublist_append_left ws [w]))
      have hWeight := Word.weight_pos (hRules w (by simp))
      rw [List.foldl_concat] at hSize ⊢
      rw [peakCandidates_visit, hSize, List.map_append,
        List.prod_append, List.map_singleton, List.prod_singleton]
      exact Nat.max_le.mpr
        ⟨hBefore.trans (Nat.le_mul_of_pos_right _ hWeight),
          Nat.le_refl _⟩

/- The peak of visits is what the last one leaves. -/
private theorem peakCandidates_foldl_visit
    {ws : List Word}
    (hNe : ws ≠ [])
    (hRules : ∀ w ∈ ws, (w.moves? source).isSome)
    (hApart : ws.Pairwise (Word.Apart source)) :
    (ws.foldl (visit source) (start seed)).report.peakCandidates =
      (ws.map (Word.weight source)).prod := by
  apply Nat.le_antisymm
    (peakCandidates_foldl_visit_le hRules hApart)
  rw [← size_candidates_foldl_visit hApart]
  rcases (List.eq_nil_or_concat' ws).resolve_left hNe with
    ⟨before, last, rfl⟩
  rw [List.foldl_concat, peakCandidates_visit]
  exact Nat.le_max_right _ _

/-
  A tree has at most as many candidates for each seed as the
  product of the weights of its words.  From the empty
  candidate it has exactly that many, and never had more on
  the way, if all words have a rule and are apart from each
  other.
-/
theorem size_candidates_ofTree
    (source : LabelSource) :
    (∀ seeds t,
      (ofTree source seeds t).candidates.size ≤
        seeds.size * (t.words.map (Word.weight source)).prod) ∧
    ∀ t : ParseTree,
      (∀ w ∈ t.words, (w.moves? source).isSome) →
      t.words.Pairwise (Word.Apart source) →
        (ofTree source seed t).candidates.size =
          (t.words.map (Word.weight source)).prod ∧
        (ofTree source seed t).report.peakCandidates =
          (t.words.map (Word.weight source)).prod := by
  constructor
  · intro seeds t
    rw [ofTree_eq_foldl_visit]
    exact size_candidates_foldl_visit_le (start seeds) t.words
  · intro t hRules hApart
    have hNe : t.words ≠ [] := by
      cases t
      simp [ParseTree.words]
    rw [ofTree_eq_foldl_visit]
    exact
      ⟨size_candidates_foldl_visit hApart,
        peakCandidates_foldl_visit hNe hRules hApart⟩

/-
  A question with two verbs, which share the pattern with an
  open predicate, and with a resource of one label.
-/
def wroteAndFounded : ParseTree :=
  .node
    { Word.plain "wrote" "VBD" with
      annotations := .ofList ["uri:author", "uri:writer"] }
    [.node (Word.plain "Who" "WP") [],
      .node
        { Word.plain "founded" "VBD" with
          annotations := .ofList ["uri:founder"] }
        [.node (Word.plain "uri:Berlin" "ADD") []]]

/- Every resource has its own name as its label. -/
def namedByItself : LabelSource :=
  fun uri => .ok (.singleton uri)

theorem size_candidates_wroteAndFounded :
    (∀ w ∈ wroteAndFounded.words,
      (w.moves? namedByItself).isSome) ∧
    wroteAndFounded.words.Pairwise (Word.Apart namedByItself) ∧
    (ofTree namedByItself seed wroteAndFounded).candidates.size =
      75 ∧
    (ofTree namedByItself seed
        wroteAndFounded).report.peakCandidates = 75 := by
  have hRules :
      ∀ w ∈ wroteAndFounded.words,
        (w.moves? namedByItself).isSome := by
    decide
  have hApart :
      wroteAndFounded.words.Pairwise
        (Word.Apart namedByItself) := by
    decide
  exact
    ⟨hRules, hApart,
      (size_candidates_ofTree namedByItself).2
        wroteAndFounded hRules hApart⟩

end Generation

end QuestionQuery
