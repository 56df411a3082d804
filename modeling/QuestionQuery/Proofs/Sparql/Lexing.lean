import QuestionQuery.Proofs.Sparql.Token

/-
  Which tokens are read back as they are written.

  A token is sound if its characters are those of its kind.
  A sound token is read back whatever stands behind it, if
  only the next character is not one that the token would go
  on with.  So what a text is read as can be put together
  from its pieces.

  Key definitions include:
    * `Sparql.IsBody`
    * `Sparql.isSign`
    * `Sparql.Token.IsSound`
    * `Sparql.Token.Joins`
    * `Sparql.isBreak`
    * `Sparql.Reads`

  Main statements:
    * `Sparql.body?_append`
    * `Sparql.lex_chars_append`
    * `Sparql.Reads.token`
    * `Sparql.Reads.append`
    * `Sparql.Reads.lex_eq`
-/

namespace QuestionQuery

namespace Sparql

------------------------------------------------------------
-- Bodies Of Literals
------------------------------------------------------------

/- What may stand between two quotes on a single line. -/
inductive IsBody
    (quote : Char) : List Char → Prop
  | nil : IsBody quote []
  | plain
      {c : Char}
      {cs : List Char}
      (hQuote : c ≠ quote)
      (hPlain : isPlain c)
      (hBody : IsBody quote cs) :
      IsBody quote (c :: cs)
  | escape
      {c : Char}
      {cs : List Char}
      (hEscapable : isEscapable c)
      (hBody : IsBody quote cs) :
      IsBody quote ('\\' :: c :: cs)

namespace IsBody

variable {quote : Char}

/- One body behind another one is a body. -/
theorem append
    {cs ds : List Char}
    (hLeft : IsBody quote cs)
    (hRight : IsBody quote ds) :
    IsBody quote (cs ++ ds) := by
  induction hLeft with
  | nil => exact hRight
  | plain hQuote hPlain _ ih => exact .plain hQuote hPlain ih
  | escape hEscapable _ ih => exact .escape hEscapable ih

/- Characters that stand for themselves are a body. -/
theorem of_all
    {cs : List Char}
    (hAll : cs.all fun c => c ≠ quote && isPlain c) :
    IsBody quote cs := by
  induction cs with
  | nil => exact .nil
  | cons c cs ih =>
      simp only [List.all_cons, Bool.and_eq_true,
        decide_eq_true_eq] at hAll
      rcases hAll with ⟨⟨hQuote, hPlain⟩, hRest⟩
      refine .plain hQuote hPlain (ih ?_)
      simpa using hRest

/- Bodies on both sides of a separator are a body. -/
theorem intercalate
    {sep : List Char}
    {bodies : List (List Char)}
    (hSep : IsBody quote sep)
    (hBodies : ∀ body ∈ bodies, IsBody quote body) :
    IsBody quote (sep.intercalate bodies) := by
  induction bodies with
  | nil => exact .nil
  | cons body bodies ih =>
      have hBody := hBodies body (by simp)
      have hRest := ih fun other hOther =>
        hBodies other (by simp [hOther])
      cases bodies with
      | nil => simpa using hBody
      | cons next bodies =>
          rw [List.intercalate_cons_cons]
          exact (hBody.append hSep).append hRest

end IsBody

/- A body is read up to the quote behind it. -/
theorem body?_append
    {quote : Char}
    {body rest : List Char}
    (hQuote : quote ≠ '\\')
    (hBody : IsBody quote body) :
    body? [quote] isPlain (body ++ quote :: rest) =
      some (body, rest) := by
  induction hBody with
  | nil =>
      rw [List.nil_append, body?]
      · simp
      · intro c cs hFirst
        exact absurd hFirst hQuote
  | @plain c cs hOther hPlain _ ih =>
      have hBackslash : c ≠ '\\' := by
        rintro rfl
        exact absurd hPlain (by decide)
      rw [List.cons_append, body?]
      · simp [hOther.symm, hPlain, ih]
      · intro d ds hFirst
        exact absurd hFirst hBackslash
  | escape hEscapable _ ih =>
      simp [body?, hEscapable, ih]

------------------------------------------------------------
-- Sound Tokens
------------------------------------------------------------

/- Characters of queries that are tokens of their own. -/
def isSign
    (c : Char) : Bool :=
  c ∈ ['(', ')', '.', '\x7b', '\x7d']

namespace Token

/- Does a token have the characters of its kind? -/
def IsSound : Token → Prop
  | .iri uri => IsIri uri
  | .literal quotes body =>
    ∃ quote,
      (quote = '\'' ∨ quote = '"') ∧
        quotes.toList = [quote] ∧ IsBody quote body.toList
  | .var name =>
    ∃ mark c cs,
      (mark = '?' ∨ mark = '$') ∧
        name.toList = mark :: c :: cs ∧
        isNameStart c ∧ ∀ d ∈ cs, isNameChar d
  | .word name =>
    name ≠ "" ∧ ∀ c ∈ name.toList, isWordChar c
  | .comment _ => False
  | .sign c => isSign c

/- Would a token go on with a character behind it? -/
def Joins
    (c : Char) : Token → Prop
  | .literal quotes _ => quotes.toList = [c]
  | .var _ => isNameChar c
  | .word _ => isWordChar c
  | _ => False

end Token

/- Characters that no token but a comment goes on with. -/
def isBreak
    (c : Char) : Bool :=
  !isWordChar c && c ≠ '\'' && c ≠ '"'

/- A sound token ends in front of a break. -/
theorem Token.IsSound.not_joins
    {token : Token}
    {c : Char}
    (hSound : token.IsSound)
    (hBreak : isBreak c) :
    ¬token.Joins c := by
  simp only [isBreak, Bool.and_eq_true, Bool.not_eq_true',
    decide_eq_true_eq] at hBreak
  rcases hBreak with ⟨⟨hWord, hSingle⟩, hDouble⟩
  cases token with
  | literal quotes body =>
      rcases hSound with ⟨quote, hQuote, hQuotes, -⟩
      intro hJoins
      have hSame : quote = c := by
        simpa [Joins, hQuotes] using hJoins
      subst hSame
      rcases hQuote with rfl | rfl
      · exact hSingle rfl
      · exact hDouble rfl
  | var name =>
      intro hJoins
      have hName : isNameChar c := hJoins
      simp [isWordChar, hName] at hWord
  | word name => simp [Token.Joins, hWord]
  | iri uri => exact id
  | comment text => exact id
  | sign d => exact id

/- White space is no part of a word. -/
theorem not_isSpace_of_isWordChar
    {c : Char}
    (hWord : isWordChar c) :
    ¬isSpace c := by
  intro hSpace
  simp only [isSpace, List.mem_cons, List.not_mem_nil,
    or_false, decide_eq_true_eq] at hSpace
  rcases hSpace with rfl | rfl | rfl | rfl <;>
    exact absurd hWord (by decide)

/- Characters that other tokens start with start no word. -/
private theorem token?_of_isWordChar
    {c : Char}
    (cs : List Char)
    (hWord : isWordChar c) :
    token? c cs = some (word c cs) := by
  have hOther :
      ∀ d ∈ ['<', '?', '$', '\'', '"', '#'], c ≠ d := by
    rintro d hMember rfl
    simp only [List.mem_cons, List.not_mem_nil,
      or_false] at hMember
    rcases hMember with rfl | rfl | rfl | rfl | rfl | rfl <;>
      exact absurd hWord (by decide)
  simp only [List.mem_cons, List.not_mem_nil, or_false,
    forall_eq_or_imp, forall_eq] at hOther
  simp [token?, hOther, hWord]

/- Taking stops behind characters that were all taken. -/
private theorem takeWhile_append_of_head?
    {p : Char → Bool}
    {cs rest : List Char}
    (hTaken : ∀ c ∈ cs, p c)
    (hStop : ∀ c ∈ rest.head?, ¬p c) :
    (cs ++ rest).takeWhile p = cs ∧
      (cs ++ rest).dropWhile p = rest := by
  rw [List.takeWhile_append_of_pos hTaken,
    List.dropWhile_append_of_pos hTaken]
  cases rest with
  | nil => simp
  | cons c rest =>
      have hNot : ¬p c := hStop c (by simp)
      simp [hNot]

/- A sound IRI is read back. -/
private theorem token?_iri_append
    {uri : String}
    (rest : List Char)
    (hSound : IsIri uri) :
    token? '<' (uri.toList ++ '>' :: rest) =
      some (.iri uri, rest) := by
  have hClose : ∀ c ∈ ('>' :: rest).head?, ¬isIriChar c := by
    simp only [List.head?_cons, Option.mem_some_iff,
      forall_eq']
    decide
  have hSpan := takeWhile_append_of_head? hSound hClose
  simp [token?, iri?, hSpan]

/- A sound literal is read back. -/
private theorem token?_literal_append
    {quote : Char}
    {body : String}
    {rest : List Char}
    (hQuote : quote = '\'' ∨ quote = '"')
    (hBody : IsBody quote body.toList)
    (hStop : ∀ c ∈ rest.head?, quote ≠ c) :
    token? quote (body.toList ++ quote :: rest) =
      some (.literal (.ofList [quote]) body, rest) := by
  have hBackslash : quote ≠ '\\' := by
    rcases hQuote with rfl | rfl <;> simp
  -- a long literal would take one more quote
  have hShort :
      longLiteral? quote (body.toList ++ quote :: rest) =
        none := by
    unfold longLiteral?
    apply if_neg
    generalize body.toList = cs at hBody
    cases hBody with
    | nil =>
        cases rest with
        | nil => simp
        | cons c rest => simpa using hStop c (by simp)
    | plain hOther => simp [hOther.symm]
    | escape => simp [hBackslash]
  have hRead :
      shortLiteral? quote (body.toList ++ quote :: rest) =
        some (.literal (.ofList [quote]) body, rest) := by
    simp [shortLiteral?, body?_append hBackslash hBody]
  have hKind : token? quote (body.toList ++ quote :: rest) =
      (longLiteral? quote (body.toList ++ quote :: rest)).or
        (shortLiteral? quote (body.toList ++ quote :: rest)) := by
    rcases hQuote with rfl | rfl <;> rfl
  rw [hKind, hShort, hRead, Option.none_or]

/- A sound variable is read back. -/
private theorem token?_var_append
    {mark c : Char}
    {cs rest : List Char}
    (hMark : mark = '?' ∨ mark = '$')
    (hStart : isNameStart c)
    (hName : ∀ d ∈ cs, isNameChar d)
    (hStop : ∀ d ∈ rest.head?, ¬isNameChar d) :
    token? mark (c :: (cs ++ rest)) =
      some (.var (.ofList (mark :: c :: cs)), rest) := by
  have hSpan := takeWhile_append_of_head? hName hStop
  have hKind : token? mark (c :: (cs ++ rest)) =
      var? mark (c :: (cs ++ rest)) := by
    rcases hMark with rfl | rfl <;> rfl
  rw [hKind]
  simp [var?, hStart, hSpan]

/-
  A sound token is read back, unless it would go on with the
  next character.
-/
theorem lex_chars_append
    {token : Token}
    {rest : List Char}
    (hSound : token.IsSound)
    (hStop : ∀ c ∈ rest.head?, ¬token.Joins c) :
    lex (token.chars ++ rest) = token :: lex rest := by
  cases token with
  | iri uri =>
      have hRead := token?_iri_append rest hSound
      simpa [Token.chars] using
        lex_cons_of_token? (by decide) hRead
  | literal quotes body =>
      rcases hSound with ⟨quote, hQuote, hQuotes, hBody⟩
      have hOther : ∀ c ∈ rest.head?, quote ≠ c := by
        simpa [Token.Joins, hQuotes] using hStop
      have hRead := token?_literal_append hQuote hBody hOther
      have hSpace : ¬isSpace quote := by
        rcases hQuote with rfl | rfl <;> simp [isSpace]
      have hLex := lex_cons_of_token? hSpace hRead
      rw [← hQuotes, String.ofList_toList] at hLex
      simpa [Token.chars, hQuotes] using hLex
  | var name =>
      rcases hSound with
        ⟨mark, c, cs, hMark, hName, hStart, hChars⟩
      have hRead := token?_var_append hMark hStart hChars hStop
      have hSpace : ¬isSpace mark := by
        rcases hMark with rfl | rfl <;> simp [isSpace]
      have hLex := lex_cons_of_token? hSpace hRead
      rw [← hName, String.ofList_toList] at hLex
      simpa [Token.chars, hName] using hLex
  | word name =>
      rcases hSound with ⟨hNonempty, hChars⟩
      cases hName : name.toList with
      | nil =>
          exact absurd (String.toList_eq_nil_iff.mp hName)
            hNonempty
      | cons c cs =>
          rw [hName] at hChars
          have hFirst := hChars c (by simp)
          have hOthers : ∀ d ∈ cs, isWordChar d :=
            fun d hd => hChars d (by simp [hd])
          have hSpan := takeWhile_append_of_head? hOthers hStop
          have hLex := lex_cons_of_token?
            (not_isSpace_of_isWordChar hFirst)
            (token?_of_isWordChar (cs ++ rest) hFirst)
          rw [hSpan.1, hSpan.2, ← hName,
            String.ofList_toList] at hLex
          simpa [Token.chars, hName] using hLex
  | comment text => exact hSound.elim
  | sign c =>
      simp only [Token.IsSound, isSign, List.mem_cons,
        List.not_mem_nil, or_false, decide_eq_true_eq] at hSound
      rcases hSound with rfl | rfl | rfl | rfl | rfl <;>
        exact lex_cons_of_token?_eq_none (by decide) rfl

------------------------------------------------------------
-- Texts
------------------------------------------------------------

/- Are characters read as given tokens whatever follows? -/
def Reads
    (cs : List Char)
    (tokens : List Token) : Prop :=
  ∀ rest, lex (cs ++ rest) = tokens ++ lex rest

namespace Reads

variable {cs ds : List Char}
variable {tokens others : List Token}

/- Nothing is read as nothing. -/
theorem nil :
    Reads [] [] := by
  intro rest
  rfl

/- White space is passed over. -/
theorem space
    {c : Char}
    (hSpace : isSpace c)
    (hReads : Reads cs tokens) :
    Reads (c :: cs) tokens := by
  intro rest
  rw [List.cons_append, lex_cons_of_isSpace hSpace, hReads]

/- A sound token is read in front of a break. -/
theorem token
    {token : Token}
    {c : Char}
    (hSound : token.IsSound)
    (hBreak : isBreak c)
    (hReads : Reads (c :: cs) tokens) :
    Reads (token.chars ++ c :: cs) (token :: tokens) := by
  intro rest
  have hStop : ∀ d ∈ (c :: cs ++ rest).head?, ¬token.Joins d := by
    simpa using hSound.not_joins hBreak
  rw [List.append_assoc, lex_chars_append hSound hStop, hReads,
    List.cons_append]

/- A sound token is read in front of a blank. -/
theorem spaced
    {token : Token}
    (hSound : token.IsSound)
    (hReads : Reads cs tokens) :
    Reads (token.chars ++ ' ' :: cs) (token :: tokens) :=
  .token hSound rfl (.space rfl hReads)

/- An IRI is read in front of anything. -/
theorem iri
    {uri : String}
    (hIri : IsIri uri)
    (hReads : Reads cs tokens) :
    Reads ((Token.iri uri).chars ++ cs)
      (.iri uri :: tokens) := by
  intro rest
  have hSound : (Token.iri uri).IsSound := hIri
  rw [List.append_assoc,
    lex_chars_append hSound fun _ _ => id, hReads,
    List.cons_append]

/- A sign is read in front of anything. -/
theorem sign
    {c : Char}
    (hSign : isSign c)
    (hReads : Reads cs tokens) :
    Reads (c :: cs) (.sign c :: tokens) := by
  intro rest
  have hSound : (Token.sign c).IsSound := hSign
  have hLex : lex ((Token.sign c).chars ++ (cs ++ rest)) =
      .sign c :: lex (cs ++ rest) :=
    lex_chars_append hSound fun _ _ => id
  rw [hReads] at hLex
  exact hLex

/- What is read is read one after the other. -/
theorem append
    (hLeft : Reads cs tokens)
    (hRight : Reads ds others) :
    Reads (cs ++ ds) (tokens ++ others) := by
  intro rest
  rw [List.append_assoc, hLeft, hRight, List.append_assoc]

/- Nothing needs to follow. -/
theorem lex_eq
    (hReads : Reads cs tokens) :
    lex cs = tokens := by
  have hNothing := hReads []
  rw [List.append_nil, lex, List.append_nil] at hNothing
  exact hNothing

/- What can be read in front of anything is read so. -/
theorem self
    (hReads : Reads cs tokens) :
    Reads cs (lex cs) := by
  rw [hReads.lex_eq]
  exact hReads

end Reads

end Sparql

end QuestionQuery
