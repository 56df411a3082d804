import QuestionQuery.Text.Blank

/-
  How a SPARQL query falls into tokens.

  The longest token that starts at a character is taken, by
  the productions IRIREF, VAR1, VAR2, STRING_LITERAL1,
  STRING_LITERAL2 and their long forms.  Keywords, prefixed
  names and numerals are all words, any other character is a
  token of its own, and a comment is kept as a token.  So
  the tokens of a query hold all of it except white space
  between them.

  Key definitions include:
    * `Sparql.Token`
    * `Sparql.Token.chars`
    * `Sparql.IsIri`
    * `Sparql.token?`
    * `Sparql.lex`

  Main statements:
    * `Sparql.filter_chars_lex`
-/

namespace QuestionQuery

namespace Sparql

------------------------------------------------------------
-- Tokens
------------------------------------------------------------

/-
  A token.  A literal comes with the quotes at either end,
  and its body as it is written between them.
-/
inductive Token where
  | iri (uri : String)
  | literal (quotes body : String)
  | var (name : String)
  | word (name : String)
  | comment (text : String)
  | sign (c : Char)
deriving DecidableEq

/- How a token is written. -/
def Token.chars : Token → List Char
  | .iri uri => '<' :: (uri.toList ++ ['>'])
  | .literal quotes body =>
    quotes.toList ++ body.toList ++ quotes.toList
  | .var name => name.toList
  | .word name => name.toList
  | .comment text => '#' :: text.toList
  | .sign c => [c]

------------------------------------------------------------
-- Characters
------------------------------------------------------------

/- White space between tokens. -/
def isSpace
    (c : Char) : Bool :=
  c ∈ [' ', '\t', '\r', '\n']

/- Does a comment end in front of a character? -/
def isLineEnd
    (c : Char) : Bool :=
  c ∈ ['\r', '\n']

/- Characters that are allowed inside of an IRI. -/
def isIriChar
    (c : Char) : Bool :=
  0x20 < c.toNat &&
    c ∉ ['<', '>', '"', '\x7b', '\x7d', '|', '^', '\x60', '\\']

/- May a text be an IRI? -/
def IsIri
    (uri : String) : Prop :=
  ∀ c ∈ uri.toList, isIriChar c

instance
    (uri : String) :
    Decidable (IsIri uri) :=
  decidable_of_iff (uri.toList.all isIriChar) List.all_eq_true

/- The ranges of letters. -/
def letterRanges : List (Nat × Nat) :=
  [(0x0041, 0x005A), (0x0061, 0x007A), (0x00C0, 0x00D6),
    (0x00D8, 0x00F6), (0x00F8, 0x02FF), (0x0370, 0x037D),
    (0x037F, 0x1FFF), (0x200C, 0x200D), (0x2070, 0x218F),
    (0x2C00, 0x2FEF), (0x3001, 0xD7FF), (0xF900, 0xFDCF),
    (0xFDF0, 0xFFFD), (0x10000, 0xEFFFF)]

/- The ranges of characters a name has only further on. -/
def joinerRanges : List (Nat × Nat) :=
  [(0x00B7, 0x00B7), (0x0300, 0x036F), (0x203F, 0x2040)]

/- May the name of a variable start with a character? -/
def isNameStart
    (c : Char) : Bool :=
  c.isDigit || c = '_' || Text.inRanges letterRanges c

/- May the name of a variable go on with a character? -/
def isNameChar
    (c : Char) : Bool :=
  isNameStart c || Text.inRanges joinerRanges c

/- Characters of keywords, prefixed names and numerals. -/
def isWordChar
    (c : Char) : Bool :=
  isNameChar c || c ∈ ['-', ':']

/- May a character follow a backslash in a literal? -/
def isEscapable
    (c : Char) : Bool :=
  c ∈ ['t', 'b', 'n', 'r', 'f', '\\', '"', '\'']

/- May a character stand for itself on a single line? -/
def isPlain
    (c : Char) : Bool :=
  c ∉ ['\\', '\n', '\r']

------------------------------------------------------------
-- Readers
------------------------------------------------------------

/- Read an IRI behind its opening bracket. -/
def iri?
    (cs : List Char) : Option (Token × List Char) :=
  match cs.dropWhile isIriChar with
  | '>' :: rest =>
    some (.iri (.ofList (cs.takeWhile isIriChar)), rest)
  | _ => none

/- Read a variable behind its mark. -/
def var?
    (mark : Char) :
    List Char → Option (Token × List Char)
  | [] => none
  | c :: cs =>
    if isNameStart c then
      some (.var (.ofList (mark :: c :: cs.takeWhile isNameChar)),
        cs.dropWhile isNameChar)
    else
      none

/-
  Read the body of a literal up to its closing quotes.  It
  has escapes and characters that stand for themselves.
-/
def body?
    (quotes : List Char)
    (isPlain : Char → Bool) :
    List Char → Option (List Char × List Char)
  | [] => none
  | '\\' :: c :: cs =>
    if isEscapable c then
      (body? quotes isPlain cs).map fun (body, rest) =>
        ('\\' :: c :: body, rest)
    else
      none
  | c :: cs =>
    if quotes.isPrefixOf (c :: cs) then
      some ([], (c :: cs).drop quotes.length)
    else if isPlain c then
      (body? quotes isPlain cs).map fun (body, rest) =>
        (c :: body, rest)
    else
      none

/- Read a literal on a single line behind its first quote. -/
def shortLiteral?
    (quote : Char)
    (cs : List Char) : Option (Token × List Char) :=
  (body? [quote] isPlain cs).map
    fun (body, rest) =>
      (.literal (.ofList [quote]) (.ofList body), rest)

/- Read a literal in three quotes behind the first of them. -/
def longLiteral?
    (quote : Char)
    (cs : List Char) : Option (Token × List Char) :=
  if [quote, quote].isPrefixOf cs then
    (body? [quote, quote, quote] (· ≠ '\\') (cs.drop 2)).map
      fun (body, rest) =>
        (.literal (.ofList [quote, quote, quote])
          (.ofList body), rest)
  else
    none

/- Read a comment behind its mark. -/
def comment
    (cs : List Char) : Token × List Char :=
  (.comment (.ofList (cs.takeWhile (!isLineEnd ·))),
    cs.dropWhile (!isLineEnd ·))

/- Read a word behind its first character. -/
def word
    (c : Char)
    (cs : List Char) : Token × List Char :=
  (.word (.ofList (c :: cs.takeWhile isWordChar)),
    cs.dropWhile isWordChar)

/-
  Read the token that starts with a character, unless the
  character is a token of its own.
-/
def token?
    (c : Char)
    (cs : List Char) : Option (Token × List Char) :=
  if c = '<' then iri? cs
  else if c = '?' ∨ c = '$' then var? c cs
  else if c = '\'' ∨ c = '"' then
    (longLiteral? c cs).or (shortLiteral? c cs)
  else if c = '#' then some (comment cs)
  else if isWordChar c then some (word c cs)
  else none

------------------------------------------------------------
-- What Readers Take
------------------------------------------------------------

/- A body and the quotes behind it are what was read. -/
theorem append_of_body?
    {quotes : List Char}
    {isPlain : Char → Bool}
    {cs body rest : List Char}
    (hRead : body? quotes isPlain cs = some (body, rest)) :
    body ++ (quotes ++ rest) = cs := by
  fun_induction body? quotes isPlain cs
    generalizing body rest with
  | case1 => simp at hRead
  | case2 c cs hEscape ih =>
      rcases Option.map_eq_some_iff.mp hRead with
        ⟨⟨body', rest'⟩, hInner, hPair⟩
      cases hPair
      simp [ih hInner]
  | case3 => simp at hRead
  | case4 c cs hNotEscape hQuotes =>
      cases hRead
      rw [List.isPrefixOf_iff_prefix] at hQuotes
      rcases hQuotes with ⟨rest, hRest⟩
      simp [← hRest]
  | case5 c cs hNotEscape hQuotes hPlain ih =>
      rcases Option.map_eq_some_iff.mp hRead with
        ⟨⟨body', rest'⟩, hInner, hPair⟩
      cases hPair
      simp [ih hInner]
  | case6 => simp at hRead

/- An IRI is written as it was read. -/
private theorem chars_of_iri?
    {cs rest : List Char}
    {token : Token}
    (hRead : iri? cs = some (token, rest)) :
    ∃ tail, token.chars = '<' :: tail ∧ tail ++ rest = cs := by
  unfold iri? at hRead
  split at hRead
  · next rest' hClose =>
      cases hRead
      refine ⟨cs.takeWhile isIriChar ++ ['>'], ?_, ?_⟩
      · simp [Token.chars]
      · rw [List.append_assoc, List.singleton_append, ← hClose]
        exact List.takeWhile_append_dropWhile
  · simp at hRead

/- A variable is written as it was read. -/
private theorem chars_of_var?
    {mark : Char}
    {cs rest : List Char}
    {token : Token}
    (hRead : var? mark cs = some (token, rest)) :
    ∃ tail, token.chars = mark :: tail ∧ tail ++ rest = cs := by
  cases cs with
  | nil => simp [var?] at hRead
  | cons c cs =>
      simp only [var?] at hRead
      split at hRead
      · cases hRead
        exact ⟨c :: cs.takeWhile isNameChar,
          by simp [Token.chars]⟩
      · simp at hRead

/- A literal is written as it was read. -/
private theorem chars_of_literal?
    {quote : Char}
    {cs rest : List Char}
    {token : Token}
    (hRead :
      (longLiteral? quote cs).or (shortLiteral? quote cs) =
        some (token, rest)) :
    ∃ tail, token.chars = quote :: tail ∧ tail ++ rest = cs := by
  rcases Option.or_eq_some_iff.mp hRead with
    hLong | ⟨-, hShort⟩
  · unfold longLiteral? at hLong
    split at hLong
    · next hQuotes =>
        rcases List.isPrefixOf_iff_prefix.mp hQuotes with
          ⟨cs, rfl⟩
        rcases Option.map_eq_some_iff.mp hLong with
          ⟨⟨body, rest'⟩, hBody, hPair⟩
        cases hPair
        refine ⟨quote :: quote :: (body ++ [quote, quote, quote]),
          by simp [Token.chars], ?_⟩
        simpa using append_of_body? hBody
    · simp at hLong
  · rcases Option.map_eq_some_iff.mp hShort with
      ⟨⟨body, rest'⟩, hBody, hPair⟩
    cases hPair
    refine ⟨body ++ [quote], by simp [Token.chars], ?_⟩
    simpa using append_of_body? hBody

/-
  A token is written with the character that it starts with
  and with further characters that were read for it.
-/
theorem chars_of_token?
    {c : Char}
    {cs rest : List Char}
    {token : Token}
    (hRead : token? c cs = some (token, rest)) :
    ∃ tail, token.chars = c :: tail ∧ tail ++ rest = cs := by
  unfold token? at hRead
  split at hRead
  · next hOpen =>
      subst hOpen
      exact chars_of_iri? hRead
  split at hRead
  · exact chars_of_var? hRead
  split at hRead
  · exact chars_of_literal? hRead
  split at hRead
  · next hMark =>
      subst hMark
      cases hRead
      exact ⟨cs.takeWhile (!isLineEnd ·), by simp [Token.chars]⟩
  split at hRead
  · cases hRead
    exact ⟨cs.takeWhile isWordChar, by simp [Token.chars]⟩
  · simp at hRead

/- Reading a token goes on in what was left to read. -/
theorem length_le_of_token?
    {c : Char}
    {cs rest : List Char}
    {token : Token}
    (hRead : token? c cs = some (token, rest)) :
    rest.length ≤ cs.length := by
  rcases chars_of_token? hRead with ⟨tail, -, hRest⟩
  rw [← hRest, List.length_append]
  omega

------------------------------------------------------------
-- Lexing
------------------------------------------------------------

/- The tokens of a query. -/
def lex : List Char → List Token
  | [] => []
  | c :: cs =>
    if isSpace c then
      lex cs
    else
      match _hRead : token? c cs with
      | some (token, rest) => token :: lex rest
      | none => .sign c :: lex cs
termination_by cs => cs.length
decreasing_by
  · simp
  · have hLength := length_le_of_token? _hRead
    simp only [List.length_cons]
    omega
  · simp

/- White space between tokens is passed over. -/
theorem lex_cons_of_isSpace
    {c : Char}
    {cs : List Char}
    (hSpace : isSpace c) :
    lex (c :: cs) = lex cs := by
  rw [lex, if_pos hSpace]

/- Behind a token that was read, lexing goes on. -/
theorem lex_cons_of_token?
    {c : Char}
    {cs rest : List Char}
    {token : Token}
    (hSpace : ¬isSpace c)
    (hRead : token? c cs = some (token, rest)) :
    lex (c :: cs) = token :: lex rest := by
  rw [lex, if_neg hSpace]
  split
  · next hOther =>
      rw [hRead] at hOther
      cases hOther
      rfl
  · next hNone =>
      rw [hRead] at hNone
      simp at hNone

/- Without a longer token, a character is one by itself. -/
theorem lex_cons_of_token?_eq_none
    {c : Char}
    {cs : List Char}
    (hSpace : ¬isSpace c)
    (hNone : token? c cs = none) :
    lex (c :: cs) = .sign c :: lex cs := by
  rw [lex, if_neg hSpace]
  split
  · next hSome =>
      rw [hNone] at hSome
      simp at hSome
  · rfl

/-
  Nothing but white space is lost: the characters of tokens
  are those of the query.
-/
theorem filter_chars_lex
    (cs : List Char) :
    ((lex cs).flatMap Token.chars).filter (!isSpace ·) =
      cs.filter (!isSpace ·) := by
  fun_induction lex cs with
  | case1 => rfl
  | case2 c cs hSpace ih => simp [hSpace, ih]
  | case3 c cs hSpace token rest hRead ih =>
      rcases chars_of_token? hRead with ⟨tail, hChars, hRest⟩
      rw [List.flatMap_cons, List.filter_append, ih,
        ← List.filter_append, hChars, List.cons_append, hRest]
  | case4 c cs hSpace hNone ih =>
      simp [Token.chars, hSpace, ih]

/- A blank ends no variable, but keeps brackets from an IRI. -/
example :
    lex "?x<a b>'c\\'?d'#e".toList =
      [.var "?x", .sign '<', .word "a", .word "b", .sign '>',
        .literal "'" "c\\'?d", .comment "e"] := by
  cbv

end Sparql

end QuestionQuery
