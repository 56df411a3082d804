import QuestionQuery.Json.Basic
import QuestionQuery.Json.Scan

/-
  Tokens that are written are scanned back.

  Each token but a number ends by itself, so its writing is
  scanned as this token whatever follows.  In a written text
  the characters stand for themselves or are escaped, and an
  escape is undone by the scanner.  Numbers are left out:
  documents of trees, lexicons and candidates have none.

  Blanks between tokens are passed over.

  Key definitions include:
    * `Json.Token.IsWordy`
    * `Json.IsWordy`
    * `Json.Scan.after`
    * `Json.Scan.IsGap`

  Main statements:
    * `Json.scan_escapedChar_append`
    * `Json.scan_spelling_append`
    * `Json.tokensOf_compact`
    * `Json.scan_gap`
-/

------------------------------------------------------------
-- Escapes
------------------------------------------------------------

namespace QuestionQuery

namespace Text

/- A digit has the value that it is written for. -/
theorem hexValue?_hexDigit
    {n : Nat}
    (hDigit : n < 16) :
    hexValue? (hexDigit n) = some n := by
  have hAll : ∀ n < 16, hexValue? (hexDigit n) = some n := by
    decide
  exact hAll n hDigit

/- A digit takes one byte. -/
theorem utf8Size_hexDigit
    {n : Nat}
    (hDigit : n < 16) :
    (hexDigit n).utf8Size = 1 := by
  have hAll : ∀ n < 16, (hexDigit n).utf8Size = 1 := by
    decide
  exact hAll n hDigit

end Text

namespace Json

open Scan

/- A text under way with no escape and no half under way. -/
private def reading
    (read : List Char) : State :=
  .text
    { read
      half := none
      paired := true
      place := .plain }

/- The four digits of a numbered escape are read as one. -/
private theorem scan_hexWidth_append
    {n : Nat}
    (read rest : List Char)
    (hControl : n < 0x20) :
    scan (reading read)
        (['\\', 'u'] ++ Text.hexWidth 4 n ++ rest) =
      scan (reading (Char.ofNat n :: read)) rest := by
  have hDigits (k : Nat) : k % 16 < 16 :=
    Nat.mod_lt k (by decide)
  have hValue :
      (((n / 16 / 16 / 16 % 16) * 16 + n / 16 / 16 % 16) * 16 +
          n / 16 % 16) * 16 + n % 16 =
        n := by
    omega
  have hFirst : isFirstHalf n = false := by
    simp [isFirstHalf]
    omega
  have hSecond : isSecondHalf n = false := by
    simp [isSecondHalf]
    omega
  simp [reading, scan, step, textStep, Text.hexWidth,
    Text.hexValue?_hexDigit (hDigits _),
    Text.utf8Size_hexDigit (hDigits _), hValue,
    TextScan.numbered, TextScan.push, hFirst, hSecond]

/- An escaped character is read as itself. -/
theorem scan_escapedChar_append
    (c : Char)
    (read rest : List Char) :
    scan (reading read) (escapedChar c ++ rest) =
      scan (reading (c :: read)) rest := by
  unfold escapedChar
  split
  · next hQuote =>
      subst hQuote
      rfl
  split
  · next hBackslash =>
      subst hBackslash
      rfl
  split
  · next hBackspace =>
      subst hBackspace
      rfl
  split
  · next hTab =>
      subst hTab
      rfl
  split
  · next hNewline =>
      subst hNewline
      rfl
  split
  · next hFeed =>
      subst hFeed
      rfl
  split
  · next hReturn =>
      subst hReturn
      rfl
  split
  · next hControl =>
      rw [scan_hexWidth_append read rest hControl,
        Char.ofNat_toNat]
  · next hQuote hBackslash _ _ _ _ _ hControl =>
      simp [reading, scan, step, textStep, hQuote, hBackslash,
        hControl, TextScan.settle, TextScan.push]

/- An escaped text is read up to the quote behind it. -/
private theorem scan_escaped_append
    (cs read rest : List Char) :
    scan (reading read) (escaped cs ++ '"' :: rest) =
      .text (String.ofList (read.reverse ++ cs)) ::
        scan .between rest := by
  induction cs generalizing read with
  | nil =>
      simp [reading, escaped, scan, step, textStep, textToken,
        TextScan.settle]
  | cons c cs ih =>
      have hHead :
          escaped (c :: cs) ++ '"' :: rest =
            escapedChar c ++ (escaped cs ++ '"' :: rest) := by
        simp [escaped]
      rw [hHead, scan_escapedChar_append, ih]
      simp

end Json

end QuestionQuery

------------------------------------------------------------
-- Written Tokens
------------------------------------------------------------

namespace QuestionQuery

namespace Json

open Scan

/- Is a token neither a number nor flawed? -/
def Token.IsWordy : Token → Prop
  | .number _ => False
  | .flawed .. => False
  | _ => True

/- A written token is scanned back, whatever follows. -/
theorem scan_spelling_append
    {token : Token}
    (rest : List Char)
    (hWordy : token.IsWordy) :
    scan .between (token.spelling ++ rest) =
      token :: scan .between rest := by
  cases token with
  | number n => exact hWordy.elim
  | flawed isText flaw skipFlaw => exact hWordy.elim
  | bool b => cases b <;> rfl
  | text s =>
      have hStart :
          scan .between (Token.spelling (.text s) ++ rest) =
            scan (reading []) (escaped s.toList ++ '"' :: rest) := by
        simp [Token.spelling, scan, step, betweenStep, reading,
          textStart]
      rw [hStart, scan_escaped_append]
      simp
  | _ => rfl

/- Written tokens are scanned back one after the other. -/
theorem scan_flatMap_spelling
    {tokens : List Token}
    (hWordy : ∀ token ∈ tokens, token.IsWordy) :
    scan .between (tokens.flatMap Token.spelling) = tokens := by
  induction tokens with
  | nil => rfl
  | cons token tokens ih =>
      rw [List.forall_mem_cons] at hWordy
      rw [List.flatMap_cons, scan_spelling_append _ hWordy.1,
        ih hWordy.2]

/- Is a value free of numbers? -/
inductive IsWordy : Json → Prop
  | null : IsWordy .null
  | bool
      (b : Bool) :
      IsWordy (.bool b)
  | text
      (s : String) :
      IsWordy (.text s)
  | list
      {items : List Json}
      (hItems : ∀ v ∈ items, IsWordy v) :
      IsWordy (.list items)
  | record
      {fields : List (String × Json)}
      (hFields : ∀ field ∈ fields, IsWordy field.2) :
      IsWordy (.record fields)

attribute [simp] IsWordy.null IsWordy.bool IsWordy.text

@[simp]
theorem isWordy_list_iff
    {items : List Json} :
    IsWordy (.list items) ↔ ∀ v ∈ items, v.IsWordy := by
  constructor
  · intro hList
    cases hList with
    | list hItems => exact hItems
  · exact .list

@[simp]
theorem isWordy_record_iff
    {fields : List (String × Json)} :
    IsWordy (.record fields) ↔
      ∀ field ∈ fields, field.2.IsWordy := by
  constructor
  · intro hRecord
    cases hRecord with
    | record hFields => exact hFields
  · exact .record

/- The tokens of items are wordy, and so is what joins them. -/
private theorem isWordy_of_mem_moreItems
    {items : List Json}
    (hItems : ∀ v ∈ items, ∀ token ∈ v.tokens, token.IsWordy) :
    ∀ token ∈ moreItems items, token.IsWordy := by
  induction items with
  | nil =>
      intro token hToken
      rw [List.mem_singleton.mp hToken]
      trivial
  | cons v rest ih =>
      rw [List.forall_mem_cons] at hItems
      rw [moreItems, List.forall_mem_cons,
        List.forall_mem_append]
      exact ⟨trivial, hItems.1, ih hItems.2⟩

private theorem isWordy_of_mem_moreFields
    {fields : List (String × Json)}
    (hFields :
      ∀ field ∈ fields, ∀ token ∈ field.2.tokens, token.IsWordy) :
    ∀ token ∈ moreFields fields, token.IsWordy := by
  induction fields with
  | nil =>
      intro token hToken
      rw [List.mem_singleton.mp hToken]
      trivial
  | cons field rest ih =>
      rw [List.forall_mem_cons] at hFields
      rw [moreFields, List.forall_mem_cons,
        List.forall_mem_cons, List.forall_mem_cons,
        List.forall_mem_append]
      exact ⟨trivial, trivial, trivial, hFields.1, ih hFields.2⟩

/- A value free of numbers has such tokens. -/
theorem IsWordy.of_mem_tokens
    {v : Json}
    (hWordy : v.IsWordy) :
    ∀ token ∈ v.tokens, token.IsWordy := by
  induction hWordy with
  | null => simp [tokens, Token.IsWordy]
  | bool b => simp [tokens, Token.IsWordy]
  | text s => simp [tokens, Token.IsWordy]
  | @list items _ ih =>
      have hItems := isWordy_of_mem_moreItems ih
      cases items with
      | nil => simp [tokens, Token.IsWordy]
      | cons v rest =>
          rw [moreItems, List.forall_mem_cons] at hItems
          rw [tokens, List.forall_mem_cons]
          exact ⟨trivial, hItems.2⟩
  | @record fields _ ih =>
      have hFields := isWordy_of_mem_moreFields ih
      cases fields with
      | nil => simp [tokens, Token.IsWordy]
      | cons field rest =>
          rw [moreFields, List.forall_mem_cons] at hFields
          rw [tokens, List.forall_mem_cons]
          exact ⟨trivial, hFields.2⟩

/- The compact text of a value is scanned as its tokens. -/
theorem tokensOf_compact
    {v : Json}
    (hWordy : v.IsWordy) :
    tokensOf v.compact = v.tokens := by
  rw [tokensOf, compact, String.toList_ofList]
  exact scan_flatMap_spelling hWordy.of_mem_tokens

end Json

end QuestionQuery

------------------------------------------------------------
-- Blanks
------------------------------------------------------------

namespace QuestionQuery

namespace Json

namespace Scan

/- The state of a scanner behind some characters. -/
def after
    (state : State)
    (cs : List Char) : State :=
  cs.foldl (fun state c => (step state c).2) state

/- The tokens that some characters complete. -/
def completed
    (state : State) : List Char → List Token
  | [] => []
  | c :: cs => (step state c).1 ++ completed (step state c).2 cs

/- The characters that may stand between tokens. -/
def blanks : List Char :=
  [' ', '\t', '\n', '\r']

/-
  Is a scanner between two tokens?  It is inside of a number
  until something follows that does not go on with it.
-/
def IsGap
    (rest : List Char) : State → Prop
  | .between => True
  | .number place _ =>
    place ∈ [.zero, .whole, .fraction, .exponent] ∧
      ∀ c ∈ rest.head?, digit? c = none ∧ c ∉ ['.', 'e', 'E']
  | _ => False

end Scan

open Scan

/- A text is scanned up to some place and on from there. -/
theorem scan_append
    (state : State)
    (cs ds : List Char) :
    scan state (cs ++ ds) =
      completed state cs ++ scan (after state cs) ds := by
  induction cs generalizing state with
  | nil => rfl
  | cons c cs ih =>
      rw [List.cons_append, scan, ih, completed,
        List.append_assoc]
      rfl

/- A blank in front of a token is passed over. -/
theorem scan_blank_cons
    {blank : Char}
    (rest : List Char)
    (hBlank : blank ∈ blanks) :
    scan .between (blank :: rest) = scan .between rest := by
  simp only [blanks, List.mem_cons, List.not_mem_nil,
    or_false] at hBlank
  rcases hBlank with rfl | rfl | rfl | rfl <;> rfl

/- A number ends where nothing goes on with it. -/
private theorem scan_number_of_isGap
    {place : NumberPlace}
    {n : Numeral}
    {rest : List Char}
    (hGap : IsGap rest (.number place n)) :
    scan (.number place n) rest =
      numberToken n :: scan .between rest := by
  rcases hGap with ⟨hPlace, hRest⟩
  simp only [List.mem_cons, List.not_mem_nil,
    or_false] at hPlace
  cases rest with
  | nil => rcases hPlace with rfl | rfl | rfl | rfl <;> rfl
  | cons c rest =>
      rcases hRest c rfl with ⟨hDigit, hMark⟩
      simp only [List.mem_cons, List.not_mem_nil, or_false,
        not_or] at hMark
      rcases hPlace with rfl | rfl | rfl | rfl <;>
        simp [scan, step, numberStep, hDigit, hMark, endNumber]

/- No number goes on with a blank. -/
private theorem isGap_blank_cons
    {place : NumberPlace}
    {n : Numeral}
    {blank : Char}
    {rest others : List Char}
    (hBlank : blank ∈ blanks)
    (hGap : IsGap rest (.number place n)) :
    IsGap (blank :: others) (.number place n) := by
  refine ⟨hGap.1, ?_⟩
  intro c hHead
  simp only [List.head?_cons, Option.mem_some_iff] at hHead
  subst hHead
  simp only [blanks, List.mem_cons, List.not_mem_nil,
    or_false] at hBlank
  rcases hBlank with rfl | rfl | rfl | rfl <;>
    exact ⟨by decide, by decide⟩

/- A blank between two tokens is passed over. -/
theorem scan_gap
    {front back : List Char}
    {blank : Char}
    (hBlank : blank ∈ blanks)
    (hGap : IsGap back (after .between front)) :
    scan .between (front ++ blank :: back) =
      scan .between (front ++ back) := by
  rw [scan_append, scan_append]
  congr 1
  -- the tokens in front are complete, but for a number at the end
  generalize after .between front = state at hGap
  cases state with
  | between => exact scan_blank_cons back hBlank
  | number place n =>
      rw [scan_number_of_isGap (isGap_blank_cons hBlank hGap),
        scan_number_of_isGap hGap, scan_blank_cons back hBlank]
  | _ => exact hGap.elim

end Json

end QuestionQuery
