/-
  This file defines blank characters, trimming, cutting a
  text at separators, and finding one text in another.

  Key definitions include:
    * `Text.isBlank`
    * `Text.trim`
    * `Text.segments`
    * `Text.pieces`
    * `Text.occursIn`
-/

namespace QuestionQuery

namespace Text

------------------------------------------------------------
-- Blank Characters
------------------------------------------------------------

/-
  The ranges of code points with the Unicode property
  White_Space.
-/
def blankRanges : List (Nat × Nat) :=
  [(0x0009, 0x000D), (0x0020, 0x0020), (0x0085, 0x0085),
    (0x00A0, 0x00A0), (0x1680, 0x1680), (0x2000, 0x200A),
    (0x2028, 0x2029), (0x202F, 0x202F), (0x205F, 0x205F),
    (0x3000, 0x3000)]

/- Does some range of a table hold a character? -/
def inRanges
    (ranges : List (Nat × Nat))
    (c : Char) : Bool :=
  ranges.any fun r => r.1 ≤ c.toNat && c.toNat ≤ r.2

/- Is a character white space? -/
def isBlank
    (c : Char) : Bool :=
  inRanges blankRanges c

/- A text without the white space at its two ends. -/
def trim
    (s : String) : String :=
  let body := s.toList.dropWhile isBlank
  String.ofList (body.reverse.dropWhile isBlank).reverse

------------------------------------------------------------
-- Cutting
------------------------------------------------------------

/-
  The stretches of a text between separators.  A separator
  at an end or beside another one leaves an empty stretch,
  so there is one stretch more than there are separators.
-/
def segments
    (isSeparator : Char → Bool) :
    List Char → List (List Char)
  | [] => [[]]
  | c :: cs =>
    if isSeparator c then
      [] :: segments isSeparator cs
    else
      match segments isSeparator cs with
      | [] => [[c]]
      | s :: rest => (c :: s) :: rest

/- The stretches between separators that are not empty. -/
def pieces
    (isSeparator : Char → Bool)
    (s : String) : List String :=
  ((segments isSeparator s.toList).filter (· ≠ [])).map
    String.ofList

------------------------------------------------------------
-- Finding
------------------------------------------------------------

/- Does a fragment occur in a text as it stands? -/
def occursIn
    (fragment : List Char) : List Char → Bool
  | [] => fragment.isEmpty
  | c :: cs =>
    fragment.isPrefixOf (c :: cs) || occursIn fragment cs

end Text

end QuestionQuery
