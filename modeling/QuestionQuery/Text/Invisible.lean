import QuestionQuery.Text.Graphic
import QuestionQuery.Text.Mark

/-
  This file defines the characters that are not shown as
  they are when a text is quoted in a message.

  Key definitions include:
    * `Text.fillerRanges`
    * `Text.isInvisible`
-/

namespace QuestionQuery

namespace Text

/-
  The ranges of letters that are shown as nothing: they fill
  a place in a syllable of the Korean script.
-/
def fillerRanges : List (Nat × Nat) :=
  [(0x115F, 0x1160), (0x3164, 0x3164), (0xFFA0, 0xFFA0)]

/-
  Is a character without a shape of its own?  It has none if
  it is not graphic, if it is shown as nothing, or if it
  belongs to the shape of the character before it.
-/
def isInvisible
    (c : Char) : Bool :=
  !isGraphic c ||
    (0x7F < c.toNat && (inRanges fillerRanges c || isExtending c))

end Text

end QuestionQuery
