import QuestionQuery.Text.Hex
import QuestionQuery.Text.Invisible

/-
  This file defines the quoted form that a text takes inside
  a message.

  Key definitions include:
    * `Text.quotedChar`
    * `Text.quoted`
-/

namespace QuestionQuery

namespace Text

/- The form of one character between double quotes. -/
def quotedChar
    (c : Char) : List Char :=
  if c = '"' then ['\\', '"']
  else if c = '\\' then ['\\', '\\']
  else if c = '\n' then ['\\', 'n']
  else if c = '\r' then ['\\', 'r']
  else if c = '\t' then ['\\', 't']
  else if c = '\x00' then ['\\', '0']
  else if isInvisible c then
    ['\\', 'u', '\x7b'] ++ hex c.toNat ++ ['\x7d']
  else [c]

/-
  A text in double quotes, on one line and with every
  invisible character spelled by its number.
-/
def quoted
    (s : String) : String :=
  String.ofList ('"' :: s.toList.flatMap quotedChar ++ ['"'])

end Text

end QuestionQuery
