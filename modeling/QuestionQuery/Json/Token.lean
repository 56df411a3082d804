import QuestionQuery.Json.Number
import QuestionQuery.Json.Double
import QuestionQuery.Text.Quoted

/-
  This file defines the tokens of a JSON text and the
  compact way to write them.

  Key definitions include:
    * `Json.Flaw`
    * `Json.Token`
    * `Json.escaped`
    * `Json.Token.spelling`
-/

namespace QuestionQuery

namespace Json

------------------------------------------------------------
-- Tokens
------------------------------------------------------------

/-
  Why a text is not JSON: it has something where it must not
  stand, or it ends too early.
-/
inductive Flaw where
  | malformed
  | unfinished
deriving DecidableEq, Inhabited

/-
  A token.  `flawed` stands for a text or another scalar
  that cannot be read, with the flaw met by a reader of its
  value and, if there is one, the flaw met by a reader that
  skips it.  Without the latter the tokens go on behind it.
-/
inductive Token where
  | openList
  | closeList
  | openRecord
  | closeRecord
  | comma
  | colon
  | null
  | bool (value : Bool)
  | number (value : Number)
  | text (value : String)
  | flawed (isText : Bool) (flaw : Flaw) (skipFlaw : Option Flaw)
deriving DecidableEq, Inhabited

------------------------------------------------------------
-- Writing
------------------------------------------------------------

/-
  A character inside a written text.  Only the quote, the
  backslash and the controls below the space are escaped.
-/
def escapedChar
    (c : Char) : List Char :=
  if c = '"' then ['\\', '"']
  else if c = '\\' then ['\\', '\\']
  else if c = '\x08' then ['\\', 'b']
  else if c = '\t' then ['\\', 't']
  else if c = '\n' then ['\\', 'n']
  else if c = '\x0c' then ['\\', 'f']
  else if c = '\r' then ['\\', 'r']
  else if c.toNat < 0x20 then ['\\', 'u'] ++ Text.hexWidth 4 c.toNat
  else [c]

/- The inside of a written text. -/
def escaped
    (cs : List Char) : List Char :=
  cs.flatMap escapedChar

/- A number in decimal. -/
def numberText : Number → String
  | .natural n => toString n
  | .negative n => "-" ++ toString n
  | .double bits => Double.text bits

namespace Token

/- How a token is written; a flawed one has no writing. -/
def spelling : Token → List Char
  | .openList => ['[']
  | .closeList => [']']
  | .openRecord => ['\x7b']
  | .closeRecord => ['\x7d']
  | .comma => [',']
  | .colon => [':']
  | .null => ['n', 'u', 'l', 'l']
  | .bool true => ['t', 'r', 'u', 'e']
  | .bool false => ['f', 'a', 'l', 's', 'e']
  | .number n => (numberText n).toList
  | .text s => '"' :: escaped s.toList ++ ['"']
  | .flawed .. => []

end Token

end Json

end QuestionQuery
