/-
  This file defines what a program gets to see when it reads
  a file as text.

  Key definitions include:
    * `TextFile.Error`
    * `TextFile.read`
-/

namespace QuestionQuery

namespace TextFile

/- Why a file gives no text. -/
inductive Error where
  | notFound
  | notText
deriving DecidableEq

/- The message of an error. -/
def Error.message : Error → String
  | .notFound => "No such file or directory (os error 2)"
  | .notText => "stream did not contain valid UTF-8"

/- The text of a file, given its bytes if the file exists. -/
def read
    (bytes : Option ByteArray) : Except Error String :=
  match bytes with
  | none => .error .notFound
  | some content =>
    match String.fromUTF8? content with
    | some s => .ok s
    | none => .error .notText

end TextFile

end QuestionQuery
