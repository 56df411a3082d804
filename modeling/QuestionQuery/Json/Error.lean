import QuestionQuery.Json.Token

/-
  This file defines the ways in which reading a JSON text
  can fail, and their wording.

  Key definitions include:
    * `Json.Found`
    * `Json.Wanted`
    * `Json.Mismatch`
    * `Json.Error`
    * `Json.Error.message`
-/

namespace QuestionQuery

namespace Json

------------------------------------------------------------
-- Errors
------------------------------------------------------------

/- What stands where something else is wanted. -/
inductive Found where
  | null
  | bool (value : Bool)
  | number (value : Number)
  | text (value : String)
  | list
  | record
deriving DecidableEq

/- What a reader wants to find. -/
inductive Wanted where
  | text
  | list
  | map
  | struct (name : String)
deriving DecidableEq

/- How a value fails to have the shape that is wanted. -/
inductive Mismatch where
  | kind (found : Found) (wanted : Wanted)
  | missingField (name : String)
  | repeatedField (name : String)
  | length (found : Nat) (name : String) (fields : Nat)
  | noShapeFits (name : String)
deriving DecidableEq

/-
  Reading fails because the text is not JSON, or because the
  value has the wrong shape.
-/
inductive Error where
  | text (flaw : Flaw)
  | shape (mismatch : Mismatch)
deriving DecidableEq

------------------------------------------------------------
-- Wording
------------------------------------------------------------

/- What is found, in a message. -/
def Found.describe : Found → String
  | .null => "null"
  | .bool b => "boolean `" ++ toString b ++ "`"
  | .number (.double bits) =>
    "floating point `" ++ Double.text bits ++ "`"
  | .number n => "integer `" ++ numberText n ++ "`"
  | .text s => "string " ++ Text.quoted s
  | .list => "sequence"
  | .record => "map"

/- What is wanted, in a message. -/
def Wanted.describe : Wanted → String
  | .text => "a string"
  | .list => "a sequence"
  | .map => "a map"
  | .struct name => "struct " ++ name

/- The message of a mismatch. -/
def Mismatch.message : Mismatch → String
  | .kind found wanted =>
    "invalid type: " ++ found.describe ++
      ", expected " ++ wanted.describe
  | .missingField name => "missing field `" ++ name ++ "`"
  | .repeatedField name => "duplicate field `" ++ name ++ "`"
  | .length found name fields =>
    "invalid length " ++ toString found ++ ", expected struct " ++
      name ++ " with " ++ toString fields ++ " elements"
  | .noShapeFits name =>
    "data did not match any variant of untagged enum " ++ name

/- The message of an error. -/
def Error.message : Error → String
  | .text .malformed => "the text is not JSON"
  | .text .unfinished => "the text ends too early"
  | .shape m => m.message

end Json

end QuestionQuery
