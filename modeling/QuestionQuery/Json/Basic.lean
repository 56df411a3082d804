import QuestionQuery.Json.Token

/-
  This file defines JSON values and their compact text.

  Key definitions include:
    * `Json`
    * `Json.get?`
    * `Json.depth`
    * `Json.tokens`
    * `Json.compact`
-/

namespace QuestionQuery

------------------------------------------------------------
-- Values
------------------------------------------------------------

/-
  A JSON value.  The fields of a record are kept as they
  stand in the text, in order and with repeats.
-/
inductive Json where
  | null
  | bool (value : Bool)
  | number (value : Number)
  | text (value : String)
  | list (items : List Json)
  | record (fields : List (String × Json))

namespace Json

instance : Inhabited Json :=
  ⟨.null⟩

/-
  The value of a key in a record.  Of repeated keys the last
  one counts.
-/
def get?
    (key : String) : Json → Option Json
  | .record fields => fields.reverse.lookup key
  | _ => none

mutual

/- How deep lists and records are nested in a value. -/
def depth : Json → Nat
  | .list items => depthOfItems items + 1
  | .record fields => depthOfFields fields + 1
  | _ => 0

/- How deep lists and records are nested in some item. -/
def depthOfItems : List Json → Nat
  | [] => 0
  | v :: rest => max (depth v) (depthOfItems rest)

/- How deep lists and records are nested in some field. -/
def depthOfFields : List (String × Json) → Nat
  | [] => 0
  | (_, v) :: rest => max (depth v) (depthOfFields rest)

end

------------------------------------------------------------
-- Writing
------------------------------------------------------------

mutual

/- The tokens of a value. -/
def tokens : Json → List Token
  | .null => [.null]
  | .bool b => [.bool b]
  | .number n => [.number n]
  | .text s => [.text s]
  | .list [] => [.openList, .closeList]
  | .list (v :: rest) => .openList :: (tokens v ++ moreItems rest)
  | .record [] => [.openRecord, .closeRecord]
  | .record ((key, v) :: rest) =>
    .openRecord :: .text key :: .colon :: (tokens v ++ moreFields rest)

/- The tokens behind an item of a list. -/
def moreItems : List Json → List Token
  | [] => [.closeList]
  | v :: rest => .comma :: (tokens v ++ moreItems rest)

/- The tokens behind a field of a record. -/
def moreFields : List (String × Json) → List Token
  | [] => [.closeRecord]
  | (key, v) :: rest =>
    .comma :: .text key :: .colon :: (tokens v ++ moreFields rest)

end

/- The text of a value without blanks between its tokens. -/
def compact
    (v : Json) : String :=
  String.ofList (v.tokens.flatMap Token.spelling)

end Json

end QuestionQuery
