import QuestionQuery.Endpoint.Domain.Direction
import QuestionQuery.Endpoint.Domain.Label

/-
  This file reads the names of hosts and writes them in
  ASCII, in which each name has one spelling.

  Key definitions include:
    * `Domain.labels?`
    * `Domain.ofBytes?`
-/

namespace QuestionQuery

namespace Domain

/- The labels of a name, if it is sound. -/
def labels?
    (cs : List Char) : Option (List (List Char)) := do
  let folded ← folded? cs
  let labels ← (Text.segments (· = '.') folded).mapM label?
  if directionsFit labels then some labels else none

/- The name in ASCII of a text in UTF-8. -/
def ofBytes?
    (bytes : List UInt8) : Option (List Char) := do
  let s ← String.fromUTF8? ⟨bytes.toArray⟩
  let labels ← labels? s.toList
  return ['.'].intercalate (labels.map spelling)

end Domain

end QuestionQuery
