import QuestionQuery.Json.Error
import QuestionQuery.TextFile

/-
  This file defines the ways in which a knowledge base can
  fail to answer, and their wording.

  Key definitions include:
    * `LexiconError`
    * `LexiconError.message`
-/

namespace QuestionQuery

/-
  Why a knowledge base gives no answer: the request failed,
  the endpoint refused, the answer has no bindings, or the
  lexicon or the configuration cannot be read.
-/
inductive LexiconError where
  | http (endpoint reason : String)
  | status (endpoint : String) (code : Nat)
  | decode (reason : String)
  | file (cause : TextFile.Error)
  | json (cause : Json.Error)
  | config (reason : String)
deriving DecidableEq

/- The message of an error. -/
def LexiconError.message : LexiconError → String
  | .http endpoint reason =>
    "http request to `" ++ endpoint ++ "` failed: " ++ reason
  | .status endpoint code =>
    "endpoint `" ++ endpoint ++ "` answered with status " ++
      toString code
  | .decode reason => "malformed SPARQL results: " ++ reason
  | .file cause => "failed to read lexicon file: " ++ cause.message
  | .json cause => "invalid lexicon json: " ++ cause.message
  | .config reason => "invalid configuration: " ++ reason

end QuestionQuery
