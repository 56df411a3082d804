/-
  This file defines the parts of speech that matter for
  building queries, and the tags that name them.

  Key definitions include:
    * `PartOfSpeech`
    * `PartOfSpeech.ofTag`
    * `PartOfSpeech.isNoun`
    * `PartOfSpeech.isWhWord`
    * `PartOfSpeech.describe`
-/

namespace QuestionQuery

------------------------------------------------------------
-- Parts Of Speech
------------------------------------------------------------

/-
  The part of speech of a word.  A combined noun is a phrase
  that stands as one word, and a resolved word is labelled
  with the resource that it means.
-/
inductive PartOfSpeech where
  | noun
  | pluralNoun
  | properNoun
  | otherNoun
  | combinedNoun
  | verb
  | whAdverb
  | whPronoun
  | adjective
  | cardinal
  | resolved
  | unhandled
deriving DecidableEq, Repr, Inhabited

namespace PartOfSpeech

/- Does a text start with given characters? -/
private def startsWith
    (start s : String) : Bool :=
  start.toList.isPrefixOf s.toList

/-
  The part of speech of a tag.  A tag that is listed in full
  wins over the families of tags with a common beginning.
-/
def ofTag
    (tag : String) : PartOfSpeech :=
  if tag = "NN" then .noun
  else if tag = "NNS" then .pluralNoun
  else if tag = "CombinedNN" then .combinedNoun
  else if tag = "WRB" then .whAdverb
  else if tag = "WP" then .whPronoun
  else if tag = "JJ" then .adjective
  else if tag = "CD" then .cardinal
  else if tag = "ADD" then .resolved
  else if startsWith "NNP" tag then .properNoun
  else if startsWith "NN" tag then .otherNoun
  else if startsWith "VB" tag then .verb
  else .unhandled

/- The nouns that stand alone, as their tags begin alike. -/
def isNoun : PartOfSpeech → Bool
  | .noun
  | .pluralNoun
  | .properNoun
  | .otherNoun => true
  | _ => false

/- The words that ask. -/
def isWhWord : PartOfSpeech → Bool
  | .whAdverb
  | .whPronoun => true
  | _ => false

/- The tag of a part of speech, or the family of its tags. -/
def describe : PartOfSpeech → String
  | .noun => "NN"
  | .pluralNoun => "NNS"
  | .properNoun => "NNP*"
  | .otherNoun => "NN*"
  | .combinedNoun => "CombinedNN"
  | .verb => "VB*"
  | .whAdverb => "WRB"
  | .whPronoun => "WP"
  | .adjective => "JJ"
  | .cardinal => "CD"
  | .resolved => "ADD"
  | .unhandled => "unhandled"

end PartOfSpeech

end QuestionQuery
