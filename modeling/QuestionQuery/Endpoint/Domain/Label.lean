import QuestionQuery.Endpoint.Domain.Canonical
import QuestionQuery.Endpoint.Domain.Fold
import QuestionQuery.Endpoint.Domain.Joining
import QuestionQuery.Endpoint.Domain.Punycode

/-
  This file defines the labels of a name, the parts between
  its dots: which ones are sound, and how each of them is
  spelled in ASCII.

  Key definitions include:
    * `Domain.isSound`
    * `Domain.label?`
    * `Domain.spelling`
-/

namespace QuestionQuery

namespace Domain

------------------------------------------------------------
-- Soundness
------------------------------------------------------------

/- The ASCII characters that no name has. -/
def isForbidden
    (c : Char) : Bool :=
  c.toNat ≤ 0x20 || c.toNat = 0x7F ||
    ['%', '#', '/', ':', '<', '>', '?', '@', '[', '\\', ']', '^',
      '|'].contains c

/-
  Is a label sound on its own?  It has no forbidden character,
  does not begin with a mark, has joiners only where they
  matter, and is not too long to be spelled in ASCII.
-/
def isSound
    (label : List Char) : Bool :=
  !label.any isForbidden &&
    (label.all (·.toNat < 0x80) ||
      (!label.head?.any Text.isMark &&
        joinersFit [] label &&
        label.length ≤ 1000))

/- A text with all its characters folded, in canonical form. -/
def folded?
    (cs : List Char) : Option (List Char) :=
  (cs.mapM fold).map fun images => canonical images.flatten

------------------------------------------------------------
-- Spelling
------------------------------------------------------------

/- What a label begins with that is spelled in ASCII. -/
def mark : List Char :=
  "xn--".toList

/-
  The label that a folded label stands for.  One that is
  spelled in ASCII must stand for a sound one that is folded
  already and is not ASCII itself.
-/
def label?
    (cs : List Char) : Option (List Char) :=
  if mark.isPrefixOf cs then
    let code := cs.drop mark.length
    if cs.getLast? = some '-' || 2000 < code.length then
      none
    else
      match Punycode.decode? code with
      | some label =>
        if folded? label = some label && isSound label then
          some label
        else
          none
      | none => none
  else
    if isSound cs then some cs else none

/- How a label is spelled in ASCII. -/
def spelling
    (label : List Char) : List Char :=
  if label.all (·.toNat < 0x80) then
    label
  else
    mark ++ Punycode.encode label

end Domain

end QuestionQuery
