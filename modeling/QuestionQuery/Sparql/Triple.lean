/-
  This file defines the triple patterns that questions give
  rise to, and the variables that occur in them.

  Key definitions include:
    * `Variable`
    * `Term`
    * `Triple`
    * `Triple.text`
    * `Sparql.membership`
-/

namespace QuestionQuery

------------------------------------------------------------
-- Terms
------------------------------------------------------------

/-
  The variables that a text can be searched for: the answer
  to the question, and the resource it is related to.
-/
inductive Variable where
  | proj
  | const
deriving DecidableEq, Inhabited

/- The name of a variable. -/
def Variable.name : Variable → String
  | .proj => "?proj"
  | .const => "?const"

/- All variables, in the order in which they are tried. -/
def Variable.all : List Variable :=
  [.proj, .const]

/-
  A part of a triple pattern.  The two predicates are open:
  one ties the related resource to the answer, the other one
  ties the answer to a resource named in the question.
-/
inductive Term where
  | var (v : Variable)
  | rootPredicate
  | bridgePredicate
  | isA
  | iri (uri : String)
deriving DecidableEq

/- How a term is written. -/
def Term.text : Term → String
  | .var v => v.name
  | .rootPredicate => "?proot"
  | .bridgePredicate => "?pbridge"
  | .isA => "a"
  | .iri uri => "<" ++ uri ++ ">"

------------------------------------------------------------
-- Patterns And Conditions
------------------------------------------------------------

/- A triple pattern. -/
structure Triple where
  subject : Term
  predicate : Term
  object : Term
deriving DecidableEq

/- How a triple pattern is written. -/
def Triple.text
    (t : Triple) : String :=
  t.subject.text ++ " " ++ t.predicate.text ++ " " ++
    t.object.text ++ "."

/- The condition that a variable has one given value. -/
def Sparql.membership
    (v : Variable)
    (uri : String) : String :=
  v.name ++ " IN (" ++ (Term.iri uri).text ++ ")"

end QuestionQuery
