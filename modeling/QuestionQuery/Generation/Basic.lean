import QuestionQuery.Generation.Move

/-
  This file generates the candidates of a question.  Every
  word in turn replaces the running candidates by all ways
  to extend them.  A word without a rule drops them all,
  which is no error but is reported.

  Key definitions include:
    * `Unhandled`
    * `Report`
    * `Generation`
    * `Generation.branch`
    * `Generation.visit`
    * `Generation.walk`
    * `Generation.ofTree`

  Key theorems include:
    * `Generation.mem_expand`
-/

namespace QuestionQuery

------------------------------------------------------------
-- Reports
------------------------------------------------------------

/- A word without a rule, and how many candidates it dropped. -/
structure Unhandled where
  label : String
  tag : String
  annotated : Bool
  dropped : Nat
deriving DecidableEq

/-
  How a generation went: the words seen, the most candidates
  there were behind any word, and the words without a rule.
-/
structure Report where
  nodesVisited : Nat
  peakCandidates : Nat
  unhandled : List Unhandled
deriving DecidableEq

/- Nothing seen yet. -/
def Report.start : Report where
  nodesVisited := 0
  peakCandidates := 0
  unhandled := []

instance : Inhabited Report :=
  ⟨.start⟩

------------------------------------------------------------
-- Generations
------------------------------------------------------------

/- The running candidates and the report so far. -/
structure Generation where
  candidates : SortedSet Candidate
  report : Report
deriving DecidableEq

namespace Generation

/- A generation that starts from given candidates. -/
def start
    (seeds : SortedSet Candidate) : Generation where
  candidates := seeds
  report := .start

instance : Inhabited Generation :=
  ⟨start .empty⟩

/- All candidates after each of some moves. -/
def expand
    (moves : List Move)
    (running : SortedSet Candidate) : SortedSet Candidate :=
  .ofList (running.toList.flatMap fun c => moves.map (·.apply c))

/- The candidates after some moves are those one move away. -/
@[simp]
theorem mem_expand
    {moves : List Move}
    {running : SortedSet Candidate}
    {d : Candidate} :
    d ∈ expand moves running ↔
      ∃ c ∈ running, ∃ m ∈ moves, m.apply c = d := by
  simp [expand]

/- The entry of a report for a word without a rule. -/
def unhandled
    (w : Word)
    (running : SortedSet Candidate) : Unhandled where
  label := w.label
  tag := w.tag
  annotated := w.isAnnotated
  dropped := running.size

/- Extend the running candidates by one word. -/
def branch
    (source : LabelSource)
    (g : Generation)
    (w : Word) : Generation :=
  match w.moves? source with
  | some moves => { g with candidates := expand moves g.candidates }
  | none =>
    { candidates := .empty
      report :=
        { g.report with
          unhandled := g.report.unhandled ++ [unhandled w g.candidates] } }

/- Count a word and the candidates behind it. -/
def count
    (g : Generation) : Generation :=
  { g with
    report :=
      { g.report with
        nodesVisited := g.report.nodesVisited + 1
        peakCandidates := max g.report.peakCandidates g.candidates.size } }

/- Extend the running candidates by one word, and count it. -/
def visit
    (source : LabelSource)
    (g : Generation)
    (w : Word) : Generation :=
  (g.branch source w).count

mutual

/-
  Visit the root of a tree, and then walk the trees below it
  with what came of that.
-/
def walk
    (source : LabelSource)
    (g : Generation) : ParseTree → Generation
  | .node w ts => walkAll source (g.visit source w) ts

/- Walk a list of trees, one tree after another. -/
def walkAll
    (source : LabelSource)
    (g : Generation) : List ParseTree → Generation
  | [] => g
  | t :: ts => walkAll source (walk source g t) ts

end

/- The generation of a tree from given candidates. -/
def ofTree
    (source : LabelSource)
    (seeds : SortedSet Candidate)
    (t : ParseTree) : Generation :=
  (start seeds).walk source t

/- The candidates that a generation starts from by default. -/
def seed : SortedSet Candidate :=
  .singleton .empty

end Generation

end QuestionQuery
