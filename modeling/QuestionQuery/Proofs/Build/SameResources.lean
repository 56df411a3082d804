import QuestionQuery.Proofs.Annotation.Idempotence
import QuestionQuery.Proofs.Lexicon.Insertion
import QuestionQuery.Proofs.Lexicon.RoundTrip

/-
  What is built does not depend on the order of look-ups.

  A lexicon gives lists, but a word is annotated with sets.
  All that a word asks of a list besides its members is
  whether there are any, and lists with the same members are
  empty together.  So lexicons that find the same resources
  annotate a tree alike, and from there on there are only
  sets.  Indexes and tables of labels, in turn, find the same
  resources and labels whenever the same pairs went in.

  Key definitions include:
    * `Lexicon.SameResources`
    * `Lexicon.Tables.ofPairs`
    * `Builder.ofLabels`

  Main statements:
    * `Lexicon.SameResources.resources_eq`
    * `Annotator.annotate_congr`
    * `LabelTable.mem_labelsOf_ofPairs`
    * `Builder.build_eq_of_sameResources`
-/

------------------------------------------------------------
-- Lexicons With The Same Resources
------------------------------------------------------------

namespace QuestionQuery

/- Lists with the same members make the same set. -/
theorem SortedSet.ofList_eq_of_toFinset_eq
    {α : Type}
    [DecidableEq α]
    [Ord α] [Std.TransOrd α] [Std.LawfulEqOrd α]
    {xs ys : List α}
    (hSame : xs.toFinset = ys.toFinset) :
    ofList xs = ofList ys := by
  ext a
  rw [mem_ofList, mem_ofList]
  exact List.toFinset.ext_iff.mp hSame a

namespace Lexicon

/-
  Do two lexicons find the same resources for every label, in
  whatever order and however often each?
-/
structure SameResources
    (first second : Lexicon) : Prop where
  classes :
    ∀ label,
      (first.classes label).toFinset =
        (second.classes label).toFinset
  properties :
    ∀ label,
      (first.properties label).toFinset =
        (second.properties label).toFinset
  entities :
    ∀ label,
      (first.entities label).toFinset =
        (second.entities label).toFinset

/- Which answer is found first depends on the members alone. -/
theorem firstFound_congr
    {answers others : List (List String)}
    (hSame :
      answers.map List.toFinset = others.map List.toFinset) :
    firstFound answers = firstFound others := by
  induction answers generalizing others with
  | nil =>
      cases others with
      | nil => rfl
      | cons other others => simp at hSame
  | cons answer answers ih =>
      cases others with
      | nil => simp at hSame
      | cons other others =>
          rw [List.map_cons, List.map_cons,
            List.cons.injEq] at hSame
          have hNone : answer = [] ↔ other = [] := by
            rw [← List.toFinset_eq_empty_iff, hSame.1,
              List.toFinset_eq_empty_iff]
          rw [firstFound, firstFound, if_congr hNone (ih hSame.2)
            (SortedSet.ofList_eq_of_toFinset_eq hSame.1)]

namespace SameResources

variable {first second : Lexicon}

/- A noun hints at the same resources. -/
theorem hintedAt_eq
    (hSame : first.SameResources second)
    (isLeaf : Bool)
    (w : Word) :
    first.hintedAt isLeaf w = second.hintedAt isLeaf w := by
  cases isLeaf with
  | true =>
      exact SortedSet.ofList_eq_of_toFinset_eq (hSame.classes _)
  | false =>
      apply firstFound_congr
      simp [List.toFinset_append, hSame.classes, hSame.properties,
        hSame.entities]

/- A verb stands for the same resources. -/
theorem verbMeaning_eq
    (hSame : first.SameResources second)
    (w : Word) :
    first.verbMeaning w = second.verbMeaning w := by
  apply firstFound_congr
  cases hForm : w.baseForm <;>
    simp [hSame.properties, hSame.entities]

/- A noun stands for the same resources. -/
theorem nounMeaning_eq
    (hSame : first.SameResources second)
    (w : Word) :
    first.nounMeaning w = second.nounMeaning w := by
  apply firstFound_congr
  cases hForm : w.baseForm <;>
    simp [List.toFinset_append, hSame.classes, hSame.properties,
      hSame.entities]

/- A word ends up with the same annotations. -/
theorem resources_eq
    (hSame : first.SameResources second)
    (isBlacklisted isHint isLeaf : Bool)
    (w : Word) :
    first.resources isBlacklisted isHint isLeaf w =
      second.resources isBlacklisted isHint isLeaf w := by
  unfold resources
  rw [hSame.hintedAt_eq, hSame.verbMeaning_eq, hSame.nounMeaning_eq]

end SameResources

end Lexicon

/- Annotators that find the same annotate a tree alike. -/
theorem Annotator.annotate_congr
    {a b : Annotator}
    (hSame : a.lexicon.SameResources b.lexicon)
    (hBlack : a.blacklist = b.blacklist)
    (t : ParseTree) :
    a.annotate t = b.annotate t := by
  apply ParseTree.eq_of_wordAt?_eq
  intro path
  rw [wordAt?_annotate, wordAt?_annotate]
  congr 1
  funext s
  rw [onWord_eq, onWord_eq, hSame.resources_eq, isBlacklisted,
    isBlacklisted, hBlack]

end QuestionQuery

------------------------------------------------------------
-- Pairs
------------------------------------------------------------

namespace QuestionQuery

namespace LabelTable

variable {pairs others : List (String × String)}

/- A run of insertions adds the labels of its pairs. -/
private theorem mem_labelsOf_foldl_insert
    {table : LabelTable}
    {uri label : String} :
    label ∈
        (pairs.foldl (fun table p => table.insert p.1 p.2)
          table).labelsOf uri ↔
      (uri, label) ∈ pairs ∨ label ∈ table.labelsOf uri := by
  induction pairs generalizing table with
  | nil => simp
  | cons p pairs ih =>
      rw [List.foldl_cons, ih, mem_labelsOf_insert, List.mem_cons,
        Prod.ext_iff]
      tauto

/- Pairs are found in the table of them, and nothing else. -/
theorem mem_labelsOf_ofPairs
    {uri label : String} :
    label ∈ (ofPairs pairs).labelsOf uri ↔ (uri, label) ∈ pairs := by
  have hNone : label ∉ empty.labelsOf uri :=
    SortedSet.notMem_empty
  rw [ofPairs, mem_labelsOf_foldl_insert, or_iff_left hNone]

/- Tables of the same pairs answer alike. -/
theorem toSource_ofPairs_congr
    (hSame : pairs.toFinset = others.toFinset) :
    (ofPairs pairs).toSource = (ofPairs others).toSource := by
  funext uri
  have hLabels :
      (ofPairs pairs).labelsOf uri = (ofPairs others).labelsOf uri := by
    ext label
    rw [mem_labelsOf_ofPairs, mem_labelsOf_ofPairs]
    exact List.toFinset.ext_iff.mp hSame (uri, label)
  rw [toSource, toSource, hLabels]

end LabelTable

/- Indexes of the same pairs find the same resources. -/
theorem Index.toFinset_search_ofPairs_congr
    {pairs others : List (String × String)}
    (hSame : pairs.toFinset = others.toFinset)
    (label : String) :
    ((ofPairs pairs).search label).toFinset =
      ((ofPairs others).search label).toFinset := by
  rw [List.toFinset.ext_iff]
  intro uri
  rw [mem_search_ofPairs, mem_search_ofPairs]
  exact List.toFinset.ext_iff.mp hSame (label, uri)

namespace Lexicon.Tables

/- The indexes of pairs, which are given for each section. -/
def ofPairs
    (pairs : Section → List (String × String)) : Tables where
  classes := .ofPairs (pairs .classes)
  properties := .ofPairs (pairs .properties)
  entities := .ofPairs (pairs .entities)

/- Tables of the same pairs find the same resources. -/
theorem sameResources_ofPairs
    {pairs others : Section → List (String × String)}
    (hSame : ∀ s, (pairs s).toFinset = (others s).toFinset) :
    (ofPairs pairs).toLexicon.SameResources
      (ofPairs others).toLexicon where
  classes := Index.toFinset_search_ofPairs_congr (hSame .classes)
  properties :=
    Index.toFinset_search_ofPairs_congr (hSame .properties)
  entities := Index.toFinset_search_ofPairs_congr (hSame .entities)

end Lexicon.Tables

end QuestionQuery

------------------------------------------------------------
-- Builds
------------------------------------------------------------

namespace QuestionQuery

namespace Builder

/- From the annotated tree on no lexicon is asked. -/
theorem build_congr
    {b c : Builder}
    (hSame : b.lexicon.SameResources c.lexicon)
    (hSource : b.source = c.source)
    (hBlack : b.blacklist = c.blacklist)
    (hOptions : b.options = c.options)
    (t : ParseTree) :
    b.build t = c.build t := by
  have hTree : b.annotator.annotate t = c.annotator.annotate t :=
    @Annotator.annotate_congr b.annotator c.annotator hSame hBlack t
  rw [build, build, hTree, hSource, hOptions]

/- A builder with labels that are kept in memory. -/
def ofLabels
    (lexicon : Lexicon)
    (labels : List (String × String))
    (blacklist : SortedSet String)
    (options : Sparql.Options) : Builder where
  lexicon := lexicon
  source := (LabelTable.ofPairs labels).toSource
  blacklist := blacklist
  options := options

theorem build_ofLabels_congr
    {first second : Lexicon}
    {labels others : List (String × String)}
    (hSame : first.SameResources second)
    (hLabels : labels.toFinset = others.toFinset)
    (blacklist : SortedSet String)
    (options : Sparql.Options)
    (t : ParseTree) :
    (ofLabels first labels blacklist options).build t =
      (ofLabels second others blacklist options).build t := by
  apply build_congr
  · exact hSame
  · exact LabelTable.toSource_ofPairs_congr hLabels
  · rfl
  · rfl

/-
  In which order resources and labels are found, and how
  often, never shows in what is built: not in the tree, the
  candidates, the report or the queries.  This holds for any
  two lexicons that find the same resources, such as indexes
  that the same pairs were inserted into, and documents that
  list the same resources.
-/
theorem build_eq_of_sameResources
    {labels others : List (String × String)}
    (hLabels : labels.toFinset = others.toFinset)
    (blacklist : SortedSet String)
    (options : Sparql.Options)
    (t : ParseTree) :
    (∀ first second : Lexicon,
      first.SameResources second →
        (ofLabels first labels blacklist options).build t =
          (ofLabels second others blacklist options).build t) ∧
    (∀ pairs turned : Lexicon.Section → List (String × String),
      (∀ s, (pairs s).toFinset = (turned s).toFinset) →
        (ofLabels (Lexicon.Tables.ofPairs pairs).toLexicon labels
            blacklist options).build t =
          (ofLabels (Lexicon.Tables.ofPairs turned).toLexicon others
            blacklist options).build t) ∧
    ∀ tables turned : Lexicon.Tables,
      tables.toLexicon.SameResources turned.toLexicon →
        ∀ v w,
          tables.WrittenAs v →
            turned.WrittenAs w →
              ∃ first second,
                Lexicon.ofText v.compact = .ok first ∧
                Lexicon.ofText w.compact = .ok second ∧
                (ofLabels first labels blacklist options).build t =
                  (ofLabels second others blacklist options).build
                    t := by
  refine ⟨?_, ?_, ?_⟩
  · intro first second hSame
    exact build_ofLabels_congr hSame hLabels blacklist options t
  · intro pairs turned hPairs
    exact
      build_ofLabels_congr
        (Lexicon.Tables.sameResources_ofPairs hPairs) hLabels
        blacklist options t
  · intro tables turned hSame v w hFirst hSecond
    exact
      ⟨tables.toLexicon, turned.toLexicon,
        hFirst.lexicon_ofText_compact,
        hSecond.lexicon_ofText_compact,
        build_ofLabels_congr hSame hLabels blacklist options t⟩

/- A question for somebody, with a resource in it. -/
def whoFoundedLego : ParseTree :=
  .node (.plain "founded" "VBD")
    [.leaf (.plain "Who" "WP"), .leaf (.plain "uri:Lego" "ADD")]

/- Pairs for two properties with one label. -/
def founding : Lexicon.Section → List (String × String)
  | .properties =>
    [("founded", "uri:founder"), ("founded", "uri:formedIn")]
  | _ => []

/- The same pairs, turned round and with a repeat. -/
def foundingTurned : Lexicon.Section → List (String × String)
  | .properties =>
    [("founded", "uri:formedIn"), ("founded", "uri:founder"),
      ("founded", "uri:formedIn")]
  | _ => []

/- Tables with a repeat that no insertion makes. -/
def foundingRepeated : Lexicon.Tables where
  classes := .empty
  properties :=
    ⟨SortedMap.empty.insert "founded"
      ["uri:formedIn", "uri:founder", "uri:formedIn"]⟩
  entities := .empty

/- Two labels of one resource. -/
def legoLabels : List (String × String) :=
  [("uri:Lego", "Lego"), ("uri:Lego", "Lego Group")]

/- The same labels, turned round and with a repeat. -/
def legoLabelsTurned : List (String × String) :=
  [("uri:Lego", "Lego Group"), ("uri:Lego", "Lego"),
    ("uri:Lego", "Lego Group")]

theorem sameResources_foundingRepeated :
    (Lexicon.Tables.ofPairs founding).toLexicon.SameResources
      foundingRepeated.toLexicon where
  classes := fun _ => rfl
  properties := by
    intro label
    have hMember
        (uri : String) :
        uri ∈ (Index.ofPairs (founding .properties)).search label ↔
          uri ∈ foundingRepeated.properties.search label := by
      rw [Index.mem_search_ofPairs]
      by_cases hLabel : label = "founded" <;>
        simp [founding, foundingRepeated, Index.search, hLabel,
          or_comm]
    exact List.toFinset.ext hMember
  entities := fun _ => rfl

theorem build_eq_whoFoundedLego :
    legoLabels.toFinset = legoLabelsTurned.toFinset ∧
    (∀ s, (founding s).toFinset = (foundingTurned s).toFinset) ∧
    (Lexicon.Tables.ofPairs founding).toLexicon.SameResources
      foundingRepeated.toLexicon ∧
    (ofLabels (Lexicon.Tables.ofPairs founding).toLexicon legoLabels
        .empty .default).build whoFoundedLego =
      (ofLabels foundingRepeated.toLexicon legoLabelsTurned .empty
        .default).build whoFoundedLego ∧
    (ofLabels (Lexicon.Tables.ofPairs founding).toLexicon legoLabels
        .empty .default).build whoFoundedLego =
      (ofLabels (Lexicon.Tables.ofPairs foundingTurned).toLexicon
        legoLabelsTurned .empty .default).build whoFoundedLego ∧
    ((ofLabels (Lexicon.Tables.ofPairs foundingTurned).toLexicon
          legoLabelsTurned .empty .default).build
        whoFoundedLego).tree.word.annotations =
      .ofList ["uri:founder", "uri:formedIn"] ∧
    ∃ first second,
      Lexicon.ofText
          (Lexicon.Tables.ofPairs founding).toJson.compact =
        .ok first ∧
      Lexicon.ofText foundingRepeated.toJson.compact = .ok second ∧
      (ofLabels first legoLabels .empty .default).build
          whoFoundedLego =
        (ofLabels second legoLabelsTurned .empty .default).build
          whoFoundedLego := by
  have hLabels : legoLabels.toFinset = legoLabelsTurned.toFinset := by
    decide +kernel
  have hPairs
      (s : Lexicon.Section) :
      (founding s).toFinset = (foundingTurned s).toFinset := by
    cases s <;> decide +kernel
  have hSame := sameResources_foundingRepeated
  have hBuild :=
    build_eq_of_sameResources hLabels .empty .default whoFoundedLego
  exact
    ⟨hLabels, hPairs, hSame, hBuild.1 _ _ hSame,
      hBuild.2.1 _ _ hPairs, by decide +kernel,
      hBuild.2.2 _ _ hSame _ _ (Lexicon.Tables.writtenAs_toJson _)
        (Lexicon.Tables.writtenAs_toJson _)⟩

end Builder

end QuestionQuery
