import Mathlib.Logic.Relation
import QuestionQuery.Proofs.Tree.Node

/-
  Which texts hold trees.

  A text that reads as a value holds a tree just if the value
  is a record with a node as its root, or else a node itself.
  The tree is what that node stands for and nothing else: the
  order of keys, the key that the tag goes by, unknown keys,
  blanks between tokens and repeated annotations do not count.

  Key definitions include:
    * `ParseTree.HasRoot`
    * `ParseTree.IsDocument`
    * `ParseTree.Respells`
    * `ParseTree.SameDocument`

  Main statements:
    * `ParseTree.ofDocument?_eq_some_iff`
    * `ParseTree.ofJson?_eq_of_respells`
    * `ParseTree.ofText_eq_ok_iff_isDocument`
-/

------------------------------------------------------------
-- Documents
------------------------------------------------------------

namespace QuestionQuery

namespace ParseTree

/- Is a value a record with a given tree at its root? -/
def HasRoot
    (v : Json)
    (t : ParseTree) : Prop :=
  ∃ fields root,
    v = .record fields ∧ ("root", root) ∈ fields ∧ IsNode root t

/-
  Does a value document a tree?  It has the tree at its root,
  or is a node for it and has no tree at its root.
-/
def IsDocument
    (v : Json)
    (t : ParseTree) : Prop :=
  HasRoot v t ∨ ((∀ other, ¬HasRoot v other) ∧ IsNode v t)

variable {v : Json}
variable {t : ParseTree}

/- Where no key is repeated, what a key has is its only value. -/
theorem only?_eq_some_iff
    {fields : List (String × Json)}
    {key : String}
    (hKeys : (fields.map Prod.fst).Nodup) :
    only? key fields = some v ↔ (key, v) ∈ fields := by
  have hOne :
      fields.filter (·.1 = key) = [(key, v)] ↔
        (key, v) ∈ fields := by
    rw [filter_eq_singleton_iff hKeys.of_map]
    constructor
    · exact And.left
    · intro hMember
      refine ⟨hMember, by simp, ?_⟩
      intro e hEntry hKey
      exact List.inj_on_of_nodup_map hKeys hEntry hMember
        (by simpa using hKey)
  rw [← hOne, only?]
  split
  next other w hFilter =>
    have hKey : other = key := by
      have hMember : (other, w) ∈ fields.filter (·.1 = key) := by
        simp [hFilter]
      simpa using (List.mem_filter.mp hMember).2
    simp [hFilter, hKey]
  next hOther =>
    constructor
    · rintro ⟨⟩
    · intro hFilter
      exact absurd hFilter (hOther key v)

/- The value at the root of a record is read as a node. -/
theorem bind_only?_eq_some_iff
    {fields : List (String × Json)}
    (hKeys : (Json.record fields).HasDistinctKeys) :
    (only? "root" fields).bind ofJson? = some t ↔
      HasRoot (.record fields) t := by
  rw [Json.hasDistinctKeys_record_iff] at hKeys
  rcases hKeys with ⟨hNodup, hFields⟩
  rw [Option.bind_eq_some_iff]
  constructor
  · rintro ⟨root, hOnly, hRead⟩
    have hRoot := (only?_eq_some_iff hNodup).mp hOnly
    exact ⟨fields, root, rfl, hRoot,
      (ofJson?_eq_some_iff (hFields _ hRoot)).mp hRead⟩
  · rintro ⟨_, root, ⟨⟩, hRoot, hNode⟩
    exact ⟨root, (only?_eq_some_iff hNodup).mpr hRoot,
      (ofJson?_eq_some_iff (hFields _ hRoot)).mpr hNode⟩

/- The tree of a document is the one that it documents. -/
theorem ofDocument?_eq_some_iff
    (hKeys : v.HasDistinctKeys) :
    ofDocument? v = some t ↔ IsDocument v t := by
  cases v with
  | record fields =>
      simp only [ofDocument?, IsDocument, Option.or_eq_some_iff,
        Option.eq_none_iff_forall_ne_some, ne_eq,
        bind_only?_eq_some_iff hKeys, ofJson?_eq_some_iff hKeys]
  | _ =>
      simp [ofDocument?, IsDocument, HasRoot,
        ofJson?_eq_some_iff hKeys]

end ParseTree

end QuestionQuery

------------------------------------------------------------
-- Respelling
------------------------------------------------------------

namespace QuestionQuery

namespace ParseTree

variable {v w : Json}

/- What a field of a node is read as. -/
abbrev Field.Value : Field → Type
  | .label => String
  | .tag => String
  | .baseForm => Option String
  | .children => List ParseTree
  | .annotations => SortedSet String

/- What the value of a field is read as. -/
def Field.read? : (k : Field) → Json → Option k.Value
  | .label => textOf?
  | .tag => textOf?
  | .baseForm => baseFormOf?
  | .children => childrenOf?
  | .annotations => annotationsOf?

/- Only what is read of values fills a part of a node. -/
theorem fills_congr
    {α : Type}
    {read : Json → Option α}
    {new : Option α}
    {vs ws : List Json}
    (hRead : (vs.map read).Perm (ws.map read)) :
    Fills read none vs new ↔ Fills read none ws new := by
  have hRest
      {vs ws : List Json}
      (hRead : (vs.map read).Perm (ws.map read))
      (hFills : Fills read none vs new) :
      Fills read none ws new := by
    rcases hFills with _ | hOne
    · have hNil := List.nil_perm.mp hRead
      rw [List.map_eq_nil_iff] at hNil
      exact hNil ▸ .keep none
    · have hOther := List.singleton_perm.mp hRead
      rcases List.map_eq_singleton_iff.mp hOther.symm with
        ⟨w, rfl, hSame⟩
      exact .take (hSame.trans hOne)
  exact ⟨hRest hRead, hRest hRead.symm⟩

/-
  Records whose fields are read alike, in any order, are read
  as the same node.
-/
theorem ofJson?_record_congr
    {es fs : List (String × Json)}
    (hFields :
      ∀ k : Field,
        ((k.values es).map k.read?).Perm
          ((k.values fs).map k.read?)) :
    ofJson? (.record es) = ofJson? (.record fs) := by
  have hFills
      (k : Field)
      (new : Option k.Value) :
      Fills k.read? none (k.values es) new ↔
        Fills k.read? none (k.values fs) new :=
    fills_congr (hFields k)
  ext ⟨word, ts⟩
  simp only [ofJson?_record_eq_some_iff]
  have hLabel := hFills .label
  have hTag := hFills .tag
  have hBaseForm := hFills .baseForm
  have hChildren := hFills .children
  have hAnnotations := hFills .annotations
  simp only [Field.read?] at hLabel hTag hBaseForm hChildren
  simp only [Field.read?] at hAnnotations
  simp only [hLabel, hTag, hBaseForm, hChildren, hAnnotations]

/-
  One value is another one with one thing in it written in
  another way that does not count for nodes.
-/
inductive Respells : Json → Json → Prop
  | reorder
      {es fs : List (String × Json)}
      (hFields : es.Perm fs) :
      Respells (.record es) (.record fs)
  | retag
      {key other : String}
      {tag : Json}
      {fields : List (String × Json)}
      (hKey : key ∈ tagKeys)
      (hOther : other ∈ tagKeys) :
      Respells
        (.record ((key, tag) :: fields))
        (.record ((other, tag) :: fields))
  | unknown
      {key : String}
      {value : Json}
      {fields : List (String × Json)}
      (hUnknown : ∀ k : Field, key ∉ k.keys) :
      Respells
        (.record ((key, value) :: fields))
        (.record fields)
  | annotations
      {uris others : List String}
      {fields : List (String × Json)}
      (hMembers : ∀ uri, uri ∈ uris ↔ uri ∈ others) :
      Respells
        (.record
          (("annotations", .list (uris.map .text)) :: fields))
        (.record
          (("annotations", .list (others.map .text)) :: fields))
  | child
      {v w : Json}
      {front back : List Json}
      {fields : List (String × Json)}
      (hChild : Respells v w) :
      Respells
        (.record
          (("children", .list (front ++ v :: back)) :: fields))
        (.record
          (("children", .list (front ++ w :: back)) :: fields))
  | listed
      {values : List Json}
      (hLength : 2 ≤ values.length ∧ values.length ≤ 5) :
      Respells (.list values) (.record (listKeys.zip values))

/- A field may be read of another value that is read alike. -/
theorem ofJson?_record_cons_congr
    {key other : String}
    {fields : List (String × Json)}
    (hKeys : Field.ofKey? key = Field.ofKey? other)
    (hRead :
      ∀ k, Field.ofKey? key = some k → k.read? v = k.read? w) :
    ofJson? (.record ((key, v) :: fields)) =
      ofJson? (.record ((other, w) :: fields)) := by
  apply ofJson?_record_congr
  intro k
  rw [Field.values_cons, Field.values_cons, ← hKeys]
  split
  next hKey => rw [List.map_cons, List.map_cons, hRead k hKey]
  next => rfl

/- Lists with the same texts are read as the same annotations. -/
theorem annotationsOf?_congr
    {uris others : List String}
    (hMembers : ∀ uri, uri ∈ uris ↔ uri ∈ others) :
    annotationsOf? (.list (uris.map .text)) =
      annotationsOf? (.list (others.map .text)) := by
  have hTexts (texts : List String) :
      textsOf? (texts.map .text) = some texts :=
    textsOf?_eq_some_iff.mpr rfl
  rw [annotationsOf?, annotationsOf?, hTexts, hTexts]
  simp only [Option.map_some, Option.some.injEq]
  ext uri
  simp [SortedSet.mem_ofList, hMembers]

/- Nodes may be read of another value that is read alike. -/
theorem treesOf?_congr
    {front back : List Json}
    (hRead : ofJson? v = ofJson? w) :
    treesOf? (front ++ v :: back) =
      treesOf? (front ++ w :: back) := by
  induction front with
  | nil =>
      rw [List.nil_append, List.nil_append, treesOf?, treesOf?,
        hRead]
  | cons first front ih =>
      rw [List.cons_append, List.cons_append, treesOf?, treesOf?, ih]

/- A value that is written in another way is the same node. -/
theorem ofJson?_eq_of_respells
    (hSame : Respells v w) :
    ofJson? v = ofJson? w := by
  induction hSame with
  | reorder hFields =>
      apply ofJson?_record_congr
      intro k
      exact ((hFields.filter _).map Prod.snd).map k.read?
  | @retag key other tag fields hKey hOther =>
      apply ofJson?_record_cons_congr
      · rw [(Field.ofKey?_eq_some_iff (k := .tag)).mpr hKey,
          (Field.ofKey?_eq_some_iff (k := .tag)).mpr hOther]
      · exact fun k _ => rfl
  | @unknown key value fields hUnknown =>
      apply ofJson?_record_congr
      intro k
      have hOther : Field.ofKey? key ≠ some k := by
        rw [ne_eq, Field.ofKey?_eq_some_iff]
        exact hUnknown k
      rw [Field.values_cons, if_neg hOther]
  | annotations hMembers =>
      apply ofJson?_record_cons_congr rfl
      rintro k ⟨⟩
      exact annotationsOf?_congr hMembers
  | child _ hChild =>
      apply ofJson?_record_cons_congr rfl
      rintro k ⟨⟩
      exact treesOf?_congr hChild
  | listed hLength => exact ofJson?_list hLength

/- The same holds after any number of changes. -/
theorem ofJson?_eq_of_eqvGen
    (hSame : Relation.EqvGen Respells v w) :
    ofJson? v = ofJson? w := by
  have hRead := hSame.mono fun _ _ => ofJson?_eq_of_respells
  exact (InvImage.equivalence _ ofJson? eq_equivalence).eqvGen_iff.mp
    hRead

end ParseTree

end QuestionQuery

------------------------------------------------------------
-- Same Documents
------------------------------------------------------------

namespace QuestionQuery

namespace ParseTree

variable {v w : Json}

/-
  Do two values document a tree in two ways?  If there is a
  tree at the root of one, then the roots differ in ways that
  do not count, whatever stands beside them; otherwise the
  values do, and do not get a tree at their root by it.
-/
inductive SameDocument : Json → Json → Prop
  | rooted
      {es fs : List (String × Json)}
      {first second : Json}
      {t : ParseTree}
      (hFirst : ("root", first) ∈ es)
      (hSecond : ("root", second) ∈ fs)
      (hNode : IsNode first t)
      (hSame : Relation.EqvGen Respells first second) :
      SameDocument (.record es) (.record fs)
  | bare
      {v w : Json}
      (hFirst : ∀ t, ¬HasRoot v t)
      (hSecond : ∀ t, ¬HasRoot w t)
      (hSame : Relation.EqvGen Respells v w) :
      SameDocument v w

/- A tree is the same however it is documented. -/
theorem ofDocument?_eq_of_sameDocument
    (hFirst : v.HasDistinctKeys)
    (hSecond : w.HasDistinctKeys)
    (hSame : SameDocument v w) :
    ofDocument? v = ofDocument? w := by
  rcases hSame with
    @⟨es, fs, first, second, t, hRoot, hOther, hNode, hRoots⟩ |
      ⟨hBare, hOther, hValues⟩
  -- what is at the second root is read like the first, so it is a node
  · have hKeys :=
      (Json.hasDistinctKeys_record_iff.mp hFirst).2 _ hRoot
    have hOtherKeys :=
      (Json.hasDistinctKeys_record_iff.mp hSecond).2 _ hOther
    have hReads : IsNode second t := by
      rw [← ofJson?_eq_some_iff hOtherKeys,
        ← ofJson?_eq_of_eqvGen hRoots]
      exact (ofJson?_eq_some_iff hKeys).mpr hNode
    rw [(ofDocument?_eq_some_iff hFirst).mpr
        (.inl ⟨es, first, rfl, hRoot, hNode⟩),
      (ofDocument?_eq_some_iff hSecond).mpr
        (.inl ⟨fs, second, rfl, hOther, hReads⟩)]
  · ext t
    rw [ofDocument?_eq_some_iff hFirst,
      ofDocument?_eq_some_iff hSecond, IsDocument, IsDocument,
      ← ofJson?_eq_some_iff hFirst, ← ofJson?_eq_some_iff hSecond,
      ofJson?_eq_of_eqvGen hValues]
    simp [hBare, hOther]

end ParseTree

end QuestionQuery

------------------------------------------------------------
-- Texts
------------------------------------------------------------

namespace QuestionQuery

namespace ParseTree

open Json.Reader
  (depthLimit read_value_compact_of_depth_le value)

variable {s : String}
variable {v : Json}

/- A text that reads as a value holds the tree of the value. -/
theorem ofText_of_read
    (hReads : (value depthLimit).read s = .ok v) :
    ofText s =
      match ofDocument? v with
      | some t => .ok t
      | none => .error (.json (.shape (.noShapeFits "Doc"))) := by
  unfold Json.Reader.read at hReads
  cases hRun : (value depthLimit).run (Json.tokensOf s) with
  | error e => simp [hRun, bind, Except.bind] at hReads
  | ok p =>
      rcases p with ⟨w, rest⟩
      cases rest with
      | cons token rest => simp [hRun, bind, Except.bind] at hReads
      | nil =>
          have hValue : w = v := by
            simpa [hRun, bind, Except.bind, pure, Except.pure]
              using hReads
          subst hValue
          rw [ofText, Json.Reader.read, reader, StateT.run_bind,
            hRun]
          simp only [bind, Except.bind]
          cases ofDocument? w <;> rfl

/- Blanks between the tokens of a text do not count. -/
theorem ofText_blank
    {front back : List Char}
    {blank : Char}
    (hBlank : blank ∈ Json.Scan.blanks)
    (hGap :
      Json.Scan.IsGap back (Json.Scan.after .between front)) :
    ofText (String.ofList (front ++ blank :: back)) =
      ofText (String.ofList (front ++ back)) := by
  have hTokens :
      Json.tokensOf (String.ofList (front ++ blank :: back)) =
        Json.tokensOf (String.ofList (front ++ back)) := by
    rw [Json.tokensOf, Json.tokensOf, String.toList_ofList,
      String.toList_ofList, Json.scan_gap hBlank hGap]
  rw [ofText, ofText, Json.Reader.read, Json.Reader.read, hTokens]

/-
  A text that reads as a value gives the tree that the value
  documents, and an error if there is none.  Another text
  gives the same if it documents the tree in another way, and
  so does one with more blanks or fewer between its tokens.
-/
theorem ofText_eq_ok_iff_isDocument
    (hReads : (value depthLimit).read s = .ok v)
    (hKeys : v.HasDistinctKeys) :
    (∀ t, ofText s = .ok t ↔ IsDocument v t) ∧
    ((∀ t, ¬IsDocument v t) →
      ofText s = .error (.json (.shape (.noShapeFits "Doc")))) ∧
    (∀ other w,
      (value depthLimit).read other = .ok w →
        w.HasDistinctKeys →
          SameDocument v w → ofText other = ofText s) ∧
    (∀ front back blank,
      s = String.ofList (front ++ back) →
        blank ∈ Json.Scan.blanks →
          Json.Scan.IsGap back
              (Json.Scan.after .between front) →
            ofText (String.ofList (front ++ blank :: back)) =
              ofText s) := by
  have hText := ofText_of_read hReads
  refine ⟨?_, ?_, ?_, ?_⟩
  · intro t
    rw [hText, ← ofDocument?_eq_some_iff hKeys]
    cases ofDocument? v <;> simp
  · intro hNone
    have hRefused : ofDocument? v = none := by
      rw [Option.eq_none_iff_forall_ne_some]
      intro t hTree
      exact hNone t ((ofDocument?_eq_some_iff hKeys).mp hTree)
    rw [hText, hRefused]
  · intro other w hOther hDistinct hSame
    rw [hText, ofText_of_read hOther,
      ofDocument?_eq_of_sameDocument hKeys hDistinct hSame]
  · intro front back blank hSplit hBlank hGap
    rw [hSplit]
    exact ofText_blank hBlank hGap

/-
  A root with a key that nobody knows, a key for the tag that
  is not the usual one and a repeated annotation.
-/
def whoWroteRoot : Json :=
  .record
    [("mood", .bool true),
      ("posTag", .text "WP"),
      ("annotations",
        .list (["urn:b", "urn:a", "urn:b"].map .text)),
      ("label", .text "Who"),
      ("children",
        .list [.list [.text "wrote", .text "VBD", .text "write"]])]

/- The same root in the usual way. -/
def whoWroteRootAgain : Json :=
  .record
    [("annotations", .list (["urn:a", "urn:b"].map .text)),
      ("pos_tag", .text "WP"),
      ("label", .text "Who"),
      ("children",
        .list [.list [.text "wrote", .text "VBD", .text "write"]])]

/- The tree of both roots. -/
def whoWrote : ParseTree :=
  .node
    ⟨"Who", "WP", none, .ofList ["urn:a", "urn:b"]⟩
    [.leaf ⟨"wrote", "VBD", some "write", .empty⟩]

/- The first root beside a label, which makes no node. -/
def whoWroteDocument : Json :=
  .record [("label", .text "Why"), ("root", whoWroteRoot)]

/- The second root by itself in a document. -/
def whoWroteDocumentAgain : Json :=
  .record [("root", whoWroteRootAgain)]

/- A node with two tags, which is none. -/
def twoTags : Json :=
  .record
    [("label", .text "Who"),
      ("pos", .text "WP"),
      ("pos_tag", .text "WP")]

/- The roots differ in four ways that do not count. -/
theorem respells_whoWroteRoot :
    Relation.EqvGen Respells whoWroteRoot whoWroteRootAgain := by
  have hMood (k : Field) : "mood" ∉ k.keys := by
    cases k <;> decide
  have hMembers (uri : String) :
      uri ∈ ["urn:b", "urn:a", "urn:b"] ↔
        uri ∈ ["urn:a", "urn:b"] := by
    simp only [List.mem_cons, List.not_mem_nil]
    tauto
  refine .trans _ _ _ (.rel _ _ (.unknown hMood)) ?_
  refine .trans _ _ _
    (.rel _ _
      (@Respells.retag "posTag" "pos_tag" _ _ (by decide)
        (by decide))) ?_
  refine .trans _ _ _
    (.rel _ _ (.reorder (.swap _ _ _))) ?_
  exact .rel _ _ (.annotations hMembers)

theorem ofText_whoWrote :
    (value depthLimit).read whoWroteDocument.compact =
        .ok whoWroteDocument ∧
    whoWroteDocument.HasDistinctKeys ∧
    ofText whoWroteDocument.compact = .ok whoWrote ∧
    ofText whoWroteDocumentAgain.compact =
      ofText whoWroteDocument.compact ∧
    ofText
        (String.ofList
          ('\n' :: whoWroteDocument.compact.toList)) =
      ofText whoWroteDocument.compact ∧
    ofText twoTags.compact =
      .error (.json (.shape (.noShapeFits "Doc"))) := by
  have hFirst :
      (value depthLimit).read whoWroteDocument.compact =
        .ok whoWroteDocument :=
    read_value_compact_of_depth_le
      (by simp [whoWroteDocument, whoWroteRoot]) (by decide)
  have hSecond :
      (value depthLimit).read whoWroteDocumentAgain.compact =
        .ok whoWroteDocumentAgain :=
    read_value_compact_of_depth_le
      (by simp [whoWroteDocumentAgain, whoWroteRootAgain])
      (by decide)
  have hKeys : whoWroteDocument.HasDistinctKeys := by
    simp [whoWroteDocument, whoWroteRoot]
  have hKeysAgain : whoWroteDocumentAgain.HasDistinctKeys := by
    simp [whoWroteDocumentAgain, whoWroteRootAgain]
  have hTwoKeys : twoTags.HasDistinctKeys := by
    simp [twoTags]
  have hTree : ofDocument? whoWroteDocument = some whoWrote := by
    decide +kernel
  have hText := ofText_eq_ok_iff_isDocument hFirst hKeys
  have hTreeTwice : ofDocument? twoTags = none := by
    decide +kernel
  have hSame : SameDocument whoWroteDocument whoWroteDocumentAgain :=
    .rooted (.tail _ (.head _)) (.head _)
      ((ofJson?_eq_some_iff (by simp [whoWroteRoot])).mp
        (by decide +kernel : ofJson? whoWroteRoot = some whoWrote))
      respells_whoWroteRoot
  have hRefused : ∀ t, ¬IsDocument twoTags t := by
    intro t hDocument
    have hTree := (ofDocument?_eq_some_iff hTwoKeys).mpr hDocument
    rw [hTreeTwice] at hTree
    cases hTree
  have hBlank :=
    hText.2.2.2 [] whoWroteDocument.compact.toList '\n'
      (by rw [List.nil_append, String.ofList_toList])
      (by decide) trivial
  rw [List.nil_append] at hBlank
  exact
    ⟨hFirst, hKeys,
      (hText.1 whoWrote).mpr
        ((ofDocument?_eq_some_iff hKeys).mp hTree),
      hText.2.2.1 _ _ hSecond hKeysAgain hSame, hBlank,
      (ofText_eq_ok_iff_isDocument
        (read_value_compact_of_depth_le (by simp [twoTags])
          (by decide)) hTwoKeys).2.1 hRefused⟩

end ParseTree

end QuestionQuery
