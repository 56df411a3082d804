import QuestionQuery.Json.Basic
import QuestionQuery.Json.Error
import QuestionQuery.Json.Scan
import QuestionQuery.Sorted.Map

/-
  This file defines readers of JSON texts.  A reader takes
  tokens from the front and gives a value, or the first
  error it meets.  Nothing is read ahead: a wrong shape at
  the front wins over a text that breaks off behind it.

  Key definitions include:
    * `Json.Reader`
    * `Json.Reader.read`
    * `Json.Reader.text`
    * `Json.Reader.listOf`
    * `Json.Reader.setOf`
    * `Json.Reader.mapOf`
    * `Json.Reader.fields`
    * `Json.Reader.slot`
    * `Json.Reader.value`
    * `Json.Reader.skip`
-/

namespace QuestionQuery

namespace Json

------------------------------------------------------------
-- Readers
------------------------------------------------------------

/- A reader takes tokens from the front of a list. -/
abbrev Reader (α : Type) :=
  StateT (List Token) (Except Error) α

namespace Reader

variable {α σ : Type}

/- Fail with a flaw of the text. -/
def flaw
    (f : Flaw) : Reader α :=
  throw (.text f)

/- Fail with a wrong shape. -/
def mismatch
    (m : Mismatch) : Reader α :=
  throw (.shape m)

/-
  Fail at a token where something else is wanted.  A token
  that starts no value is malformed.
-/
def wrongKind
    (wanted : Wanted) : Token → Reader α
  | .null => mismatch (.kind .null wanted)
  | .bool b => mismatch (.kind (.bool b) wanted)
  | .number n => mismatch (.kind (.number n) wanted)
  | .text s => mismatch (.kind (.text s) wanted)
  | .openList => mismatch (.kind .list wanted)
  | .openRecord => mismatch (.kind .record wanted)
  | .flawed _ f _ => flaw f
  | _ => flaw .malformed

/- Take one token. -/
def next : Reader Token := do
  match ← get with
  | [] => flaw .unfinished
  | t :: rest =>
    set rest
    return t

/- Take a closing bracket, if it stands at the front. -/
def closes
    (bracket : Token) : Reader Bool := do
  match ← get with
  | [] => return false
  | t :: rest =>
    if t = bracket then
      set rest
      return true
    else
      return false

/- Read a whole text, of which no token may be left. -/
def read
    (reader : Reader α)
    (s : String) : Except Error α := do
  let (a, rest) ← reader.run (tokensOf s)
  if rest.isEmpty then
    return a
  else
    throw (.text .malformed)

------------------------------------------------------------
-- Lists
------------------------------------------------------------

/-
  The items of a list behind its first one.  Each round
  takes a token, so the number of tokens bounds the rounds.
-/
def moreItemsOf
    (item : Reader α) : Nat → Reader (List α)
  | 0 => flaw .unfinished
  | fuel + 1 => do
    match ← next with
    | .closeList => return []
    | .comma =>
      let a ← item
      let rest ← moreItemsOf item fuel
      return a :: rest
    | _ => flaw .malformed

/- The items of a list behind its opening bracket. -/
def itemsOf
    (item : Reader α) : Reader (List α) := do
  if ← closes .closeList then
    return []
  else
    let a ← item
    let rest ← moreItemsOf item ((← get).length + 1)
    return a :: rest

/- A list. -/
def listOf
    (item : Reader α) : Reader (List α) := do
  match ← next with
  | .openList => itemsOf item
  | t => wrongKind .list t

/-
  The next item of a list whose items have kinds of their
  own, unless the list ends.  Its closing bracket stays.
-/
def slot
    (first : Bool)
    (item : Reader α) : Reader (Option α) := do
  match ← get with
  | [] => flaw .unfinished
  | t :: rest =>
    if t = .closeList then
      return none
    else if first then
      some <$> item
    else if t = .comma then
      set rest
      some <$> item
    else
      flaw .malformed

/- The end of a list that was read slot by slot. -/
def endSlots : Reader Unit := do
  match ← next with
  | .closeList => return ()
  | _ => flaw .malformed

------------------------------------------------------------
-- Records
------------------------------------------------------------

/- The key of a field. -/
def key : Reader String := do
  match ← next with
  | .text s => return s
  | .flawed true f _ => flaw f
  | _ => flaw .malformed

/- The colon behind a key. -/
def colon : Reader Unit := do
  match ← next with
  | .colon => return ()
  | _ => flaw .malformed

/-
  The fields of a record behind its first one, with what is
  known after each.  The reader `field` goes on behind a
  key; it may fail before it takes the colon.
-/
def moreFieldsOf
    (key : Reader String)
    (field : σ → String → Reader σ) : Nat → σ → Reader σ
  | 0, _ => flaw .unfinished
  | fuel + 1, known => do
    match ← next with
    | .closeRecord => return known
    | .comma =>
      let k ← key
      let known ← field known k
      moreFieldsOf key field fuel known
    | _ => flaw .malformed

/- The fields of a record behind its opening brace. -/
def fieldsOf
    (key : Reader String)
    (field : σ → String → Reader σ)
    (known : σ) : Reader σ := do
  if ← closes .closeRecord then
    return known
  else
    let k ← key
    let known ← field known k
    moreFieldsOf key field ((← get).length + 1) known

/- The fields of a record, with what is known after each. -/
def fields
    (field : σ → String → Reader σ)
    (known : σ) : Reader σ :=
  fieldsOf key field known

------------------------------------------------------------
-- Texts, Sets and Maps
------------------------------------------------------------

/- A text. -/
def text : Reader String := do
  match ← next with
  | .text s => return s
  | t => wrongKind .text t

/- A set, written as a list in any order and with repeats. -/
def setOf
    [Ord α]
    [Std.TransOrd α]
    [Std.LawfulEqOrd α]
    (item : Reader α) : Reader (SortedSet α) :=
  SortedSet.ofList <$> listOf item

/- A map from texts.  The last value of a key counts. -/
def mapOf
    (item : Reader α) : Reader (SortedMap String α) := do
  match ← next with
  | .openRecord =>
    fields
      (fun m k => do
        colon
        return m.insert k (← item))
      .empty
  | t => wrongKind .map t

------------------------------------------------------------
-- Values
------------------------------------------------------------

/- A value whose lists and records hold given values. -/
def valueAround
    (inner : Option (Reader Json)) : Reader Json := do
  match ← next, inner with
  | .null, _ => return .null
  | .bool b, _ => return .bool b
  | .number n, _ => return .number n
  | .text s, _ => return .text s
  | .openList, some item => .list <$> itemsOf item
  | .openRecord, some item =>
    let fs ← fields
      (fun fs k => do
        colon
        return (k, ← item) :: fs)
      []
    return .record fs.reverse
  | .flawed _ f _, _ => flaw f
  | _, _ => flaw .malformed

/-
  A value with lists and records nested to a given depth.  A
  bracket that opens a deeper level is malformed.
-/
def value : Nat → Reader Json
  | 0 => valueAround none
  | depth + 1 => valueAround (some (value depth))

/- How deep a value may be nested when nothing else is said. -/
def depthLimit : Nat :=
  127

------------------------------------------------------------
-- Skipping
------------------------------------------------------------

/- Pass over a token that may be flawed. -/
def skipToken : Token → Reader Unit
  | .flawed _ _ (some f) => flaw f
  | .closeList
  | .closeRecord
  | .comma
  | .colon => flaw .malformed
  | _ => return ()

/- Pass over a key. -/
def skipKey : Reader String := do
  match ← next with
  | .text s => return s
  | .flawed true _ (some f) => flaw f
  | .flawed true _ none => return ""
  | _ => flaw .malformed

/- Pass over a value, nested to a given depth. -/
def skipWithin : Nat → Reader Unit
  | 0 => flaw .unfinished
  | depth + 1 => do
    match ← next with
    | .openList =>
      let _ ← itemsOf (skipWithin depth)
      return ()
    | .openRecord =>
      fieldsOf skipKey
        (fun _ _ => do
          colon
          skipWithin depth)
        ()
    | t => skipToken t

/-
  Pass over a value, however deep.  Each level takes a
  token, so the number of tokens bounds the depth.
-/
def skip : Reader Unit := do
  skipWithin ((← get).length + 1)

------------------------------------------------------------
-- Structures
------------------------------------------------------------

/-
  The value of a field behind its key.  A field that has a
  value already must not come again.
-/
def fieldOnce
    (name : String)
    (old : Option α)
    (item : Reader α) : Reader (Option α) := do
  if old.isSome then
    mismatch (.repeatedField name)
  else
    colon
    some <$> item

/- Pass over a field that is not known. -/
def skipField : Reader Unit := do
  colon
  skip

end Reader

end Json

end QuestionQuery
