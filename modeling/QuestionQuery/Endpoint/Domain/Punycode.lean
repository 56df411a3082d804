import QuestionQuery.Sorted.Set

/-
  This file defines how a label beyond ASCII is spelled in
  ASCII: its ASCII characters come first, and numbers behind
  them tell which other characters to insert and where.

  A number counts the steps from one insertion to the next.
  One step moves on by a place, and behind the last place to
  the next code point.

  Key definitions include:
    * `Punycode.encode`
    * `Punycode.decode?`
-/

namespace QuestionQuery

namespace Punycode

------------------------------------------------------------
-- Digits
------------------------------------------------------------

/- The character of a digit in base 36. -/
def digitChar
    (d : Nat) : Char :=
  Char.ofNat (if d < 26 then 0x61 + d else 0x30 + (d - 26))

/- The value of a lower-case digit in base 36. -/
def digitValue?
    (c : Char) : Option Nat :=
  if 'a' ≤ c && c ≤ 'z' then some (c.toNat - 0x61)
  else if c.isDigit then some (c.toNat - 0x30 + 26)
  else none

/-
  The least digit at a place that is not the last of its
  number.  It grows along the number from 1 to 26.
-/
def threshold
    (bias place : Nat) : Nat :=
  max 1 (min 26 (36 * (place + 1) - bias))

/- Zero is always the last digit of its number. -/
theorem threshold_pos
    (bias place : Nat) :
    0 < threshold bias place := by
  simp only [threshold]
  omega

/- How often a number is divided by 35 to be at most 455. -/
def shrink
    (n : Nat) : Nat × Nat :=
  if 455 < n then
    let (times, rest) := shrink (n / 35)
    (times + 1, rest)
  else
    (0, n)
termination_by n

/-
  The bias behind a number, which guesses the size of the
  next one.  `count` is the number of characters by then.
-/
def nextBias
    (number count : Nat)
    (isFirst : Bool) : Nat :=
  let halved := if isFirst then number / 700 else number / 2
  let (times, rest) := shrink (halved + halved / count)
  36 * times + 36 * rest / (rest + 38)

------------------------------------------------------------
-- Encoding
------------------------------------------------------------

/- The digits of a number from a place on. -/
def digitsFrom
    (bias place number : Nat) : List Char :=
  let t := threshold bias place
  if number < t then
    [digitChar number]
  else
    digitChar (t + (number - t) % (36 - t)) ::
      digitsFrom bias (place + 1) ((number - t) / (36 - t))
termination_by number
decreasing_by
  have hpos := threshold_pos bias place
  have hle := Nat.div_le_self
    (number - threshold bias place) (36 - threshold bias place)
  omega

/- What is written so far, and the steps since then. -/
structure Encoder where
  digits : List Char
  count : Nat
  bias : Nat
  steps : Nat
deriving DecidableEq

/- Pass a place at a code point, and write it if it is there. -/
def Encoder.pass
    (basicCount : Nat)
    (code : Char)
    (e : Encoder)
    (c : Char) : Encoder :=
  if c < code then
    { e with steps := e.steps + 1 }
  else if c = code then
    { digits := e.digits ++ digitsFrom e.bias 0 e.steps
      count := e.count + 1
      bias := nextBias e.steps (e.count + 1) (e.count = basicCount)
      steps := 0 }
  else
    e

/- Write all places of the code points of an ascending list. -/
def encodeFrom
    (label : List Char)
    (basicCount next : Nat)
    (e : Encoder) : List Char → List Char
  | [] => e.digits
  | code :: codes =>
    let skipped := (code.toNat - next) * (e.count + 1)
    let e := label.foldl (Encoder.pass basicCount code)
      { e with steps := e.steps + skipped }
    encodeFrom label basicCount (code.toNat + 1)
      { e with steps := e.steps + 1 } codes

/- The spelling of a label. -/
def encode
    (label : List Char) : List Char :=
  let basic := label.filter (·.toNat < 0x80)
  let codes := SortedSet.ofList (label.filter (0x80 ≤ ·.toNat))
  let front := if basic.isEmpty then [] else basic ++ ['-']
  front ++
    encodeFrom label basic.length 0x80 ⟨[], basic.length, 72, 0⟩
      codes.toList

------------------------------------------------------------
-- Decoding
------------------------------------------------------------

/-
  What is read so far: the label, the code point and the
  place of the next insertion before its number, and the
  part of the number that is read.
-/
structure Decoder where
  label : List Char
  code : Nat
  bias : Nat
  start : Nat
  steps : Nat
  weight : Nat
  place : Nat
deriving DecidableEq

/- Nothing is read but the ASCII characters of a label. -/
def Decoder.initial
    (basic : List Char) : Decoder where
  label := basic
  code := 0x80
  bias := 72
  start := 0
  steps := 0
  weight := 1
  place := 0

/- Insert the character that a full number tells. -/
def Decoder.insert?
    (d : Decoder) : Option Decoder :=
  let count := d.label.length + 1
  let code := d.code + d.steps / count
  let index := d.steps % count
  if code.isValidChar then
    some
      { label := d.label.insertIdx index (Char.ofNat code)
        code
        bias := nextBias (d.steps - d.start) count (d.start = 0)
        start := index + 1
        steps := index + 1
        weight := 1
        place := 0 }
  else
    none

/- A number that fits into 32 bits. -/
def bounded?
    (n : Nat) : Option Nat :=
  if n < Nat.pow 2 32 then some n else none

/- Read one digit. -/
def Decoder.read?
    (d : Decoder)
    (c : Char) : Option Decoder := do
  let digit ← digitValue? c
  let steps ← bounded? (d.steps + digit * d.weight)
  let t := threshold d.bias d.place
  if digit < t then
    Decoder.insert? { d with steps }
  else
    let weight ← bounded? (d.weight * (36 - t))
    return { d with steps, weight, place := d.place + 1 }

/-
  The label of a spelling in lower case.  It must not break
  off inside of a number.
-/
def decode?
    (spelling : List Char) : Option (List Char) := do
  let back := spelling.reverse
  let numbers := (back.takeWhile (· ≠ '-')).reverse
  let basic := ((back.dropWhile (· ≠ '-')).drop 1).reverse
  let isMarked := spelling.head? = some '-' && basic.isEmpty
  if isMarked || !basic.all (·.toNat < 0x80) then
    none
  else
    let d ← numbers.foldlM Decoder.read? (Decoder.initial basic)
    if d.place = 0 then some d.label else none

end Punycode

end QuestionQuery
