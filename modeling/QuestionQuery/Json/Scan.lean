import QuestionQuery.Json.Token

/-
  This file cuts a JSON text into tokens.  The scanner takes
  one character at a time and never fails: what cannot be
  read becomes a flawed token, so that whoever reads the
  tokens meets the first error of the text.

  Key definitions include:
    * `Json.Scan.State`
    * `Json.Scan.step`
    * `Json.Scan.finish`
    * `Json.scan`
    * `Json.tokensOf`
-/

namespace QuestionQuery

namespace Json

namespace Scan

------------------------------------------------------------
-- States
------------------------------------------------------------

/- A place inside a number. -/
inductive NumberPlace where
  | minus
  | zero
  | whole
  | point
  | fraction
  | mark
  | markSign
  | exponent
deriving DecidableEq, Inhabited

/-
  A place inside a text: between characters, behind a
  backslash, or inside the digits of a numbered escape.
  Such an escape is judged when four bytes of it are read:
  `value` is there as long as all of them are digits.
-/
inductive TextPlace where
  | plain
  | backslash
  | digits (bytes : Nat) (value : Option Nat)
deriving DecidableEq, Inhabited

/-
  A text under way: its characters so far in reverse, the
  first half of a surrogate pair that waits for its second
  half, and whether each half so far has the other one.
-/
structure TextScan where
  read : List Char
  half : Option Nat
  paired : Bool
  place : TextPlace
deriving DecidableEq, Inhabited

/-
  What a scanner is inside of.  A `word` is a literal with
  the characters that are left of it and its token;
  `stopped` comes behind a flaw that ends the tokens.
-/
inductive State where
  | between
  | word (left : List Char) (token : Token)
  | number (place : NumberPlace) (numeral : Numeral)
  | text (scan : TextScan)
  | stopped
deriving DecidableEq, Inhabited

/- A step gives the tokens it completes and a new state. -/
abbrev Result :=
  List Token × State

/- Stop at a scalar that nobody can read. -/
def stop
    (isText : Bool) : Result :=
  ([.flawed isText .malformed (some .malformed)], .stopped)

------------------------------------------------------------
-- Between Tokens
------------------------------------------------------------

/- The value of a decimal digit. -/
def digit?
    (c : Char) : Option Nat :=
  if c.isDigit then some (c.toNat - 0x30) else none

/- A text that starts. -/
def textStart : TextScan where
  read := []
  half := none
  paired := true
  place := .plain

/- The character behind a token, or before the first one. -/
def betweenStep
    (c : Char) : Result :=
  if c = ' ' || c = '\t' || c = '\n' || c = '\r' then ([], .between)
  else if c = '[' then ([.openList], .between)
  else if c = ']' then ([.closeList], .between)
  else if c = '\x7b' then ([.openRecord], .between)
  else if c = '\x7d' then ([.closeRecord], .between)
  else if c = ',' then ([.comma], .between)
  else if c = ':' then ([.colon], .between)
  else if c = '"' then ([], .text textStart)
  else if c = 'n' then ([], .word ['u', 'l', 'l'] .null)
  else if c = 't' then ([], .word ['r', 'u', 'e'] (.bool true))
  else if c = 'f' then
    ([], .word ['a', 'l', 's', 'e'] (.bool false))
  else if c = '-' then ([], .number .minus (.start true))
  else if c = '0' then ([], .number .zero (.start false))
  else
    match digit? c with
    | some d => ([], .number .whole ((Numeral.start false).wholeDigit d))
    | none => stop false

------------------------------------------------------------
-- Literals
------------------------------------------------------------

/- A character inside a literal. -/
def wordStep
    (left : List Char)
    (token : Token)
    (c : Char) : Result :=
  match left with
  | [] => stop false
  | [d] => if c = d then ([token], .between) else stop false
  | d :: rest => if c = d then ([], .word rest token) else stop false

------------------------------------------------------------
-- Numbers
------------------------------------------------------------

/-
  The token of a complete number.  One that is too large for
  a double can be skipped but not read.
-/
def numberToken
    (n : Numeral) : Token :=
  match n.number? with
  | some v => .number v
  | none => .flawed false .malformed none

/- Close a number in front of a character of another token. -/
def endNumber
    (n : Numeral)
    (c : Char) : Result :=
  let next := betweenStep c
  (numberToken n :: next.1, next.2)

/- A character inside a number. -/
def numberStep
    (place : NumberPlace)
    (n : Numeral)
    (c : Char) : Result :=
  let isMark := c = 'e' || c = 'E'
  match place, digit? c with
  | .minus, some 0 => ([], .number .zero n)
  | .minus, some d => ([], .number .whole (n.wholeDigit d))
  | .minus, none => stop false
  | .zero, some _ => stop false
  | .whole, some d => ([], .number .whole (n.wholeDigit d))
  | .zero, none
  | .whole, none =>
    if c = '.' then ([], .number .point n.point)
    else if isMark then ([], .number .mark n.mark)
    else endNumber n c
  | .point, some d
  | .fraction, some d => ([], .number .fraction (n.fractionDigit d))
  | .point, none => stop false
  | .fraction, none =>
    if isMark then ([], .number .mark n.mark) else endNumber n c
  | .mark, some d
  | .markSign, some d
  | .exponent, some d => ([], .number .exponent (n.exponentDigit d))
  | .mark, none =>
    if c = '+' then ([], .number .markSign (n.exponentSign false))
    else if c = '-' then ([], .number .markSign (n.exponentSign true))
    else stop false
  | .markSign, none => stop false
  | .exponent, none => endNumber n c

------------------------------------------------------------
-- Texts
------------------------------------------------------------

/-
  The token of a complete text.  One with half a surrogate
  pair can be skipped but not read.
-/
def textToken
    (t : TextScan) : Token :=
  if t.paired then
    .text (String.ofList t.read.reverse)
  else
    .flawed true .malformed none

/- Go on behind a character that a text holds. -/
def TextScan.push
    (t : TextScan)
    (c : Char) : State :=
  .text { t with read := c :: t.read, half := none, place := .plain }

/-
  Give up the half that waits, because what follows it is
  not the other half.
-/
def TextScan.settle
    (t : TextScan) : TextScan :=
  { t with half := none, paired := t.paired && t.half.isNone }

/- The character that a one-letter escape stands for. -/
def letterEscape? : Char → Option Char
  | '"' => some '"'
  | '\\' => some '\\'
  | '/' => some '/'
  | 'b' => some '\x08'
  | 'f' => some '\x0c'
  | 'n' => some '\n'
  | 'r' => some '\r'
  | 't' => some '\t'
  | _ => none

/- Is a number the first half of a surrogate pair? -/
def isFirstHalf
    (n : Nat) : Bool :=
  0xD800 ≤ n && n ≤ 0xDBFF

/- Is a number the second half of a surrogate pair? -/
def isSecondHalf
    (n : Nat) : Bool :=
  0xDC00 ≤ n && n ≤ 0xDFFF

/- Go on behind a numbered escape. -/
def TextScan.numbered
    (t : TextScan)
    (n : Nat) : State :=
  match t.half with
  | some first =>
    if isSecondHalf n then
      t.push (Char.ofNat (0x10000 + (first - 0xD800) * 0x400 + (n - 0xDC00)))
    else
      .text { t.settle with place := .plain }
  | none =>
    if isFirstHalf n then
      .text { t with half := some n, place := .plain }
    else if isSecondHalf n then
      .text { t with paired := false, place := .plain }
    else
      t.push (Char.ofNat n)

/- A character inside a text. -/
def textStep
    (t : TextScan)
    (c : Char) : Result :=
  match t.place with
  | .plain =>
    if c = '\\' then ([], .text { t with place := .backslash })
    else if c = '"' then ([textToken t.settle], .between)
    else if c.toNat < 0x20 then stop true
    else ([], t.settle.push c)
  | .backslash =>
    if c = 'u' then ([], .text { t with place := .digits 0 (some 0) })
    else
      match letterEscape? c with
      | some d => ([], t.settle.push d)
      | none => stop true
  | .digits bytes value =>
    let value := (value.bind fun v => (Text.hexValue? c).map (v * 16 + ·))
    let bytes := bytes + c.utf8Size
    if bytes < 4 then ([], .text { t with place := .digits bytes value })
    else
      match value with
      | some n => ([], t.numbered n)
      | none => stop true

------------------------------------------------------------
-- Scanning
------------------------------------------------------------

/- Take one character. -/
def step : State → Char → Result
  | .between, c => betweenStep c
  | .word left token, c => wordStep left token c
  | .number place n, c => numberStep place n c
  | .text t, c => textStep t c
  | .stopped, _ => ([], .stopped)

/-
  The tokens of a text that ends.  A number may end where a
  token could start; a reader that skips calls one that
  breaks off malformed.
-/
def finish : State → List Token
  | .between => []
  | .word .. => [.flawed false .unfinished (some .unfinished)]
  | .number place n =>
    match place with
    | .zero | .whole | .fraction | .exponent => [numberToken n]
    | _ => [.flawed false .unfinished (some .malformed)]
  | .text t =>
    let flaw := if t.paired then .unfinished else .malformed
    [.flawed true flaw (some .unfinished)]
  | .stopped => []

end Scan

/- The tokens of the characters that follow in a state. -/
def scan : Scan.State → List Char → List Token
  | state, [] => Scan.finish state
  | state, c :: cs =>
    let result := Scan.step state c
    result.1 ++ scan result.2 cs

/- The tokens of a text. -/
def tokensOf
    (s : String) : List Token :=
  scan .between s.toList

end Json

end QuestionQuery
