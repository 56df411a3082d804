/-
  This file defines the numbers of a JSON text and how their
  value grows while their digits are read.

  Key definitions include:
    * `Number`
    * `Numeral`
    * `Numeral.number?`
-/

namespace QuestionQuery

------------------------------------------------------------
-- Numbers
------------------------------------------------------------

/-
  A number: a whole one below `2 ^ 64`, the negative of a
  whole one from `1` to `2 ^ 63`, or a double by its bits.
-/
inductive Number where
  | natural : Nat → Number
  | negative : Nat → Number
  | double : UInt64 → Number
deriving DecidableEq, Inhabited

------------------------------------------------------------
-- Numerals
------------------------------------------------------------

/-
  The digits of a number read so far.  The number is
  `significand * 10 ^ scale`, times ten to the exponent that
  is written behind it.  The significand stays below
  `2 ^ 64`; `full` holds once a digit did not fit.
-/
structure Numeral where
  negative : Bool
  significand : Nat
  full : Bool
  scale : Int
  whole : Bool
  exponentNegative : Bool
  exponent : Nat
deriving DecidableEq, Inhabited

namespace Numeral

/- No digit read yet. -/
def start
    (negative : Bool) : Numeral where
  negative := negative
  significand := 0
  full := false
  scale := 0
  whole := true
  exponentNegative := false
  exponent := 0

/- The significand with one digit more, if it fits. -/
def extended?
    (n : Numeral)
    (digit : Nat) : Option Nat :=
  let longer := n.significand * 10 + digit
  if !n.full && longer < Nat.pow 2 64 then some longer else none

/-
  Read a digit before the point.  From the first digit that
  does not fit, each only counts as a factor of ten.
-/
def wholeDigit
    (n : Numeral)
    (digit : Nat) : Numeral :=
  match n.extended? digit with
  | some longer => { n with significand := longer }
  | none => { n with full := true, scale := n.scale + 1 }

/- Read the point. -/
def point
    (n : Numeral) : Numeral :=
  { n with full := false, whole := false }

/-
  Read a digit behind the point.  From the first digit that
  does not fit, they are dropped.
-/
def fractionDigit
    (n : Numeral)
    (digit : Nat) : Numeral :=
  match n.extended? digit with
  | some longer =>
    { n with significand := longer, scale := n.scale - 1 }
  | none => { n with full := true }

/- Read the mark that starts an exponent. -/
def mark
    (n : Numeral) : Numeral :=
  { n with whole := false }

/- Read the sign of an exponent. -/
def exponentSign
    (n : Numeral)
    (negative : Bool) : Numeral :=
  { n with exponentNegative := negative }

/- Read a digit of an exponent. -/
def exponentDigit
    (n : Numeral)
    (digit : Nat) : Numeral :=
  { n with exponent := n.exponent * 10 + digit }

------------------------------------------------------------
-- Values
------------------------------------------------------------

/-
  `x * 10 ^ e` by one product or one quotient where the
  power is a double.  Below that, `x` is divided in steps;
  as it is below `2 ^ 64`, the third step reaches zero.
  There is no value where the result is infinite.
-/
def scaled :
    Nat → Float → Int → Option Float
  | 0, x, _ => some x
  | fuel + 1, x, e =>
    if e.natAbs ≤ 308 then
      let power := Float.ofScientific 1 false e.natAbs
      if 0 ≤ e then
        let y := x * power
        if y.isInf then none else some y
      else
        some (x / power)
    else if x == 0.0 then
      some x
    else if 0 ≤ e then
      none
    else
      scaled fuel (x / Float.ofScientific 1 false 308) (e + 308)

/- The numeral as a double, unless it is too large for one. -/
def double?
    (n : Numeral) : Option Number :=
  let e := if n.exponentNegative then -(n.exponent : Int) else n.exponent
  (scaled 4 n.significand.toUInt64.toFloat (n.scale + e)).map
    fun x => .double (if n.negative then -x else x).toBits

/-
  The number that a numeral stands for.  A whole number
  outside of the ranges of whole numbers is a double, and
  so is minus zero.
-/
def number?
    (n : Numeral) : Option Number :=
  if n.whole && n.scale = 0 then
    if !n.negative then
      some (.natural n.significand)
    else if 0 < n.significand && n.significand ≤ Nat.pow 2 63 then
      some (.negative n.significand)
    else
      n.double?
  else
    n.double?

end Numeral

end QuestionQuery
