/-
  This file defines the shortest decimal text of a double:
  the fewest digits that read back as the same double and,
  among those, the ones nearest to it.

  Key definitions include:
    * `Double.Parts`
    * `Double.parts`
    * `Double.shortest`
    * `Double.text`
-/

namespace QuestionQuery

namespace Double

------------------------------------------------------------
-- Decoding
------------------------------------------------------------

/-
  A finite double is `significand * 2 ^ exponent`, up to its
  sign.  `narrow` holds of the powers of two at which the
  doubles below are twice as dense as the doubles above.
-/
structure Parts where
  negative : Bool
  significand : Nat
  exponent : Int
  narrow : Bool

/- Split the 64 bits of a double. -/
def parts
    (bits : UInt64) : Parts :=
  let fraction : Nat := bits.toNat % Nat.pow 2 52
  let biased : Nat := bits.toNat / Nat.pow 2 52 % Nat.pow 2 11
  let negative : Bool := bits.toNat / Nat.pow 2 63 = 1
  if biased = 0 then
    { negative
      significand := fraction
      exponent := -1074
      narrow := false }
  else
    { negative
      significand := Nat.pow 2 52 + fraction
      exponent := (biased : Int) - 1075
      narrow := fraction = 0 && biased ≠ 1 }

------------------------------------------------------------
-- Shortest Digits
------------------------------------------------------------

/- A power of an integer exponent, as a fraction. -/
def power
    (base : Nat)
    (exponent : Int) : Nat × Nat :=
  if 0 ≤ exponent then
    (Nat.pow base exponent.toNat, 1)
  else
    (1, Nat.pow base (-exponent).toNat)

/-
  Multiples of `10 ^ k` next to a double, tested against the
  numbers that round to the double.  These lie between `low`
  and `high` quarters of the last binary place, ends
  included when the significand is even.  Of two multiples
  the nearer one is taken, and of two as near the even one.
-/
def onGrid
    (p : Parts)
    (k : Int) : Option Nat :=
  let low := 4 * p.significand - (if p.narrow then 1 else 2)
  let value := 4 * p.significand
  let high := 4 * p.significand + 2
  let two := power 2 (p.exponent - 2)
  let ten := power 10 k
  let unit := two.1 * ten.2
  let step := ten.1 * two.2
  let below := value * unit / step
  let above := below + 1
  let closed := p.significand % 2 = 0
  let fits := fun n =>
    0 < n &&
      (if closed then
        low * unit ≤ n * step && n * step ≤ high * unit
      else
        low * unit < n * step && n * step < high * unit)
  match fits below, fits above with
  | true, false => some below
  | false, true => some above
  | false, false => none
  | true, true =>
    let toAbove := above * step - value * unit
    let toBelow := value * unit - below * step
    if toAbove < toBelow || (toAbove = toBelow && above % 2 = 0) then
      some above
    else
      some below

/-
  The first grid that has a multiple, from coarse to fine.
  No double is above `10 ^ 309`, and seventeen digits always
  suffice, so the search below `10 ^ (-341)` never happens.
-/
def search
    (p : Parts) :
    Nat → Int → Nat × Int
  | 0, k => (0, k)
  | fuel + 1, k =>
    match onGrid p k with
    | some n => (n, k)
    | none => search p fuel (k - 1)

/- The digits of a double and the power of ten they count. -/
def shortest
    (p : Parts) : Nat × Int :=
  search p 651 309

------------------------------------------------------------
-- Text
------------------------------------------------------------

private def zeros
    (n : Int) : List Char :=
  List.replicate n.toNat '0'

/-
  The digits `ds` times `10 ^ k`: plain from `1e-5` up to
  `1e16`, with a point always, and with a signed exponent
  outside of that range.
-/
def layout
    (ds : List Char)
    (k : Int) : List Char :=
  let place := (ds.length : Int) + k
  if 0 ≤ k && place ≤ 16 then
    ds ++ zeros k ++ ['.', '0']
  else if 0 < place && place ≤ 16 then
    ds.take place.toNat ++ '.' :: ds.drop place.toNat
  else if -5 < place && place ≤ 0 then
    '0' :: '.' :: zeros (-place) ++ ds
  else
    let mantissa :=
      match ds with
      | d :: e :: rest => d :: '.' :: e :: rest
      | _ => ds
    let sign := if 0 < place then ['+'] else []
    mantissa ++ 'e' :: sign ++ (toString (place - 1)).toList

/- The shortest text of a double. -/
def text
    (bits : UInt64) : String :=
  let p := parts bits
  let sign := if p.negative then ['-'] else []
  if p.significand = 0 then
    String.ofList (sign ++ ['0', '.', '0'])
  else
    let (n, k) := shortest p
    String.ofList (sign ++ layout (Nat.toDigits 10 n) k)

end Double

end QuestionQuery
