/-
  This file defines numbers in hexadecimal.

  Key definitions include:
    * `Text.hexDigit`
    * `Text.hexValue?`
    * `Text.hexWidth`
    * `Text.hex`
-/

namespace QuestionQuery

namespace Text

/- The lower-case digit of a number below sixteen. -/
def hexDigit
    (n : Nat) : Char :=
  if n < 10 then
    Char.ofNat (0x30 + n)
  else
    Char.ofNat (0x57 + n)

/- The value of a hexadecimal digit of either case. -/
def hexValue?
    (c : Char) : Option Nat :=
  if c.isDigit then some (c.toNat - 0x30)
  else if 'a' ≤ c && c ≤ 'f' then some (c.toNat - 0x57)
  else if 'A' ≤ c && c ≤ 'F' then some (c.toNat - 0x37)
  else none

/- The last `width` hexadecimal digits of a number. -/
def hexWidth :
    Nat → Nat → List Char
  | 0, _ => []
  | width + 1, n => hexWidth width (n / 16) ++ [hexDigit (n % 16)]

/-
  A number below `2 ^ 32` in hexadecimal, without leading
  zeros.
-/
def hex
    (n : Nat) : List Char :=
  match (hexWidth 8 n).dropWhile (· = '0') with
  | [] => ['0']
  | digits => digits

end Text

end QuestionQuery
