import QuestionQuery.Text.Hex

/-
  This file defines the percent encoding of characters in
  the parts of an address.

  Key definitions include:
    * `Percent.encode`
    * `Percent.decode`
    * `Percent.userSet`
    * `Percent.pathSet`
    * `Percent.querySet`
    * `Percent.fragmentSet`
-/

namespace QuestionQuery

namespace Percent

------------------------------------------------------------
-- Encoding
------------------------------------------------------------

/- One byte, encoded by two upper-case digits. -/
def encodeByte
    (b : UInt8) : List Char :=
  '%' :: (Text.hexWidth 2 b.toNat).map Char.toUpper

/-
  The characters of a set, all controls and all characters
  beyond ASCII are encoded; the others stay.
-/
def encode
    (set : Char → Bool)
    (cs : List Char) : List Char :=
  cs.flatMap fun c =>
    if c.toNat < 0x20 || 0x7E < c.toNat || set c then
      (String.utf8EncodeChar c).flatMap encodeByte
    else
      [c]

/- Characters that are encoded behind the `#`. -/
def fragmentSet
    (c : Char) : Bool :=
  [' ', '"', '<', '>', '\x60'].contains c

/- Characters that are encoded behind the `?`. -/
def querySet
    (c : Char) : Bool :=
  [' ', '"', '#', '<', '>', '\''].contains c

/- Characters that are encoded in a path. -/
def pathSet
    (c : Char) : Bool :=
  fragmentSet c || ['#', '?', '\x7b', '\x7d'].contains c

/- Characters that are encoded in a name or a password. -/
def userSet
    (c : Char) : Bool :=
  pathSet c ||
    ['/', ':', ';', '=', '@', '[', '\\', ']', '^', '|'].contains c

------------------------------------------------------------
-- Decoding
------------------------------------------------------------

/-
  The bytes that a text stands for.  A percent sign without
  two digits stands for itself.
-/
def decode : List Char → List UInt8
  | [] => []
  | '%' :: a :: b :: rest =>
    match Text.hexValue? a, Text.hexValue? b with
    | some m, some n => (m * 16 + n).toUInt8 :: decode rest
    | _, _ => String.utf8EncodeChar '%' ++ decode (a :: b :: rest)
  | c :: rest => String.utf8EncodeChar c ++ decode rest

end Percent

end QuestionQuery
