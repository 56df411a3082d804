import QuestionQuery.Endpoint.Domain.Basic
import QuestionQuery.Endpoint.Percent
import QuestionQuery.Text.Blank

/-
  This file defines the hosts of addresses: names, and
  numbers of the two versions of the Internet Protocol.

  Key definitions include:
    * `UrlError`
    * `Host`
    * `Host.ofText`
    * `Host.text`
-/

namespace QuestionQuery

------------------------------------------------------------
-- Errors
------------------------------------------------------------

/- Why a text is not an address. -/
inductive UrlError where
  | relative
  | emptyHost
  | invalidDomain
  | invalidCharacter
  | invalidIpv4
  | invalidIpv6
  | invalidPort
deriving DecidableEq

/- The message of an error. -/
def UrlError.message : UrlError → String
  | .relative => "relative URL without a base"
  | .emptyHost => "empty host"
  | .invalidDomain => "invalid international domain name"
  | .invalidCharacter => "invalid domain character"
  | .invalidIpv4 => "invalid IPv4 address"
  | .invalidIpv6 => "invalid IPv6 address"
  | .invalidPort => "invalid port number"

------------------------------------------------------------
-- Numbers
------------------------------------------------------------

namespace Ipv4

/- The value of digits of a base, if all of them are. -/
def digits?
    (base : Nat)
    (cs : List Char) : Option Nat :=
  cs.foldl
    (fun n c =>
      match n, Text.hexValue? c with
      | some n, some d => if d < base then some (n * base + d) else none
      | _, _ => none)
    (some 0)

/-
  A number in decimal, in octal behind a zero, or in
  hexadecimal behind `0x`.  The mark alone is zero.
-/
def number? : List Char → Option Nat
  | [] => none
  | ['0'] => some 0
  | '0' :: c :: rest =>
    if c = 'x' || c = 'X' then digits? 16 rest else digits? 8 (c :: rest)
  | cs => digits? 10 cs

/- The parts of a name, without an empty one at the end. -/
def labels
    (cs : List Char) : List (List Char) :=
  let parts := Text.segments (· = '.') cs
  if parts.getLast? = some [] then parts.dropLast else parts

/-
  Is a name meant as a number?  It is when its last part is
  one, also one that is out of range.
-/
def isMeant
    (cs : List Char) : Bool :=
  match (labels cs).getLast? with
  | none => false
  | some part =>
    (!part.isEmpty && part.all Char.isDigit) || (number? part).isSome

/-
  The number of one to four parts.  Each part but the last is
  a byte, and the last one fills the bytes that are left.
-/
def ofParts? : Nat → List Nat → Option Nat
  | _, [] => none
  | free, [last] => if last < 256 ^ free then some last else none
  | free, n :: rest => do
    let low ← ofParts? (free - 1) rest
    if n < 256 && 1 < free then
      return n * 256 ^ (free - 1) + low
    else
      none

/- The number of a name that is meant as one. -/
def ofText
    (cs : List Char) : Except UrlError Nat :=
  match ((labels cs).mapM number?).bind (ofParts? 4) with
  | some n => .ok n
  | none => .error .invalidIpv4

/- Four bytes in decimal. -/
def text
    (n : Nat) : String :=
  ".".intercalate
    ([n / 0x1000000, n / 0x10000 % 256, n / 256 % 256, n % 256].map
      toString)

/- A byte in decimal, without leading zeros. -/
def byte? : List Char → Option Nat
  | [] => none
  | ['0'] => some 0
  | '0' :: _ => none
  | cs =>
    match digits? 10 cs with
    | some n => if n < 256 then some n else none
    | none => none

end Ipv4

namespace Ipv6

/-
  Eight pieces from those that were read and the place of
  the gap, which stands for as many zeros as are missing.
-/
def fillGap
    (pieces : List Nat) : Option Nat → Option (List Nat)
  | none => if pieces.length = 8 then some pieces else none
  | some k =>
    some
      (pieces.take k ++ List.replicate (8 - pieces.length) 0 ++
        pieces.drop k)

/- Two pieces from four bytes at the end. -/
def tail?
    (cs : List Char) : Option (List Nat) :=
  match (Text.segments (· = '.') cs).mapM Ipv4.byte? with
  | some [a, b, c, d] => some [a * 256 + b, c * 256 + d]
  | _ => none

/-
  The pieces of an address, behind those read already.  The
  gap counts as a piece.  Each round takes a character, so
  the length of the text bounds the rounds.
-/
def pieces? :
    Nat → List Nat → Option Nat → List Char → Option (List Nat)
  | 0, _, _, _ => none
  | _, read, gap, [] => fillGap read gap
  | fuel + 1, read, gap, c :: cs =>
    if read.length = 8 then
      none
    else if c = ':' then
      if gap.isSome then
        none
      else
        pieces? fuel (read ++ [0]) (some (read.length + 1)) cs
    else
      let group := ((c :: cs).take 4).takeWhile
        fun d => (Text.hexValue? d).isSome
      let rest := (c :: cs).drop group.length
      let piece := (Ipv4.digits? 16 group).getD 0
      match rest with
      | [] => fillGap (read ++ [piece]) gap
      | '.' :: _ =>
        if group.isEmpty || 6 < read.length then
          none
        else
          (tail? (c :: cs)).bind fun last => fillGap (read ++ last) gap
      | [':'] => none
      | ':' :: rest => pieces? fuel (read ++ [piece]) gap rest
      | _ => none

/- The pieces of an address. -/
def ofText
    (cs : List Char) : Except UrlError (List Nat) :=
  let found :=
    match cs with
    | [] | [_] => none
    | ':' :: ':' :: rest => pieces? (rest.length + 1) [0] (some 1) rest
    | ':' :: _ => none
    | _ => pieces? (cs.length + 1) [] none cs
  match found with
  | some pieces => .ok pieces
  | none => .error .invalidIpv6

/- The number of zeros at the front. -/
def zerosAt
    (pieces : List Nat) : Nat :=
  (pieces.takeWhile (· = 0)).length

/-
  The first of the longest stretches of zeros: its place and
  its length, at least two.
-/
def longestGap?
    (pieces : List Nat) : Option (Nat × Nat) :=
  (List.range pieces.length).foldl
    (fun best i =>
      let length := zerosAt (pieces.drop i)
      if (best.map Prod.snd).getD 1 < length then
        some (i, length)
      else
        best)
    none

/- A piece in hexadecimal, without leading zeros. -/
def pieceText
    (n : Nat) : String :=
  String.ofList (Nat.toDigits 16 n)

/- Pieces between colons. -/
def piecesText
    (pieces : List Nat) : String :=
  ":".intercalate (pieces.map pieceText)

/- Eight pieces, with two colons for the longest gap. -/
def text
    (pieces : List Nat) : String :=
  match longestGap? pieces with
  | none => piecesText pieces
  | some (i, length) =>
    piecesText (pieces.take i) ++ "::" ++
      piecesText (pieces.drop (i + length))

end Ipv6

------------------------------------------------------------
-- Hosts
------------------------------------------------------------

/- A host: a name in ASCII, or a number. -/
inductive Host where
  | domain (name : String)
  | ipv4 (address : Nat)
  | ipv6 (pieces : List Nat)
deriving DecidableEq

namespace Host

/-
  Characters that no host has in an address of a kind that
  gives it no meaning.
-/
def isForbiddenOpaque
    (c : Char) : Bool :=
  ['\x00', '\t', '\n', '\r', ' ', '#', '/', ':', '<', '>', '?', '@',
    '[', '\\', ']', '^', '|'].contains c

/- An address of the sixth version between brackets. -/
def bracketed
    (cs : List Char) : Except UrlError Host :=
  if cs.getLast? = some ']' then
    .ipv6 <$> Ipv6.ofText cs.dropLast
  else
    .error .invalidIpv6

/-
  The host of a text, in which any characters may be
  percent-encoded.
-/
def ofText : List Char → Except UrlError Host
  | '[' :: rest => bracketed rest
  | cs =>
    match Domain.ofBytes? (Percent.decode cs) with
    | none => .error .invalidDomain
    | some [] => .error .emptyHost
    | some name =>
      if Ipv4.isMeant name then
        .ipv4 <$> Ipv4.ofText name
      else
        .ok (.domain (String.ofList name))

/- Check a host to which its address gives no meaning. -/
def checkOpaque : List Char → Except UrlError Unit
  | '[' :: rest => do
    let _ ← bracketed rest
  | cs =>
    if cs.any isForbiddenOpaque then
      .error .invalidCharacter
    else
      .ok ()

/- How a host is written. -/
def text : Host → String
  | .domain name => name
  | .ipv4 address => Ipv4.text address
  | .ipv6 pieces => "[" ++ Ipv6.text pieces ++ "]"

end Host

end QuestionQuery
