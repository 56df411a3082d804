import QuestionQuery.Endpoint.Host

/-
  This file reads addresses and writes them in their normal
  form.  Only web addresses are kept in full; of any other
  one its scheme is kept, once its host and port have been
  found sound.

  Key definitions include:
    * `WebUrl`
    * `WebUrl.text`
    * `Url`
    * `Url.ofText`
-/

namespace QuestionQuery

------------------------------------------------------------
-- Addresses
------------------------------------------------------------

/-
  The address of something on the web.  The parts are kept
  as they are written, percent-encoded.
-/
structure WebUrl where
  isSecure : Bool
  user : String
  password : String
  host : Host
  port : Option Nat
  path : List String
  query : Option String
  fragment : Option String
deriving DecidableEq

/- An address. -/
inductive Url where
  | web (url : WebUrl)
  | other (scheme : String)
deriving DecidableEq

/- How the address of something on the web is written. -/
def WebUrl.text
    (u : WebUrl) : String :=
  let scheme := if u.isSecure then "https://" else "http://"
  let password := if u.password.isEmpty then "" else ":" ++ u.password
  let login := u.user ++ password
  let port :=
    match u.port with
    | some n => ":" ++ toString n
    | none => ""
  let query :=
    match u.query with
    | some q => "?" ++ q
    | none => ""
  let fragment :=
    match u.fragment with
    | some f => "#" ++ f
    | none => ""
  scheme ++ (if login.isEmpty then "" else login ++ "@") ++
    u.host.text ++ port ++ "/" ++ "/".intercalate u.path ++
    query ++ fragment

namespace Url

------------------------------------------------------------
-- Schemes
------------------------------------------------------------

/- How the part behind a scheme is read. -/
inductive Kind where
  | special
  | file
  | plain
deriving DecidableEq

/- The kind of a scheme. -/
def Kind.ofScheme
    (scheme : String) : Kind :=
  if ["http", "https", "ws", "wss", "ftp"].contains scheme then .special
  else if scheme = "file" then .file
  else .plain

/- The port that need not be written. -/
def defaultPort
    (isSecure : Bool) : Nat :=
  if isSecure then 443 else 80

/- Split a text at its first colon into a scheme and a rest. -/
def splitScheme
    (cs : List Char) : Except UrlError (String × List Char) :=
  let isSchemeChar := fun (c : Char) =>
    c.isAlphanum || c = '+' || c = '-' || c = '.'
  match cs.takeWhile isSchemeChar, cs.dropWhile isSchemeChar with
  | c :: scheme, ':' :: rest =>
    if c.isAlpha then
      .ok (String.ofList ((c :: scheme).map Char.toLower), rest)
    else
      .error .relative
  | _, _ => .error .relative

------------------------------------------------------------
-- Authorities
------------------------------------------------------------

/- Does a path, a query or a fragment start here? -/
def endsAuthority
    (isSpecial : Bool)
    (c : Char) : Bool :=
  c = '/' || c = '?' || c = '#' || (isSpecial && c = '\\')

/- The name and the password in front of a host. -/
structure Login where
  user : List Char
  password : List Char
deriving DecidableEq

/- Split a login at its first colon. -/
def Login.ofText
    (cs : List Char) : Login where
  user := Percent.encode Percent.userSet (cs.takeWhile (· ≠ ':'))
  password :=
    Percent.encode Percent.userSet ((cs.dropWhile (· ≠ ':')).drop 1)

/-
  Split an authority at its last `@`.  There is no login if
  there is none.
-/
def splitLogin
    (cs : List Char) : Option (List Char) × List Char :=
  let back := cs.reverse
  match back.dropWhile (· ≠ '@') with
  | [] => (none, cs)
  | _ :: login =>
    (some login.reverse, (back.takeWhile (· ≠ '@')).reverse)

/- The length of a host, in which brackets hide colons. -/
def hostLength : Bool → List Char → Nat
  | _, [] => 0
  | hidden, c :: cs =>
    if c = ':' && !hidden then 0
    else if c = '[' then hostLength true cs + 1
    else if c = ']' then hostLength false cs + 1
    else hostLength hidden cs + 1

/- The port in digits, if there are any. -/
def portOf
    (cs : List Char) : Except UrlError (Option Nat) :=
  if cs.isEmpty then
    .ok none
  else
    match Ipv4.digits? 10 cs with
    | some n => if n < 65536 then .ok (some n) else .error .invalidPort
    | none => .error .invalidPort

/- The parts of an authority as they are written. -/
structure Authority where
  login : Login
  host : List Char
  port : Option (List Char)
deriving DecidableEq

/-
  Split an authority.  `followed` tells whether something
  stands behind it, which a lone `@` must not have.
-/
def splitAuthority
    (followed : Bool)
    (cs : List Char) : Except UrlError Authority :=
  let (login, rest) := splitLogin cs
  let n := hostLength false rest
  let port :=
    match rest.drop n with
    | [] => none
    | _ :: digits => some digits
  if login = some [] && rest.isEmpty && followed then
    .error .emptyHost
  else
    .ok
      { login := Login.ofText (login.getD [])
        host := rest.take n
        port }

/- Check an authority whose host has no meaning. -/
def checkAuthority
    (cs rest : List Char) : Except UrlError Unit := do
  let a ← splitAuthority (!rest.isEmpty) cs
  Host.checkOpaque a.host
  match a.port with
  | none => pure ()
  | some digits =>
    if a.host.isEmpty then
      throw .emptyHost
    let _ ← portOf (digits.takeWhile (· ≠ '\\'))
  if a.host.isEmpty && (a.login ≠ ⟨[], []⟩) then
    throw .emptyHost

------------------------------------------------------------
-- Paths
------------------------------------------------------------

/- Does a segment stand for the segment it is in? -/
def isDot
    (segment : List Char) : Bool :=
  [".", "%2e"].any fun s => s.toList = segment.map Char.toLower

/- Does a segment stand for the segment above? -/
def isDoubleDot
    (segment : List Char) : Bool :=
  ["..", ".%2e", "%2e.", "%2e%2e"].any fun s =>
    s.toList = segment.map Char.toLower

/- Is a segment the letter of a drive? -/
def isDrive : List Char → Bool
  | [c, d] => c.isAlpha && (d = ':' || d = '|')
  | _ => false

/- Go up from the last segment, but not from a drive. -/
def goUp
    (segments : List (List Char)) : List (List Char) :=
  match segments.getLast? with
  | some last => if isDrive last then segments else segments.dropLast
  | none => []

/-
  The segments after one more.  One that stands for another
  place leaves an empty one behind if it is the last.
-/
def addSegment
    (segments : List (List Char))
    (segment : List Char)
    (isLast : Bool) : List (List Char) :=
  let trailing := if isLast then [[]] else []
  if isDoubleDot segment then goUp segments ++ trailing
  else if isDot segment then segments ++ trailing
  else segments ++ [Percent.encode Percent.pathSet segment]

/- The segments of a path after segments read before. -/
def addSegments
    (segments : List (List Char)) :
    List (List Char) → List (List Char)
  | [] => segments
  | [last] => addSegment segments last true
  | s :: rest => addSegments (addSegment segments s false) rest

/- The segments of a path, whose first slash may be missing. -/
def pathOf
    (cs : List Char) : List String :=
  let isSlash := fun c => c = '/' || c = '\\'
  let body :=
    match cs with
    | c :: rest => if isSlash c then rest else cs
    | [] => []
  (addSegments [] (Text.segments isSlash body)).map String.ofList

------------------------------------------------------------
-- Reading
------------------------------------------------------------

/- The part behind a mark that starts it, encoded. -/
def partOf
    (mark : Char)
    (set : Char → Bool) : List Char → Option String
  | [] => none
  | c :: cs =>
    if c = mark then
      some (String.ofList (Percent.encode set cs))
    else
      none

/- A web address behind its slashes. -/
def webOf
    (isSecure : Bool)
    (cs : List Char) : Except UrlError WebUrl := do
  let front := cs.takeWhile (!endsAuthority true ·)
  let rest := cs.dropWhile (!endsAuthority true ·)
  let a ← splitAuthority (!rest.isEmpty) front
  if a.host.isEmpty then
    throw .emptyHost
  let host ← Host.ofText a.host
  let port ← portOf (a.port.getD [])
  let path := rest.takeWhile fun c => c ≠ '?' && c ≠ '#'
  let rest := rest.dropWhile fun c => c ≠ '?' && c ≠ '#'
  return {
    isSecure
    user := String.ofList a.login.user
    password := String.ofList a.login.password
    host
    port := port.filter (· ≠ defaultPort isSecure)
    path := pathOf path
    query := partOf '?' Percent.querySet (rest.takeWhile (· ≠ '#'))
    fragment := partOf '#' Percent.fragmentSet (rest.dropWhile (· ≠ '#')) }

/- Check the host of a file. -/
def checkFile : List Char → Except UrlError Unit
  | c :: d :: rest => do
    let isSlash := fun c => c = '/' || c = '\\'
    let host := rest.takeWhile (!endsAuthority true ·)
    if isSlash c && isSlash d && !host.isEmpty && !isDrive host then
      let _ ← Host.ofText host
  | _ => .ok ()

/- Check an address of a scheme that gives it no meaning. -/
def checkPlain : List Char → Except UrlError Unit
  | '/' :: '/' :: rest =>
    checkAuthority
      (rest.takeWhile (!endsAuthority false ·))
      (rest.dropWhile (!endsAuthority false ·))
  | _ => .ok ()

/-
  A text without controls and spaces at its ends and without
  tabs and line ends anywhere.
-/
def cleaned
    (s : String) : List Char :=
  let isEdge := fun (c : Char) => c.toNat ≤ 0x20
  let body := ((s.toList.dropWhile isEdge).reverse.dropWhile isEdge).reverse
  body.filter fun c => c ≠ '\t' && c ≠ '\n' && c ≠ '\r'

/- The address of a text. -/
def ofText
    (s : String) : Except UrlError Url := do
  let (scheme, rest) ← splitScheme (cleaned s)
  match Kind.ofScheme scheme with
  | .special =>
    let body := rest.dropWhile fun c => c = '/' || c = '\\'
    let url ← webOf (scheme = "https") body
    if scheme = "http" || scheme = "https" then
      return .web url
    else
      return .other scheme
  | .file =>
    checkFile rest
    return .other scheme
  | .plain =>
    checkPlain rest
    return .other scheme

end Url

end QuestionQuery
