import WorkloadAuth.Http.Host

/-!
# URLs

Absolute URLs as browsers read them: much is mended rather than refused. Blanks around the text and
tabs and line ends inside of it are dropped; in special URLs a backslash is as good as a slash; dot
segments are resolved; characters that may not stand somewhere are percent-encoded.

* `Url`: a URL.
* `Url.parse?`: the URL of a text.
* `Url.render`: its text.
* `Url.target`: what of it a request names: the path and the query.
-/

namespace WorkloadAuth.Http

/-- The path of a URL. -/
inductive UrlPath where
  /-- Segments, with a slash in front of each. -/
  | segments (parts : List (List Char))
  /-- A text without structure. -/
  | verbatim (text : List Char)
  deriving DecidableEq, Repr

/-- The text of a path. -/
def UrlPath.render : UrlPath → List Char
  | segments parts => parts.flatMap ('/' :: ·)
  | verbatim text => text

/-- An absolute URL. -/
structure Url where
  scheme : List Char
  username : List Char := []
  password : List Char := []
  host : Option Host := none
  /-- The port, if it is not the usual one of the scheme. -/
  port : Option Nat := none
  path : UrlPath
  query : Option (List Char) := none
  fragment : Option (List Char) := none
  deriving DecidableEq, Repr

namespace Url

/-! ## Schemes -/

/-- A letter of the ASCII alphabet. -/
def isLetter (c : Char) : Bool := c.isAlpha

/-- The characters of a scheme. -/
def isSchemeChar (c : Char) : Bool := c.isAlphanum || c = '+' || c = '-' || c = '.'

/-- The scheme in front of the first colon, in lower case, and what follows the colon. -/
def scheme? (cs : List Char) : Option (List Char × List Char) :=
  if (cs.head?.map isLetter).getD false then
    match cs.dropWhile isSchemeChar with
    | ':' :: rest => some ((cs.takeWhile isSchemeChar).map Char.toLower, rest)
    | _ => none
  else none

/-- The special schemes, with their usual ports. -/
def specialSchemes : List (List Char × Option Nat) :=
  [("http".toList, some 80), ("https".toList, some 443), ("ws".toList, some 80),
    ("wss".toList, some 443), ("ftp".toList, some 21), ("file".toList, none)]

/-- Whether a scheme is special. -/
def isSpecial (scheme : List Char) : Bool := (specialSchemes.map (·.1)).contains scheme

/-- The usual port of a scheme. -/
def usualPort (scheme : List Char) : Option Nat :=
  (specialSchemes.find? (·.1 == scheme)).bind (·.2)

/-! ## Parts -/

/-- What stands in front of the first occurrence of a character, and what follows it. -/
def cut (mark : Char) (cs : List Char) : List Char × Option (List Char) :=
  match cs.dropWhile (· != mark) with
  | [] => (cs, none)
  | _ :: rest => (cs.takeWhile (· != mark), some rest)

/-- What stands in front of the last occurrence of a character, and what follows it. -/
def cutLast (mark : Char) (cs : List Char) : Option (List Char) × List Char :=
  match cut mark cs.reverse with
  | (after, none) => (none, after.reverse)
  | (after, some before) => (some before.reverse, after.reverse)

/-- Whether a character divides the parts of a URL. -/
def isSlash (special : Bool) (c : Char) : Bool := c = '/' || (special && c = '\\')

/-- The host in front of the port, and the port if there is a colon. Colons between brackets belong
to the host. -/
def hostAndPort : Bool → List Char → List Char × Option (List Char)
  | _, [] => ([], none)
  | inBrackets, c :: rest =>
    if c = ':' && !inBrackets then ([], some rest)
    else
      let inBrackets := if c = '[' then true else if c = ']' then false else inBrackets
      let (host, port) := hostAndPort inBrackets rest
      (c :: host, port)

/-- A port below 2^16; it is left out if it is empty or the usual one. -/
def port? (scheme cs : List Char) : Option (Option Nat) :=
  let n := Text.decimalValue cs
  if cs.isEmpty then some none
  else if cs.all Text.isDigit && n < 65536 then
    some (if usualPort scheme = some n then none else some n)
  else none

/-- Who is asked: user name, password, host and port. -/
structure Authority where
  username : List Char := []
  password : List Char := []
  host : Option Host := none
  port : Option Nat := none

/-- The host of a text; only URLs that are not special may name the empty one. -/
def host? (special : Bool) (cs : List Char) : Option Host :=
  if cs.isEmpty then if special then none else some (.named []) else Host.parse? special cs

/-- The authority of a text. -/
def authority? (scheme cs : List Char) : Option Authority := do
  let special := isSpecial scheme
  let (credentials, place) := cutLast '@' cs
  let (name, port) := hostAndPort false place
  if name.isEmpty && (credentials.isSome || port.isSome) then none
  let host ← host? special name
  let port ← port? scheme (port.getD [])
  let (username, password) := cut ':' (credentials.getD [])
  some ⟨Percent.escape Percent.userinfo username,
    Percent.escape Percent.userinfo (password.getD []), some host, port⟩

/-- The authority of a file: a host without anything else, where the local one is not named. -/
def fileAuthority? (cs : List Char) : Option Authority :=
  if cs.isEmpty then some { host := some (.named []) }
  else do
    let host ← Host.parse? true cs
    let host := if host = .named "localhost".toList then .named [] else host
    some { host := some host }

/-! ## Paths -/

/-- The texts for the segment that stands for this place. -/
def isSingleDot (cs : List Char) : Bool :=
  [".", "%2e"].contains (String.ofList (cs.map Char.toLower))

/-- The texts for the segment that leads one place up. -/
def isDoubleDot (cs : List Char) : Bool :=
  ["..", ".%2e", "%2e.", "%2e%2e"].contains (String.ofList (cs.map Char.toLower))

/-- Resolves segments behind those in `done`, of which the last one is first. A dot segment at the
end leaves an empty segment behind. -/
def resolve : List (List Char) → List (List Char) → List (List Char)
  | done, [] => done.reverse
  | done, s :: rest =>
    if isDoubleDot s then
      if rest.isEmpty then ([] :: done.drop 1).reverse else resolve (done.drop 1) rest
    else if isSingleDot s then
      if rest.isEmpty then ([] :: done).reverse else resolve done rest
    else resolve (Percent.escape Percent.path s :: done) rest

/-- The segments of a text; a slash at its start is not needed. -/
def segmentsOf (special : Bool) : List Char → List (List Char)
  | [] => if special then [[]] else []
  | c :: rest =>
    resolve [] ((if isSlash special c then rest else c :: rest).splitOnP (isSlash special))

/-! ## URLs -/

/-- Characters that are dropped around a URL. -/
def isOuterBlank (c : Char) : Bool := c.toNat ≤ 0x20

/-- Characters that are dropped inside of a URL. -/
def isInnerBlank (c : Char) : Bool := c = '\t' || c = '\n' || c = '\x0d'

/-- The text without what is dropped. -/
def trimmed (cs : List Char) : List Char :=
  (((cs.dropWhile isOuterBlank).reverse.dropWhile isOuterBlank).reverse).filter (!isInnerBlank ·)

/-- The authority, if there is one, and the path of what stands between the scheme and the query. -/
def hierarchy? (scheme cs : List Char) : Option (Authority × UrlPath) :=
  let special := isSpecial scheme
  let slash := isSlash special
  let withAuthority (parse : List Char → Option Authority) (cs : List Char) :=
    (parse (cs.takeWhile (!slash ·))).map fun authority =>
      (authority, UrlPath.segments (segmentsOf special (cs.dropWhile (!slash ·))))
  if scheme = "file".toList then
    match cs with
    | a :: b :: rest =>
      if slash a && slash b then withAuthority fileAuthority? rest
      else some ({ host := some (.named []) }, .segments (segmentsOf special (a :: b :: rest)))
    | rest => some ({ host := some (.named []) }, .segments (segmentsOf special rest))
  else if special then withAuthority (authority? scheme) (cs.dropWhile slash)
  else
    match cs with
    | '/' :: '/' :: rest => withAuthority (authority? scheme) rest
    | '/' :: rest => some ({}, .segments (segmentsOf special ('/' :: rest)))
    | text => some ({}, .verbatim (Percent.escape Percent.controls text))

/-- The URL of a text. -/
def parse? (text : String) : Option Url := do
  let (scheme, rest) ← scheme? (trimmed text.toList)
  let (rest, fragment) := cut '#' rest
  let (rest, query) := cut '?' rest
  let (authority, path) ← hierarchy? scheme rest
  let querySet := if isSpecial scheme then Percent.specialQuery else Percent.query
  some ⟨scheme, authority.username, authority.password, authority.host, authority.port, path,
    query.map (Percent.escape querySet), fragment.map (Percent.escape Percent.fragment)⟩

/-- What of a URL a request names. -/
def target (u : Url) : List Char := u.path.render ++ (u.query.map ('?' :: ·)).getD []

/-- The user name and the password in front of the host. -/
def credentials (u : Url) : List Char :=
  if u.username.isEmpty && u.password.isEmpty then []
  else u.username ++ (if u.password.isEmpty then [] else ':' :: u.password) ++ ['@']

/-- What stands between the scheme and the path. -/
def renderAuthority (u : Url) : List Char :=
  match u.host with
  | none =>
    match u.path with
    | .segments ([] :: _ :: _) => ['/', '.']
    | _ => []
  | some host =>
    ['/', '/'] ++ u.credentials ++ host.render ++
      (u.port.map fun n => ':' :: Text.decimal n).getD []

/-- The text of a URL. -/
def render (u : Url) : List Char :=
  u.scheme ++ [':'] ++ u.renderAuthority ++ u.target ++ (u.fragment.map ('#' :: ·)).getD []

end Url

end WorkloadAuth.Http
