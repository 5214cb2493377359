import Roster.Url.Path

namespace Roster.Url

/-! Reading addresses, complete ones and such as leave out what they share with another. Schemes and
hosts come in small letters, default numbers are left out, and characters that cannot stand where they
are become percent signs and digits. -/

/-- Drops blanks and control characters at the ends, and tabs and line ends everywhere. -/
def clean (text : String) : List Char :=
  let isOuter (c : Char) : Bool := c.toNat ≤ 0x20
  let trimmed := ((text.toList.dropWhile isOuter).reverse.dropWhile isOuter).reverse
  trimmed.filter fun c => c != '\t' && c != '\n' && c != '\r'

/-- The scheme that a text begins with, and what follows its colon. -/
def scheme? (text : List Char) : Option (String × List Char) :=
  let (name, rest) := text.span fun c => c.isAlphanum || c == '+' || c == '-' || c == '.'
  match name, rest with
  | first :: _, ':' :: rest =>
    if first.isAlpha then some (String.ofList (name.map Char.toLower), rest) else none
  | _, _ => none

def fragmentSet : List Char := [' ', '"', '<', '>', '`']

/-- Adds the query and the fragment that a text has to an address. -/
def withTail (url : Url) (text : List Char) : Url :=
  let (front, fragment) := text.span (· != '#')
  let query := front.dropWhile (· != '?')
  let encoded (set : List Char) (part : List Char) : Option String :=
    if part.isEmpty then none else some (String.ofList (Text.Percent.encode set (part.drop 1)))
  { url with
    query := encoded (Kind.ofScheme url.scheme).querySet query
    fragment := encoded fragmentSet fragment }

/-- What stands before the query and the fragment. -/
def beforeTail (text : List Char) : List Char := text.takeWhile fun c => c != '?' && c != '#'

/-! Authorities. -/

/-- Characters that are encoded in credentials. -/
def credentialSet : List Char := pathSet ++ ['/', ':', ';', '=', '@', '[', '\\', ']', '^', '|']

/-- Splits a text behind the last occurrence of a character; nothing is before it if there is none. -/
def splitBehindLast (c : Char) (text : List Char) : List Char × List Char :=
  let (behind, before) := text.reverse.span (· != c)
  (before.reverse, behind.reverse)

/-- Splits off a host, which ends at a colon that is in no brackets. -/
def splitHost (isBracketed : Bool) : List Char → List Char × List Char
  | [] => ([], [])
  | c :: rest =>
    if c == ':' && !isBracketed then ([], c :: rest)
    else
      let (host, rest) := splitHost (c == '[' || (isBracketed && c != ']')) rest
      (c :: host, rest)

/-- The number behind a host, and what follows it. There is none in `:` alone, and none if it is the
default one. -/
def tcpPort? (scheme : String) (text : List Char) : Option (Option Nat × List Char) :=
  match text with
  | ':' :: rest =>
    let (digits, rest) := rest.span Char.isDigit
    let number := digits.foldl (fun n c => n * 10 + (c.toNat - 48)) 0
    if 65535 < number || rest.head?.any (· != '\\') then none
    else
      some (if digits.isEmpty || defaultPort? scheme = some number then none else some number, rest)
  | _ => some (none, text)

/-- Reads what follows the two slashes behind a scheme. -/
def afterSlashes? (scheme : String) (text : List Char) : Option Url := do
  let kind := Kind.ofScheme scheme
  let (authority, rest) := text.span fun c => !(kind.isSlash c || c == '?' || c == '#')
  let (credentials, server) := splitBehindLast '@' authority
  let (username, password) := credentials.dropLast.span (· != ':')
  let (host, number) := splitHost false server
  let host ← if kind = .web then Host.ofChars? host else Host.uninterpreted? host
  let encoded (part : List Char) := String.ofList (Text.Percent.encode credentialSet part)
  let (tcpPort, left) ← tcpPort? scheme number
  let url : Url :=
    { scheme, username := encoded username, password := encoded (password.drop 1), host, tcpPort }
  if host = .empty && (!number.isEmpty || url.hasCredentials) then none
  if authority = ['@'] && !rest.isEmpty then none
  let path := left ++ beforeTail rest
  let path :=
    match path with
    | [] => if kind = .web then "/" else ""
    | c :: behind => kind.absolute (if kind.isSlash c then behind else path)
  return { url with path }.withTail rest

/-! Files. -/

def file : Url := { scheme := "file", host := some .empty }

/-- Reads what follows the scheme of a file. Only two slashes lead to a host; `localhost` counts as
none, and so does a host before a drive. -/
def ofFile? (text : List Char) : Option Url := do
  let path := beforeTail text
  match path with
  | a :: b :: rest =>
    if Kind.file.isSlash a && Kind.file.isSlash b then
      let (name, behind) := rest.span fun c => !Kind.file.isSlash c
      if isDrive name then return { file with path := Kind.file.absolute rest }.withTail text
      let host ← if name.isEmpty then some .empty else Host.ofChars? name
      let isDropped := host = .name "localhost" || (Kind.file.segments behind).any isDrive
      return { file with
        host := some (if isDropped then .empty else host)
        path := Kind.file.absolute (behind.drop 1) }.withTail text
    else return { file with path := Kind.file.absolute path }.withTail text
  | _ => return { file with path := Kind.file.absolute path }.withTail text

/-! Whole addresses. -/

def afterScheme? (scheme : String) (text : List Char) : Option Url :=
  match Kind.ofScheme scheme, text with
  | .web, _ => afterSlashes? scheme (text.dropWhile Kind.web.isSlash)
  | .file, _ => ofFile? text
  | .other, '/' :: '/' :: rest => afterSlashes? scheme rest
  | .other, '/' :: rest =>
    some (withTail { scheme, path := Kind.other.absolute (beforeTail rest) } text)
  | .other, _ =>
    let path := String.ofList (Text.Percent.encode [] (beforeTail text))
    some (withTail { scheme, path } text)

def parse? (text : String) : Option Url := do
  let (scheme, rest) ← scheme? (clean text)
  afterScheme? scheme rest

/-- Reads a text without a scheme beside an address of the web. -/
def beside? (base : Url) (text : List Char) : Option Url :=
  let kind := Kind.ofScheme base.scheme
  match beforeTail text with
  | [] =>
    let url := base.withTail text
    some { url with query := if url.query.isSome then url.query else base.query }
  | first :: rest =>
    if kind.isSlash first then
      if rest.head?.any kind.isSlash then
        afterSlashes? base.scheme
          (if "//".toList.isPrefixOf text then text.drop 2 else text.dropWhile kind.isSlash)
      else some (withTail { base with path := kind.absolute rest } text)
    else some (withTail { base with path := kind.relative base.path (first :: rest) } text)

/-- Reads an address that may leave out what it shares with this one, an address of the web. Even with
the same scheme it may leave out the host. -/
def join? (base : Url) (text : String) : Option Url :=
  let text := clean text
  match scheme? text with
  | some (scheme, rest) =>
    let slashes := rest.takeWhile Kind.web.isSlash
    if scheme = base.scheme && slashes.length < 2 then base.beside? rest
    else afterScheme? scheme rest
  | none => base.beside? text

end Roster.Url
