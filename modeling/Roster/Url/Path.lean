import Roster.Url

namespace Roster.Url

/-! Paths. Dots that stand for this or the upper level are resolved, and characters that cannot stand
in a path are written as percent signs and digits. -/

/-- What the scheme of an address says about its form. -/
inductive Kind where
  /-- There is always a host, and a path. -/
  | web
  | file
  | other
  deriving DecidableEq

/-- Schemes of the web, with their default numbers behind the host. -/
def defaultPort? (scheme : String) : Option Nat :=
  match scheme with
  | "http" => some 80
  | "ws" => some 80
  | "https" => some 443
  | "wss" => some 443
  | "ftp" => some 21
  | _ => none

def Kind.ofScheme (scheme : String) : Kind :=
  if (defaultPort? scheme).isSome then .web else if scheme = "file" then .file else .other

/-- Where a scheme is known, a backslash is as good as a slash. -/
def Kind.isSlash (kind : Kind) (c : Char) : Bool := c == '/' || (kind != .other && c == '\\')

/-- Characters that are encoded in a query. -/
def Kind.querySet (kind : Kind) : List Char :=
  [' ', '"', '#', '<', '>'] ++ if kind = .other then [] else ['\'']

def pathSet : List Char := [' ', '"', '#', '<', '>', '?', '`', '{', '}']

/-- Reads a dot that is written as a percent sign and digits. -/
def plainDots (segment : List Char) : List Char :=
  match segment with
  | '%' :: '2' :: e :: rest => if e.toLower = 'e' then '.' :: plainDots rest else segment
  | '.' :: rest => '.' :: plainDots rest
  | _ => segment

/-- Whether a segment of a path names a drive: a letter and a colon, for which a bar may stand. -/
def isDrive (segment : List Char) : Bool :=
  match segment with
  | [letter, mark] => letter.isAlpha && (mark == ':' || mark == '|')
  | _ => false

/-- The upper level. There is none above a drive. -/
def Kind.pop (kind : Kind) (before : List (List Char)) : List (List Char) :=
  match before with
  | segment :: rest => if kind = .file && isDrive segment then before else rest
  | [] => []

/-- Adds a segment to those before it, the last of which comes first. The last segment of a path is
kept as an empty one if it only moves about. -/
def Kind.push (kind : Kind) (before : List (List Char)) (segment : List Char) (isLast : Bool) :
    List (List Char) :=
  match plainDots segment with
  | ['.'] => if isLast then [] :: before else before
  | ['.', '.'] => if isLast then [] :: kind.pop before else kind.pop before
  | _ =>
    if kind = .file && isDrive segment then (segment.take 1 ++ [':']) :: before
    else Text.Percent.encode pathSet segment :: before

def Kind.pushAll (kind : Kind) (before : List (List Char)) : List (List Char) → List (List Char)
  | [] => before
  | [segment] => kind.push before segment true
  | segment :: rest => kind.pushAll (kind.push before segment false) rest

/-- The segments of a text that slashes divide. -/
def Kind.segments (kind : Kind) (text : List Char) : List (List Char) :=
  text.splitOnP kind.isSlash

/-- The path with some segments, the last of which comes first. That of a file has no empty ones at its
beginning. -/
def Kind.path (kind : Kind) (reversed : List (List Char)) : String :=
  let path := reversed.reverse.flatMap ('/' :: ·)
  String.ofList (if kind = .file then '/' :: path.dropWhile (· == '/') else path)

/-- The path that a text stands for behind a slash. -/
def Kind.absolute (kind : Kind) (text : List Char) : String :=
  kind.path (kind.pushAll [] (kind.segments text))

/-- The path that a text stands for beside another path. -/
def Kind.relative (kind : Kind) (path : String) (text : List Char) : String :=
  let before := (kind.segments (path.toList.drop 1)).dropLast
  kind.path (kind.pushAll before.reverse (kind.segments text))

end Roster.Url
