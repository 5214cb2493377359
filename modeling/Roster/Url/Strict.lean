import Roster.Url

namespace Roster.Url

/-! The strict form of addresses, in which messages name them: only some characters may stand in a host,
and nothing but a host may stand alone. Fragments are no part of it. -/

/-- The longest address, in bytes. -/
def maxLength : Nat := 65534

def maxScheme : Nat := 64

/-- Characters of a host, credentials and the number behind. Encoded bytes are no part of a host. -/
def isPlain (c : Char) : Bool := c.isAlphanum || "-._~!$&'()*+,;=".toList.contains c

/-- What has been seen of an authority. Only what is behind the credentials and the brackets counts
for colons and percent signs. -/
structure Authority where
  colons : Nat := 0
  hasPercent : Bool := false
  isOpened : Bool := false
  isClosed : Bool := false
  endsWithAt : Bool := false

namespace Authority

/-- The most colons between other signs. -/
def maxColons : Nat := 8

def step? (seen : Authority) (c : Char) : Option Authority :=
  let seen := { seen with endsWithAt := false }
  match c with
  | ':' => if maxColons ≤ seen.colons then none else some { seen with colons := seen.colons + 1 }
  | '[' => if seen.hasPercent || seen.isOpened then none else some { seen with isOpened := true }
  | ']' =>
    if !seen.isOpened || seen.isClosed then none
    else some { seen with colons := 0, hasPercent := false, isClosed := true }
  | '@' => some { seen with colons := 0, hasPercent := false, endsWithAt := true }
  | '%' => some { seen with hasPercent := true }
  | _ => if isPlain c then some seen else none

def isComplete (seen : Authority) : Bool :=
  seen.isOpened == seen.isClosed && seen.colons ≤ 1 && !seen.endsWithAt && !seen.hasPercent

end Authority

def isAuthority (text : String) : Bool :=
  !text.isEmpty && (text.toList.foldlM Authority.step? {}).any Authority.isComplete

/-- The strict form of an address. One without a place for a host has to look like a host and the
number behind it, as a whole; else a path begins with a slash. -/
def strict? (url : Url) : Option Url :=
  if maxLength < url.render.utf8ByteSize then none
  else if url.host.isSome then
    if url.scheme.length ≤ maxScheme && isAuthority url.authority then
      some { url with path := if url.path = "" then "/" else url.path, fragment := none }
    else none
  else if isAuthority url.render then some url
  else none

end Roster.Url
