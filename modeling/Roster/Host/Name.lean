import Roster.Host.Direction
import Roster.Host.Joiner
import Roster.Host.Mapping
import Roster.Text.Composition
import Roster.Text.Punycode

namespace Roster.Host

/-! Domain names, and their form in ASCII. A name consists of labels with dots between them. A label
with other characters is written in Punycode behind a fixed beginning, and one that begins like this
must be such a written form. -/

namespace Name

open Text

/-- Characters of ASCII that no host contains. -/
def isForbidden (c : Char) : Bool :=
  c.toNat ≤ 0x20 || c.toNat = 0x7F || "#/:<>?@[\\]^|%".toList.contains c

/-- The beginning of labels in Punycode. -/
def marker : List Char := "xn--".toList

/-- The longest text that is written in Punycode, and the longest that is read. -/
def maxEncoded : Nat := 1000

def maxDecoded : Nat := 2000

/-- Replaces the characters of a name, and composes it. -/
def normalize? (name : List Char) : Option (List Char) := do
  let pieces ← name.mapM fun c =>
    match Fate.ofChar c with
    | .kept => some [c]
    | .replaced others => some others
    | .dropped => some []
    | .refused => none
  return compose pieces.flatten

/-- The text of a label. One in Punycode has characters that are not in ASCII, and is normal already. -/
def labelText? (label : List Char) : Option (List Char) :=
  if marker.isPrefixOf label then do
    let written := label.drop marker.length
    if maxDecoded < written.length then none
    let text ← Punycode.decode? written
    if text.all Punycode.isAscii then none
    else if text.all (fun c => Fate.ofChar c == .kept) && compose text == text then some text
    else none
  else some label

def isLabel (text : List Char) : Bool := !text.head?.any isMark && Joiner.arePlaced [] text

def labelForm? (text : List Char) : Option (List Char) :=
  if text.all Punycode.isAscii then some text
  else if maxEncoded < text.length then none
  else some (marker ++ Punycode.encode text)

def toAscii? (name : List Char) : Option (List Char) := do
  let name ← normalize? name
  if name.any isForbidden then none
  let texts ← (name.splitOn '.').mapM labelText?
  if texts.all isLabel && Direction.areSound texts then
    return ['.'].intercalate (← texts.mapM labelForm?)
  else none

end Name

end Roster.Host
