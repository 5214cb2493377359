import Roster.Text.Percent
import Roster.Text.Utf8

namespace Roster.Text

/-! The query part of an address as a list of named values: pairs are joined by ampersands, a name
ends at the first equals sign, a plus sign is a blank, and a percent sign with two hexadecimal
digits is a byte. -/

namespace FormEncoded

def plusToBlank (b : UInt8) : UInt8 := if b = 0x2B then 0x20 else b

def component (bytes : List UInt8) : String := decodeUtf8 (Percent.decode (bytes.map plusToBlank))

/-- The name and the value of a pair. A pair without an equals sign has an empty value. -/
def pair (bytes : List UInt8) : String × String :=
  let (name, rest) := bytes.span fun b => b != 0x3D
  (component name, component (rest.drop 1))

/-- The pairs of a query; empty ones are skipped. -/
def parse (query : String) : List (String × String) :=
  ((query.toUTF8.toList.splitOn 0x26).filter fun piece => !piece.isEmpty).map pair

end FormEncoded

end Roster.Text
