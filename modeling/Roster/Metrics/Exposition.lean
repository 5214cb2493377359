import Roster.Decimal.Shortest

namespace Roster.Metrics

/-! Measurements as a text of lines: for each family a line of help, a line with its kind, and a line
for each of its samples. -/

inductive Kind where
  | counter
  | gauge
  | histogram
  deriving DecidableEq

def Kind.label : Kind → String
  | counter => "counter"
  | gauge => "gauge"
  | histogram => "histogram"

/-- One value under a name and labels, as the bits of a double-precision number. -/
structure Sample where
  name : String
  labels : List (String × String) := []
  value : UInt64

namespace Sample

def ofFloat (name : String) (labels : List (String × String)) (value : Float) : Sample :=
  { name, labels, value := value.toBits }

def ofNat (name : String) (labels : List (String × String)) (value : Nat) : Sample :=
  ofFloat name labels value.toUInt64.toFloat

/-- Numbers are written out without exponents. -/
def numberLayout : Decimal.Layout := ⟨none, none, false⟩

def escapeChar (c : Char) : String :=
  if c = '\\' then "\\\\"
  else if c = '\n' then "\\n"
  else if c = '"' then "\\\""
  else String.singleton c

def quote (text : String) : String :=
  "\"" ++ String.join (text.toList.map escapeChar) ++ "\""

def key (sample : Sample) : String :=
  if sample.labels.isEmpty then sample.name
  else
    sample.name ++ "\x7b" ++
      ",".intercalate (sample.labels.map fun (name, value) => name ++ "=" ++ quote value) ++ "\x7d"

def number (sample : Sample) : String := numberLayout.render sample.value

def render (sample : Sample) : String := sample.key ++ " " ++ sample.number

end Sample

structure Family where
  name : String
  help : String
  kind : Kind
  samples : List Sample

namespace Family

def lines (family : Family) : List String :=
  ("# HELP " ++ family.name ++ " " ++ family.help) ::
    ("# TYPE " ++ family.name ++ " " ++ family.kind.label) ::
    family.samples.map Sample.render

/-- Families without samples are left out. -/
def render (families : List Family) : String :=
  String.join ((families.filter fun family => !family.samples.isEmpty).flatMap fun family =>
    family.lines.map (· ++ "\n"))

end Family

/-- A sample as it is written: its name with its labels, and its number. -/
abbrev Reading := String × String

/-- The samples in a text of measurements. A number has no blanks, and a comment starts with a
number sign. -/
def readings (text : String) : List Reading :=
  (text.splitOn "\n").filterMap fun line =>
    let words := line.splitOn " "
    if line = "" ∨ line.startsWith "#" then none
    else some (" ".intercalate words.dropLast, words.getLastD "")

end Roster.Metrics
