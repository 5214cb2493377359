import Roster.Json.Tree
import Roster.Json.Value

namespace Roster.Json

/-! Reading values out of trees. Reading has no error texts: a tree is read or it is not. -/

namespace Piece

def isHighSurrogate (unit : Nat) : Bool := 0xD800 ≤ unit && unit < 0xDC00

def isLowSurrogate (unit : Nat) : Bool := 0xDC00 ≤ unit && unit < 0xE000

/-- The bytes of a string. An escaped surrogate must come with its other half right behind it. -/
def bytes : List Piece → Option (List UInt8)
  | [] => some []
  | byte b :: rest => (bytes rest).map (b :: ·)
  | code high :: code low :: rest =>
    if isHighSurrogate high then
      if isLowSurrogate low then
        let c := Char.ofNat (0x10000 + (high - 0xD800) * 0x400 + (low - 0xDC00))
        (bytes rest).map (String.utf8EncodeChar c ++ ·)
      else none
    else if isLowSurrogate high then none
    else (bytes (code low :: rest)).map (String.utf8EncodeChar (Char.ofNat high) ++ ·)
  | code unit :: rest =>
    if isHighSurrogate unit || isLowSurrogate unit then none
    else (bytes rest).map (String.utf8EncodeChar (Char.ofNat unit) ++ ·)

def text? (pieces : List Piece) : Option String :=
  (bytes pieces).bind fun bs => String.fromUTF8? ⟨bs.toArray⟩

end Piece

namespace Numeral

/-! A number without fraction and exponent that a 64-bit word holds is an integer. Every other number
is a double-precision one, and minus zero is, too. -/

def ofDigits (digits : List Nat) : Nat := digits.foldl (fun n d => n * 10 + d) 0

def int? (numeral : Numeral) : Option Int :=
  let n := ofDigits numeral.whole
  if numeral.fraction ≠ [] ∨ numeral.exponent.isSome then none
  else if numeral.negative then (if n ≠ 0 ∧ n ≤ 0x8000000000000000 then some (-n) else none)
  else (if n < UInt64.size then some n else none)

/-- Appends digits to a significand as long as it fits into 64 bits; gives the digits left over. -/
def accumulate (significand : Nat) : List Nat → Nat × List Nat
  | [] => (significand, [])
  | d :: rest =>
    if significand * 10 + d < UInt64.size then accumulate (significand * 10 + d) rest
    else (significand, d :: rest)

/-- The significand and its power of ten before an exponent is applied: digits that do not fit are
dropped, those before the point and those behind it separately. -/
def significand (numeral : Numeral) : Nat × Int :=
  let (n, dropped) := accumulate 0 numeral.whole
  let (n, unused) := accumulate n numeral.fraction
  (n, dropped.length - (numeral.fraction.length - unused.length : Nat))

def tenTo (power : Nat) : Float := Float.ofScientific 1 false power

/-- A magnitude times a power of ten, none if too large. Powers beyond the range of double-precision
numbers are applied in parts. -/
def shift (fuel : Nat) (f : Float) (power : Int) : Option Float :=
  match fuel with
  | 0 => some f
  | fuel + 1 =>
    if power.natAbs ≤ 308 then
      if 0 ≤ power then
        let g := f * tenTo power.natAbs
        if g.isInf then none else some g
      else some (f / tenTo power.natAbs)
    else if f == 0.0 then some f
    else if 0 ≤ power then none
    else shift fuel (f / tenTo 308) (power + 308)

/-- The double-precision number, none if too large. -/
def float? (numeral : Numeral) : Option Float :=
  let (n, power) := numeral.significand
  let magnitude :=
    match numeral.exponent with
    | none => shift 5 n.toUInt64.toFloat power
    | some (negative, digits) =>
      let e := ofDigits digits
      if 0x80000000 ≤ e then (if n ≠ 0 ∧ !negative then none else some 0.0)
      else shift 5 n.toUInt64.toFloat (if negative then power - e else power + e)
  magnitude.map fun f => if numeral.negative then -f else f

end Numeral

namespace Tree

def bool? : Tree → Option Bool
  | bool value => some value
  | _ => none

def text? : Tree → Option String
  | string pieces => Piece.text? pieces
  | _ => none

def int? : Tree → Option Int
  | number numeral => numeral.int?
  | _ => none

def int64? (tree : Tree) : Option Int64 :=
  tree.int?.bind fun n =>
    if Int64.minValue.toInt ≤ n ∧ n ≤ Int64.maxValue.toInt then some (Int64.ofInt n) else none

def uint64? (tree : Tree) : Option UInt64 :=
  tree.int?.bind fun n => if 0 ≤ n then some (UInt64.ofNat n.toNat) else none

def count? (tree : Tree) : Option Nat := tree.uint64?.map UInt64.toNat

def uint32? (tree : Tree) : Option UInt32 :=
  tree.int?.bind fun n => if 0 ≤ n ∧ n < UInt32.size then some (UInt32.ofNat n.toNat) else none

/-- A double-precision number, which may be written as an integer. -/
def float? : Tree → Option Float
  | number numeral =>
    match numeral.int? with
    | some n => some (if n < 0 then -(n.natAbs.toUInt64.toFloat) else n.natAbs.toUInt64.toFloat)
    | none => numeral.float?
  | _ => none

def list? {α : Type} (item : Tree → Option α) : Tree → Option (List α)
  | array items => items.mapM item
  | _ => none

def nullable? {α : Type} (value : Tree → Option α) : Tree → Option (Option α)
  | null => some none
  | tree => (value tree).map some

/-- One of a few names, which may also be written as an object with the name for its only key and
`null` for its value. -/
def choice? {α : Type} (choose : String → Option α) : Tree → Option α
  | string pieces => (Piece.text? pieces).bind choose
  | object [(key, null)] => (Piece.text? key).bind choose
  | _ => none

/-! A structure is written as an object or as an array of its fields in order. -/

/-- What is written for a field of a structure. -/
inductive Field where
  | given (tree : Tree)
  | absent
  | pastEnd

/-- The values of named fields of an object. No name may stand twice. -/
def namedFields (names : List String) : List (List Piece × Tree) → Option (List (String × Tree))
  | [] => some []
  | (key, tree) :: rest => do
    let name ← Piece.text? key
    let found ← namedFields names rest
    if names.contains name then
      if found.any fun (other, _) => other == name then none else some ((name, tree) :: found)
    else some found

def fields? (names : List String) : Tree → Option (List Field)
  | object fields => do
    let found ← namedFields names fields
    return names.map fun name =>
      match found.lookup name with
      | some tree => .given tree
      | none => .absent
  | array items =>
    if names.length < items.length then none
    else some (items.map .given ++ List.replicate (names.length - items.length) .pastEnd)
  | _ => none

namespace Field

def required {α : Type} (value : Tree → Option α) : Field → Option α
  | given tree => value tree
  | _ => none

def defaulting {α : Type} (value : Tree → Option α) (default : α) : Field → Option α
  | given tree => value tree
  | _ => some default

/-- A field with a value for when it is missing or `null`. -/
def lenient {α : Type} (value : Tree → Option α) (default : α) (field : Field) : Option α :=
  (field.defaulting (nullable? value) none).map (·.getD default)

/-- A field that may be missing from an object and may be `null`. -/
def optional {α : Type} (value : Tree → Option α) : Field → Option (Option α)
  | given tree => nullable? value tree
  | absent => some none
  | pastEnd => none

/-- A field that may be missing from an object or an array and may be `null`. -/
def omissible {α : Type} (value : Tree → Option α) (field : Field) : Option (Option α) :=
  field.defaulting (nullable? value) none

end Field

/-! Free-form values. Of equal keys the last counts. -/

def put (name : String) (value : Json) : List (String × Json) → List (String × Json)
  | [] => [(name, value)]
  | (other, old) :: rest =>
    if other = name then (name, value) :: rest else (other, old) :: put name value rest

mutual

/-- The value of a tree that is nested at most `depth` deep. -/
def json? (depth : Nat) : Tree → Option Json
  | null => some .null
  | bool value => some (.bool value)
  | number numeral =>
    match numeral.int? with
    | some n => some (.int n)
    | none => numeral.float?.map fun f => .float f.toBits
  | string pieces => (Piece.text? pieces).map .str
  | array items => if depth = 0 then none else (jsons? (depth - 1) items).map .arr
  | object fields => if depth = 0 then none else (jsonFields? (depth - 1) [] fields).map .obj

def jsons? (depth : Nat) : List Tree → Option (List Json)
  | [] => some []
  | item :: rest => do
    let value ← json? depth item
    let more ← jsons? depth rest
    return value :: more

def jsonFields? (depth : Nat) (fields : List (String × Json)) :
    List (List Piece × Tree) → Option (List (String × Json))
  | [] => some fields
  | (key, tree) :: rest => do
    let name ← Piece.text? key
    let value ← json? depth tree
    jsonFields? depth (put name value fields) rest

end

end Tree

/-- A value of a type that is read from trees, read from text. -/
def decode {α : Type} (value : Tree → Option α) (bytes : List UInt8) : Option α :=
  (Tree.ofBytes bytes).bind value

end Roster.Json
