namespace Roster.Decimal

/-! The shortest decimal that a double-precision number is read back from: of the grids with one,
two, three, ... significant digits the first that has a point in the interval of reals that round
to the number, and of its points there the one nearest to the number. -/

structure Ratio where
  num : Nat
  den : Nat

namespace Ratio

def scale (r : Ratio) (power : Int) : Ratio :=
  if 0 ≤ power then ⟨r.num, r.den * Nat.pow 10 power.toNat⟩
  else ⟨r.num * Nat.pow 10 (-power).toNat, r.den⟩

def le (a b : Ratio) : Bool := a.num * b.den ≤ b.num * a.den

def lt (a b : Ratio) : Bool := a.num * b.den < b.num * a.den

def floor (r : Ratio) : Nat := r.num / r.den

def digitCount (n : Nat) : Nat := (Nat.toDigits 10 n).length

/-- The exponent of the largest power of ten that is at most the fraction. -/
def magnitude (r : Ratio) : Int :=
  let guess : Int := digitCount r.num - digitCount r.den
  if le ⟨1, 1⟩ (r.scale guess) then guess else guess - 1

end Ratio

/-- A positive double-precision number `mantissa * 2 ^ exponent`. -/
structure Binary where
  mantissa : Nat
  exponent : Int

namespace Binary

/-- The weight of the leading bit, which the bits of all but the smallest numbers leave out. -/
def leadingBit : Nat := 0x10000000000000

def fractionOf (bits : UInt64) : Nat := (bits &&& 0xFFFFFFFFFFFFF).toNat

def fieldOf (bits : UInt64) : Nat := ((bits >>> 52) &&& 0x7FF).toNat

/-- The magnitude that the bits of a finite number describe. -/
def ofBits (bits : UInt64) : Binary :=
  let fraction := fractionOf bits
  let field := fieldOf bits
  if field = 0 then ⟨fraction, -1074⟩ else ⟨leadingBit + fraction, (field : Int) - 1075⟩

/-- `n` quarters of the unit in the last place. -/
def quarters (b : Binary) (n : Nat) : Ratio :=
  let power := b.exponent - 2
  if 0 ≤ power then ⟨n <<< power.toNat, 1⟩ else ⟨n, 1 <<< (-power).toNat⟩

def value (b : Binary) : Ratio := b.quarters (4 * b.mantissa)

/-- The lower end of the reals that round to the number. Just above a power of two the numbers
below lie twice as dense. -/
def lower (b : Binary) : Ratio :=
  if b.mantissa = leadingBit ∧ -1074 < b.exponent then b.quarters (4 * b.mantissa - 1)
  else b.quarters (4 * b.mantissa - 2)

def upper (b : Binary) : Ratio := b.quarters (4 * b.mantissa + 2)

/-- Whether `digits * 10 ^ power` rounds to the number. -/
def attracts (b : Binary) (digits : Nat) (power : Int) : Bool :=
  let low := b.lower.scale power
  let high := b.upper.scale power
  let point : Ratio := ⟨digits, 1⟩
  if b.mantissa % 2 = 0 then low.le point && point.le high else low.lt point && point.lt high

/-- The point nearest to the number on the grid of `count` significant digits, if it rounds to the
number. -/
def onGrid (b : Binary) (count : Nat) : Option (Nat × Int) :=
  let power := b.value.magnitude - count + 1
  let scaled := b.value.scale power
  let below := scaled.floor
  let nearBelow := 2 * (scaled.num - below * scaled.den)
  let first :=
    if nearBelow < scaled.den ∨ (nearBelow = scaled.den ∧ below % 2 = 0) then below else below + 1
  let second := if first = below then below + 1 else below
  if b.attracts first power then some (first, power)
  else if b.attracts second power then some (second, power)
  else none

/-- The shortest decimal as digits and a power of ten, without trailing zeros among the digits. -/
def shortest (b : Binary) : Nat × Int :=
  match (List.range 17).findSome? fun n => b.onGrid (n + 1) with
  | some (digits, power) => strip 20 digits power
  | none => (0, 0)
where
  strip : Nat → Nat → Int → Nat × Int
    | 0, digits, power => (digits, power)
    | n + 1, digits, power =>
      if digits ≠ 0 ∧ digits % 10 = 0 then strip n (digits / 10) (power + 1) else (digits, power)

end Binary

structure Layout where
  /-- Zeros and points are written out while the first digit stands at most so many places before
  the point, and so many places behind it. -/
  before : Option Nat
  behind : Option Nat
  /-- Whole numbers get a point and a zero. -/
  marksWhole : Bool

namespace Layout

def zeros (n : Nat) : String := String.ofList (List.replicate n '0')

/-- Digits with a decimal point after the first `point` of them. -/
def positional (layout : Layout) (digits : String) (point : Int) : String :=
  let count := digits.length
  if point ≤ 0 then "0." ++ zeros (-point).toNat ++ digits
  else if count ≤ point.toNat then
    digits ++ zeros (point.toNat - count) ++ (if layout.marksWhole then ".0" else "")
  else
    String.ofList (digits.toList.take point.toNat) ++ "." ++
      String.ofList (digits.toList.drop point.toNat)

def scientific (digits : String) (point : Int) : String :=
  match digits.toList with
  | [] => ""
  | first :: rest =>
    let fraction := if rest.isEmpty then "" else "." ++ String.ofList rest
    String.singleton first ++ fraction ++ "e" ++ toString (point - 1)

def magnitude (layout : Layout) (digits : Nat) (power : Int) : String :=
  let text := toString digits
  let point := power + text.length
  let fits :=
    (match layout.before with
      | some most => point ≤ most
      | none => true) &&
    (match layout.behind with
      | some most => -point < most
      | none => true)
  if fits then layout.positional text point else scientific text point

/-- A double-precision number, given by its bits. -/
def render (layout : Layout) (bits : UInt64) : String :=
  let sign := if bits >>> 63 = 1 then "-" else ""
  let field := Binary.fieldOf bits
  let fraction := Binary.fractionOf bits
  if field = 0x7FF then (if fraction = 0 then sign ++ "inf" else "NaN")
  else if field = 0 ∧ fraction = 0 then sign ++ (if layout.marksWhole then "0.0" else "0")
  else
    let (digits, power) := (Binary.ofBits bits).shortest
    sign ++ layout.magnitude digits power

end Layout

end Roster.Decimal
