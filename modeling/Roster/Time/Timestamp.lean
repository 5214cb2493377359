import Roster.Text.Blank
import Roster.Time.Calendar

namespace Roster

/-! Points of calendar time: whole seconds from the first of January 1970 UTC, and nanoseconds into
that second. A leap second is the second before it with a nanosecond count of a thousand million or
more. -/

structure Timestamp where
  secs : Int
  nanos : Nat
  deriving DecidableEq, Inhabited

namespace Timestamp

def firstSec : Int := Date.toDays ⟨Date.firstYear, 1, 1⟩ * 86400

def lastSec : Int := Date.toDays ⟨Date.lastYear, 12, 31⟩ * 86400 + 86399

/-- Whether the calendar reaches a point of time. -/
def isValid (time : Timestamp) : Bool := firstSec ≤ time.secs && time.secs ≤ lastSec

def ofNanos (nanos : Int) : Timestamp :=
  ⟨nanos / 1000000000, (nanos % 1000000000).toNat⟩

def ofMillis (millis : Int) : Timestamp := ofNanos (millis * 1000000)

/-- The point of time after so many milliseconds, if the calendar reaches it. -/
def ofMillis? (millis : Int) : Option Timestamp :=
  if (ofMillis millis).isValid then some (ofMillis millis) else none

def toNanos (time : Timestamp) : Int := time.secs * 1000000000 + time.nanos

def isLeap (time : Timestamp) : Bool := 1000000000 ≤ time.nanos

/-- Nanoseconds from one point of time to another. A leap second counts as a second of its own only
where it comes earlier in the day than the other point of time. -/
def since (time origin : Timestamp) : Int :=
  let second := time.secs % 86400
  let first := origin.secs % 86400
  let leap : Int :=
    if first < second ∧ origin.isLeap then 1000000000
    else if second < first ∧ time.isLeap then -1000000000
    else 0
  time.toNanos - origin.toNanos + leap

/-- Whole milliseconds, rounded towards the past. -/
def millis (time : Timestamp) : Int := time.secs * 1000 + (time.nanos / 1000000 : Nat)

theorem millis_eq (time : Timestamp) : time.millis = time.toNanos / 1000000 := by
  simp only [millis, toNanos]
  omega

@[simp] theorem toNanos_ofNanos (nanos : Int) : (ofNanos nanos).toNanos = nanos := by
  simp only [ofNanos, toNanos]
  omega

theorem isLeap_ofNanos (nanos : Int) : (ofNanos nanos).isLeap = false := by
  have short : (nanos % 1000000000).toNat < 1000000000 := by omega
  exact decide_eq_false (Nat.not_le.mpr short)

theorem since_of_not_leap {time origin : Timestamp} (plain : time.isLeap = false)
    (plain' : origin.isLeap = false) : time.since origin = time.toNanos - origin.toNanos := by
  simp [since, plain, plain']

theorem since_le (time origin : Timestamp) :
    time.since origin ≤ time.toNanos - origin.toNanos + 1000000000 := by
  simp only [since]
  split
  · exact Int.le_refl _
  · split <;> omega

theorem toNanos_ofMillis (millis : Int) : (ofMillis millis).toNanos = millis * 1000000 := by
  simp [ofMillis]

@[simp] theorem millis_ofMillis (millis : Int) : (ofMillis millis).millis = millis := by
  rw [millis_eq, toNanos_ofMillis]
  omega

/-! Written form: date and time in UTC, with a fraction of three, six or nine digits where one is
needed, and an explicit sign on years that have no four digits. -/

def pad (width n : Nat) : String :=
  let digits := toString n
  String.ofList (List.replicate (width - digits.length) '0') ++ digits

def yearText (year : Int) : String :=
  if 0 ≤ year ∧ year ≤ 9999 then pad 4 year.toNat
  else (if year < 0 then "-" else "+") ++ pad 4 year.natAbs

def fractionText (nanos : Nat) : String :=
  if nanos = 0 then ""
  else if nanos % 1000000 = 0 then "." ++ pad 3 (nanos / 1000000)
  else if nanos % 1000 = 0 then "." ++ pad 6 (nanos / 1000)
  else "." ++ pad 9 nanos

def render (time : Timestamp) : String :=
  let date := Date.ofDays (time.secs / 86400)
  let second := (time.secs % 86400).toNat
  let leap := time.nanos / 1000000000
  yearText date.year ++ "-" ++ pad 2 date.month ++ "-" ++ pad 2 date.day ++ "T" ++
    pad 2 (second / 3600) ++ ":" ++ pad 2 (second / 60 % 60) ++ ":" ++ pad 2 (second % 60 + leap) ++
    fractionText (time.nanos % 1000000000) ++ "Z"

/-! Reading is lenient: blanks may stand before each number and separator, a blank may stand for the
letter between date and time, and the offset may be written in several ways. -/

namespace Reader

def skipBlanks (text : List Char) : List Char := text.dropWhile Text.isBlank

/-- Between one and `width` decimal digits, as many as there are. -/
def digits (width : Nat) (text : List Char) : Option (Nat × List Char) :=
  let taken := (text.take width).takeWhile Char.isDigit
  if taken.isEmpty then none
  else some (taken.foldl (fun n c => n * 10 + (c.toNat - 48)) 0, text.drop taken.length)

def number (width : Nat) (text : List Char) : Option (Nat × List Char) :=
  digits width (skipBlanks text)

/-- A year has four digits, or a sign and any number of them. -/
def year (text : List Char) : Option (Int × List Char) :=
  match skipBlanks text with
  | '-' :: rest => (digits rest.length rest).map fun (n, rest) => (-(n : Int), rest)
  | '+' :: rest => (digits rest.length rest).map fun (n, rest) => ((n : Int), rest)
  | text => (digits 4 text).map fun (n, rest) => ((n : Int), rest)

def separator (c : Char) (text : List Char) : Option (List Char) :=
  match skipBlanks text with
  | d :: rest => if d = c then some rest else none
  | [] => none

/-- Nanoseconds after a decimal point; digits beyond the ninth are dropped. -/
def fraction (text : List Char) : Option (Nat × List Char) :=
  match text with
  | '.' :: rest => do
    let (n, after) ← digits 9 rest
    let count := rest.length - after.length
    some (n * Nat.pow 10 (9 - count), after.dropWhile Char.isDigit)
  | _ => some (0, text)

def isColonOrBlank (c : Char) : Bool := c == ':' || Text.isBlank c

/-- Two digits of which the first is at most `most`. -/
def twoDigits (most : Char) : List Char → Option (Nat × List Char)
  | a :: b :: rest =>
    if '0' ≤ a ∧ a ≤ most ∧ b.isDigit then
      some ((a.toNat - 48) * 10 + (b.toNat - 48), rest)
    else none
  | _ => none

/-- Seconds east of UTC. -/
def offset (text : List Char) : Option (Int × List Char) := do
  match text with
  | 'Z' :: rest => return (0, rest)
  | 'z' :: rest => return (0, rest)
  | sign :: rest =>
    if (text.take 3).map Char.toUpper = ['U', 'T', 'C'] then return (0, text.drop 3)
    let negative ←
      if sign = '+' then some false
      else if sign = '-' ∨ sign = '\u2212' then some true
      else none
    let (hours, rest) ← twoDigits '9' rest
    let (minutes, rest) ← twoDigits '5' (rest.dropWhile isColonOrBlank)
    let seconds : Int := hours * 3600 + minutes * 60
    return (if negative then -seconds else seconds, rest)
  | [] => none

end Reader

open Reader in
/-- The point of time that a text names, if the whole text names one. -/
def read? (text : String) : Option Timestamp := do
  let (year, rest) ← year text.toList
  let (month, rest) ← number 2 (← separator '-' rest)
  let (day, rest) ← number 2 (← separator '-' rest)
  let rest ←
    match rest with
    | 't' :: rest => some rest
    | 'T' :: rest => some rest
    | ' ' :: rest => some rest
    | _ => none
  let (hour, rest) ← number 2 rest
  let (minute, rest) ← number 2 (← separator ':' rest)
  let (second, rest) ← number 2 (← separator ':' rest)
  let (nanos, rest) ← fraction rest
  let (east, rest) ← offset (skipBlanks rest)
  let date : Date := ⟨year, month, day⟩
  if skipBlanks rest = [] ∧ date.isValid ∧ hour < 24 ∧ minute < 60 ∧ second ≤ 60 ∧
      east.natAbs < 86400 then
    let leap := second / 60
    let civil := date.toDays * 86400 + hour * 3600 + minute * 60 + (second - leap : Nat)
    let time : Timestamp := ⟨civil - east, nanos + leap * 1000000000⟩
    if time.isValid then some time else none
  else none

end Timestamp

end Roster
