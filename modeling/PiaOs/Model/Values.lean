import Mathlib.Tactic.Common
import PiaOs.Support.Json

/-!
# Identifiers, instants and the library calls of the services

The services rest on SHA-256 and on the JSON parser only through what they
answer, so both enter as parameters.
-/

namespace PiaOs

open Support

/-- A UUID as the integer that orders it. -/
structure Uuid where
  int : Nat
  deriving DecidableEq, Repr

/-- The canonical text form, in groups of 8, 4, 4, 4 and 12 digits. -/
def Uuid.str (u : Uuid) : String :=
  let d := digits 16 32 u.int
  String.ofList (d.take 8 ++ ['-'] ++ (d.drop 8).take 4 ++ ['-'] ++ (d.drop 12).take 4 ++ ['-'] ++
    (d.drop 16).take 4 ++ ['-'] ++ d.drop 20)

/-- A point in time, in microseconds of UTC. -/
abbrev Instant := Int

/-- A `datetime` as a caller sends it. Without an offset it is no instant. -/
structure DateTime where
  year : Nat
  month : Nat
  day : Nat
  hour : Nat
  minute : Nat
  second : Nat
  microsecond : Nat
  utcOffset : Option Int
  deriving DecidableEq, Repr

namespace DateTime

/-- Days since 1970-01-01 in the Gregorian calendar, counted from March. -/
def dayNumber (t : DateTime) : Int :=
  let y : Int := if t.month ≤ 2 then t.year - 1 else t.year
  let m : Int := if t.month ≤ 2 then t.month + 9 else t.month - 3
  365 * y + y / 4 - y / 100 + y / 400 + (153 * m + 2) / 5 + t.day - 719469

/-- The instant, once the offset (in seconds) is known. -/
def instant (t : DateTime) : Option Instant :=
  t.utcOffset.map fun offset =>
    (((t.dayNumber * 24 + t.hour) * 60 + t.minute) * 60 + t.second - offset) * 1000000 +
      t.microsecond

/-- `datetime.isoformat()`. -/
def isoformat (t : DateTime) : String :=
  let date := padded 4 t.year ++ "-" ++ padded 2 t.month ++ "-" ++ padded 2 t.day
  let time := padded 2 t.hour ++ ":" ++ padded 2 t.minute ++ ":" ++ padded 2 t.second
  let fraction := if t.microsecond = 0 then "" else "." ++ padded 6 t.microsecond
  let zone := match t.utcOffset with
    | none => ""
    | some offset =>
      let o := offset.natAbs
      (if offset < 0 then "-" else "+") ++ padded 2 (o / 3600) ++ ":" ++ padded 2 (o / 60 % 60) ++
        (if o % 60 = 0 then "" else ":" ++ padded 2 (o % 60))
  date ++ "T" ++ time ++ fraction ++ zone

/-- The epoch is day zero. -/
example : (DateTime.mk 1970 1 1 0 0 0 0 (some 0)).instant = some 0 := by decide

example : (DateTime.mk 2026 3 1 12 5 0 0 (some (-10800))).isoformat =
    "2026-03-01T12:05:00-03:00" := by decide

end DateTime

/-- What `json.loads` finds in a text, as far as the output contract looks. -/
inductive JsonReading
  | nonCanonicalNumber
  | malformed
  | notObject
  | object (canonical : String)
  deriving DecidableEq, Repr

/-- The library functions that the services call: the hexadecimal SHA-256 of the
UTF-8 bytes of a text, and the reading of a JSON text. -/
class Runtime where
  sha256 : String → String
  sha256_hex : ∀ s, isSha256 (sha256 s) = true
  sha256_length : ∀ s, (sha256 s).length = 64
  loads : String → JsonReading

/-- Python's `repr` of a text. -/
def pyRepr (s : String) : String :=
  let q := if s.toList.contains '\'' && !s.toList.contains '"' then '"' else '\''
  let char (c : Char) : List Char :=
    if c = q || c = '\\' then ['\\', c]
    else if c = '\n' then ['\\', 'n']
    else if c = '\r' then ['\\', 'r']
    else if c = '\t' then ['\\', 't']
    else if c.toNat < 32 || c.toNat = 127 then ['\\', 'x'] ++ digits 16 2 c.toNat
    else [c]
  String.ofList ([q] ++ s.toList.flatMap char ++ [q])

/-- Python's form of a list of texts that are already rendered. -/
def pyList (items : List String) : String := "[" ++ ", ".intercalate items ++ "]"

end PiaOs
