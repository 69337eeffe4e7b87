import Mathlib.Data.List.Sort
import Mathlib.Data.String.Basic

/-!
# Text and JSON

Text tests and the compact JSON form with sorted keys: the same object always
renders to the same text, whatever the order in which its fields are given.
-/

namespace Support

/-- The characters that stripping removes. -/
def isSpace (c : Char) : Bool :=
  let n := c.toNat
  (9 ≤ n && n ≤ 13) || (28 ≤ n && n ≤ 32) || n == 0x85 || n == 0xa0 || n == 0x1680 ||
    (0x2000 ≤ n && n ≤ 0x200a) || n == 0x2028 || n == 0x2029 || n == 0x202f ||
    n == 0x205f || n == 0x3000

/-- Nothing remains after stripping. -/
def blank (s : String) : Bool := s.toList.all isSpace

def hexDigit (n : Nat) : Char := "0123456789abcdef".toList.getD n '0'

/-- The last `width` digits of a number in a base, most significant first. -/
def digits (base : Nat) : Nat → Nat → List Char
  | 0, _ => []
  | width + 1, n => digits base width (n / base) ++ [hexDigit (n % base)]

/-- A decimal number padded with zeros. -/
def padded (width n : Nat) : String := String.ofList (digits 10 width n)

def isHexDigit (c : Char) : Bool := ('0' ≤ c && c ≤ '9') || ('a' ≤ c && c ≤ 'f')

/-- Lowercase hexadecimal text of exactly 64 characters; a final line feed is
let through, as `$` matches before it. -/
def isSha256 (s : String) : Bool :=
  let body := match s.toList.reverse with
    | '\n' :: rest => if rest.length = 64 then rest else s.toList
    | _ => s.toList
  body.length == 64 && body.all isHexDigit

/-- JSON values without fractions. -/
inductive Json
  | null
  | str (s : String)
  | int (n : Int)
  | arr (items : List Json)
  | obj (fields : List (String × Json))

namespace Json

/-- How one character stands inside a JSON string. -/
def escape (c : Char) : List Char :=
  if c = '"' then ['\\', '"']
  else if c = '\\' then ['\\', '\\']
  else if c = '\n' then ['\\', 'n']
  else if c = '\r' then ['\\', 'r']
  else if c = '\t' then ['\\', 't']
  else if c.toNat = 8 then ['\\', 'b']
  else if c.toNat = 12 then ['\\', 'f']
  else if c.toNat < 32 then ['\\', 'u'] ++ digits 16 4 c.toNat
  else [c]

def quote (s : String) : String :=
  "\"" ++ String.ofList (s.toList.flatMap escape) ++ "\""

/-- Fields in the order of their names. -/
def sortFields (fields : List (String × String)) : List (String × String) :=
  fields.insertionSort fun a b => a.1 ≤ b.1

mutual

/-- The compact form: no blanks, sorted keys, text outside ASCII kept. -/
def dumps : Json → String
  | .null => "null"
  | .str s => quote s
  | .int n => toString n
  | .arr items => "[" ++ ",".intercalate (dumpsItems items) ++ "]"
  | .obj fields =>
    "\x7b" ++ ",".intercalate
      ((sortFields (dumpsFields fields)).map fun f => quote f.1 ++ ":" ++ f.2) ++ "\x7d"

def dumpsItems : List Json → List String
  | [] => []
  | item :: items => dumps item :: dumpsItems items

def dumpsFields : List (String × Json) → List (String × String)
  | [] => []
  | (name, value) :: fields => (name, dumps value) :: dumpsFields fields

end

/-- Text, or nothing. -/
def ofOption (s : Option String) : Json := s.elim .null .str

end Json

/-- The order in which fields are given does not matter. -/
example : Json.dumps (.obj [("b", .int 2), ("a", .arr [.str "x\n", .null])]) =
    Json.dumps (.obj [("a", .arr [.str "x\n", .null]), ("b", .int 2)]) := by decide

end Support
