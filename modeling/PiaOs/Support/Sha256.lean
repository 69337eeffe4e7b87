import PiaOs.Support.Json

/-!
# SHA-256

The hash of a text as lowercase hexadecimal digits. Words are numbers below `2 ^ 32`.
-/

namespace Support

namespace Sha256

def wordSize : Nat := 2 ^ 32

def rotr (n x : Nat) : Nat := (x >>> n ||| x <<< (32 - n)) % wordSize

/-- The constants of the rounds. -/
def constants : List Nat :=
  [0x428a2f98, 0x71374491, 0xb5c0fbcf, 0xe9b5dba5, 0x3956c25b, 0x59f111f1, 0x923f82a4, 0xab1c5ed5,
    0xd807aa98, 0x12835b01, 0x243185be, 0x550c7dc3, 0x72be5d74, 0x80deb1fe, 0x9bdc06a7, 0xc19bf174,
    0xe49b69c1, 0xefbe4786, 0x0fc19dc6, 0x240ca1cc, 0x2de92c6f, 0x4a7484aa, 0x5cb0a9dc, 0x76f988da,
    0x983e5152, 0xa831c66d, 0xb00327c8, 0xbf597fc7, 0xc6e00bf3, 0xd5a79147, 0x06ca6351, 0x14292967,
    0x27b70a85, 0x2e1b2138, 0x4d2c6dfc, 0x53380d13, 0x650a7354, 0x766a0abb, 0x81c2c92e, 0x92722c85,
    0xa2bfe8a1, 0xa81a664b, 0xc24b8b70, 0xc76c51a3, 0xd192e819, 0xd6990624, 0xf40e3585, 0x106aa070,
    0x19a4c116, 0x1e376c08, 0x2748774c, 0x34b0bcb5, 0x391c0cb3, 0x4ed8aa4a, 0x5b9cca4f, 0x682e6ff3,
    0x748f82ee, 0x78a5636f, 0x84c87814, 0x8cc70208, 0x90befffa, 0xa4506ceb, 0xbef9a3f7, 0xc67178f2]

/-- The eight working words. -/
structure Words where
  (a b c d e f g h : Nat)

def Words.toList (s : Words) : List Nat := [s.a, s.b, s.c, s.d, s.e, s.f, s.g, s.h]

def initial : Words where
  a := 0x6a09e667
  b := 0xbb67ae85
  c := 0x3c6ef372
  d := 0xa54ff53a
  e := 0x510e527f
  f := 0x9b05688c
  g := 0x1f83d9ab
  h := 0x5be0cd19

/-- One round, with the sum of its constant and its word of the message. -/
def round (s : Words) (kw : Nat) : Words :=
  let sum1 := rotr 6 s.e ^^^ rotr 11 s.e ^^^ rotr 25 s.e
  let choice := (s.e &&& s.f) ^^^ ((wordSize - 1 - s.e) &&& s.g)
  let t1 := s.h + sum1 + choice + kw
  let sum0 := rotr 2 s.a ^^^ rotr 13 s.a ^^^ rotr 22 s.a
  let majority := (s.a &&& s.b) ^^^ (s.a &&& s.c) ^^^ (s.b &&& s.c)
  ⟨(t1 + sum0 + majority) % wordSize, s.a, s.b, s.c, (s.d + t1) % wordSize, s.e, s.f, s.g⟩

/-- The rounds of a block. The window holds the next sixteen words of its schedule. -/
def rounds (s : Words) : List Nat → List Nat → Words
  | k :: ks, w :: window =>
    let w1 := window.getD 0 0
    let w9 := window.getD 8 0
    let w14 := window.getD 13 0
    let small0 := rotr 7 w1 ^^^ rotr 18 w1 ^^^ (w1 >>> 3)
    let small1 := rotr 17 w14 ^^^ rotr 19 w14 ^^^ (w14 >>> 10)
    rounds (round s (k + w)) ks (window ++ [(w + small0 + w9 + small1) % wordSize])
  | _, _ => s

/-- The first `n` words of a list of bytes, most significant byte first. -/
def readWords : Nat → List Nat → List Nat
  | 0, _ => []
  | n + 1, bytes =>
    (bytes.take 4).foldl (fun word b => word * 256 + b) 0 :: readWords n (bytes.drop 4)

def compress (s : Words) (block : List Nat) : Words :=
  let t := rounds s constants (readWords 16 block)
  ⟨(s.a + t.a) % wordSize, (s.b + t.b) % wordSize, (s.c + t.c) % wordSize, (s.d + t.d) % wordSize,
    (s.e + t.e) % wordSize, (s.f + t.f) % wordSize, (s.g + t.g) % wordSize, (s.h + t.h) % wordSize⟩

/-- A one bit, zeros up to a full block and the length in bits. -/
def pad (bytes : List Nat) : List Nat :=
  bytes ++ [128] ++ List.replicate ((119 - bytes.length % 64) % 64) 0 ++
    (List.range 8).map fun i => bytes.length * 8 / 256 ^ (7 - i) % 256

/-- The first `n` blocks of a padded message. -/
def blocks : Nat → Words → List Nat → Words
  | 0, s, _ => s
  | n + 1, s, bytes => blocks n (compress s (bytes.take 64)) (bytes.drop 64)

/-- The hash of the UTF-8 bytes of a text. -/
def hexdigest (text : String) : String :=
  let message := pad (text.toUTF8.data.toList.map UInt8.toNat)
  let words := blocks (message.length / 64) initial message
  String.ofList (words.toList.flatMap (digits 16 8))

example : hexdigest "abc" =
    "ba7816bf8f01cfea414140de5dae2223b00361a396177a9cb410ff61f20015ad" := by decide +kernel

theorem length_digits (base width n : Nat) : (digits base width n).length = width := by
  induction width generalizing n with
  | zero => rfl
  | succ width ih => simp [digits, ih]

theorem isHexDigit_of_mem {base width n : Nat} (hbase : 0 < base ∧ base ≤ 16) {c : Char}
    (hc : c ∈ digits base width n) : isHexDigit c = true := by
  have hdigit : ∀ m < 16, isHexDigit (hexDigit m) = true := by decide
  induction width generalizing n with
  | zero => simp [digits] at hc
  | succ width ih =>
    rw [digits, List.mem_append, List.mem_singleton] at hc
    rcases hc with hc | rfl
    · exact ih hc
    · exact hdigit _ (lt_of_lt_of_le (Nat.mod_lt _ hbase.1) hbase.2)

@[simp] theorem length_hexdigest (text : String) : (hexdigest text).length = 64 := by
  simp [hexdigest, Words.toList, length_digits]

theorem isHexDigit_of_mem_hexdigest {text : String} {c : Char} (hc : c ∈ (hexdigest text).toList) :
    isHexDigit c = true := by
  simp only [hexdigest, String.toList_ofList, List.mem_flatMap] at hc
  obtain ⟨word, -, hc⟩ := hc
  exact isHexDigit_of_mem (by decide) hc

/-- A hash passes the test that the services make. -/
theorem isSha256_hexdigest (text : String) : isSha256 (hexdigest text) = true := by
  have hhex : ∀ c ∈ (hexdigest text).toList, isHexDigit c = true :=
    fun c => isHexDigit_of_mem_hexdigest
  have hlength : (hexdigest text).toList.length = 64 := length_hexdigest text
  unfold isSha256
  split
  case h_1 rest hrest =>
    -- A hash has no line feed.
    have hfeed : '\n' ∈ (hexdigest text).toList := by
      rw [← List.mem_reverse, hrest]
      exact List.mem_cons_self
    exact absurd (hhex _ hfeed) (by decide)
  case h_2 => simpa [hlength] using hhex

end Sha256

/-! ## HMAC-SHA-256

The keyed hash of a text as lowercase hexadecimal digits. A key that does not fill
a block is padded with zeros; a key longer than a block is hashed first. -/

namespace Sha256

/-- The bytes of a word, most significant first. -/
def wordBytes (word : Nat) : List Nat :=
  (List.range 4).map fun i => word / 256 ^ (3 - i) % 256

/-- The words of the hash of a list of bytes. -/
def hashWords (bytes : List Nat) : List Nat :=
  let message := pad bytes
  (blocks (message.length / 64) initial message).toList

def utf8 (text : String) : List Nat := text.toUTF8.data.toList.map UInt8.toNat

/-- The block that a key fills. -/
def keyBlock (key : List Nat) : List Nat :=
  let short := if 64 < key.length then (hashWords key).flatMap wordBytes else key
  short ++ List.replicate (64 - short.length) 0

/-- `hmac.new(key, message, sha256).hexdigest()`, of the UTF-8 bytes of the texts. -/
def hmacHexdigest (key message : String) : String :=
  let block := keyBlock (utf8 key)
  let inner := hashWords (block.map (· ^^^ 0x36) ++ utf8 message)
  let outer := hashWords (block.map (· ^^^ 0x5c) ++ inner.flatMap wordBytes)
  String.ofList (outer.flatMap (digits 16 8))

example : hmacHexdigest "key" "The quick brown fox jumps over the lazy dog" =
    "f7bc83f430538424b13298e6aa6fb143ef4d59a14946175997479dbc2d1a3cd8" := by decide +kernel

@[simp] theorem length_hmacHexdigest (key message : String) :
    (hmacHexdigest key message).length = 64 := by
  simp [hmacHexdigest, hashWords, Words.toList, length_digits]

theorem isHexDigit_of_mem_hmacHexdigest {key message : String} {c : Char}
    (hc : c ∈ (hmacHexdigest key message).toList) : isHexDigit c = true := by
  simp only [hmacHexdigest, String.toList_ofList, List.mem_flatMap] at hc
  obtain ⟨word, -, hc⟩ := hc
  exact isHexDigit_of_mem (by decide) hc

end Sha256

end Support
