/-!
# Content digests

A `Digest` is the text of a SHA-256 hash: 64 lower case hexadecimal digits. Artifacts are named by a
prefix of it, `Digest.prefixLength` bytes long.
-/

/-!
## SHA-256

The hash function of FIPS 180-4 over blocks of data.
-/

namespace ModuleForge.Sha256

/-- The first 32 bits of the fractional parts of the cube roots of the first 64 primes. -/
def constants : Array UInt32 := #[
  0x428a2f98, 0x71374491, 0xb5c0fbcf, 0xe9b5dba5, 0x3956c25b, 0x59f111f1, 0x923f82a4, 0xab1c5ed5,
  0xd807aa98, 0x12835b01, 0x243185be, 0x550c7dc3, 0x72be5d74, 0x80deb1fe, 0x9bdc06a7, 0xc19bf174,
  0xe49b69c1, 0xefbe4786, 0x0fc19dc6, 0x240ca1cc, 0x2de92c6f, 0x4a7484aa, 0x5cb0a9dc, 0x76f988da,
  0x983e5152, 0xa831c66d, 0xb00327c8, 0xbf597fc7, 0xc6e00bf3, 0xd5a79147, 0x06ca6351, 0x14292967,
  0x27b70a85, 0x2e1b2138, 0x4d2c6dfc, 0x53380d13, 0x650a7354, 0x766a0abb, 0x81c2c92e, 0x92722c85,
  0xa2bfe8a1, 0xa81a664b, 0xc24b8b70, 0xc76c51a3, 0xd192e819, 0xd6990624, 0xf40e3585, 0x106aa070,
  0x19a4c116, 0x1e376c08, 0x2748774c, 0x34b0bcb5, 0x391c0cb3, 0x4ed8aa4a, 0x5b9cca4f, 0x682e6ff3,
  0x748f82ee, 0x78a5636f, 0x84c87814, 0x8cc70208, 0x90befffa, 0xa4506ceb, 0xbef9a3f7, 0xc67178f2]

/-- The eight working words. -/
structure State where
  a : UInt32 := 0x6a09e667
  b : UInt32 := 0xbb67ae85
  c : UInt32 := 0x3c6ef372
  d : UInt32 := 0xa54ff53a
  e : UInt32 := 0x510e527f
  f : UInt32 := 0x9b05688c
  g : UInt32 := 0x1f83d9ab
  h : UInt32 := 0x5be0cd19

def rotate (x : UInt32) (n : UInt32) : UInt32 := (x >>> n) ||| (x <<< (32 - n))

def word (data : ByteArray) (i : Nat) : UInt32 :=
  let byte (j : Nat) : UInt32 := (data[i + j]?.getD 0).toUInt32
  (byte 0 <<< 24) ||| (byte 1 <<< 16) ||| (byte 2 <<< 8) ||| byte 3

/-- The message schedule of the block at `offset`. -/
def schedule (data : ByteArray) (offset : Nat) : Array UInt32 :=
  let first := (Array.range 16).map fun t => word data (offset + 4 * t)
  (List.range 48).foldl (fun w i =>
    let t := i + 16
    let x := w[t - 15]?.getD 0
    let y := w[t - 2]?.getD 0
    let s0 := rotate x 7 ^^^ rotate x 18 ^^^ (x >>> 3)
    let s1 := rotate y 17 ^^^ rotate y 19 ^^^ (y >>> 10)
    w.push (w[t - 16]?.getD 0 + s0 + w[t - 7]?.getD 0 + s1)) first

def round (w : Array UInt32) (s : State) (t : Nat) : State :=
  let s1 := rotate s.e 6 ^^^ rotate s.e 11 ^^^ rotate s.e 25
  let choice := (s.e &&& s.f) ^^^ ((~~~ s.e) &&& s.g)
  let t1 := s.h + s1 + choice + constants[t]?.getD 0 + w[t]?.getD 0
  let s0 := rotate s.a 2 ^^^ rotate s.a 13 ^^^ rotate s.a 22
  let majority := (s.a &&& s.b) ^^^ (s.a &&& s.c) ^^^ (s.b &&& s.c)
  { a := t1 + s0 + majority, b := s.a, c := s.b, d := s.c, e := s.d + t1, f := s.e, g := s.f,
    h := s.g }

/-- Absorbs the block at `offset`. -/
def absorb (data : ByteArray) (s : State) (offset : Nat) : State :=
  let w := schedule data offset
  let r := (List.range 64).foldl (round w) s
  { a := s.a + r.a, b := s.b + r.b, c := s.c + r.c, d := s.d + r.d, e := s.e + r.e, f := s.f + r.f,
    g := s.g + r.g, h := s.h + r.h }

/-- A number as `n` bytes, most significant first. -/
def bigEndian (n value : Nat) : List UInt8 :=
  (List.range n).reverse.map fun i => UInt8.ofNat (value >>> (8 * i))

/-- The message with its padding: a one bit, zeros, and its length in bits as 64 bits. -/
def padded (data : ByteArray) : ByteArray :=
  let zeros := (119 - data.size % 64) % 64
  data ++ ⟨(0x80 :: List.replicate zeros 0 ++ bigEndian 8 (8 * data.size)).toArray⟩

/-- The 32 bytes of the digest. -/
def digest (data : ByteArray) : List UInt8 :=
  let message := padded data
  let blocks := message.size / 64
  let s := (List.range blocks).foldl (fun s i => absorb message s (64 * i)) {}
  [s.a, s.b, s.c, s.d, s.e, s.f, s.g, s.h].flatMap fun w => bigEndian 4 w.toNat

-- The one-block message of the standard's own examples.
example : digest "abc".toUTF8 = [
    0xba, 0x78, 0x16, 0xbf, 0x8f, 0x01, 0xcf, 0xea, 0x41, 0x41, 0x40, 0xde, 0x5d, 0xae, 0x22, 0x23,
    0xb0, 0x03, 0x61, 0xa3, 0x96, 0x17, 0x7a, 0x9c, 0xb4, 0x10, 0xff, 0x61, 0xf2, 0x00,
      0x15, 0xad] := by
  decide +kernel

end ModuleForge.Sha256

/-! ## Digests as text -/

namespace ModuleForge

/-- The two hexadecimal digits of a byte. -/
def hexByte (b : UInt8) : List Char := [Nat.digitChar (b.toNat / 16), Nat.digitChar (b.toNat % 16)]

/-- Bytes in hexadecimal. -/
def hex (bytes : List UInt8) : String := String.ofList (bytes.flatMap hexByte)

/-- A content digest as text. -/
structure Digest where
  text : String
  deriving DecidableEq, Repr

namespace Digest

/-- How many bytes of a digest name an artifact. -/
def prefixLength : Nat := 20

/-- The digest of a block of data. -/
def ofData (data : ByteArray) : Digest := ⟨hex (Sha256.digest data)⟩

/-- The leading characters of a list that take exactly `n` bytes, or all of it if it is shorter;
`none` if byte `n` falls inside a character. -/
def takeBytes (n : Nat) : List Char → Option (List Char)
  | [] => some []
  | c :: cs =>
    if n = 0 then some []
    else if c.utf8Size ≤ n then (takeBytes (n - c.utf8Size) cs).map (c :: ·)
    else none

/-- The prefix that names an artifact; there is none if it would cut a character in two. -/
def short? (d : Digest) : Option String :=
  (takeBytes prefixLength d.text.toList).map String.ofList

/-- The prefix of a digest of hexadecimal digits, each of one byte. -/
def short (d : Digest) : String :=
  String.ofList (d.text.toList.take prefixLength)

end Digest
end ModuleForge
