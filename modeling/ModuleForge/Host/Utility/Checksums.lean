import ModuleForge.Digest
import ModuleForge.Host.Utility.Call

/-!
# Utilities for checksums and encodings

What writes and checks digests of files, sums over them, and their bytes as text in some alphabet.
-/

/-!
## Checksums

The digests beside SHA-256 that utilities compute, and the sums over bytes.
-/

/-!
### MD5

The digest of 16 bytes that takes its words with the least significant byte first.
-/

namespace ModuleForge.Host.Md5

/-- What each round adds. -/
def constants : Array UInt32 := #[
  0xd76aa478, 0xe8c7b756, 0x242070db, 0xc1bdceee, 0xf57c0faf, 0x4787c62a,
  0xa8304613, 0xfd469501, 0x698098d8, 0x8b44f7af, 0xffff5bb1, 0x895cd7be,
  0x6b901122, 0xfd987193, 0xa679438e, 0x49b40821, 0xf61e2562, 0xc040b340,
  0x265e5a51, 0xe9b6c7aa, 0xd62f105d, 0x02441453, 0xd8a1e681, 0xe7d3fbc8,
  0x21e1cde6, 0xc33707d6, 0xf4d50d87, 0x455a14ed, 0xa9e3e905, 0xfcefa3f8,
  0x676f02d9, 0x8d2a4c8a, 0xfffa3942, 0x8771f681, 0x6d9d6122, 0xfde5380c,
  0xa4beea44, 0x4bdecfa9, 0xf6bb4b60, 0xbebfbc70, 0x289b7ec6, 0xeaa127fa,
  0xd4ef3085, 0x04881d05, 0xd9d4d039, 0xe6db99e5, 0x1fa27cf8, 0xc4ac5665,
  0xf4292244, 0x432aff97, 0xab9423a7, 0xfc93a039, 0x655b59c3, 0x8f0ccc92,
  0xffeff47d, 0x85845dd1, 0x6fa87e4f, 0xfe2ce6e0, 0xa3014314, 0x4e0811a1,
  0xf7537e82, 0xbd3af235, 0x2ad7d2bb, 0xeb86d391]

/-- How far each round rotates: four amounts in turn for every sixteen rounds. -/
def amounts : Array UInt32 := #[7, 12, 17, 22, 5, 9, 14, 20, 4, 11, 16, 23, 6, 10, 15, 21]

structure State where
  a : UInt32 := 0x67452301
  b : UInt32 := 0xefcdab89
  c : UInt32 := 0x98badcfe
  d : UInt32 := 0x10325476

def rotate (x n : UInt32) : UInt32 := (x <<< n) ||| (x >>> (32 - n))

def word (data : ByteArray) (i : Nat) : UInt32 :=
  let byte (j : Nat) : UInt32 := (data[i + j]?.getD 0).toUInt32
  byte 0 ||| (byte 1 <<< 8) ||| (byte 2 <<< 16) ||| (byte 3 <<< 24)

def round (data : ByteArray) (offset : Nat) (s : State) (i : Nat) : State :=
  let (f, g) : UInt32 × Nat := match i / 16 with
    | 0 => ((s.b &&& s.c) ||| (~~~ s.b &&& s.d), i)
    | 1 => ((s.d &&& s.b) ||| (~~~ s.d &&& s.c), (5 * i + 1) % 16)
    | 2 => (s.b ^^^ s.c ^^^ s.d, (3 * i + 5) % 16)
    | _ => (s.c ^^^ (s.b ||| ~~~ s.d), (7 * i) % 16)
  let sum := s.a + f + constants[i]?.getD 0 + word data (offset + 4 * g)
  { a := s.d, b := s.b + rotate sum (amounts[i / 16 * 4 + i % 4]?.getD 0), c := s.b, d := s.c }

/-- Absorbs the block at `offset`. -/
def absorb (data : ByteArray) (s : State) (offset : Nat) : State :=
  let r := (List.range 64).foldl (round data offset) s
  { a := s.a + r.a, b := s.b + r.b, c := s.c + r.c, d := s.d + r.d }

def littleEndian (n value : Nat) : List UInt8 :=
  (List.range n).map fun i => UInt8.ofNat (value >>> (8 * i))

/-- The 16 bytes of the digest. -/
def digest (data : ByteArray) : List UInt8 :=
  let zeros := (119 - data.size % 64) % 64
  let message := data ++ ⟨(0x80 :: List.replicate zeros 0 ++ littleEndian 8 (8 * data.size)).toArray⟩
  let s := (List.range (message.size / 64)).foldl (fun s i => absorb message s (64 * i)) {}
  [s.a, s.b, s.c, s.d].flatMap fun w => littleEndian 4 w.toNat

end ModuleForge.Host.Md5

/-!
### SHA-1

The digest of 20 bytes.
-/

namespace ModuleForge.Host.Sha1

structure State where
  a : UInt32 := 0x67452301
  b : UInt32 := 0xefcdab89
  c : UInt32 := 0x98badcfe
  d : UInt32 := 0x10325476
  e : UInt32 := 0xc3d2e1f0

def rotate (x n : UInt32) : UInt32 := (x <<< n) ||| (x >>> (32 - n))

/-- The message schedule of the block at `offset`. -/
def schedule (data : ByteArray) (offset : Nat) : Array UInt32 :=
  let first := (Array.range 16).map fun t => Sha256.word data (offset + 4 * t)
  (List.range 64).foldl (fun w i =>
    let before (k : Nat) : UInt32 := w[i + 16 - k]?.getD 0
    w.push (rotate (before 3 ^^^ before 8 ^^^ before 14 ^^^ before 16) 1)) first

def round (w : Array UInt32) (s : State) (t : Nat) : State :=
  let (f, k) : UInt32 × UInt32 := match t / 20 with
    | 0 => ((s.b &&& s.c) ||| (~~~ s.b &&& s.d), 0x5a827999)
    | 1 => (s.b ^^^ s.c ^^^ s.d, 0x6ed9eba1)
    | 2 => ((s.b &&& s.c) ||| (s.b &&& s.d) ||| (s.c &&& s.d), 0x8f1bbcdc)
    | _ => (s.b ^^^ s.c ^^^ s.d, 0xca62c1d6)
  { a := rotate s.a 5 + f + s.e + k + w[t]?.getD 0, b := s.a, c := rotate s.b 30, d := s.c, e := s.d }

/-- Absorbs the block at `offset`. -/
def absorb (data : ByteArray) (s : State) (offset : Nat) : State :=
  let r := (List.range 80).foldl (round (schedule data offset)) s
  { a := s.a + r.a, b := s.b + r.b, c := s.c + r.c, d := s.d + r.d, e := s.e + r.e }

/-- The 20 bytes of the digest. -/
def digest (data : ByteArray) : List UInt8 :=
  let message := Sha256.padded data
  let s := (List.range (message.size / 64)).foldl (fun s i => absorb message s (64 * i)) {}
  [s.a, s.b, s.c, s.d, s.e].flatMap fun w => Sha256.bigEndian 4 w.toNat

end ModuleForge.Host.Sha1

/-!
### SHA-512 and its relatives

The digests of 64 and 48 bytes with words of 64 bits, and the one of 28 bytes that is a shorter
SHA-256.
-/

namespace ModuleForge.Host.Sha512

def constants : Array UInt64 := #[
  0x428a2f98d728ae22, 0x7137449123ef65cd, 0xb5c0fbcfec4d3b2f, 0xe9b5dba58189dbbc,
  0x3956c25bf348b538, 0x59f111f1b605d019, 0x923f82a4af194f9b, 0xab1c5ed5da6d8118,
  0xd807aa98a3030242, 0x12835b0145706fbe, 0x243185be4ee4b28c, 0x550c7dc3d5ffb4e2,
  0x72be5d74f27b896f, 0x80deb1fe3b1696b1, 0x9bdc06a725c71235, 0xc19bf174cf692694,
  0xe49b69c19ef14ad2, 0xefbe4786384f25e3, 0x0fc19dc68b8cd5b5, 0x240ca1cc77ac9c65,
  0x2de92c6f592b0275, 0x4a7484aa6ea6e483, 0x5cb0a9dcbd41fbd4, 0x76f988da831153b5,
  0x983e5152ee66dfab, 0xa831c66d2db43210, 0xb00327c898fb213f, 0xbf597fc7beef0ee4,
  0xc6e00bf33da88fc2, 0xd5a79147930aa725, 0x06ca6351e003826f, 0x142929670a0e6e70,
  0x27b70a8546d22ffc, 0x2e1b21385c26c926, 0x4d2c6dfc5ac42aed, 0x53380d139d95b3df,
  0x650a73548baf63de, 0x766a0abb3c77b2a8, 0x81c2c92e47edaee6, 0x92722c851482353b,
  0xa2bfe8a14cf10364, 0xa81a664bbc423001, 0xc24b8b70d0f89791, 0xc76c51a30654be30,
  0xd192e819d6ef5218, 0xd69906245565a910, 0xf40e35855771202a, 0x106aa07032bbd1b8,
  0x19a4c116b8d2d0c8, 0x1e376c085141ab53, 0x2748774cdf8eeb99, 0x34b0bcb5e19b48a8,
  0x391c0cb3c5c95a63, 0x4ed8aa4ae3418acb, 0x5b9cca4f7763e373, 0x682e6ff3d6b2b8a3,
  0x748f82ee5defb2fc, 0x78a5636f43172f60, 0x84c87814a1f0ab72, 0x8cc702081a6439ec,
  0x90befffa23631e28, 0xa4506cebde82bde9, 0xbef9a3f7b2c67915, 0xc67178f2e372532b,
  0xca273eceea26619c, 0xd186b8c721c0c207, 0xeada7dd6cde0eb1e, 0xf57d4f7fee6ed178,
  0x06f067aa72176fba, 0x0a637dc5a2c898a6, 0x113f9804bef90dae, 0x1b710b35131c471b,
  0x28db77f523047d84, 0x32caab7b40c72493, 0x3c9ebe0a15c9bebc, 0x431d67c49c100d4c,
  0x4cc5d4becb3e42b6, 0x597f299cfc657e2a, 0x5fcb6fab3ad6faec, 0x6c44198c4a475817]

structure State where
  a : UInt64
  b : UInt64
  c : UInt64
  d : UInt64
  e : UInt64
  f : UInt64
  g : UInt64
  h : UInt64

/-- Where the digest of 64 bytes starts. -/
def long : State := ⟨
  0x6a09e667f3bcc908, 0xbb67ae8584caa73b, 0x3c6ef372fe94f82b, 0xa54ff53a5f1d36f1,
  0x510e527fade682d1, 0x9b05688c2b3e6c1f, 0x1f83d9abfb41bd6b, 0x5be0cd19137e2179⟩

/-- Where the digest of 48 bytes starts. -/
def medium : State := ⟨
  0xcbbb9d5dc1059ed8, 0x629a292a367cd507, 0x9159015a3070dd17, 0x152fecd8f70e5939,
  0x67332667ffc00b31, 0x8eb44a8768581511, 0xdb0c2e0d64f98fa7, 0x47b5481dbefa4fa4⟩

def rotate (x n : UInt64) : UInt64 := (x >>> n) ||| (x <<< (64 - n))

def word (data : ByteArray) (i : Nat) : UInt64 :=
  (List.range 8).foldl (fun w j => (w <<< 8) ||| (data[i + j]?.getD 0).toUInt64) 0

/-- The message schedule of the block at `offset`. -/
def schedule (data : ByteArray) (offset : Nat) : Array UInt64 :=
  let first := (Array.range 16).map fun t => word data (offset + 8 * t)
  (List.range 64).foldl (fun w i =>
    let t := i + 16
    let x := w[t - 15]?.getD 0
    let y := w[t - 2]?.getD 0
    let s0 := rotate x 1 ^^^ rotate x 8 ^^^ (x >>> 7)
    let s1 := rotate y 19 ^^^ rotate y 61 ^^^ (y >>> 6)
    w.push (w[t - 16]?.getD 0 + s0 + w[t - 7]?.getD 0 + s1)) first

def round (w : Array UInt64) (s : State) (t : Nat) : State :=
  let s1 := rotate s.e 14 ^^^ rotate s.e 18 ^^^ rotate s.e 41
  let choice := (s.e &&& s.f) ^^^ ((~~~ s.e) &&& s.g)
  let t1 := s.h + s1 + choice + constants[t]?.getD 0 + w[t]?.getD 0
  let s0 := rotate s.a 28 ^^^ rotate s.a 34 ^^^ rotate s.a 39
  let majority := (s.a &&& s.b) ^^^ (s.a &&& s.c) ^^^ (s.b &&& s.c)
  { a := t1 + s0 + majority, b := s.a, c := s.b, d := s.c, e := s.d + t1, f := s.e, g := s.f,
    h := s.g }

/-- Absorbs the block at `offset`. -/
def absorb (data : ByteArray) (s : State) (offset : Nat) : State :=
  let w := schedule data offset
  let r := (List.range 80).foldl (round w) s
  { a := s.a + r.a, b := s.b + r.b, c := s.c + r.c, d := s.d + r.d, e := s.e + r.e, f := s.f + r.f,
    g := s.g + r.g, h := s.h + r.h }

/-- A digest from a start on, cut to some bytes. -/
def digest (start : State) (length : Nat) (data : ByteArray) : List UInt8 :=
  let zeros := (239 - data.size % 128) % 128
  let ending := Sha256.bigEndian 16 (8 * data.size)
  let message := data ++ ⟨(0x80 :: List.replicate zeros 0 ++ ending).toArray⟩
  let s := (List.range (message.size / 128)).foldl (fun s i => absorb message s (128 * i)) start
  ([s.a, s.b, s.c, s.d, s.e, s.f, s.g, s.h].flatMap fun w => Sha256.bigEndian 8 w.toNat).take length

/-- The digest of 28 bytes. -/
def short (data : ByteArray) : List UInt8 :=
  let start : Sha256.State := ⟨
    0xc1059ed8, 0x367cd507, 0x3070dd17, 0xf70e5939,
      0xffc00b31, 0x68581511, 0x64f98fa7, 0xbefa4fa4⟩
  let message := Sha256.padded data
  let s := (List.range (message.size / 64)).foldl (fun s i => Sha256.absorb message s (64 * i)) start
  ([s.a, s.b, s.c, s.d, s.e, s.f, s.g].flatMap fun w => Sha256.bigEndian 4 w.toNat)

end ModuleForge.Host.Sha512

/-!
### Sums over bytes

The cyclic redundancy check of 32 bits over some data and its length, and two sums of 16 bits.
-/

namespace ModuleForge.Host.Sum

/-- A byte pushed through the check, bit by bit. -/
def pushByte (crc : UInt32) (b : UInt8) : UInt32 :=
  (List.range 8).foldl (fun c _ =>
    if c &&& 0x80000000 != 0 then (c <<< 1) ^^^ 0x04c11db7 else c <<< 1) (crc ^^^ (b.toUInt32 <<< 24))

/-- The bytes of a length, least significant first. -/
def lengthBytes : Nat → Nat → List UInt8
  | 0, _ => []
  | fuel + 1, n => if n = 0 then [] else UInt8.ofNat n :: lengthBytes fuel (n / 256)

/-- The check over data and its length. -/
def crc (data : ByteArray) : UInt32 :=
  let c := data.data.foldl pushByte 0
  ~~~ ((lengthBytes 9 data.size).foldl pushByte c)

/-- The sum that is rotated before each byte is added. -/
def rotated (data : ByteArray) : Nat :=
  data.data.foldl (fun s b => (s / 2 + s % 2 * 32768 + b.toNat) % 65536) 0

/-- The plain sum, folded into 16 bits. -/
def plain (data : ByteArray) : Nat :=
  let s := data.data.foldl (fun s b => s + b.toNat) 0
  let r := s % 65536 + s % 4294967296 / 65536
  r % 65536 + r / 65536

end ModuleForge.Host.Sum

namespace ModuleForge.Host.Utility

open Call

/-! ## Digests -/

/-- A kind of digest: the name that its tagged lines have, and how it is made. -/
structure DigestKind where
  tag : String
  digest : ByteArray → List UInt8

def md5 : DigestKind := ⟨"MD5", Md5.digest⟩
def sha1 : DigestKind := ⟨"SHA1", Sha1.digest⟩
def sha224 : DigestKind := ⟨"SHA224", Sha512.short⟩
def sha256 : DigestKind := ⟨"SHA256", Sha256.digest⟩
def sha384 : DigestKind := ⟨"SHA384", Sha512.digest Sha512.medium 48⟩
def sha512 : DigestKind := ⟨"SHA512", Sha512.digest Sha512.long 64⟩

/-- A name in which ends of lines and backslashes are escaped, and the mark that this needs. -/
def markedName (path : ByteString) : ByteString × ByteString :=
  if path.any fun b => b == 10 || b == 92 || b == 13 then
    ([92], path.flatMap fun b =>
      if b = 10 then [92, 110] else if b = 92 then [92, 92] else if b = 13 then [92, 114] else [b])
  else ([], path)

/-- The line for a digest of a file. -/
def digestLine (k : DigestKind) (o : Options) (path : ByteString) (data : ByteArray) : ByteString :=
  let (mark, name) := if o.has 'z' then ([], path) else markedName path
  let sum := ByteString.ofText (hex (k.digest data))
  let closing : ByteString := if o.has 'z' then [0] else [10]
  if o.has 'T' then mark ++ ByteString.ofText (k.tag ++ " (") ++ name ++ ByteString.ofText ") = " ++ sum ++ closing
  else
    let binary := o.last? "bt" == some 'b'
    mark ++ sum ++ (if binary then [32, 42] else [32, 32]) ++ name ++ closing

/-- The sum and the name on a line of a list of digests. -/
def listedDigest? (k : DigestKind) (line : ByteString) : Option (String × ByteString) :=
  let line := line.dropWhile fun b => b == 32 || b == 9
  let start := ByteString.ofText (k.tag ++ " (")
  let length := 2 * (k.digest ByteArray.empty).length
  let isSum (s : ByteString) : Bool :=
    s.length == length && (Format.chars s).all Format.isHex
  if start.isPrefixOf line then
    let rest := (line.drop start.length).reverse
    let sum := (rest.takeWhile (· ≠ 32)).reverse
    let name := ((rest.drop (sum.length + 4))).reverse
    if isSum sum then some ((plain sum).toLower, name) else none
  else
    let sum := line.takeWhile (· ≠ 32)
    match line.drop sum.length with
    | 32 :: b :: name => if isSum sum && (b == 32 || b == 42) then some ((plain sum).toLower, name) else none
    | _ => none

/-- What checking lists of digests has come to. -/
structure DigestCheck where
  good : Nat := 0
  failed : Nat := 0
  unread : Nat := 0
  malformed : Nat := 0

/-- Checks the digests on the lines of a list. -/
def checkDigests (c : Call) (k : DigestKind) (o : Options) (path : ByteString) (data : ByteArray) :
    Task Nat := do
  let shown := if path = [45] then "'standard input'" else named path
  let quiet := o.has 'S'
  let mut r : DigestCheck := {}
  for line in linesOf data.data.toList do
    match listedDigest? k line with
    | none => if line.head? != some 35 then r := { r with malformed := r.malformed + 1 }
    | some (sum, name) =>
      let contents ← do
        match ← if name = [45] then pure (.ok 0) else Task.openFile name .read with
        | .error e => pure (.error e)
        | .ok fd =>
          let data ← Task.readAll fd
          if name ≠ [45] then
            let _ ← Task.close fd
          pure data
      match (contents : Except Errno ByteArray) with
      | .error e =>
        if !(o.has 'M' && e = .noEntry) then
          c.complain (named name ++ ": " ++ e.message)
          if !quiet then
            let _ ← c.putText (plain name ++ ": FAILED open or read\n")
          r := { r with unread := r.unread + 1 }
      | .ok data =>
        if hex (k.digest data) == sum then
          if !quiet && !o.has 'Q' then
            let _ ← c.putText (plain name ++ ": OK\n")
          r := { r with good := r.good + 1 }
        else
          if !quiet then
            let _ ← c.putText (plain name ++ ": FAILED\n")
          r := { r with failed := r.failed + 1 }
  let plural (n : Nat) (one many : String) : String := toString n ++ " " ++ (if n = 1 then one else many)
  if r.good + r.failed + r.unread = 0 then
    c.complain (shown ++ ": no properly formatted checksum lines found")
    return 1
  if !quiet then
    if 0 < r.malformed then
      c.complain ("WARNING: " ++ plural r.malformed "line is improperly formatted" "lines are improperly formatted")
    if 0 < r.unread then
      c.complain ("WARNING: " ++ plural r.unread "listed file could not be read" "listed files could not be read")
    if 0 < r.failed then
      c.complain ("WARNING: " ++ plural r.failed "computed checksum did NOT match" "computed checksums did NOT match")
  return if r.failed + r.unread = 0 && (!o.has 's' || r.malformed = 0) then 0 else 1

/-- Writes or checks digests of one kind. -/
def digests (k : DigestKind) : Utility := fun c => c.withGrammar {
    flags := "bctwz"
    long := [("binary", 'b'), ("check", 'c'), ("text", 't'), ("warn", 'w'), ("zero", 'z'), ("tag", 'T'),
      ("quiet", 'Q'), ("status", 'S'), ("strict", 's'), ("ignore-missing", 'M')] } fun o =>
  if o.has 'c' then c.eachContent o.operands (checkDigests c k o)
  else c.eachContent o.operands fun path data => c.putBytes (digestLine k o path data)

/-! ## Sums -/

/-- The check over bits and the size, or a digest in tagged form. -/
def cksum : Utility := fun c => c.withGrammar {
    valued := "a", long := [("algorithm", 'a'), ("untagged", 'U')] } fun o =>
  let kinds := [("md5", md5), ("sha1", sha1), ("sha224", sha224), ("sha256", sha256), ("sha384", sha384),
    ("sha512", sha512)]
  match (o.value? 'a').bind fun a => kinds.lookup (plain a) with
  | some k =>
    let o := if o.has 'U' then o else { o with letters := ('T', []) :: o.letters }
    c.eachContent o.operands fun path data => c.putBytes (digestLine k o path data)
  | none => c.eachContent o.operands fun path data =>
    let name := if o.operands.isEmpty then [] else 32 :: path
    c.putBytes (ByteString.ofText (toString (Sum.crc data).toNat ++ " " ++ toString data.size) ++ name ++ [10])

def sum : Utility := fun c => c.withGrammar { flags := "rs", long := [("sysv", 's')] } fun o =>
  c.eachContent o.operands fun path data =>
    let name := if o.operands.isEmpty then [] else 32 :: path
    let fill (n : Nat) (c : Char) (s : String) : String :=
      String.ofList (List.replicate (n - s.length) c) ++ s
    let text := if o.last? "rs" == some 's' then
        toString (Sum.plain data) ++ " " ++ toString ((data.size + 511) / 512)
      else fill 5 '0' (toString (Sum.rotated data)) ++ " " ++ fill 5 ' ' (toString ((data.size + 1023) / 1024))
    c.putBytes (ByteString.ofText text ++ name ++ [10])

/-! ## Encodings -/

/-- An alphabet for groups of bits: how many bits a letter holds, and how many letters make a group
that holds whole bytes. -/
structure Alphabet where
  letters : List Char
  bits : Nat
  group : Nat

def base64Alphabet : Alphabet where
  letters := "ABCDEFGHIJKLMNOPQRSTUVWXYZabcdefghijklmnopqrstuvwxyz0123456789+/".toList
  bits := 6
  group := 4

def base32Alphabet : Alphabet where
  letters := "ABCDEFGHIJKLMNOPQRSTUVWXYZ234567".toList
  bits := 5
  group := 8

namespace Alphabet

/-- The letters of a group of at most `group * bits / 8` bytes, filled up with `=`. -/
def encodeGroup (a : Alphabet) (bytes : List UInt8) : List Char :=
  let n : Nat := bytes.foldl (fun n b => n * 256 + b.toNat) 0
  let count := (8 * bytes.length + a.bits - 1) / a.bits
  let n := n * 2 ^ (count * a.bits - 8 * bytes.length)
  let letter (i : Nat) : Char := (a.letters[n / 2 ^ ((count - 1 - i) * a.bits) % 2 ^ a.bits]?).getD '?'
  (List.range count).map letter ++ List.replicate (a.group - count) '='

def encode (a : Alphabet) (data : List UInt8) : List Char :=
  (parts (a.group * a.bits / 8) data).flatMap a.encodeGroup

/-- The bytes of a group of letters, as far as it holds whole bytes; the flag tells whether the
group is sound. -/
def decodeGroup (a : Alphabet) (cs : List Char) : List UInt8 × Bool :=
  let body := cs.takeWhile (· != '=')
  let values := body.map fun c => a.letters.idxOf? c
  let known := values.takeWhile Option.isSome
  let n : Nat := known.foldl (fun n v => n * 2 ^ a.bits + v.getD 0) 0
  let count := known.length * a.bits / 8
  let n := n / 2 ^ (known.length * a.bits - 8 * count)
  let bytes := (List.range count).reverse.map fun i => UInt8.ofNat (n / 256 ^ i)
  let padding := cs.drop body.length
  let spare := known.length * a.bits - 8 * count
  let sound := known.length = body.length && padding.all (· == '=') && spare < a.bits
    && (cs.length = a.group || padding.isEmpty)
  (bytes, sound)

/-- Decodes group by group up to the first one that is not sound. -/
def decode (a : Alphabet) : Nat → List Char → List UInt8 × Bool
  | 0, _ => ([], false)
  | _ + 1, [] => ([], true)
  | fuel + 1, cs =>
    let (bytes, sound) := a.decodeGroup (cs.take a.group)
    if sound then
      let (more, sound) := a.decode fuel (cs.drop a.group)
      (bytes ++ more, sound)
    else (bytes, false)

end Alphabet

/-- Lines of some width; none of them is empty. -/
def wrapped (width : Nat) (cs : List Char) : List Char :=
  if width = 0 then cs else (parts width cs).flatMap (· ++ ['\n'])

/-- Encodes or decodes its input in an alphabet. -/
def encoding (a : Alphabet) : Utility := fun c => c.withGrammar {
    flags := "di", valued := "w", long := [("decode", 'd'), ("ignore-garbage", 'i'), ("wrap", 'w')] } fun o => do
  let width := match o.value? 'w' with
    | none => some 76
    | some w => Shell.natural? w
  match o.operands, width with
  | _ :: extra :: _, _ => c.misuse ("extra operand " ++ quoted extra)
  | _, none =>
    c.complain ("invalid wrap size: " ++ quoted ((o.value? 'w').getD []))
    return 1
  | paths, some width =>
    c.eachContent paths fun _ data => do
      if !o.has 'd' then c.putText (String.ofList (wrapped width (a.encode data.data.toList)))
      else
        let cs := Format.chars data.data.toList
        let kept := if o.has 'i' then cs.filter fun x => x == '=' || a.letters.contains x
          else cs.filter (· != '\n')
        let (bytes, sound) := a.decode (kept.length + 1) kept
        let code ← c.putBytes bytes
        if sound then return code
        c.complain "invalid input"
        return 1

end ModuleForge.Host.Utility
