import DesignLens.Text.Quoted

/-!
# MD5 digests

The digest of a text is computed from its bytes in blocks of sixteen words. A text is padded with
one bit, zeros and its length, so that it fills whole blocks.
-/

namespace DesignLens.Text

/-- The four words that are carried from block to block. -/
structure DigestState where
  a : UInt32
  b : UInt32
  c : UInt32
  d : UInt32
  deriving DecidableEq, Repr

def DigestState.initial : DigestState := ⟨0x67452301, 0xefcdab89, 0x98badcfe, 0x10325476⟩

/-- The integer parts of the sines of 1 to 64, in units of `2 ^ -32`. -/
def sines : List UInt32 :=
  [0xd76aa478, 0xe8c7b756, 0x242070db, 0xc1bdceee,
    0xf57c0faf, 0x4787c62a, 0xa8304613, 0xfd469501,
    0x698098d8, 0x8b44f7af, 0xffff5bb1, 0x895cd7be,
    0x6b901122, 0xfd987193, 0xa679438e, 0x49b40821,
    0xf61e2562, 0xc040b340, 0x265e5a51, 0xe9b6c7aa,
    0xd62f105d, 0x02441453, 0xd8a1e681, 0xe7d3fbc8,
    0x21e1cde6, 0xc33707d6, 0xf4d50d87, 0x455a14ed,
    0xa9e3e905, 0xfcefa3f8, 0x676f02d9, 0x8d2a4c8a,
    0xfffa3942, 0x8771f681, 0x6d9d6122, 0xfde5380c,
    0xa4beea44, 0x4bdecfa9, 0xf6bb4b60, 0xbebfbc70,
    0x289b7ec6, 0xeaa127fa, 0xd4ef3085, 0x04881d05,
    0xd9d4d039, 0xe6db99e5, 0x1fa27cf8, 0xc4ac5665,
    0xf4292244, 0x432aff97, 0xab9423a7, 0xfc93a039,
    0x655b59c3, 0x8f0ccc92, 0xffeff47d, 0x85845dd1,
    0x6fa87e4f, 0xfe2ce6e0, 0xa3014314, 0x4e0811a1,
    0xf7537e82, 0xbd3af235, 0x2ad7d2bb, 0xeb86d391]

/-- The amounts by which the four rounds rotate, over and over. -/
def rotations : List UInt32 :=
  let round (four : List UInt32) : List UInt32 := (List.replicate 4 four).flatten
  round [7, 12, 17, 22] ++ round [5, 9, 14, 20] ++ round [4, 11, 16, 23] ++ round [6, 10, 15, 21]

def rotateLeft (x n : UInt32) : UInt32 := (x <<< n) ||| (x >>> (32 - n))

/-- The mixing function of a step and the word of the block that it uses. -/
def mix (s : DigestState) (i : Nat) : UInt32 × Nat :=
  if i < 16 then ((s.b &&& s.c) ||| (~~~s.b &&& s.d), i)
  else if i < 32 then ((s.d &&& s.b) ||| (~~~s.d &&& s.c), (5 * i + 1) % 16)
  else if i < 48 then (s.b ^^^ s.c ^^^ s.d, (3 * i + 5) % 16)
  else (s.c ^^^ (s.b ||| ~~~s.d), 7 * i % 16)

/-- One step of a block. -/
def digestStep (words : Array UInt32) (s : DigestState) (step : (UInt32 × UInt32) × Nat) :
    DigestState :=
  let ((sine, rotation), i) := step
  let (mixed, g) := mix s i
  let sum := mixed + s.a + sine + words.getD g 0
  ⟨s.d, s.b + rotateLeft sum rotation, s.b, s.c⟩

def digestSteps : List ((UInt32 × UInt32) × Nat) := (sines.zip rotations).zipIdx

/-- Mixes a block of sixteen words into the state. -/
def compress (s : DigestState) (words : Array UInt32) : DigestState :=
  let t := digestSteps.foldl (digestStep words) s
  ⟨s.a + t.a, s.b + t.b, s.c + t.c, s.d + t.d⟩

/-- A number as eight bytes, the least one first. -/
def lengthBytes (n : Nat) : List Nat := (List.range 8).map fun i => n / Nat.pow 256 i % 256

/-- The bytes with their padding. -/
def padded (bytes : List Nat) : List Nat :=
  let zeros := (119 - bytes.length % 64) % 64
  bytes ++ 0x80 :: List.replicate zeros 0 ++ lengthBytes (8 * bytes.length)

/-- Words of four bytes each, the least byte first. -/
def wordsOfBytes : List Nat → List UInt32
  | b₀ :: b₁ :: b₂ :: b₃ :: rest =>
    UInt32.ofNat (b₀ + 256 * (b₁ + 256 * (b₂ + 256 * b₃))) :: wordsOfBytes rest
  | _ => []

/-- Mixes all blocks into the state; `n` is the number of blocks. -/
def compressAll : Nat → DigestState → List UInt32 → DigestState
  | 0, s, _ => s
  | n + 1, s, words => compressAll n (compress s (words.take 16).toArray) (words.drop 16)

def wordHex (w : UInt32) : List Char :=
  (List.range 4).flatMap fun i => hexPadded 2 (w.toNat / Nat.pow 256 i % 256)

/-- The digest of bytes as hexadecimal text. -/
def md5 (bytes : List Nat) : String :=
  let words := wordsOfBytes (padded bytes)
  let s := compressAll (words.length / 16) .initial words
  String.ofList (wordHex s.a ++ wordHex s.b ++ wordHex s.c ++ wordHex s.d)

end DesignLens.Text
