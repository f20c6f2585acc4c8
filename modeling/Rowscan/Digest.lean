/-!
The MD5 digest. Keys that cannot stand as they are become the 32 hexadecimal digits of their
digest.
-/
namespace Rowscan.Digest

/-- The chaining value: four 32-bit words. -/
structure Chain where
  a : UInt32
  b : UInt32
  c : UInt32
  d : UInt32
  deriving DecidableEq

/-- The chaining value before the first block. -/
def Chain.start : Chain := ⟨0x67452301, 0xefcdab89, 0x98badcfe, 0x10325476⟩

/-- One constant per step: the integer part of `2 ^ 32 * |sin (i + 1)|`. -/
def sines : List UInt32 :=
  [0xd76aa478, 0xe8c7b756, 0x242070db, 0xc1bdceee, 0xf57c0faf, 0x4787c62a,
   0xa8304613, 0xfd469501, 0x698098d8, 0x8b44f7af, 0xffff5bb1, 0x895cd7be,
   0x6b901122, 0xfd987193, 0xa679438e, 0x49b40821, 0xf61e2562, 0xc040b340,
   0x265e5a51, 0xe9b6c7aa, 0xd62f105d, 0x02441453, 0xd8a1e681, 0xe7d3fbc8,
   0x21e1cde6, 0xc33707d6, 0xf4d50d87, 0x455a14ed, 0xa9e3e905, 0xfcefa3f8,
   0x676f02d9, 0x8d2a4c8a, 0xfffa3942, 0x8771f681, 0x6d9d6122, 0xfde5380c,
   0xa4beea44, 0x4bdecfa9, 0xf6bb4b60, 0xbebfbc70, 0x289b7ec6, 0xeaa127fa,
   0xd4ef3085, 0x04881d05, 0xd9d4d039, 0xe6db99e5, 0x1fa27cf8, 0xc4ac5665,
   0xf4292244, 0x432aff97, 0xab9423a7, 0xfc93a039, 0x655b59c3, 0x8f0ccc92,
   0xffeff47d, 0x85845dd1, 0x6fa87e4f, 0xfe2ce6e0, 0xa3014314, 0x4e0811a1,
   0xf7537e82, 0xbd3af235, 0x2ad7d2bb, 0xeb86d391]

/-- The rotation of each step: four amounts per round, in turn. -/
def rotations : List UInt32 :=
  let round (amounts : List UInt32) := amounts ++ amounts ++ amounts ++ amounts
  round [7, 12, 17, 22] ++ round [5, 9, 14, 20] ++ round [4, 11, 16, 23] ++ round [6, 10, 15, 21]

/-- Rotates a word to the left. -/
def rotateLeft (word amount : UInt32) : UInt32 :=
  (word <<< amount) ||| (word >>> (32 - amount))

/-- The mixing function of step `i`. -/
def mix (i : Nat) (x : Chain) : UInt32 :=
  if i < 16 then (x.b &&& x.c) ||| (~~~x.b &&& x.d)
  else if i < 32 then (x.d &&& x.b) ||| (~~~x.d &&& x.c)
  else if i < 48 then x.b ^^^ x.c ^^^ x.d
  else x.c ^^^ (x.b ||| ~~~x.d)

/-- Which word of the block step `i` reads. -/
def wordIndex (i : Nat) : Nat :=
  if i < 16 then i
  else if i < 32 then (5 * i + 1) % 16
  else if i < 48 then (3 * i + 5) % 16
  else 7 * i % 16

/-- One step on a block of sixteen words. -/
def step (block : List UInt32) (x : Chain) (i : Nat) : Chain :=
  let sum := mix i x + x.a + sines.getD i 0 + block.getD (wordIndex i) 0
  ⟨x.d, x.b + rotateLeft sum (rotations.getD i 0), x.b, x.c⟩

/-- One block: its 64 steps, added to the chaining value. -/
def absorb (x : Chain) (block : List UInt32) : Chain :=
  let y := (List.range 64).foldl (step block) x
  ⟨x.a + y.a, x.b + y.b, x.c + y.c, x.d + y.d⟩

/-- The bytes of a number, the low ones first. -/
def littleEndian (count : Nat) (n : Nat) : List UInt8 :=
  (List.range count).map fun i => UInt8.ofNat (n >>> (8 * i))

/-- The message with a one bit, zeros and its length in bits, a whole number of blocks long. -/
def padded (message : List UInt8) : List UInt8 :=
  let zeros := (119 - message.length % 64) % 64
  message ++ [0x80] ++ List.replicate zeros 0 ++ littleEndian 8 (8 * message.length)

/-- Four bytes make a word, the low byte first. -/
def wordsOf : List UInt8 → List UInt32
  | a :: b :: c :: d :: rest =>
    (a.toUInt32 ||| b.toUInt32 <<< 8 ||| c.toUInt32 <<< 16 ||| d.toUInt32 <<< 24) :: wordsOf rest
  | _ => []

/-- Absorbs so many blocks of sixteen words. -/
def absorbAll (x : Chain) : Nat → List UInt32 → Chain
  | 0, _ => x
  | blocks + 1, words => absorbAll (absorb x (words.take 16)) blocks (words.drop 16)

/-- The sixteen bytes of the digest. -/
def digestBytes (message : List UInt8) : List UInt8 :=
  let words := wordsOf (padded message)
  let x := absorbAll .start (words.length / 16) words
  [x.a, x.b, x.c, x.d].flatMap fun word => littleEndian 4 word.toNat

/-- The two hexadecimal digits of a byte, in lower case. -/
def hexByte (byte : UInt8) : List Char :=
  [Nat.digitChar (byte.toNat / 16), Nat.digitChar (byte.toNat % 16)]

/-- The digest as 32 hexadecimal digits (`hex_md5`). -/
def hexDigest (message : List UInt8) : String :=
  String.ofList ((digestBytes message).flatMap hexByte)

private theorem length_digestBytes (message : List UInt8) : (digestBytes message).length = 16 := by
  simp [digestBytes, littleEndian]

theorem length_hexDigest (message : List UInt8) : (hexDigest message).toList.length = 32 := by
  have sum (bytes : List UInt8) : (bytes.flatMap hexByte).length = 2 * bytes.length := by
    induction bytes with
    | nil => rfl
    | cons byte rest ih => simp [hexByte] at ih ⊢; omega
  simp [hexDigest, sum, length_digestBytes]

end Rowscan.Digest
