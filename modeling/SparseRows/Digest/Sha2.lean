import SparseRows.BigEndian

/-!
# The SHA-2 digests

The four digests of the SHA-2 standard. SHA-224 and SHA-256 work on words of 32 bits, SHA-384 and SHA-512 on words of 64;
the two families differ in word size, number of rounds and shift amounts only, so both are values of one type `Family`. A
32-bit constant is the upper half of the 64-bit one, but for the start of SHA-224, which is the lower half of the start of
SHA-384.
-/

namespace SparseRows.Digest

/-- What the two word sizes do not share. -/
structure Family (W : Type) where
  /-- Bytes in a word. -/
  wordBytes : Nat
  ofNat : Nat → W
  toNat : W → Nat
  rotateRight : W → Nat → W
  shiftRight : W → Nat → W
  /-- One constant to a round. -/
  constants : List W
  /-- The rotations that mix `a` and `e` in a round. -/
  bigSigma0 : Nat × Nat × Nat
  bigSigma1 : Nat × Nat × Nat
  /-- The rotations and the shift that extend the message. -/
  smallSigma0 : Nat × Nat × Nat
  smallSigma1 : Nat × Nat × Nat

/-- The eight chaining words. -/
structure Chain (W : Type) where
  (a b c d e f g h : W)

/-- The fractional parts of the cube roots of the first eighty primes, in 64 bits. -/
def cubeRoots : List Nat :=
  [0x428a2f98d728ae22, 0x7137449123ef65cd, 0xb5c0fbcfec4d3b2f, 0xe9b5dba58189dbbc, 0x3956c25bf348b538,
   0x59f111f1b605d019, 0x923f82a4af194f9b, 0xab1c5ed5da6d8118, 0xd807aa98a3030242, 0x12835b0145706fbe,
   0x243185be4ee4b28c, 0x550c7dc3d5ffb4e2, 0x72be5d74f27b896f, 0x80deb1fe3b1696b1, 0x9bdc06a725c71235,
   0xc19bf174cf692694, 0xe49b69c19ef14ad2, 0xefbe4786384f25e3, 0x0fc19dc68b8cd5b5, 0x240ca1cc77ac9c65,
   0x2de92c6f592b0275, 0x4a7484aa6ea6e483, 0x5cb0a9dcbd41fbd4, 0x76f988da831153b5, 0x983e5152ee66dfab,
   0xa831c66d2db43210, 0xb00327c898fb213f, 0xbf597fc7beef0ee4, 0xc6e00bf33da88fc2, 0xd5a79147930aa725,
   0x06ca6351e003826f, 0x142929670a0e6e70, 0x27b70a8546d22ffc, 0x2e1b21385c26c926, 0x4d2c6dfc5ac42aed,
   0x53380d139d95b3df, 0x650a73548baf63de, 0x766a0abb3c77b2a8, 0x81c2c92e47edaee6, 0x92722c851482353b,
   0xa2bfe8a14cf10364, 0xa81a664bbc423001, 0xc24b8b70d0f89791, 0xc76c51a30654be30, 0xd192e819d6ef5218,
   0xd69906245565a910, 0xf40e35855771202a, 0x106aa07032bbd1b8, 0x19a4c116b8d2d0c8, 0x1e376c085141ab53,
   0x2748774cdf8eeb99, 0x34b0bcb5e19b48a8, 0x391c0cb3c5c95a63, 0x4ed8aa4ae3418acb, 0x5b9cca4f7763e373,
   0x682e6ff3d6b2b8a3, 0x748f82ee5defb2fc, 0x78a5636f43172f60, 0x84c87814a1f0ab72, 0x8cc702081a6439ec,
   0x90befffa23631e28, 0xa4506cebde82bde9, 0xbef9a3f7b2c67915, 0xc67178f2e372532b, 0xca273eceea26619c,
   0xd186b8c721c0c207, 0xeada7dd6cde0eb1e, 0xf57d4f7fee6ed178, 0x06f067aa72176fba, 0x0a637dc5a2c898a6,
   0x113f9804bef90dae, 0x1b710b35131c471b, 0x28db77f523047d84, 0x32caab7b40c72493, 0x3c9ebe0a15c9bebc,
   0x431d67c49c100d4c, 0x4cc5d4becb3e42b6, 0x597f299cfc657e2a, 0x5fcb6fab3ad6faec, 0x6c44198c4a475817]

/-- The fractional parts of the square roots of the first sixteen primes, in 64 bits. -/
def squareRoots : List Nat :=
  [0x6a09e667f3bcc908, 0xbb67ae8584caa73b, 0x3c6ef372fe94f82b, 0xa54ff53a5f1d36f1, 0x510e527fade682d1,
   0x9b05688c2b3e6c1f, 0x1f83d9abfb41bd6b, 0x5be0cd19137e2179, 0xcbbb9d5dc1059ed8, 0x629a292a367cd507,
   0x9159015a3070dd17, 0x152fecd8f70e5939, 0x67332667ffc00b31, 0x8eb44a8768581511, 0xdb0c2e0d64f98fa7,
   0x47b5481dbefa4fa4]

/-- The family of SHA-224 and SHA-256. -/
def family32 : Family UInt32 where
  wordBytes := 4
  ofNat := UInt32.ofNat
  toNat := UInt32.toNat
  rotateRight x n := (x >>> UInt32.ofNat n) ||| (x <<< UInt32.ofNat (32 - n))
  shiftRight x n := x >>> UInt32.ofNat n
  constants := (cubeRoots.take 64).map fun n => UInt32.ofNat (n / UInt32.size)
  bigSigma0 := (2, 13, 22)
  bigSigma1 := (6, 11, 25)
  smallSigma0 := (7, 18, 3)
  smallSigma1 := (17, 19, 10)

/-- The family of SHA-384 and SHA-512. -/
def family64 : Family UInt64 where
  wordBytes := 8
  ofNat := UInt64.ofNat
  toNat := UInt64.toNat
  rotateRight x n := (x >>> UInt64.ofNat n) ||| (x <<< UInt64.ofNat (64 - n))
  shiftRight x n := x >>> UInt64.ofNat n
  constants := cubeRoots.map UInt64.ofNat
  bigSigma0 := (28, 34, 39)
  bigSigma1 := (14, 18, 41)
  smallSigma0 := (1, 8, 7)
  smallSigma1 := (19, 61, 6)

namespace Family

variable {W : Type} [Add W] [XorOp W] [AndOp W] [Complement W] (F : Family W)

/-- Three rotations, summed without carry. -/
@[specialize] def mix (amounts : Nat × Nat × Nat) (x : W) : W :=
  F.rotateRight x amounts.1 ^^^ F.rotateRight x amounts.2.1 ^^^ F.rotateRight x amounts.2.2

/-- Two rotations and a shift, summed without carry. -/
@[specialize] def blend (amounts : Nat × Nat × Nat) (x : W) : W :=
  F.rotateRight x amounts.1 ^^^ F.rotateRight x amounts.2.1 ^^^ F.shiftRight x amounts.2.2

/-- Bytes in a block: sixteen words. -/
def blockBytes : Nat :=
  16 * F.wordBytes

/-- The message with the end mark, zeros and its length in bits, up to a whole number of blocks. -/
def pad (message : List UInt8) : List UInt8 :=
  let lengthBytes := 2 * F.wordBytes
  let used := (message.length + 1 + lengthBytes) % F.blockBytes
  message ++ [0x80] ++ List.replicate ((F.blockBytes - used) % F.blockBytes) 0 ++
    bigEndian lengthBytes (8 * message.length)

/-- The first `n` words of some bytes. -/
@[specialize] def words : Nat → List UInt8 → List W
  | 0, _ => []
  | n + 1, bytes => F.ofNat (ofBigEndian (bytes.take F.wordBytes)) :: words n (bytes.drop F.wordBytes)

/-- The word of the extended message at a place; places not filled yet count as zero. -/
@[specialize] def back (ws : Array W) (distance : Nat) : W :=
  ws.getD (ws.size - distance) (F.ofNat 0)

/-- The message words extended to one for each round. -/
@[specialize] def extend : Nat → Array W → Array W
  | 0, ws => ws
  | n + 1, ws =>
    extend n (ws.push (F.blend F.smallSigma1 (F.back ws 2) + F.back ws 7 + F.blend F.smallSigma0 (F.back ws 15) + F.back ws 16))

/-- One round, with its constant and its word. -/
@[specialize] def round (s : Chain W) (constant word : W) : Chain W :=
  let t1 := s.h + F.mix F.bigSigma1 s.e + ((s.e &&& s.f) ^^^ (~~~s.e &&& s.g)) + constant + word
  let t2 := F.mix F.bigSigma0 s.a + ((s.a &&& s.b) ^^^ (s.a &&& s.c) ^^^ (s.b &&& s.c))
  ⟨t1 + t2, s.a, s.b, s.c, s.d + t1, s.e, s.f, s.g⟩

/-- The chaining words after a block. -/
@[specialize] def compress (s : Chain W) (block : List UInt8) : Chain W :=
  let ws := F.extend (F.constants.length - 16) (F.words 16 block).toArray
  let t := (F.constants.zip ws.toList).foldl (fun t (constant, word) => F.round t constant word) s
  ⟨s.a + t.a, s.b + t.b, s.c + t.c, s.d + t.d, s.e + t.e, s.f + t.f, s.g + t.g, s.h + t.h⟩

/-- The chaining words after the first `n` blocks of some bytes. -/
@[specialize] def absorb : Nat → Chain W → List UInt8 → Chain W
  | 0, s, _ => s
  | n + 1, s, bytes => absorb n (F.compress s (bytes.take F.blockBytes)) (bytes.drop F.blockBytes)

/-- The chaining words as bytes. -/
def output (s : Chain W) : List UInt8 :=
  [s.a, s.b, s.c, s.d, s.e, s.f, s.g, s.h].flatMap fun w => bigEndian F.wordBytes (F.toNat w)

/-- The digest of a message from given chaining words. -/
@[specialize] def digest (start : Chain W) (message : List UInt8) : List UInt8 :=
  let padded := F.pad message
  F.output (F.absorb (padded.length / F.blockBytes) start padded)

omit [Add W] [XorOp W] [AndOp W] [Complement W] in
/-- A digest has eight words. -/
@[simp] theorem length_output (s : Chain W) : (F.output s).length = 8 * F.wordBytes := by
  simp [output]
  omega

@[simp] theorem length_digest (start : Chain W) (message : List UInt8) :
    (F.digest start message).length = 8 * F.wordBytes := by
  simp [digest]

end Family

/-- Chaining words from eight of the square roots. -/
def startOf {W : Type} (word : Nat → W) (place : Nat) : Chain W :=
  let root := fun i => word (squareRoots.getD (place + i) 0)
  ⟨root 0, root 1, root 2, root 3, root 4, root 5, root 6, root 7⟩

/-- The SHA-224 digest, 28 bytes. -/
def sha224 (message : List UInt8) : List UInt8 :=
  (family32.digest (startOf UInt32.ofNat 8) message).take 28

/-- The SHA-256 digest, 32 bytes. -/
def sha256 (message : List UInt8) : List UInt8 :=
  family32.digest (startOf (fun n => UInt32.ofNat (n / UInt32.size)) 0) message

/-- The SHA-384 digest, 48 bytes. -/
def sha384 (message : List UInt8) : List UInt8 :=
  (family64.digest (startOf UInt64.ofNat 8) message).take 48

/-- The SHA-512 digest, 64 bytes. -/
def sha512 (message : List UInt8) : List UInt8 :=
  family64.digest (startOf UInt64.ofNat 0) message

end SparseRows.Digest
