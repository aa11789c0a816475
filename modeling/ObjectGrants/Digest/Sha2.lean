/-!
The SHA-2 family of message digests. Its two branches differ in the width of a word only:
their rounds, rotations and constants are given by a `Branch`, and everything else is common.
-/

namespace ObjectGrants.Digest.Sha2

/-- The parameters of one branch of the family. A mixing function combines the rotations of
a word by three amounts; in the message schedule the last is a shift. -/
structure Branch (w : Nat) where
  mixA : Nat × Nat × Nat
  mixE : Nat × Nat × Nat
  scheduleOld : Nat × Nat × Nat
  scheduleNew : Nat × Nat × Nat
  constants : List (BitVec w)

/-- The eight words that a digest is made of. -/
structure State (w : Nat) where
  a : BitVec w
  b : BitVec w
  c : BitVec w
  d : BitVec w
  e : BitVec w
  f : BitVec w
  g : BitVec w
  h : BitVec w

variable {w : Nat}

def mix (amounts : Nat × Nat × Nat) (x : BitVec w) : BitVec w :=
  x.rotateRight amounts.1 ^^^ x.rotateRight amounts.2.1 ^^^ x.rotateRight amounts.2.2

def scheduleMix (amounts : Nat × Nat × Nat) (x : BitVec w) : BitVec w :=
  x.rotateRight amounts.1 ^^^ x.rotateRight amounts.2.1 ^^^ (x >>> amounts.2.2)

/-- The word number `n` of the schedule from the sixteen before it, the oldest first. -/
def nextWord (branch : Branch w) (window : List (BitVec w)) : BitVec w :=
  scheduleMix branch.scheduleNew (window.getD 14 0) + window.getD 9 0
    + scheduleMix branch.scheduleOld (window.getD 1 0) + window.getD 0 0

/-- One round, with the word and the constant of the round. -/
def round (branch : Branch w) (state : State w) (word constant : BitVec w) : State w :=
  let choice := (state.e &&& state.f) ^^^ (~~~state.e &&& state.g)
  let majority := (state.a &&& state.b) ^^^ (state.a &&& state.c) ^^^ (state.b &&& state.c)
  let first := state.h + mix branch.mixE state.e + choice + constant + word
  let second := mix branch.mixA state.a + majority
  ⟨first + second, state.a, state.b, state.c, state.d + first, state.e, state.f, state.g⟩

/-- Runs the rounds of the remaining constants. The window holds the words of this round and
of the fifteen after it. -/
def rounds (branch : Branch w) : List (BitVec w) → List (BitVec w) → State w → State w
  | [], _, state => state
  | constant :: rest, window, state =>
      rounds branch rest (window.drop 1 ++ [nextWord branch window])
        (round branch state (window.getD 0 0) constant)

/-- Takes one block of sixteen words into the state. -/
def compress (branch : Branch w) (state : State w) (block : List (BitVec w)) : State w :=
  let next := rounds branch branch.constants block state
  ⟨state.a + next.a, state.b + next.b, state.c + next.c, state.d + next.d, state.e + next.e,
    state.f + next.f, state.g + next.g, state.h + next.h⟩

/-- The number that a sequence of bytes writes, the first byte being the most significant. -/
def bigEndian (bytes : List UInt8) : Nat :=
  bytes.foldl (fun value byte => 256 * value + byte.toNat) 0

/-- A number in the given count of bytes, the most significant first. -/
def toBytes (count n : Nat) : List UInt8 :=
  (List.range count).reverse.map fun i => UInt8.ofNat (n / Nat.pow 256 i)

/-- The message with a one bit, zeros and its length in bits behind it, in whole blocks. -/
def padded (w : Nat) (message : List UInt8) : List UInt8 :=
  let block := 2 * w
  let used := message.length + 1 + w / 4
  message ++ 0x80 :: List.replicate ((block - used % block) % block) 0
    ++ toBytes (w / 4) (8 * message.length)

/-- Takes whole blocks into the state, the given count of them. -/
def absorb (branch : Branch w) : Nat → List UInt8 → State w → State w
  | 0, _, state => state
  | blocks + 1, bytes, state =>
      let words := (List.range 16).map fun i =>
        BitVec.ofNat w (bigEndian ((bytes.drop (i * (w / 8))).take (w / 8)))
      absorb branch blocks (bytes.drop (2 * w)) (compress branch state words)

/-- The digest of a message from an initial state, cut to the given count of bytes. -/
def digest (branch : Branch w) (initial : State w) (size : Nat) (message : List UInt8)
    : List UInt8 :=
  let bytes := padded w message
  let state := absorb branch (bytes.length / (2 * w)) bytes initial
  let words := [state.a, state.b, state.c, state.d, state.e, state.f, state.g, state.h]
  (words.flatMap fun word => toBytes (w / 8) word.toNat).take size

/-- The branch of 32-bit words. The constants are the leading bits of the fractional parts of
the cube roots of the first primes. -/
def branch32 : Branch 32 where
  mixA := (2, 13, 22)
  mixE := (6, 11, 25)
  scheduleOld := (7, 18, 3)
  scheduleNew := (17, 19, 10)
  constants := [
    0x428a2f98, 0x71374491, 0xb5c0fbcf, 0xe9b5dba5, 0x3956c25b, 0x59f111f1, 0x923f82a4,
    0xab1c5ed5, 0xd807aa98, 0x12835b01, 0x243185be, 0x550c7dc3, 0x72be5d74, 0x80deb1fe,
    0x9bdc06a7, 0xc19bf174, 0xe49b69c1, 0xefbe4786, 0x0fc19dc6, 0x240ca1cc, 0x2de92c6f,
    0x4a7484aa, 0x5cb0a9dc, 0x76f988da, 0x983e5152, 0xa831c66d, 0xb00327c8, 0xbf597fc7,
    0xc6e00bf3, 0xd5a79147, 0x06ca6351, 0x14292967, 0x27b70a85, 0x2e1b2138, 0x4d2c6dfc,
    0x53380d13, 0x650a7354, 0x766a0abb, 0x81c2c92e, 0x92722c85, 0xa2bfe8a1, 0xa81a664b,
    0xc24b8b70, 0xc76c51a3, 0xd192e819, 0xd6990624, 0xf40e3585, 0x106aa070, 0x19a4c116,
    0x1e376c08, 0x2748774c, 0x34b0bcb5, 0x391c0cb3, 0x4ed8aa4a, 0x5b9cca4f, 0x682e6ff3,
    0x748f82ee, 0x78a5636f, 0x84c87814, 0x8cc70208, 0x90befffa, 0xa4506ceb, 0xbef9a3f7,
    0xc67178f2]

/-- The branch of 64-bit words, with constants of the same origin. -/
def branch64 : Branch 64 where
  mixA := (28, 34, 39)
  mixE := (14, 18, 41)
  scheduleOld := (1, 8, 7)
  scheduleNew := (19, 61, 6)
  constants := [
    0x428a2f98d728ae22, 0x7137449123ef65cd, 0xb5c0fbcfec4d3b2f, 0xe9b5dba58189dbbc,
    0x3956c25bf348b538, 0x59f111f1b605d019, 0x923f82a4af194f9b, 0xab1c5ed5da6d8118,
    0xd807aa98a3030242, 0x12835b0145706fbe, 0x243185be4ee4b28c, 0x550c7dc3d5ffb4e2,
    0x72be5d74f27b896f, 0x80deb1fe3b1696b1, 0x9bdc06a725c71235, 0xc19bf174cf692694,
    0xe49b69c19ef14ad2, 0xefbe4786384f25e3, 0x0fc19dc68b8cd5b5, 0x240ca1cc77ac9c65,
    0x2de92c6f592b0275, 0x4a7484aa6ea6e483, 0x5cb0a9dcbd41fbd4, 0x76f988da831153b5,
    0x983e5152ee66dfab, 0xa831c66d2db43210, 0xb00327c898fb213f, 0xbf597fc7beef0ee4,
    0xc6e00bf33da88fc2, 0xd5a79147930aa725, 0x06ca6351e003826f, 0x142929670a0e6e70,
    0x27b70a8546d22ffc, 0x2e1b21385c26c926, 0x4d2c6dfc5ac42aed, 0x53380d139d95b3df,
    0x650a73548baf63de, 0x766a0abb3c77b2a8, 0x81c2c92e47edaee6, 0x92722c851482353b,
    0xa2bfe8a14cf10364, 0xa81a664bbc423001, 0xc24b8b70d0f89791, 0xc76c51a30654be30,
    0xd192e819d6ef5218, 0xd69906245565a910, 0xf40e35855771202a, 0x106aa07032bbd1b8,
    0x19a4c116b8d2d0c8, 0x1e376c085141ab53, 0x2748774cdf8eeb99, 0x34b0bcb5e19b48a8,
    0x391c0cb3c5c95a63, 0x4ed8aa4ae3418acb, 0x5b9cca4f7763e373, 0x682e6ff3d6b2b8a3,
    0x748f82ee5defb2fc, 0x78a5636f43172f60, 0x84c87814a1f0ab72, 0x8cc702081a6439ec,
    0x90befffa23631e28, 0xa4506cebde82bde9, 0xbef9a3f7b2c67915, 0xc67178f2e372532b,
    0xca273eceea26619c, 0xd186b8c721c0c207, 0xeada7dd6cde0eb1e, 0xf57d4f7fee6ed178,
    0x06f067aa72176fba, 0x0a637dc5a2c898a6, 0x113f9804bef90dae, 0x1b710b35131c471b,
    0x28db77f523047d84, 0x32caab7b40c72493, 0x3c9ebe0a15c9bebc, 0x431d67c49c100d4c,
    0x4cc5d4becb3e42b6, 0x597f299cfc657e2a, 0x5fcb6fab3ad6faec, 0x6c44198c4a475817]

/-- The leading 32 bits of the fractional parts of the square roots of the first eight primes. -/
def initial256 : State 32 :=
  ⟨0x6a09e667, 0xbb67ae85, 0x3c6ef372, 0xa54ff53a, 0x510e527f, 0x9b05688c, 0x1f83d9ab,
    0x5be0cd19⟩

/-- The leading 64 bits of the same fractional parts. -/
def initial512 : State 64 :=
  ⟨0x6a09e667f3bcc908, 0xbb67ae8584caa73b, 0x3c6ef372fe94f82b, 0xa54ff53a5f1d36f1,
    0x510e527fade682d1, 0x9b05688c2b3e6c1f, 0x1f83d9abfb41bd6b, 0x5be0cd19137e2179⟩

/-- The leading 64 bits for the ninth to the sixteenth prime. -/
def initial384 : State 64 :=
  ⟨0xcbbb9d5dc1059ed8, 0x629a292a367cd507, 0x9159015a3070dd17, 0x152fecd8f70e5939,
    0x67332667ffc00b31, 0x8eb44a8768581511, 0xdb0c2e0d64f98fa7, 0x47b5481dbefa4fa4⟩

def sha256 (message : List UInt8) : List UInt8 :=
  digest branch32 initial256 32 message

def sha384 (message : List UInt8) : List UInt8 :=
  digest branch64 initial384 48 message

def sha512 (message : List UInt8) : List UInt8 :=
  digest branch64 initial512 64 message

end ObjectGrants.Digest.Sha2
