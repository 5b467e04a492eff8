/-!
# SHA-256

The hash of FIPS 180-4 over a byte list, written as plain folds: the message is padded to a
multiple of 64 bytes (`pad`), cut into blocks (`blocks`), each block is expanded into a
schedule of 64 words and mixed into eight state words by 64 rounds (`compress`), and the final
state, big-endian, is the 32-byte digest. `hexDigest` writes it as 64 lowercase hexadecimal
digits.
-/

namespace QueryRelay

namespace Digest

/-- The 64 round constants: the first 32 bits of the fractional parts of the cube roots of the
first 64 primes. -/
def roundConstants : Array UInt32 := #[
  0x428a2f98, 0x71374491, 0xb5c0fbcf, 0xe9b5dba5, 0x3956c25b, 0x59f111f1, 0x923f82a4, 0xab1c5ed5,
  0xd807aa98, 0x12835b01, 0x243185be, 0x550c7dc3, 0x72be5d74, 0x80deb1fe, 0x9bdc06a7, 0xc19bf174,
  0xe49b69c1, 0xefbe4786, 0x0fc19dc6, 0x240ca1cc, 0x2de92c6f, 0x4a7484aa, 0x5cb0a9dc, 0x76f988da,
  0x983e5152, 0xa831c66d, 0xb00327c8, 0xbf597fc7, 0xc6e00bf3, 0xd5a79147, 0x06ca6351, 0x14292967,
  0x27b70a85, 0x2e1b2138, 0x4d2c6dfc, 0x53380d13, 0x650a7354, 0x766a0abb, 0x81c2c92e, 0x92722c85,
  0xa2bfe8a1, 0xa81a664b, 0xc24b8b70, 0xc76c51a3, 0xd192e819, 0xd6990624, 0xf40e3585, 0x106aa070,
  0x19a4c116, 0x1e376c08, 0x2748774c, 0x34b0bcb5, 0x391c0cb3, 0x4ed8aa4a, 0x5b9cca4f, 0x682e6ff3,
  0x748f82ee, 0x78a5636f, 0x84c87814, 0x8cc70208, 0x90befffa, 0xa4506ceb, 0xbef9a3f7, 0xc67178f2]

/-- The eight state words. -/
structure State where
  a : UInt32
  b : UInt32
  c : UInt32
  d : UInt32
  e : UInt32
  f : UInt32
  g : UInt32
  h : UInt32

/-- The initial state: the first 32 bits of the fractional parts of the square roots of the
first eight primes. -/
def State.initial : State :=
  ⟨0x6a09e667, 0xbb67ae85, 0x3c6ef372, 0xa54ff53a, 0x510e527f, 0x9b05688c, 0x1f83d9ab, 0x5be0cd19⟩

/-- Rotate right. -/
def rotr (x : UInt32) (n : UInt32) : UInt32 := (x >>> n) ||| (x <<< (32 - n))

/-- A big-endian word from four bytes. -/
def wordOf (b0 b1 b2 b3 : UInt8) : UInt32 :=
  (b0.toUInt32 <<< 24) ||| (b1.toUInt32 <<< 16) ||| (b2.toUInt32 <<< 8) ||| b3.toUInt32

/-- The four big-endian bytes of a word. -/
def bytesOf (w : UInt32) : List UInt8 :=
  [(w >>> 24).toUInt8, (w >>> 16).toUInt8, (w >>> 8).toUInt8, w.toUInt8]

/-- The words of a block, four bytes each. -/
def wordsOf : List UInt8 → List UInt32
  | b0 :: b1 :: b2 :: b3 :: rest => wordOf b0 b1 b2 b3 :: wordsOf rest
  | _ => []

/-- The 64-word schedule of a block. -/
def schedule (block : List UInt8) : Array UInt32 :=
  let w0 := (wordsOf block).toArray
  (List.range 48).foldl (fun w i =>
    let t := i + 16
    let x15 := w.getD (t - 15) 0
    let x2 := w.getD (t - 2) 0
    let s0 := rotr x15 7 ^^^ rotr x15 18 ^^^ (x15 >>> 3)
    let s1 := rotr x2 17 ^^^ rotr x2 19 ^^^ (x2 >>> 10)
    w.push (w.getD (t - 16) 0 + s0 + w.getD (t - 7) 0 + s1)) w0

/-- One round of mixing with the schedule word `w` and round constant `k`. -/
def State.round (s : State) (k w : UInt32) : State :=
  let s1 := rotr s.e 6 ^^^ rotr s.e 11 ^^^ rotr s.e 25
  let ch := (s.e &&& s.f) ^^^ ((~~~ s.e) &&& s.g)
  let t1 := s.h + s1 + ch + k + w
  let s0 := rotr s.a 2 ^^^ rotr s.a 13 ^^^ rotr s.a 22
  let maj := (s.a &&& s.b) ^^^ (s.a &&& s.c) ^^^ (s.b &&& s.c)
  let t2 := s0 + maj
  ⟨t1 + t2, s.a, s.b, s.c, s.d + t1, s.e, s.f, s.g⟩

/-- Mix one 64-byte block into the state. -/
def State.compress (s : State) (block : List UInt8) : State :=
  let w := schedule block
  let r := (List.range 64).foldl
    (fun acc i => acc.round (roundConstants.getD i 0) (w.getD i 0)) s
  ⟨s.a + r.a, s.b + r.b, s.c + r.c, s.d + r.d, s.e + r.e, s.f + r.f, s.g + r.g, s.h + r.h⟩

/-- The eight bytes of a 64-bit big-endian length. -/
def lengthBytes (n : Nat) : List UInt8 :=
  (List.range 8).reverse.map (fun i => (n / Nat.pow 2 (8 * i) % 256).toUInt8)

/-- The message, a `0x80` byte, zeros, and the bit length, to a multiple of 64 bytes. -/
def pad (msg : List UInt8) : List UInt8 :=
  let zeros := (119 - msg.length % 64) % 64
  msg ++ [0x80] ++ List.replicate zeros 0 ++ lengthBytes (8 * msg.length)

set_option linter.unusedVariables false in
/-- Consecutive 64-byte blocks. -/
def blocks (bytes : List UInt8) : List (List UInt8) :=
  if h : bytes.length ≤ 64 then [bytes]
  else bytes.take 64 :: blocks (bytes.drop 64)
termination_by bytes.length
decreasing_by simp; omega

/-- The 32-byte digest of a byte list. -/
def digest (msg : List UInt8) : List UInt8 :=
  let s := (blocks (pad msg)).foldl State.compress State.initial
  [s.a, s.b, s.c, s.d, s.e, s.f, s.g, s.h].flatMap bytesOf

/-- A byte as two lowercase hexadecimal digits. -/
def hexByte (b : UInt8) : String :=
  let digit (d : Nat) : Char := if d < 10 then Char.ofNat (48 + d) else Char.ofNat (87 + d)
  String.ofList [digit (b.toNat / 16), digit (b.toNat % 16)]

/-- The digest of the UTF-8 bytes of a string, in lowercase hexadecimal. -/
def hexDigest (s : String) : String :=
  String.join ((digest s.toUTF8.toList).map hexByte)

end Digest

end QueryRelay
