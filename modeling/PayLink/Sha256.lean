/-!
# SHA-256

The hash of a byte sequence: 32 bytes. The message is padded to whole blocks of 64 bytes, and each
block stirs a state of eight words in 64 rounds.
-/

namespace PayLink.Sha256

/-- The constants of the rounds. -/
def roundConstants : List UInt32 :=
  [0x428a2f98, 0x71374491, 0xb5c0fbcf, 0xe9b5dba5, 0x3956c25b, 0x59f111f1, 0x923f82a4, 0xab1c5ed5,
    0xd807aa98, 0x12835b01, 0x243185be, 0x550c7dc3, 0x72be5d74, 0x80deb1fe, 0x9bdc06a7, 0xc19bf174,
    0xe49b69c1, 0xefbe4786, 0x0fc19dc6, 0x240ca1cc, 0x2de92c6f, 0x4a7484aa, 0x5cb0a9dc, 0x76f988da,
    0x983e5152, 0xa831c66d, 0xb00327c8, 0xbf597fc7, 0xc6e00bf3, 0xd5a79147, 0x06ca6351, 0x14292967,
    0x27b70a85, 0x2e1b2138, 0x4d2c6dfc, 0x53380d13, 0x650a7354, 0x766a0abb, 0x81c2c92e, 0x92722c85,
    0xa2bfe8a1, 0xa81a664b, 0xc24b8b70, 0xc76c51a3, 0xd192e819, 0xd6990624, 0xf40e3585, 0x106aa070,
    0x19a4c116, 0x1e376c08, 0x2748774c, 0x34b0bcb5, 0x391c0cb3, 0x4ed8aa4a, 0x5b9cca4f, 0x682e6ff3,
    0x748f82ee, 0x78a5636f, 0x84c87814, 0x8cc70208, 0x90befffa, 0xa4506ceb, 0xbef9a3f7, 0xc67178f2]

/-- The eight words that the blocks stir. -/
structure State where
  /-- The first word. -/
  a : UInt32
  /-- The second word. -/
  b : UInt32
  /-- The third word. -/
  c : UInt32
  /-- The fourth word. -/
  d : UInt32
  /-- The fifth word. -/
  e : UInt32
  /-- The sixth word. -/
  f : UInt32
  /-- The seventh word. -/
  g : UInt32
  /-- The eighth word. -/
  h : UInt32
  deriving DecidableEq, Repr

/-- The words before the first block. -/
def start : State :=
  ⟨0x6a09e667, 0xbb67ae85, 0x3c6ef372, 0xa54ff53a, 0x510e527f, 0x9b05688c, 0x1f83d9ab, 0x5be0cd19⟩

/-- The bits of a word, turned to the right. -/
def rotate (w k : UInt32) : UInt32 :=
  (w >>> k) ||| (w <<< (32 - k))

/-- Further words of a block, each from the sixteen before it. -/
def extend : (count : Nat) → List UInt32 → List UInt32
  | 0, window => window
  | count + 1, window =>
    let near := window.getD 1 0
    let far := window.getD 14 0
    let s0 := rotate near 7 ^^^ rotate near 18 ^^^ (near >>> 3)
    let s1 := rotate far 17 ^^^ rotate far 19 ^^^ (far >>> 10)
    let next := window.getD 0 0 + s0 + window.getD 9 0 + s1
    window.getD 0 0 :: extend count (window.drop 1 ++ [next])

/-- The big-endian words of bytes. -/
def words : List UInt8 → List UInt32
  | p :: q :: r :: s :: rest =>
    ((p.toUInt32 <<< 24) ||| (q.toUInt32 <<< 16) ||| (r.toUInt32 <<< 8) ||| s.toUInt32)
      :: words rest
  | _ => []

/-- One round with a constant and a word of the block. -/
def round (st : State) (k w : UInt32) : State :=
  let s1 := rotate st.e 6 ^^^ rotate st.e 11 ^^^ rotate st.e 25
  let choice := (st.e &&& st.f) ^^^ ((~~~ st.e) &&& st.g)
  let t1 := st.h + s1 + choice + k + w
  let s0 := rotate st.a 2 ^^^ rotate st.a 13 ^^^ rotate st.a 22
  let majority := (st.a &&& st.b) ^^^ (st.a &&& st.c) ^^^ (st.b &&& st.c)
  ⟨t1 + (s0 + majority), st.a, st.b, st.c, st.d + t1, st.e, st.f, st.g⟩

/-- Stirs one block of 64 bytes. -/
def compress (st : State) (block : List UInt8) : State :=
  let out := (roundConstants.zip (extend 48 (words block))).foldl
    (fun st kw => round st kw.1 kw.2) st
  ⟨st.a + out.a, st.b + out.b, st.c + out.c, st.d + out.d,
    st.e + out.e, st.f + out.f, st.g + out.g, st.h + out.h⟩

/-- The bytes of `n` in big-endian order, `count` of them. -/
def bigEndian : (count : Nat) → (n : Nat) → List UInt8
  | 0, _ => []
  | count + 1, n => UInt8.ofNat (n / Nat.pow 256 count) :: bigEndian count n

/-- The message with a one bit, zeros and its length in bits, in whole blocks. -/
def padded (bs : List UInt8) : List UInt8 :=
  bs ++ 0x80 :: List.replicate ((119 - bs.length % 64) % 64) 0 ++ bigEndian 8 (bs.length * 8)

/-- Stirs `count` blocks. -/
def stir (st : State) : (count : Nat) → List UInt8 → State
  | 0, _ => st
  | count + 1, bs => stir (compress st (bs.take 64)) count (bs.drop 64)

/-- The four bytes of a word. -/
def bytesOf (w : UInt32) : List UInt8 :=
  [(w >>> 24).toUInt8, (w >>> 16).toUInt8, (w >>> 8).toUInt8, w.toUInt8]

/-- The hash of bytes. -/
def hash (bs : List UInt8) : List UInt8 :=
  let message := padded bs
  let st := stir start (message.length / 64) message
  bytesOf st.a ++ bytesOf st.b ++ bytesOf st.c ++ bytesOf st.d
    ++ bytesOf st.e ++ bytesOf st.f ++ bytesOf st.g ++ bytesOf st.h

/-- A hash has 32 bytes. -/
@[simp] theorem length_hash (bs : List UInt8) : (hash bs).length = 32 := by
  simp [hash, bytesOf]

end PayLink.Sha256
