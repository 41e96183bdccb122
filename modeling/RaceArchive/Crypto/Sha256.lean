/-!
# SHA-256

The hash of FIPS 180-4: the message is padded with a one bit, zeros and its bit length to a
multiple of 64 octets, and each block updates an eight-word chaining state through 64 rounds over
a schedule of 64 words. The digest is the final state, each word big-endian.
-/

namespace RaceArchive.Sha256

/-- The round constants: the first 32 bits of the fractional parts of the cube roots of the first
64 primes. -/
def roundConstants : Array UInt32 := #[
  0x428a2f98, 0x71374491, 0xb5c0fbcf, 0xe9b5dba5, 0x3956c25b, 0x59f111f1, 0x923f82a4, 0xab1c5ed5,
  0xd807aa98, 0x12835b01, 0x243185be, 0x550c7dc3, 0x72be5d74, 0x80deb1fe, 0x9bdc06a7, 0xc19bf174,
  0xe49b69c1, 0xefbe4786, 0x0fc19dc6, 0x240ca1cc, 0x2de92c6f, 0x4a7484aa, 0x5cb0a9dc, 0x76f988da,
  0x983e5152, 0xa831c66d, 0xb00327c8, 0xbf597fc7, 0xc6e00bf3, 0xd5a79147, 0x06ca6351, 0x14292967,
  0x27b70a85, 0x2e1b2138, 0x4d2c6dfc, 0x53380d13, 0x650a7354, 0x766a0abb, 0x81c2c92e, 0x92722c85,
  0xa2bfe8a1, 0xa81a664b, 0xc24b8b70, 0xc76c51a3, 0xd192e819, 0xd6990624, 0xf40e3585, 0x106aa070,
  0x19a4c116, 0x1e376c08, 0x2748774c, 0x34b0bcb5, 0x391c0cb3, 0x4ed8aa4a, 0x5b9cca4f, 0x682e6ff3,
  0x748f82ee, 0x78a5636f, 0x84c87814, 0x8cc70208, 0x90befffa, 0xa4506ceb, 0xbef9a3f7, 0xc67178f2]

/-- The initial state: the first 32 bits of the fractional parts of the square roots of the first
eight primes. -/
def initial : Vector UInt32 8 :=
  #v[0x6a09e667, 0xbb67ae85, 0x3c6ef372, 0xa54ff53a, 0x510e527f, 0x9b05688c, 0x1f83d9ab, 0x5be0cd19]

def rotr (x : UInt32) (n : UInt32) : UInt32 := (x >>> n) ||| (x <<< (32 - n))

def sigma0 (x : UInt32) : UInt32 := rotr x 7 ^^^ rotr x 18 ^^^ (x >>> 3)

def sigma1 (x : UInt32) : UInt32 := rotr x 17 ^^^ rotr x 19 ^^^ (x >>> 10)

def bigSigma0 (x : UInt32) : UInt32 := rotr x 2 ^^^ rotr x 13 ^^^ rotr x 22

def bigSigma1 (x : UInt32) : UInt32 := rotr x 6 ^^^ rotr x 11 ^^^ rotr x 25

def wordAt (b : ByteArray) (i : Nat) : UInt32 :=
  let o (k : Nat) : UInt32 := (b[i + k]?.getD 0).toUInt32
  (o 0 <<< 24) ||| (o 1 <<< 16) ||| (o 2 <<< 8) ||| o 3

/-- The 64-word schedule of the block at `start`. -/
def schedule (b : ByteArray) (start : Nat) : Array UInt32 :=
  (List.range 64).foldl (fun w i =>
    if i < 16 then w.push (wordAt b (start + 4 * i))
    else
      let word (k : Nat) : UInt32 := w[k]?.getD 0
      w.push (word (i - 16) + sigma0 (word (i - 15)) + word (i - 7) + sigma1 (word (i - 2)))) #[]

/-- One round: the working variables after mixing in a constant and a schedule word. -/
def round (v : Vector UInt32 8) (k w : UInt32) : Vector UInt32 8 :=
  let a := v[0]
  let b := v[1]
  let c := v[2]
  let d := v[3]
  let e := v[4]
  let f := v[5]
  let g := v[6]
  let h := v[7]
  let t1 := h + bigSigma1 e + ((e &&& f) ^^^ (~~~e &&& g)) + k + w
  let t2 := bigSigma0 a + ((a &&& b) ^^^ (a &&& c) ^^^ (b &&& c))
  #v[t1 + t2, a, b, c, d + t1, e, f, g]

/-- The state after compressing the block at `start`. -/
def compress (state : Vector UInt32 8) (b : ByteArray) (start : Nat) : Vector UInt32 8 :=
  let w := schedule b start
  let v := (List.range 64).foldl (fun v i =>
    round v (roundConstants[i]?.getD 0) (w[i]?.getD 0)) state
  Vector.ofFn fun i => state[i] + v[i]

/-- The message with its padding: a one bit, zeros, and the bit length as 64 bits. -/
def pad (m : ByteArray) : ByteArray :=
  let len := m.size
  let zeros := (55 + 64 - len % 64) % 64
  let lengthOctets := (List.range 8).reverse.map fun k => (len * 8 / Nat.pow 2 (8 * k) % 256).toUInt8
  (m.push 0x80) ++ ⟨(List.replicate zeros (0 : UInt8) ++ lengthOctets).toArray⟩

/-- The digest of a message. -/
def hash (m : ByteArray) : ByteArray :=
  let p := pad m
  let state := (List.range (p.size / 64)).foldl (fun s i => compress s p (64 * i)) initial
  ⟨(state.toList.flatMap fun (w : UInt32) =>
    [(w >>> 24).toUInt8, (w >>> 16).toUInt8, (w >>> 8).toUInt8, w.toUInt8]).toArray⟩

end RaceArchive.Sha256
