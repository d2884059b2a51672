import ApiToolbox.Text.Utf8

/-!
SHA-256: a message is padded to blocks of 64 bytes, each block is expanded to 64 words, and the words
are mixed one after the other into a state of eight words.
-/

namespace ApiToolbox.Digest.Sha256

/-- The words that the rounds add: the fractional parts of the cube roots of the first 64 primes. -/
def roundWords : List UInt32 :=
  [0x428a2f98, 0x71374491, 0xb5c0fbcf, 0xe9b5dba5, 0x3956c25b, 0x59f111f1, 0x923f82a4, 0xab1c5ed5,
   0xd807aa98, 0x12835b01, 0x243185be, 0x550c7dc3, 0x72be5d74, 0x80deb1fe, 0x9bdc06a7, 0xc19bf174,
   0xe49b69c1, 0xefbe4786, 0x0fc19dc6, 0x240ca1cc, 0x2de92c6f, 0x4a7484aa, 0x5cb0a9dc, 0x76f988da,
   0x983e5152, 0xa831c66d, 0xb00327c8, 0xbf597fc7, 0xc6e00bf3, 0xd5a79147, 0x06ca6351, 0x14292967,
   0x27b70a85, 0x2e1b2138, 0x4d2c6dfc, 0x53380d13, 0x650a7354, 0x766a0abb, 0x81c2c92e, 0x92722c85,
   0xa2bfe8a1, 0xa81a664b, 0xc24b8b70, 0xc76c51a3, 0xd192e819, 0xd6990624, 0xf40e3585, 0x106aa070,
   0x19a4c116, 0x1e376c08, 0x2748774c, 0x34b0bcb5, 0x391c0cb3, 0x4ed8aa4a, 0x5b9cca4f, 0x682e6ff3,
   0x748f82ee, 0x78a5636f, 0x84c87814, 0x8cc70208, 0x90befffa, 0xa4506ceb, 0xbef9a3f7, 0xc67178f2]

structure State where
  a : UInt32
  b : UInt32
  c : UInt32
  d : UInt32
  e : UInt32
  f : UInt32
  g : UInt32
  h : UInt32
  deriving DecidableEq, Repr

/-- The state before the first block: the fractional parts of the square roots of the first eight
primes. -/
def State.start : State :=
  ⟨0x6a09e667, 0xbb67ae85, 0x3c6ef372, 0xa54ff53a,
   0x510e527f, 0x9b05688c, 0x1f83d9ab, 0x5be0cd19⟩

def turn (x : UInt32) (n : UInt32) : UInt32 := (x >>> n) ||| (x <<< (32 - n))

def State.round (s : State) (word : UInt32) : State :=
  let mixE := turn s.e 6 ^^^ turn s.e 11 ^^^ turn s.e 25
  let choice := (s.e &&& s.f) ^^^ (~~~s.e &&& s.g)
  let t := s.h + mixE + choice + word
  let mixA := turn s.a 2 ^^^ turn s.a 13 ^^^ turn s.a 22
  let majority := (s.a &&& s.b) ^^^ (s.a &&& s.c) ^^^ (s.b &&& s.c)
  ⟨t + mixA + majority, s.a, s.b, s.c, s.d + t, s.e, s.f, s.g⟩

def State.add (s t : State) : State :=
  ⟨s.a + t.a, s.b + t.b, s.c + t.c, s.d + t.d, s.e + t.e, s.f + t.f, s.g + t.g, s.h + t.h⟩

/-- Four bytes as a word, the first the highest. -/
def word (bytes : List UInt8) : UInt32 :=
  bytes.foldl (fun w b => (w <<< 8) ||| b.toUInt32) 0

/-- Extend the words of a block, newest first, by `n` more. -/
def extend : Nat → List UInt32 → List UInt32
  | 0, ws => ws
  | n + 1, ws =>
    let old (i : Nat) : UInt32 := ws.getD (i - 1) 0
    let low := turn (old 15) 7 ^^^ turn (old 15) 18 ^^^ (old 15 >>> 3)
    let high := turn (old 2) 17 ^^^ turn (old 2) 19 ^^^ (old 2 >>> 10)
    extend n ((old 16 + low + old 7 + high) :: ws)

def schedule (block : List UInt8) : List UInt32 :=
  let first := (List.range 16).map fun i => word ((block.drop (4 * i)).take 4)
  (extend 48 first.reverse).reverse

def State.absorb (s : State) (block : List UInt8) : State :=
  s.add (((schedule block).zip roundWords).foldl (fun t (w, k) => t.round (w + k)) s)

/-- The `n` lowest bytes of a number, the highest first. -/
def bigEndian : Nat → Nat → List UInt8
  | 0, _ => []
  | n + 1, x => bigEndian n (x / 256) ++ [UInt8.ofNat x]

/-- The message with a one bit, zeros, and its length in bits. -/
def pad (message : List UInt8) : List UInt8 :=
  let zeros := (119 - message.length % 64) % 64
  message ++ 0x80 :: List.replicate zeros 0 ++ bigEndian 8 (8 * message.length)

def absorbAll : Nat → State → List UInt8 → State
  | 0, s, _ => s
  | n + 1, s, bytes => absorbAll n (s.absorb (bytes.take 64)) (bytes.drop 64)

def hash (message : List UInt8) : List UInt8 :=
  let padded := pad message
  let s := absorbAll (padded.length / 64) State.start padded
  [s.a, s.b, s.c, s.d, s.e, s.f, s.g, s.h].flatMap fun w => bigEndian 4 w.toNat

/-- The digest of a text in lower-case hexadecimal digits. -/
def hex (text : String) : String :=
  String.ofList ((hash (Text.Utf8.encode text.toList)).flatMap fun b =>
    [digit (b.toNat / 16), digit (b.toNat % 16)])
where
  digit (n : Nat) : Char := if n < 10 then Char.ofNat (48 + n) else Char.ofNat (87 + n)

end ApiToolbox.Digest.Sha256
