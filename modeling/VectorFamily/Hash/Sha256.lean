/-!
# SHA-256

The message is padded to blocks of sixty-four bytes. Each block is spread over sixty-four words,
which are mixed into a state of eight words one after another.
-/

namespace VectorFamily.Sha256

/-- A round constant for each word of a block. -/
def roundConstants : Array UInt32 := #[
  0x428a2f98, 0x71374491, 0xb5c0fbcf, 0xe9b5dba5, 0x3956c25b, 0x59f111f1, 0x923f82a4, 0xab1c5ed5,
  0xd807aa98, 0x12835b01, 0x243185be, 0x550c7dc3, 0x72be5d74, 0x80deb1fe, 0x9bdc06a7, 0xc19bf174,
  0xe49b69c1, 0xefbe4786, 0x0fc19dc6, 0x240ca1cc, 0x2de92c6f, 0x4a7484aa, 0x5cb0a9dc, 0x76f988da,
  0x983e5152, 0xa831c66d, 0xb00327c8, 0xbf597fc7, 0xc6e00bf3, 0xd5a79147, 0x06ca6351, 0x14292967,
  0x27b70a85, 0x2e1b2138, 0x4d2c6dfc, 0x53380d13, 0x650a7354, 0x766a0abb, 0x81c2c92e, 0x92722c85,
  0xa2bfe8a1, 0xa81a664b, 0xc24b8b70, 0xc76c51a3, 0xd192e819, 0xd6990624, 0xf40e3585, 0x106aa070,
  0x19a4c116, 0x1e376c08, 0x2748774c, 0x34b0bcb5, 0x391c0cb3, 0x4ed8aa4a, 0x5b9cca4f, 0x682e6ff3,
  0x748f82ee, 0x78a5636f, 0x84c87814, 0x8cc70208, 0x90befffa, 0xa4506ceb, 0xbef9a3f7, 0xc67178f2]

/-- The eight words that a message is mixed into. -/
structure State where
  a : UInt32
  b : UInt32
  c : UInt32
  d : UInt32
  e : UInt32
  f : UInt32
  g : UInt32
  h : UInt32
deriving DecidableEq, Repr

def State.initial : State :=
  ⟨0x6a09e667, 0xbb67ae85, 0x3c6ef372, 0xa54ff53a, 0x510e527f, 0x9b05688c, 0x1f83d9ab, 0x5be0cd19⟩

/-- Rotation to the right; `n` is less than the width of a word and not zero. -/
def rotate (x : UInt32) (n : UInt32) : UInt32 := (x >>> n) ||| (x <<< (32 - n))

/-- The byte at a position, zero behind the end. -/
def byteAt (bytes : ByteArray) (i : Nat) : UInt8 := if h : i < bytes.size then bytes[i] else 0

/-- The word that starts at a position, its highest byte first. -/
def wordAt (bytes : ByteArray) (i : Nat) : UInt32 :=
  (byteAt bytes i).toUInt32 <<< 24 ||| (byteAt bytes (i + 1)).toUInt32 <<< 16 |||
    (byteAt bytes (i + 2)).toUInt32 <<< 8 ||| (byteAt bytes (i + 3)).toUInt32

/-- The bytes of a number, highest first. -/
def bigEndian (count n : Nat) : ByteArray :=
  ⟨((List.range count).map fun i => UInt8.ofNat (n >>> (8 * (count - 1 - i)))).toArray⟩

/-- The message with a one bit behind it, zeros, and its length in bits, in whole blocks. -/
def padded (message : ByteArray) : ByteArray :=
  -- fifty-five bytes of a block are left by the one bit and the length
  let zeros := (119 - message.size % 64) % 64
  message ++ ⟨#[0x80]⟩ ++ ⟨Array.replicate zeros 0⟩ ++ bigEndian 8 (8 * message.size)

/-- The first sixteen words of a block, and one more for each number below `count`. -/
def schedule (bytes : ByteArray) (start count : Nat) : Array UInt32 :=
  let words := ((List.range 16).map fun i => wordAt bytes (start + 4 * i)).toArray
  Nat.fold count (fun i _ w =>
    let x := w.getD (i + 1) 0
    let y := w.getD (i + 14) 0
    let s := rotate x 7 ^^^ rotate x 18 ^^^ (x >>> 3)
    let t := rotate y 17 ^^^ rotate y 19 ^^^ (y >>> 10)
    w.push (w.getD i 0 + s + w.getD (i + 9) 0 + t)) words

def State.round (s : State) (constant word : UInt32) : State :=
  let s₁ := rotate s.e 6 ^^^ rotate s.e 11 ^^^ rotate s.e 25
  let choice := (s.e &&& s.f) ^^^ (~~~s.e &&& s.g)
  let t₁ := s.h + s₁ + choice + constant + word
  let s₀ := rotate s.a 2 ^^^ rotate s.a 13 ^^^ rotate s.a 22
  let majority := (s.a &&& s.b) ^^^ (s.a &&& s.c) ^^^ (s.b &&& s.c)
  ⟨t₁ + (s₀ + majority), s.a, s.b, s.c, s.d + t₁, s.e, s.f, s.g⟩

def State.add (s t : State) : State :=
  ⟨s.a + t.a, s.b + t.b, s.c + t.c, s.d + t.d, s.e + t.e, s.f + t.f, s.g + t.g, s.h + t.h⟩

/-- Mixes the block that starts at a position into the state. -/
def State.absorb (s : State) (bytes : ByteArray) (start : Nat) : State :=
  let words := schedule bytes start 48
  s.add (Nat.fold 64 (fun i _ s => s.round (roundConstants.getD i 0) (words.getD i 0)) s)

def State.bytes (s : State) : ByteArray :=
  [s.a, s.b, s.c, s.d, s.e, s.f, s.g, s.h].foldl
    (fun out w => out ++ bigEndian 4 w.toNat) ByteArray.empty

def hash (message : ByteArray) : ByteArray :=
  let bytes := padded message
  (Nat.fold (bytes.size / 64) (fun i _ s => s.absorb bytes (64 * i)) State.initial).bytes

/-- Two hexadecimal digits for each byte. -/
def hex (bytes : ByteArray) : String :=
  String.ofList <| bytes.toList.flatMap fun b =>
    [Nat.digitChar (b.toNat / 16), Nat.digitChar (b.toNat % 16)]

end VectorFamily.Sha256
