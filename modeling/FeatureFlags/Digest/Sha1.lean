import FeatureFlags.Digest.Message

/-!
# SHA-1

The 160-bit digest of FIPS 180-4, by which contexts are spread over buckets.
-/

namespace FeatureFlags.Digest.Sha1

/-- The five words carried from block to block. -/
structure State where
  a : UInt32
  b : UInt32
  c : UInt32
  d : UInt32
  e : UInt32
  deriving DecidableEq, Repr

/-- The state before the first block. -/
def initial : State := ⟨0x67452301, 0xEFCDAB89, 0x98BADCFE, 0x10325476, 0xC3D2E1F0⟩

/-- Appends words to a message schedule, each the rotated sum of four earlier ones. -/
def extend : Nat → Array UInt32 → Array UInt32
  | 0, w => w
  | n + 1, w =>
    let at' (back : Nat) : UInt32 := w.getD (w.size - back) 0
    extend n (w.push (rotateLeft (at' 3 ^^^ at' 8 ^^^ at' 14 ^^^ at' 16) 1))

/-- The eighty words of the schedule of a block. -/
def schedule (block : List UInt32) : Array UInt32 := extend 64 block.toArray

/-- The mixing function and the constant of a round. -/
def roundFunction (round : Nat) (s : State) : UInt32 × UInt32 :=
  if round < 20 then (choose s.b s.c s.d, 0x5A827999)
  else if round < 40 then (s.b ^^^ s.c ^^^ s.d, 0x6ED9EBA1)
  else if round < 60 then (majority s.b s.c s.d, 0x8F1BBCDC)
  else (s.b ^^^ s.c ^^^ s.d, 0xCA62C1D6)

/-- One round with a word of the schedule. -/
def step (s : State) (round : Nat) (word : UInt32) : State :=
  let (f, k) := roundFunction round s
  ⟨rotateLeft s.a 5 + f + s.e + k + word, s.a, rotateLeft s.b 30, s.c, s.d⟩

/-- Mixes a block into the state. -/
def compress (s : State) (block : List UInt32) : State :=
  let t := (schedule block).toList.zipIdx.foldl (fun t (word, round) => step t round word) s
  ⟨s.a + t.a, s.b + t.b, s.c + t.c, s.d + t.d, s.e + t.e⟩

/-- The digest of a message. -/
def hash (message : List UInt8) : List UInt8 :=
  let s := (blocks message).foldl compress initial
  bytesOfWords [s.a, s.b, s.c, s.d, s.e]

end FeatureFlags.Digest.Sha1
