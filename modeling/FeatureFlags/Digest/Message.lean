/-!
# Message padding

The padding that SHA-1 and SHA-256 share: a set bit, zeros, and the length of the message in bits as 64
bits, so that the whole is a sequence of blocks of sixteen 32-bit words.
-/

namespace FeatureFlags.Digest

-- powers are those of the core library, whatever else is imported
attribute [local instance (high)] instPowNat

/-- The number of zero bytes between the set bit and the length. -/
def zeroCount (length : Nat) : Nat := (119 - length % 64) % 64

/-- The lowest `count` bytes of a number, most significant first. -/
def bytesOf (count n : Nat) : List UInt8 :=
  (List.range count).reverse.map fun i => UInt8.ofNat (n / 256 ^ i % 256)

/-- A message with its padding. -/
def pad (message : List UInt8) : List UInt8 :=
  message ++ 0x80 :: List.replicate (zeroCount message.length) 0 ++ bytesOf 8 (message.length * 8)

/-- The bytes of a message as 32-bit words, most significant byte first. -/
def wordsOf : List UInt8 → List UInt32
  | a :: b :: c :: d :: rest =>
    (a.toUInt32 <<< 24 ||| b.toUInt32 <<< 16 ||| c.toUInt32 <<< 8 ||| d.toUInt32) :: wordsOf rest
  | _ => []

/-- The words of a message in blocks of sixteen; `count` bounds the number of blocks. -/
def blocksOf : Nat → List UInt32 → List (List UInt32)
  | 0, _ => []
  | _ + 1, [] => []
  | count + 1, words => words.take 16 :: blocksOf count (words.drop 16)

/-- The blocks of a padded message. -/
def blocks (message : List UInt8) : List (List UInt32) :=
  let words := wordsOf (pad message)
  blocksOf words.length words

/-- A word rotated to the left. -/
def rotateLeft (w : UInt32) (n : UInt32) : UInt32 := w <<< n ||| w >>> (32 - n)

/-- A word rotated to the right. -/
def rotateRight (w : UInt32) (n : UInt32) : UInt32 := w >>> n ||| w <<< (32 - n)

/-- Where the bits of the first word are set the bits of the second, elsewhere those of the third. -/
def choose (x y z : UInt32) : UInt32 := (x &&& y) ^^^ (~~~x &&& z)

/-- The bits that are set in at least two of three words. -/
def majority (x y z : UInt32) : UInt32 := (x &&& y) ^^^ (x &&& z) ^^^ (y &&& z)

/-- The bytes of a list of words. -/
def bytesOfWords (words : List UInt32) : List UInt8 := words.flatMap fun w => bytesOf 4 w.toNat

end FeatureFlags.Digest
