import FeatureFlags.Binary.Shortest
import FeatureFlags.Digest.Sha1
import FeatureFlags.Digest.Sha256
import FeatureFlags.Digest.Base64
import FeatureFlags.Text.Utf8

/-!
# Buckets

A context is placed in a bucket between 0 and 1 by hashing what identifies it together with a prefix: a
key and a salt, or a seed. The first fifteen hexadecimal digits of the SHA-1 digest are read as a
number and divided by the greatest such number, both in single precision.
-/

namespace FeatureFlags

-- powers are those of the core library, whatever else is imported
attribute [local instance (high)] instPowNat

/-- What is hashed before the identity of a context. -/
inductive BucketPrefix where
  | keyAndSalt (key salt : String)
  | seed (seed : Int)
  deriving DecidableEq, Repr

/-- The text of a prefix. -/
def BucketPrefix.text : BucketPrefix → String
  | keyAndSalt key salt => key ++ "." ++ salt
  | seed n => String.ofList (integerText n)

/-- The greatest number of fifteen hexadecimal digits. -/
def greatestHash : Nat := 2 ^ (60 : Nat) - 1

/-- The first fifteen hexadecimal digits of a digest as a number. -/
def hashNumber (digest : List UInt8) : Nat :=
  (digest.take 8).foldl (fun n b => n * 256 + b.toNat) 0 / 16

/-- The bucket of a hash number. -/
def bucketOfHash (n : Nat) : Single := (Binary.ofNat n).div (Binary.ofNat greatestHash)

/-- The bucket of an identity under a prefix. -/
def bucketValue (hashPrefix : BucketPrefix) (identity : String) : Single :=
  bucketOfHash (hashNumber (Digest.Sha1.hash (Text.Utf8.encode (hashPrefix.text ++ "." ++ identity))))

/-- The key under which a big segment store keeps the memberships of a context. -/
def bigSegmentHash (key : String) : String :=
  String.ofList (Digest.Base64.encode (Digest.Sha256.hash (Text.Utf8.encode key)))

end FeatureFlags
