import Mathlib.Init

/-!
# FNV-1a hashes of field lists

The hash is computed over the UTF-8 bytes of the fields; a zero byte separates
two fields.
-/

namespace StreamAnalytics
namespace Fnv

/-- `fnv64aOffset`. -/
def offset : UInt64 := 14695981039346656037

/-- `fnv64aPrime`. -/
def prime : UInt64 := 1099511628211

/-- The UTF-8 encoding of a string. -/
def bytes (s : String) : List UInt8 := s.toList.flatMap String.utf8EncodeChar

/-- One byte: exclusive or, then multiply. -/
def mix (h : UInt64) (b : UInt8) : UInt64 := (h ^^^ b.toUInt64) * prime

/-- `SumFieldsFast64`. -/
def sumFieldsFast64 : List String → UInt64
  | [] => offset
  | f :: fs => fs.foldl (fun h f => (bytes f).foldl mix (mix h 0)) ((bytes f).foldl mix offset)

/-- The eight bytes of a number, the highest first. -/
def bigEndian (u : UInt64) : List UInt8 :=
  ([56, 48, 40, 32, 24, 16, 8, 0] : List UInt64).map fun shift => (u >>> shift).toUInt8

/-- `SumIdempotencyKeyFast64`. -/
def sumIdempotencyKeyFast64 (venue instrument eventType : String) (seq : Int) : UInt64 :=
  (bigEndian (UInt64.ofInt seq)).foldl mix (mix (sumFieldsFast64 [venue, instrument, eventType]) 0)

/-- `fnv.New32a`: the hash of the bytes written. -/
def sum32a (bs : List UInt8) : UInt32 :=
  bs.foldl (fun h b => (h ^^^ b.toUInt32) * 16777619) 2166136261

/-- `strconv.FormatUint` in base 16. -/
def formatHex (u : UInt64) : String := String.ofList (Nat.toDigits 16 u.toNat)

/-- `IdempotencyKeyFast`. -/
def idempotencyKeyFast (venue instrument eventType : String) (seq : Int) : String :=
  formatHex (sumIdempotencyKeyFast64 venue instrument eventType seq)

end Fnv
end StreamAnalytics
