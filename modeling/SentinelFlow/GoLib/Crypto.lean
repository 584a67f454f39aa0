import SentinelFlow.GoLib.Bytes

/-!
# Cryptographic primitives

SHA-256 and Ed25519 as deterministic functions about which nothing is assumed
but the sizes of what they return, and HMAC-SHA256 on top of the first.
-/

namespace GoLib

structure Crypto where
  sha256 : Bytes → Bytes
  ed25519Verify : (publicKey message signature : Bytes) → Bool
  ed25519Sign : (privateKey message : Bytes) → Bytes
  length_sha256 : ∀ message, (sha256 message).length = 32
  length_ed25519Sign : ∀ privateKey message,
    (ed25519Sign privateKey message).length = 64

/-- The block size of SHA-256. -/
def hmacBlock : Nat := 64

/-- `hmac.New(sha256.New, key)` over one message. -/
def Crypto.hmacSHA256 (crypto : Crypto) (key message : Bytes) : Bytes :=
  let short := if hmacBlock < key.length then crypto.sha256 key else key
  let padded := short ++ List.replicate (hmacBlock - short.length) 0
  crypto.sha256 (padded.map (· ^^^ 0x5c) ++
    crypto.sha256 (padded.map (· ^^^ 0x36) ++ message))

theorem Crypto.length_hmacSHA256 (crypto : Crypto) (key message : Bytes) :
    (crypto.hmacSHA256 key message).length = 32 :=
  crypto.length_sha256 _

end GoLib
