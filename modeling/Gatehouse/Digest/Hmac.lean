import Gatehouse.Digest.Sha256

/-! HMAC over SHA-256: the digest of the message under two keyed pads. -/
namespace Gatehouse.Digest

/-- A key longer than a block is digested first; a shorter one is filled with zeros. -/
def hmacKey (key : Bytes) : Bytes :=
  let key := if key.length > 64 then Sha256.digest key else key
  key ++ List.replicate (64 - key.length) 0

def hmac (key message : Bytes) : Bytes :=
  let key := hmacKey key
  Sha256.digest (key.map (· ^^^ 0x5c) ++ Sha256.digest (key.map (· ^^^ 0x36) ++ message))

end Gatehouse.Digest
