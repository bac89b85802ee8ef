import Camouflage.Digest.Sha256

namespace Camouflage

namespace Hmac

def blockLength : Nat := 64

def block (key : Bytes) : Bytes :=
  let key := if key.length ≤ blockLength then key else (sha256 key).toList
  key ++ List.replicate (blockLength - key.length) 0

end Hmac

def hmacSha256 (key message : Bytes) : Digest :=
  let block := Hmac.block key
  let inner := sha256 (block.map (· ^^^ 0x36) ++ message)
  sha256 (block.map (· ^^^ 0x5c) ++ inner.toList)

end Camouflage
