import ApiGateway.Crypto.Sha2

/-! # Keyed hashes

The HMAC construction over the three hash functions that tokens are signed with.
-/

namespace ApiGateway

inductive HashFunction
  | sha256
  | sha384
  | sha512
  deriving DecidableEq, Repr

namespace HashFunction

def digest : HashFunction → Bytes → Bytes
  | sha256 => Sha2.sha256
  | sha384 => Sha2.sha384
  | sha512 => Sha2.sha512

def blockBytes : HashFunction → Nat
  | sha256 => Sha2.words32.blockBytes
  | sha384 => Sha2.words64.blockBytes
  | sha512 => Sha2.words64.blockBytes

/-- The key filled up with zeros to a block; a longer one is hashed first. -/
def blockKey (hash : HashFunction) (key : Bytes) : Bytes :=
  let short := if hash.blockBytes < key.length then hash.digest key else key
  short ++ List.replicate (hash.blockBytes - short.length) 0

def hmac (hash : HashFunction) (key message : Bytes) : Bytes :=
  let key := hash.blockKey key
  let inner := hash.digest (key.map (· ^^^ 0x36) ++ message)
  hash.digest (key.map (· ^^^ 0x5C) ++ inner)

end HashFunction

end ApiGateway
