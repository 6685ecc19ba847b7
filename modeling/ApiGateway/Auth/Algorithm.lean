import ApiGateway.Crypto.Hmac

/-! # Signing algorithms

The algorithms that a token can name, and the hash function of those that sign with a shared
secret.
-/

namespace ApiGateway

inductive Algorithm
  | hs256 | hs384 | hs512
  | es256 | es384
  | rs256 | rs384 | rs512
  | ps256 | ps384 | ps512
  | edDsa
  deriving DecidableEq, Repr

namespace Algorithm

def all : List Algorithm :=
  [hs256, hs384, hs512, es256, es384, rs256, rs384, rs512, ps256, ps384, ps512, edDsa]

def name : Algorithm → Text
  | hs256 => "HS256"
  | hs384 => "HS384"
  | hs512 => "HS512"
  | es256 => "ES256"
  | es384 => "ES384"
  | rs256 => "RS256"
  | rs384 => "RS384"
  | rs512 => "RS512"
  | ps256 => "PS256"
  | ps384 => "PS384"
  | ps512 => "PS512"
  | edDsa => "EdDSA"

def ofName? (name : Text) : Option Algorithm := all.find? (·.name = name)

/-- The hash function of an algorithm with a shared secret; the others have none. -/
def hash? : Algorithm → Option HashFunction
  | hs256 => some .sha256
  | hs384 => some .sha384
  | hs512 => some .sha512
  | _ => none

def accepted : List Algorithm := all.filter (·.hash?.isSome)

theorem mem_all (a : Algorithm) : a ∈ all := by cases a <;> decide

end Algorithm

end ApiGateway
