import ApiGateway.Auth.Algorithm
import ApiGateway.Json.Shape

/-! # Token headers

The header of a token is a JSON document that names the signing algorithm. Its other registered
members have types, too, and must not repeat; members that are not registered are skipped. The
header may also be an array of the registered members in order.
-/

namespace ApiGateway.TokenHeader

open Json Json.Raw

def certificateMembers : Layout :=
  [("x5u", .optional .text), ("x5c", .optional .texts), ("x5t", .optional .text),
    ("x5t#S256", .optional .text)]

def keyAlgorithms : List Text :=
  (Algorithm.all.map (·.name)) ++ ["RSA1_5", "RSA-OAEP", "RSA-OAEP-256"].map String.toList

/-- The members that a key of any type can have. -/
def keyMembers : Layout :=
  ([("use", .optional .text), ("key_ops", .optional .texts),
    ("alg", .optional (.word keyAlgorithms)), ("kid", .optional .text)] : Layout) ++
    certificateMembers

def curves : List Text := ["P-256", "P-384", "P-521", "Ed25519"].map String.toList

/-- The members that a key of one of the four types has. -/
def keyTypes : List Layout :=
  [[("kty", .word ["EC"]), ("crv", .word curves), ("x", .text), ("y", .text)],
    [("kty", .word ["RSA"]), ("n", .text), ("e", .text)],
    [("kty", .word ["oct"]), ("k", .text)],
    [("kty", .word ["OKP"]), ("crv", .word curves), ("x", .text)]]

/-- A key: all of it has values, nested at most `depth` deep, and it is of one of the types. -/
def key (depth : Nat) : Shape := fun r =>
  match r.members? with
  | none => false
  | some members =>
    (r.value? depth).isSome &&
      (keyMembers.all fun (name, shape) => shape.atMost 1 name members) &&
      keyTypes.any fun required => required.all fun (name, shape) => shape.once name members

def registered : Layout :=
  ([("typ", .optional .text), ("alg", .word (Algorithm.all.map (·.name))),
    ("cty", .optional .text), ("jku", .optional .text),
    ("jwk", .optional (key (Raw.maxDepth - 1))), ("kid", .optional .text)] : Layout) ++
    certificateMembers

def algorithm? (header : Raw) : Option Algorithm :=
  match header with
  | .array items =>
    if items.length = registered.length ∧
        (items.zip registered).all (fun (item, _, shape) => shape item) then
      (items[1]?.bind word?).bind Algorithm.ofName?
    else none
  | header => do
    let members ← header.members?
    if registered.all fun (name, shape) => shape.atMost 1 name members then
      let alg ← members.find? (·.1 = ("alg" : Text))
      Algorithm.ofName? (← alg.2.word?)
    else none

end ApiGateway.TokenHeader
