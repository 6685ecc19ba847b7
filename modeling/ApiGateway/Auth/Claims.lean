import ApiGateway.Json.Shape

/-! # Claims

The payload of a token is a JSON document, and its claims are the members. Some claims are
registered: they must not repeat, and of two kinds of value the reader cannot make anything.
-/

namespace ApiGateway

abbrev Claims := Json.Members

namespace Claims

def subject? (claims : Claims) : Option Text := (claims.get? "sub").bind Json.text?

end Claims

namespace Payload

open Json Json.Raw

/-- A value that a claim of a time can have: anything but an array or an object with content. -/
def timeShape : Shape
  | .array items => items.isEmpty
  | .object members => members.isEmpty
  | _ => true

/-- A value that the claim of the subject can have: anything but an array or an object. -/
def subjectShape : Shape
  | .array _ => false
  | .object _ => false
  | _ => true

/-- The registered claims in order. -/
def registered : Layout :=
  [("exp", timeShape), ("nbf", timeShape), ("sub", subjectShape), ("iss", fun _ => true),
    ("aud", fun _ => true)]

/-- Whether the registered claims of a payload can be read. An array is read as the registered
claims in order. -/
def isReadable (payload : Raw) : Bool :=
  match payload with
  | .array items =>
    items.length == registered.length &&
      (items.zip registered).all fun (item, _, shape) => shape item
  | payload =>
    match payload.members? with
    | some members => registered.all fun (name, shape) => shape.atMost 1 name members
    | none => false

/-- The time that a value stands for: a number that is not negative and fits 64 bits, rounded. -/
def time? : Json → Option Nat
  | .integer (.ofNat n) => some n
  | .real x =>
    let (n, d) := x.fraction
    if (!x.negative ∨ x.isZero) ∧ n < d * Nat.pow 2 64 then some x.roundHalfUp else none
  | _ => none

/-- The time after which a token is no longer accepted, if the payload gives one. -/
def expiry? : Json → Option Nat
  | .array items => items.head?.bind time?
  | payload => (payload.member? "exp").bind time?

end Payload

/-- Whom a token is for. -/
inductive Audience
  | single (name : Text)
  | many (names : List Text)
  deriving DecidableEq, Repr

namespace Audience

/-- Reads the claim of the audience. In a list only the texts count. -/
def ofClaim? : Json → Option Audience
  | .string name => some (.single name)
  | .array items => some (.many (items.filterMap Json.text?))
  | _ => none

def contains (name : Text) : Audience → Bool
  | single s => s == name
  | many names => names.contains name

end Audience

end ApiGateway
