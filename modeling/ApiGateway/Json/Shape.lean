import ApiGateway.Json.Value

/-! # Shapes of JSON text

Checks on a document whose members have fixed names and types. A member that has no type of its own
is not looked into.
-/

namespace ApiGateway.Json.Raw

abbrev Shape := Raw → Bool

/-- Names of members and the shapes of their values. -/
abbrev Layout := List (Text × Shape)

def text? : Raw → Option Text
  | .string s => s.text?
  | _ => none

/-- A name, written as a string or as an object whose one member is null. -/
def word? : Raw → Option Text
  | .string s => s.text?
  | .object [(key, .null)] => key.text?
  | _ => none

def members? : Raw → Option (List (Text × Raw))
  | .object members => members.mapM fun (key, value) => key.text?.map (·, value)
  | _ => none

namespace Shape

def text : Shape := fun r => r.text?.isSome

def texts : Shape
  | .array items => items.all text
  | _ => false

def word (words : List Text) : Shape := fun r => r.word?.any words.contains

def optional (shape : Shape) : Shape
  | .null => true
  | r => shape r

/-- Every value of a key has the shape, and there are at most `count` of them. -/
def atMost (count : Nat) (key : Text) (shape : Shape) (members : List (Text × Raw)) : Bool :=
  let values := members.filter (·.1 = key)
  values.length ≤ count && values.all fun (_, value) => shape value

def once (key : Text) (shape : Shape) (members : List (Text × Raw)) : Bool :=
  members.any (·.1 = key) && atMost 1 key shape members

end Shape

end ApiGateway.Json.Raw
