import ApiGateway.Number.Binary64
import ApiGateway.Text

/-! # JSON values

A number is an integer if it is written as one and fits 64 bits, and a double otherwise. An object
holds each key once, in the order in which the keys were first met.
-/

namespace ApiGateway

inductive Json
  | null
  | bool (value : Bool)
  | integer (value : Int)
  | real (value : Binary64)
  | string (value : Text)
  | array (items : List Json)
  | object (members : List (Text × Json))
  deriving Repr

namespace Json

abbrev Members := List (Text × Json)

/-- Gives a key a value, in place of the value it had if there is one. -/
def Members.put (key : Text) (value : Json) : Members → Members
  | [] => [(key, value)]
  | (k, v) :: rest => if k = key then (k, value) :: rest else (k, v) :: Members.put key value rest

def Members.get? (key : Text) (members : Members) : Option Json :=
  (members.find? (·.1 = key)).map (·.2)

def member? (key : Text) : Json → Option Json
  | object members => Members.get? key members
  | _ => none

def text? : Json → Option Text
  | string value => some value
  | _ => none

def items? : Json → Option (List Json)
  | array items => some items
  | _ => none

def members? : Json → Option Members
  | object members => some members
  | _ => none

def bool? : Json → Option Bool
  | bool value => some value
  | _ => none

def integer? : Json → Option Int
  | integer value => some value
  | _ => none

def nat? : Json → Option Nat
  | integer (.ofNat n) => some n
  | _ => none

end Json

end ApiGateway
