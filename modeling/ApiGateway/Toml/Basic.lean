import ApiGateway.Number.Shortest

/-! # TOML values

The values that a TOML document can hold. A table lists its keys in the order of the document.
-/

namespace ApiGateway

inductive TomlReal
  | finite (value : Binary64)
  | infinite (negative : Bool)
  | nan
  deriving DecidableEq, Repr

inductive Toml
  | string (value : Text)
  | integer (value : Int)
  | real (value : TomlReal)
  | bool (value : Bool)
  | datetime
  | array (items : List Toml)
  | table (entries : List (Text × Toml))
  deriving Repr

def TomlReal.text : TomlReal → Text
  | finite value => value.positional
  | infinite true => "-inf"
  | infinite false => "inf"
  | nan => "NaN"

end ApiGateway
