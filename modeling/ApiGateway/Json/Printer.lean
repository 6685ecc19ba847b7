import ApiGateway.Json.Basic
import ApiGateway.Number.Shortest

/-! # Writing JSON -/

namespace ApiGateway.Json

/-- The quote, the backslash and the control characters are escaped. -/
def escape (c : Char) : Text :=
  if c = '"' then "\\\""
  else if c = '\\' then "\\\\"
  else if c.toNat < 0x20 then
    ['\\', 'u', '0', '0', Text.hexDigit (c.toNat / 16), Text.hexDigit (c.toNat % 16)]
  else [c]

def quote (s : Text) : Text := '"' :: s.flatMap escape ++ ['"']

mutual

def render : Json → Text
  | null => "null"
  | bool b => if b then "true" else "false"
  | integer i => (toString i).toList
  | real x => x.scientific
  | string s => quote s
  | array items => '[' :: renderItems items ++ [']']
  | object members => '\x7b' :: renderMembers members ++ ['\x7d']

def renderItems : List Json → Text
  | [] => []
  | [item] => render item
  | item :: items => render item ++ ',' :: renderItems items

def renderMembers : List (Text × Json) → Text
  | [] => []
  | [(key, value)] => quote key ++ ':' :: render value
  | (key, value) :: members => quote key ++ ':' :: render value ++ ',' :: renderMembers members

end

end ApiGateway.Json
