import ApiGateway.Text
import ApiGateway.Unicode.Unprintable

/-! # Quoted text

Text between double quotes, as messages and log fields show names and paths. Quotes, backslashes,
control characters and other characters that would not be seen are escaped.
-/

namespace ApiGateway.Text

def escapeUnicode (c : Char) : Text := "\\u\x7b" ++ Nat.toDigits 16 c.toNat ++ "\x7d"

def escape (c : Char) : Text :=
  if c = '"' then "\\\""
  else if c = '\\' then "\\\\"
  else if c = '\n' then "\\n"
  else if c = '\t' then "\\t"
  else if c = '\r' then "\\r"
  else if c = '\x00' then "\\0"
  else if c.toNat < 0x20 ∨ c.toNat = 0x7F ∨ Unicode.unprintable.contains c then escapeUnicode c
  else [c]

def quote (s : Text) : Text := '"' :: s.flatMap escape ++ ['"']

/-- The name of a file is quoted like other text, but an apostrophe in it is escaped, too. -/
def quotePath (path : Text) : Text :=
  '"' :: (path.flatMap fun c => if c = '\'' then "\\'" else escape c) ++ ['"']

def optional (write : Text → Text) : Option Text → Text
  | some s => "Some(" ++ write s ++ ")"
  | none => "None"

end ApiGateway.Text
