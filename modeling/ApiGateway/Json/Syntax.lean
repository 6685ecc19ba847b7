import ApiGateway.Text.Utf8

/-! # JSON text

JSON text is read in two steps. The first one, in this module, finds the structure: numbers and
strings stay as they are written. The second one gives them values. A reader that skips a part of
a document needs only the first step for it. A document is a byte string, taken here as the
characters with the numbers of the bytes.
-/

namespace ApiGateway.Json

/-- The characters between the quotes: one that stands for itself, or a code unit that a
backslash introduces. -/
inductive StringUnit
  | plain (c : Char)
  | escaped (unit : Nat)
  deriving DecidableEq, Repr

abbrev RawString := List StringUnit

/-- A number as written: the digits before the point, those after it, and the exponent with the
sign it carries. -/
structure RawNumber where
  negative : Bool
  whole : List Nat
  fraction : Option (List Nat)
  exponent : Option (Bool × List Nat)
  deriving DecidableEq, Repr

inductive Raw
  | null
  | bool (value : Bool)
  | number (value : RawNumber)
  | string (value : RawString)
  | array (items : List Raw)
  | object (members : List (RawString × Raw))
  deriving Repr

namespace Raw

def isSpace (c : Char) : Bool := c = ' ' || c = '\t' || c = '\n' || c = '\r'

def skipSpace (s : Text) : Text := s.dropWhile isSpace

def digits (s : Text) : List Nat × Text :=
  ((s.takeWhile Char.isDigit).map fun c => c.toNat - '0'.toNat, s.dropWhile Char.isDigit)

def fraction? : Text → Option (Option (List Nat) × Text)
  | '.' :: s =>
    match digits s with
    | ([], _) => none
    | (ds, rest) => some (some ds, rest)
  | s => some (none, s)

def exponentDigits? (negative : Bool) (s : Text) : Option (Option (Bool × List Nat) × Text) :=
  match digits s with
  | ([], _) => none
  | (ds, rest) => some (some (negative, ds), rest)

def exponent? : Text → Option (Option (Bool × List Nat) × Text)
  | c :: s =>
    if c = 'e' ∨ c = 'E' then
      match s with
      | '+' :: rest => exponentDigits? false rest
      | '-' :: rest => exponentDigits? true rest
      | rest => exponentDigits? false rest
    else some (none, c :: s)
  | [] => some (none, [])

/-- A number without its sign. The digits before the point have no needless zero in front. -/
def number? (negative : Bool) (s : Text) : Option (RawNumber × Text) := do
  let (whole, rest) := digits s
  if whole = [] ∨ (whole.head? = some 0 ∧ whole ≠ [0]) then none
  else
    let (fraction, rest) ← fraction? rest
    let (exponent, rest) ← exponent? rest
    some (⟨negative, whole, fraction, exponent⟩, rest)

/-- What a backslash and the following character stand for; `u` takes four hexadecimal digits. -/
def escape? : Text → Option (Nat × Text)
  | 'u' :: a :: b :: c :: d :: rest => (Text.numeral? 16 [a, b, c, d]).map (·, rest)
  | '"' :: rest => some (0x22, rest)
  | '\\' :: rest => some (0x5C, rest)
  | '/' :: rest => some (0x2F, rest)
  | 'b' :: rest => some (0x08, rest)
  | 'f' :: rest => some (0x0C, rest)
  | 'n' :: rest => some (0x0A, rest)
  | 'r' :: rest => some (0x0D, rest)
  | 't' :: rest => some (0x09, rest)
  | _ => none

/-- The characters up to the closing quote, and what follows it. -/
def stringBody? : Nat → Text → Option (RawString × Text)
  | 0, _ => none
  | _, [] => none
  | _ + 1, '"' :: rest => some ([], rest)
  | fuel + 1, '\\' :: rest => do
    let (unit, rest) ← escape? rest
    let (units, rest) ← stringBody? fuel rest
    some (.escaped unit :: units, rest)
  | fuel + 1, c :: rest =>
    if c.toNat < 0x20 then none
    else do
      let (units, rest) ← stringBody? fuel rest
      some (.plain c :: units, rest)

mutual

/-- One value after optional space, and what follows it. -/
def readValue? : Nat → Text → Option (Raw × Text)
  | 0, _ => none
  | fuel + 1, s =>
    match skipSpace s with
    | 'n' :: 'u' :: 'l' :: 'l' :: rest => some (.null, rest)
    | 't' :: 'r' :: 'u' :: 'e' :: rest => some (.bool true, rest)
    | 'f' :: 'a' :: 'l' :: 's' :: 'e' :: rest => some (.bool false, rest)
    | '-' :: rest => (number? true rest).map fun (n, rest) => (.number n, rest)
    | '"' :: rest => (stringBody? fuel rest).map fun (units, rest) => (.string units, rest)
    | '[' :: rest =>
      match skipSpace rest with
      | ']' :: rest => some (.array [], rest)
      | rest => (readItems? fuel rest).map fun (items, rest) => (.array items, rest)
    | '\x7b' :: rest =>
      match skipSpace rest with
      | '\x7d' :: rest => some (.object [], rest)
      | rest => (readMembers? fuel rest).map fun (members, rest) => (.object members, rest)
    | rest => (number? false rest).map fun (n, rest) => (.number n, rest)

def readItems? : Nat → Text → Option (List Raw × Text)
  | 0, _ => none
  | fuel + 1, s => do
    let (item, rest) ← readValue? fuel s
    match skipSpace rest with
    | ']' :: rest => some ([item], rest)
    | ',' :: rest => do
      let (items, rest) ← readItems? fuel rest
      some (item :: items, rest)
    | _ => none

def readMembers? : Nat → Text → Option (List (RawString × Raw) × Text)
  | 0, _ => none
  | fuel + 1, s =>
    match skipSpace s with
    | '"' :: rest => do
      let (key, rest) ← stringBody? fuel rest
      match skipSpace rest with
      | ':' :: rest => do
        let (value, rest) ← readValue? fuel rest
        match skipSpace rest with
        | '\x7d' :: rest => some ([(key, value)], rest)
        | ',' :: rest => do
          let (members, rest) ← readMembers? fuel rest
          some ((key, value) :: members, rest)
        | _ => none
      | _ => none
    | _ => none

end

/-- Reads a whole document. The fuel bounds the number of steps by the length of the text. -/
def ofBytes? (bytes : Bytes) : Option Raw := do
  let (raw, rest) ← readValue? (2 * bytes.length + 2) (Bytes.latin1 bytes)
  if skipSpace rest = [] then some raw else none

end Raw

end ApiGateway.Json
