import ApiGateway.Toml.Scalar
import ApiGateway.Toml.Table

/-! # TOML text

A document is a list of lines: headers of tables and of items of arrays of tables, and pairs of a
key and a value. Values may span lines only inside brackets and triple quotes.
-/

namespace ApiGateway.Toml

/-- Arrays and tables inside one value nest less deep than this, and keys have fewer parts. -/
def depthLimit : Nat := 80

def isSpace (c : Char) : Bool := c = ' ' || c = '\t'

def skipSpace (s : Text) : Text := s.dropWhile isSpace

def lineBreak? : Text → Option Text
  | '\n' :: rest => some rest
  | '\r' :: '\n' :: rest => some rest
  | _ => none

/-- What comments and strings may hold: anything but control characters other than the tab. -/
def isVisible (c : Char) : Bool := c = '\t' || (' ' ≤ c && c ≠ '\x7F')

def skipComment : Text → Text
  | '#' :: rest => rest.dropWhile isVisible
  | s => s

/-- Takes what may stand behind a line's content. -/
def lineEnd? (s : Text) : Option Text :=
  match skipComment (skipSpace s) with
  | [] => some []
  | rest => lineBreak? rest

/-- Skips spaces, line ends and comments with line ends, with a step of fuel for each. -/
def skipLines : Nat → Text → Text
  | 0, s => s
  | fuel + 1, s =>
    let rest := skipSpace s
    match lineBreak? rest with
    | some rest => skipLines fuel rest
    | none =>
      match rest with
      | '#' :: _ =>
        match lineBreak? (skipComment rest) with
        | some rest => skipLines fuel rest
        | none => rest
      | _ => rest

def numbered? (count : Nat) (s : Text) : Option (Char × Text) := do
  let word := s.take count
  if word.length = count then
    let n ← Text.numeral? 16 word
    if h : n.isValidChar then some (Char.ofNatAux n h, s.drop count) else none
  else none

def escape? : Text → Option (Char × Text)
  | 'b' :: rest => some ('\x08', rest)
  | 'f' :: rest => some ('\x0C', rest)
  | 'n' :: rest => some ('\n', rest)
  | 'r' :: rest => some ('\r', rest)
  | 't' :: rest => some ('\t', rest)
  | '"' :: rest => some ('"', rest)
  | '\\' :: rest => some ('\\', rest)
  | 'u' :: rest => numbered? 4 rest
  | 'U' :: rest => numbered? 8 rest
  | _ => none

/-- The characters of a string on one line, up to the closing quote. -/
def quoted? : Nat → Text → Option (Text × Text)
  | 0, _ => none
  | _, [] => none
  | _ + 1, '"' :: rest => some ([], rest)
  | fuel + 1, '\\' :: rest => do
    let (c, rest) ← escape? rest
    let (cs, rest) ← quoted? fuel rest
    some (c :: cs, rest)
  | fuel + 1, c :: rest =>
    if isVisible c then do
      let (cs, rest) ← quoted? fuel rest
      some (c :: cs, rest)
    else none

def literal? (s : Text) : Option (Text × Text) :=
  let isContent (c : Char) : Bool := isVisible c && c ≠ '\''
  match s.dropWhile isContent with
  | '\'' :: rest => some (s.takeWhile isContent, rest)
  | _ => none

/-- The end of a string in triple quotes: up to two quotes before the closing ones belong to it. -/
def tripleEnd? (quote : Char) (s : Text) : Option (Text × Text) :=
  let count := (s.takeWhile (· = quote)).length
  if count < 3 then none
  else
    let own := min 2 (count - 3)
    some (List.replicate own quote, s.drop (own + 3))

def skipBlankLines : Text → Text
  | [] => []
  | '\r' :: '\n' :: rest => skipBlankLines rest
  | c :: rest => if isSpace c ∨ c = '\n' then skipBlankLines rest else c :: rest

/-- A line end after a backslash, with the spaces and line ends around it. -/
def continuation? (s : Text) : Option Text := (lineBreak? (skipSpace s)).map skipBlankLines

/-- The characters of a string in triple quotes. Line ends become line feeds; only a string with
escapes can hold any. -/
def triple? (quote : Char) (escapes : Bool) : Nat → Text → Option (Text × Text)
  | 0, _ => none
  | _, [] => none
  | fuel + 1, c :: rest =>
    if c = quote then
      match tripleEnd? quote (c :: rest) with
      | some found => some found
      | none => do
        let (cs, rest) ← triple? quote escapes fuel rest
        some (c :: cs, rest)
    else if escapes ∧ c = '\\' then
      match continuation? rest with
      | some rest => triple? quote escapes fuel rest
      | none => do
        let (c, rest) ← escape? rest
        let (cs, rest) ← triple? quote escapes fuel rest
        some (c :: cs, rest)
    else
      match lineBreak? (c :: rest) with
      | some rest => do
        let (cs, rest) ← triple? quote escapes fuel rest
        some ('\n' :: cs, rest)
      | none =>
        if isVisible c then do
          let (cs, rest) ← triple? quote escapes fuel rest
          some (c :: cs, rest)
        else none

/-- A line end right after the opening quotes does not count. -/
def skipFirstBreak (s : Text) : Text := (lineBreak? s).getD s

def string? (s : Text) : Option (Text × Text) :=
  match s with
  | '"' :: '"' :: '"' :: rest => triple? '"' true rest.length (skipFirstBreak rest)
  | '\'' :: '\'' :: '\'' :: rest => triple? '\'' false rest.length (skipFirstBreak rest)
  | '"' :: rest => quoted? rest.length rest
  | '\'' :: rest => literal? rest
  | _ => none

def isBareChar (c : Char) : Bool := c.isAlphanum || c = '_' || c = '-'

def keyPart? (s : Text) : Option (Text × Text) :=
  match s with
  | '"' :: rest => quoted? rest.length rest
  | '\'' :: rest => literal? rest
  | _ =>
    match s.takeWhile isBareChar with
    | [] => none
    | word => some (word, s.dropWhile isBareChar)

/-- The parts of a key between its points, with spaces around each. -/
def keyParts? : Nat → Text → Option (List Text × Text)
  | 0, _ => none
  | fuel + 1, s => do
    let (part, rest) ← keyPart? (skipSpace s)
    match skipSpace rest with
    | '.' :: rest => do
      let (parts, rest) ← keyParts? fuel rest
      some (part :: parts, rest)
    | rest => some ([part], rest)

def key? (s : Text) : Option ((List Text × Text) × Text) := do
  let (parts, rest) ← keyParts? (depthLimit - 1) s
  let last ← parts.getLast?
  some ((parts.dropLast, last), rest)

def isWordChar (c : Char) : Bool := c.isAlphanum || "+-.:_".toList.contains c

/-- A number, a date, a truth value, or a date and a time with a space between them. -/
def word? (s : Text) : Option (Toml × Text) :=
  let word := s.takeWhile isWordChar
  let rest := s.dropWhile isWordChar
  if word = ("true" : Text) then some (.bool true, rest)
  else if word = ("false" : Text) then some (.bool false, rest)
  else match isDate word, rest with
  | true, ' ' :: after =>
    let time := after.takeWhile isWordChar
    if isZonedTime time then some (.datetime, after.dropWhile isWordChar)
    else some (.datetime, rest)
  | _, _ => (scalar? word).map (·, rest)

mutual

/-- A value, and what follows it. Brackets and braces nest at most `depth` deep. -/
def value? (depth : Nat) : Nat → Text → Option (Toml × Text)
  | 0, _ => none
  | fuel + 1, s =>
    match s with
    | '"' :: _ => (string? s).map fun (cs, rest) => (.string cs, rest)
    | '\'' :: _ => (string? s).map fun (cs, rest) => (.string cs, rest)
    | '[' :: rest =>
      match depth with
      | 0 => none
      | depth + 1 => (items? depth fuel rest).map fun (items, rest) => (.array items, rest)
    | '\x7b' :: rest =>
      match depth with
      | 0 => none
      | depth + 1 =>
        match skipSpace rest with
        | '\x7d' :: rest => some (.table [], rest)
        | _ => do
          let (pairs, rest) ← pairs? depth fuel rest
          some (← tableOfPairs? pairs, rest)
    | s => word? s

/-- The items of an array up to its bracket. A comma may follow the last one. -/
def items? (depth : Nat) : Nat → Text → Option (List Toml × Text)
  | 0, _ => none
  | fuel + 1, s =>
    match skipLines s.length s with
    | ']' :: rest => some ([], rest)
    | s => do
      let (item, rest) ← value? depth fuel s
      match skipLines rest.length rest with
      | ']' :: rest => some ([item], rest)
      | ',' :: rest => do
        let (items, rest) ← items? depth fuel rest
        some (item :: items, rest)
      | _ => none

def pairs? (depth : Nat) : Nat → Text → Option (List (List Text × Text × Toml) × Text)
  | 0, _ => none
  | fuel + 1, s => do
    let ((path, key), rest) ← key? s
    match rest with
    | '=' :: rest => do
      let (value, rest) ← value? depth fuel (skipSpace rest)
      match skipSpace rest with
      | '\x7d' :: rest => some ([(path, key, value)], rest)
      | ',' :: rest => do
        let (pairs, rest) ← pairs? depth fuel rest
        some ((path, key, value) :: pairs, rest)
      | _ => none
    | _ => none

end

inductive Line
  | table (path : List Text) (key : Text)
  | item (path : List Text) (key : Text)
  | pair (path : List Text) (key : Text) (value : Toml)
  deriving Repr

def line? (s : Text) : Option (Line × Text) :=
  match s with
  | '[' :: '[' :: rest => do
    let ((path, key), rest) ← key? rest
    match rest with
    | ']' :: ']' :: rest => some (.item path key, ← lineEnd? rest)
    | _ => none
  | '[' :: rest => do
    let ((path, key), rest) ← key? rest
    match rest with
    | ']' :: rest => some (.table path key, ← lineEnd? rest)
    | _ => none
  | _ => do
    let ((path, key), rest) ← key? s
    match rest with
    | '=' :: rest => do
      let rest := skipSpace rest
      let (value, rest) ← value? (depthLimit - 1) (rest.length + 1) rest
      some (.pair path key value, ← lineEnd? rest)
    | _ => none

/-- The lines with content, with a step of fuel for each line. -/
def lines? : Nat → Text → Option (List Line)
  | 0, _ => none
  | fuel + 1, s =>
    match skipSpace s with
    | [] => some []
    | '#' :: rest => do lines? fuel (← lineEnd? ('#' :: rest))
    | s =>
      match lineBreak? s with
      | some rest => lines? fuel rest
      | none => do
        let (line, rest) ← line? s
        (lines? fuel rest).map (line :: ·)

/-- An unfinished document: all of it, and the path of the table that pairs are added to. -/
structure Draft where
  entries : Entries := []
  current : List Text := []
  deriving Repr

def Draft.add (draft : Draft) : Line → Option Draft
  | .table path key => do
    some ⟨← Entries.atHeader (Entries.openTable key) path draft.entries, path ++ [key]⟩
  | .item path key => do
    some ⟨← Entries.atHeader (Entries.openItem key) path draft.entries, path ++ [key]⟩
  | .pair path key value => do
    some { draft with
      entries := ← Entries.atHeader (Entries.addPair path key value) draft.current draft.entries }

def byteOrderMark : Char := '\uFEFF'

def ofText? (s : Text) : Option (List (Text × Toml)) := do
  let s := if s.head? = some byteOrderMark then s.tail else s
  let draft ← (← lines? (s.length + 1) s).foldlM Draft.add {}
  some (entryValues draft.entries)

end ApiGateway.Toml
