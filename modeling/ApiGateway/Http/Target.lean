import ApiGateway.Text.Utf8

/-! # Request targets

The target of a request: a path with or without a query, a whole URL in front of them, an authority
alone, or an asterisk. What the reader accepts is kept as written; only the fragment is dropped.
-/

namespace ApiGateway

structure Target where
  scheme : Option Text := none
  authority : Option Text := none
  path : Text
  query : Option Text := none
  deriving DecidableEq, Repr

namespace Target

/-- The target as it is logged. -/
def text (t : Target) : Text :=
  (match t.scheme with | some scheme => scheme ++ "://" | none => []) ++
    t.authority.getD [] ++ t.path ++
    (match t.query with | some query => '?' :: query | none => [])

def isAuthorityChar (c : Char) : Bool := c.isAlphanum || "!$&'()*+,-.:;=@[]_~".toList.contains c

/-- Everything past the space but `#`, `<`, `>`, `?` and the backtick. -/
def isPathChar (c : Char) : Bool := 0x20 < c.toNat && !"#<>?\x60".toList.contains c

def isQueryChar (c : Char) : Bool := 0x20 < c.toNat && !"\"#<>".toList.contains c

/-- What has been met while checking an authority; a user part or a bracketed address ends the
counting of colons and percent signs before it. -/
structure AuthorityScan where
  colons : Nat := 0
  opened : Bool := false
  closed : Bool := false
  percent : Bool := false

def maxColons : Nat := 8

def AuthorityScan.step (scan : AuthorityScan) (c : Char) : Option AuthorityScan :=
  if c = ':' then
    if scan.colons < maxColons then some { scan with colons := scan.colons + 1 } else none
  else if c = '[' then
    if scan.percent ∨ scan.opened then none else some { scan with opened := true }
  else if c = ']' then
    if !scan.opened ∨ scan.closed then none
    else some { scan with closed := true, colons := 0, percent := false }
  else if c = '@' then some { scan with colons := 0, percent := false }
  else if c = '%' then some { scan with percent := true }
  else if isAuthorityChar c then some scan else none

def isAuthority (s : Text) : Bool :=
  match s.foldlM AuthorityScan.step {} with
  | some scan =>
    scan.opened == scan.closed && scan.colons ≤ 1 && !scan.percent && s.getLast? != some '@'
  | none => false

/-- Reads a path and a query; a missing path is the root. -/
def pathAndQuery? (s : Text) : Option (Text × Option Text) :=
  let s := s.takeWhile (· ≠ '#')
  let (path, query) :=
    match Text.cutFirst '?' s with
    | some (path, query) => (path, some query)
    | none => (s, none)
  if path.all isPathChar ∧ query.all (·.all isQueryChar) then
    some (if path = [] then ['/'] else path, query)
  else none

def isSchemeChar (c : Char) : Bool := c.isAlphanum || c = '+' || c = '-' || c = '.'

def maxScheme : Nat := 64

/-- Cuts a scheme and the `://` after it from the front. The two web schemes are recognised in any
letter case. -/
def cutScheme (s : Text) : Option (Text × Text) :=
  let scheme := s.takeWhile isSchemeChar
  match s.dropWhile isSchemeChar with
  | ':' :: '/' :: '/' :: rest =>
    if scheme = [] ∨ maxScheme < scheme.length then none
    else
      let lower := Text.lower scheme
      some (if lower = ("http" : Text) ∨ lower = ("https" : Text) then lower else scheme, rest)
  | _ => none

/-- Targets of more bytes than this are refused. -/
def maxLength : Nat := 65534

def ofText? (s : Text) : Option Target :=
  if maxLength < (Text.utf8 s).length then none
  else match s with
  | [] => none
  | ['*'] => some { path := "*" }
  | '/' :: _ => (pathAndQuery? s).map fun (path, query) => { path, query }
  | _ =>
    match cutScheme s with
    | none => if isAuthority s then some { authority := some s, path := [] } else none
    | some (scheme, rest) => do
      let isEnd (c : Char) : Bool := c = '/' || c = '?' || c = '#'
      let authority := rest.takeWhile (!isEnd ·)
      let (path, query) ← pathAndQuery? (rest.dropWhile (!isEnd ·))
      if authority ≠ [] ∧ isAuthority authority then
        some { scheme := some scheme, authority := some authority, path, query }
      else none

end Target

end ApiGateway
