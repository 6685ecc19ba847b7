import ApiGateway.Url.Basic

/-! # Reading URLs

A text is read into the parts of a web URL. URLs of other schemes are checked in the same way as
far as they name a host, but only their scheme is kept.
-/

namespace ApiGateway.Url

inductive Parsed
  | web (url : Url)
  | other (scheme : Text)
  deriving DecidableEq, Repr

def isSchemeChar (c : Char) : Bool := c.isAlphanum || c = '+' || c = '-' || c = '.'

/-- The scheme in lower case, and what follows the colon. -/
def scheme? (s : Text) : Option (Text × Text) := do
  let (scheme, rest) ← Text.cutFirst ':' s
  if scheme.head?.any Char.isAlpha ∧ scheme.all isSchemeChar then
    some (scheme.lower, rest)
  else none

/-- The schemes whose URLs have a host, with their default socket numbers. -/
def hostSchemes : List (Text × Nat) :=
  [("http", 80), ("https", 443), ("ws", 80), ("wss", 443), ("ftp", 21)]

/-- Whether a character ends the part of a URL that names a host. A backslash does so in schemes
that treat it as a slash. -/
def endsAuthority (special : Bool) (c : Char) : Bool :=
  c = '/' || c = '?' || c = '#' || (special && c = '\\')

/-- User, password and what follows the last `@` before the host ends. -/
def cutUser (special : Bool) (s : Text) : Text × Text × Text :=
  let authority := s.takeWhile fun c => !endsAuthority special c
  match Text.cutLast '@' authority with
  | none => ([], [], s)
  | some (info, _) =>
    let rest := s.drop (info.length + 1)
    match Text.cutFirst ':' info with
    | some (user, password) => (percentEncode userSet user, percentEncode userSet password, rest)
    | none => (percentEncode userSet info, [], rest)

/-- The text of the host and what follows it. A colon within brackets belongs to the host. -/
def cutHost (special bracketed : Bool) : Text → Text × Text
  | [] => ([], [])
  | c :: s =>
    if endsAuthority special c || (c = ':' && !bracketed) then ([], c :: s)
    else
      let inside := c = '[' || (bracketed && c ≠ ']')
      let (host, rest) := cutHost special inside s
      (c :: host, rest)

def cutNumber? : Text → Except Fault (Option Nat × Text)
  | ':' :: s =>
    let digits := s.takeWhile Char.isDigit
    let rest := s.dropWhile Char.isDigit
    let number := (Text.numeral? 10 digits).getD 0
    if 65535 < number ∨ rest.head?.any fun c => !endsAuthority true c then
      .error .invalidSocketNumber
    else .ok (if digits = [] then none else some number, rest)
  | s => .ok (none, s)

def cutTail (s : Text) : Option Text × Option Text :=
  let beforeHash := s.takeWhile (· ≠ '#')
  let query := match beforeHash with
    | '?' :: query => some (percentEncode querySet query)
    | _ => none
  let fragment := match s.dropWhile (· ≠ '#') with
    | '#' :: fragment => some (percentEncode fragmentSet fragment)
    | _ => none
  (query, fragment)

/-- Reads what follows the slashes behind the scheme of a web URL. -/
def readWeb? (scheme : Scheme) (s : Text) : Except Fault Url := do
  let (user, password, rest) := cutUser true s
  let (hostText, rest) := cutHost true false rest
  if hostText = [] then .error .emptyHost
  else
    let host ← Host.ofText? hostText
    let (number, rest) ← cutNumber? rest
    let path := rest.takeWhile fun c => c ≠ '?' && c ≠ '#'
    let (query, fragment) := cutTail (rest.dropWhile fun c => c ≠ '?' && c ≠ '#')
    .ok {
      scheme, user, password, host
      number := if number = some scheme.defaultNumber then none else number
      path := normalizePath path
      query, fragment }

/-- Checks what follows two slashes in a URL of a scheme that need not have a host. -/
def checkPlain (s : Text) : Except Fault Unit := do
  let (user, password, rest) := cutUser false s
  let atOnce := s.head? = some '@' ∧ rest.length + 1 = s.length
  if atOnce ∧ rest.head?.any (endsAuthority false) then .error .emptyHost
  else
    let (hostText, rest) := cutHost false false rest
    Host.checkPlain hostText
    if hostText = [] ∧ (rest.head? = some ':' ∨ user ≠ [] ∨ password ≠ []) then .error .emptyHost
    else
      let _ ← cutNumber? rest
      .ok ()

/-- Checks the host of a file URL, which it may lack. A drive letter is none. -/
def checkFile (s : Text) : Except Fault Unit :=
  let host := s.takeWhile fun c => !endsAuthority true c
  if host = [] ∨ isDriveLetter host then .ok ()
  else (Host.ofText? host).map fun _ => ()

/-- Reads a URL, with control characters and blanks around it removed. -/
def parse? (s : Text) : Except Fault Parsed :=
  match scheme? (dropIgnored (Text.trimBoth (fun c => c.toNat ≤ 0x20) s)) with
  | none => .error .relative
  | some (scheme, rest) =>
    let afterSlashes := rest.dropWhile isSlash
    if scheme = ("http" : Text) then (readWeb? .http afterSlashes).map .web
    else if scheme = ("https" : Text) then (readWeb? .https afterSlashes).map .web
    else if hostSchemes.any (·.1 = scheme) then
      (readWeb? .http afterSlashes).map fun _ => .other scheme
    else if scheme = ("file" : Text) then
      match rest with
      | a :: b :: path =>
        if isSlash a ∧ isSlash b then (checkFile path).map fun _ => .other scheme
        else .ok (.other scheme)
      | _ => .ok (.other scheme)
    else
      match rest with
      | '/' :: '/' :: authority => (checkPlain authority).map fun _ => .other scheme
      | _ => .ok (.other scheme)

end ApiGateway.Url
