import ApiGateway.Text.Base64

/-! # PEM files

A PEM file is a text with sections between marked lines, whose content is base64. Text outside the
sections, and sections of unknown kinds, mean nothing. A file is read up to the first section that
is malformed or does not end.
-/

namespace ApiGateway.Pem

inductive Kind
  | certificate
  | publicKey
  | pkcs1Key
  | sec1Key
  | pkcs8Key
  | revocationList
  | certificateRequest
  deriving DecidableEq, Repr

namespace Kind

def all : List Kind :=
  [certificate, publicKey, pkcs1Key, sec1Key, pkcs8Key, revocationList, certificateRequest]

def label : Kind → Text
  | certificate => "CERTIFICATE"
  | publicKey => "PUBLIC KEY"
  | pkcs1Key => "RSA PRIVATE KEY"
  | sec1Key => "EC PRIVATE KEY"
  | pkcs8Key => "PRIVATE KEY"
  | revocationList => "X509 CRL"
  | certificateRequest => "CERTIFICATE REQUEST"

def ofLabel? (label : Text) : Option Kind := all.find? (·.label = label)

end Kind

structure Section where
  kind : Kind
  content : Bytes
  deriving DecidableEq, Repr

/-- The sections of a file up to the first fault, and whether there is one. -/
structure Contents where
  sections : List Section
  isSound : Bool
  deriving DecidableEq, Repr

def beginMark : Text := "-----BEGIN "

def endMark : Text := "-----END "

def dashes : Text := "-----"

/-- The label between the marks of a line that begins a section. Blanks may follow the line. -/
def beginLabel? (afterMark : Text) : Option Text :=
  let isFiller (c : Char) : Bool := c = ' ' || c = '-'
  let tail := afterMark.reverse.takeWhile isFiller
  if tail.count '-' = 5 then
    let closing := tail.reverse.dropWhile (· ≠ '-')
    some (afterMark.take (afterMark.length - closing.length))
  else none

def isEnd (label line : Text) : Bool := (endMark ++ label ++ dashes).isPrefixOf line

/-- Blanks do not count in base64. -/
def isBlank (c : Char) : Bool := ('\t' ≤ c && c ≤ '\r') || c = ' '

/-- Reads lines. `open?` is the label of the section that is open, `text` what it holds so far. -/
def readLines (open? : Option Text) (text : Text) : List Text → Contents
  | [] => ⟨[], open?.isNone⟩
  | line :: lines =>
    match beginMark.isPrefixOf? line with
    | some afterMark =>
      match beginLabel? afterMark with
      | some label => readLines (some label) text lines
      | none => ⟨[], false⟩
    | none =>
      match open? with
      | none => readLines none text lines
      | some label =>
        if isEnd label line then
          match Kind.ofLabel? label with
          | none => readLines none [] lines
          | some kind =>
            match Base64.standard.decode? (text.filter (!isBlank ·)) with
            | none => ⟨[], false⟩
            | some content =>
              let rest := readLines none [] lines
              { rest with sections := ⟨kind, content⟩ :: rest.sections }
        else readLines (some label) (text ++ line) lines

/-- The lines of a file, which end at line feeds and carriage returns. -/
def lines (file : Bytes) : List Text :=
  Text.split '\n' ((Bytes.latin1 file).map fun c => if c = '\r' then '\n' else c)

def read (file : Bytes) : Contents := readLines none [] (lines file)

def certificates? (file : Bytes) : Option (List Bytes) :=
  let contents := read file
  if contents.isSound then
    some ((contents.sections.filter (·.kind = .certificate)).map (·.content))
  else none

def isPrivateKey (s : Section) : Bool := [Kind.pkcs1Key, .sec1Key, .pkcs8Key].contains s.kind

/-- The first private key of a file that is sound up to there; the inner result is missing if the
whole file holds none. -/
def privateKey? (file : Bytes) : Option (Option Section) :=
  let contents := read file
  match contents.sections.find? isPrivateKey with
  | some key => some (some key)
  | none => if contents.isSound then some none else none

end ApiGateway.Pem
