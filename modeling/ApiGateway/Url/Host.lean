import ApiGateway.Domain.Ascii
import ApiGateway.Net.Address
import ApiGateway.Url.Percent

/-! # Hosts of URLs

A host is a domain name or an address. A name whose last label is a number has to be an IPv4
address, which may be given in fewer than four parts, each in decimal, octal or hexadecimal.
-/

namespace ApiGateway

namespace Url

inductive Fault
  | relative
  | emptyHost
  | invalidDomain
  | invalidDomainCharacter
  | invalidV4
  | invalidV6
  | invalidSocketNumber
  deriving DecidableEq, Repr

def Fault.message : Fault → Text
  | relative => "relative URL without a base"
  | emptyHost => "empty host"
  | invalidDomain => "invalid international domain name"
  | invalidDomainCharacter => "invalid domain character"
  | invalidV4 => "invalid IPv4 address"
  | invalidV6 => "invalid IPv6 address"
  | invalidSocketNumber => "invalid port number"

end Url

inductive Host
  | domain (name : Text)
  | address (ip : IpAddress)
  deriving DecidableEq, Repr

namespace Host

def text : Host → Text
  | domain name => name
  | address (.v4 bytes) => IpAddress.v4Text bytes
  | address (.v6 groups) => '[' :: IpAddress.v6Text groups ++ [']']

/-- One part of an IPv4 address. A leading `0x` announces hexadecimal and a leading zero octal
digits, of which there may be none. -/
def part? : Text → Option Nat
  | [] => none
  | '0' :: 'x' :: digits => Text.numeral? 16 digits
  | '0' :: 'X' :: digits => Text.numeral? 16 digits
  | '0' :: c :: digits => Text.numeral? 8 (c :: digits)
  | digits => Text.numeral? 10 digits

/-- The labels of a name, without the empty one behind a final point. -/
def labels (name : Text) : List Text :=
  let labels := name.split '.'
  if 1 < labels.length ∧ labels.getLast? = some [] then labels.dropLast else labels

def endsInNumber (name : Text) : Bool :=
  (labels name).getLast?.any fun last =>
    (last ≠ [] && last.all Char.isDigit) || (part? last).isSome

/-- Each part but the last is one byte; the last one fills the remaining bytes. -/
def v4? (name : Text) : Option IpAddress := do
  let parts ← (labels name).mapM part?
  let first := parts.dropLast
  let last ← parts.getLast?
  if 4 < parts.length ∨ first.any (255 < ·) ∨ Nat.pow 256 (4 - first.length) ≤ last then none
  else
    let rest := (List.range (4 - first.length)).reverse.map fun i => last / Nat.pow 256 i % 256
    some (.v4 (first ++ rest))

def bracketed? (s : Text) : Except Url.Fault Host :=
  if s.getLast? = some ']' then
    match IpAddress.v6? s.dropLast with
    | some groups => .ok (.address (.v6 groups))
    | none => .error .invalidV6
  else .error .invalidV6

/-- Reads the host of a web URL, with percent encoding undone first. -/
def ofText? (s : Text) : Except Url.Fault Host :=
  match s with
  | '[' :: rest => bracketed? rest
  | _ =>
    match (Text.ofUtf8? (Url.percentDecode (Text.utf8 s))).bind Domain.toAscii? with
    | none => .error .invalidDomain
    | some [] => .error .emptyHost
    | some name =>
      if endsInNumber name then
        match v4? name with
        | some ip => .ok (.address ip)
        | none => .error .invalidV4
      else .ok (.domain name)

/-- Checks the host of a URL of a scheme that gives no meaning to hosts. -/
def checkPlain (s : Text) : Except Url.Fault Unit :=
  match s with
  | '[' :: rest => (bracketed? rest).map fun _ => ()
  | _ =>
    if s.any fun c => "\x00\t\n\r #/:<>?@[\\]^|".toList.contains c then
      .error .invalidDomainCharacter
    else .ok ()

end Host

end ApiGateway
