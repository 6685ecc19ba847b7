import ApiGateway.Url.Host
import ApiGateway.Url.Path

/-! # Web URLs

The parts of an `http` or `https` URL. User, password, path, query and fragment are kept in their
percent encoded form.
-/

namespace ApiGateway

inductive Scheme
  | http
  | https
  deriving DecidableEq, Repr

namespace Scheme

def text : Scheme → Text
  | http => "http"
  | https => "https"

/-- The socket number that a URL of the scheme leaves out. -/
def defaultNumber : Scheme → Nat
  | http => 80
  | https => 443

end Scheme

structure Url where
  scheme : Scheme
  user : Text
  password : Text
  host : Host
  number : Option Nat
  path : Text
  query : Option Text
  fragment : Option Text
  deriving DecidableEq, Repr

namespace Url

/-- User and password with the sign behind them, if there are any. -/
def userInfo (url : Url) : Text :=
  if url.user = [] ∧ url.password = [] then []
  else if url.password = [] then url.user ++ ['@']
  else url.user ++ ':' :: url.password ++ ['@']

/-- The host, and the socket number if it is not the default one of the scheme. -/
def authority (url : Url) : Text :=
  match url.number with
  | some n => url.host.text ++ ':' :: Text.ofNat n
  | none => url.host.text

def marked (mark : Char) : Option Text → Text
  | some s => mark :: s
  | none => []

def text (url : Url) : Text :=
  url.scheme.text ++ "://" ++ url.userInfo ++ url.authority ++ url.path ++ marked '?' url.query ++
    marked '#' url.fragment

/-- Tabs and line ends mean nothing in a URL. -/
def isIgnored (c : Char) : Bool := c = '\t' || c = '\n' || c = '\r'

def dropIgnored (s : Text) : Text := s.filter fun c => !isIgnored c

def withPath (url : Url) (path : Text) : Url :=
  { url with path := normalizePath (dropIgnored path) }

def withQuery (url : Url) (query : Option Text) : Url :=
  { url with query := query.map fun q => percentEncode querySet (dropIgnored q) }

end Url

end ApiGateway
