import ApiGateway.Text.Blank
import ApiGateway.Url.Parser

/-! # Instances

An instance is one address that answers for a service: a web URL, of which the path is the base
path that the service is mounted under there.
-/

namespace ApiGateway

structure Instance where
  url : Url
  deriving DecidableEq, Repr

inductive InstanceError
  | url (fault : Url.Fault)
  | unsupportedScheme (scheme : Text)
  deriving DecidableEq, Repr

def InstanceError.message : InstanceError → Text
  | url fault => fault.message
  | unsupportedScheme scheme =>
    "unsupported scheme '" ++ scheme ++ "' (expected http or https)"

namespace Instance

/-- Reads the address of an instance. Blanks around it and slashes at its end do not matter. -/
def ofText? (s : Text) : Except InstanceError Instance :=
  match Url.parse? (Text.trimEnd (· = '/') s.trim) with
  | .error fault => .error (.url fault)
  | .ok (.other scheme) => .error (.unsupportedScheme scheme)
  | .ok (.web url) => .ok ⟨url⟩

/-- Host and socket number, as the `Host` field of a request shows them. -/
def authority (i : Instance) : Text := i.url.authority

def basePath (i : Instance) : Text := i.url.path

def text (i : Instance) : Text := i.url.scheme.text ++ "://" ++ i.authority

def urlFor (i : Instance) (path : Text) (query : Option Text) : Url :=
  (i.url.withPath path).withQuery query

end Instance

end ApiGateway
