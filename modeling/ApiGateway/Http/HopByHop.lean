import ApiGateway.Http.Field
import ApiGateway.Text.Blank

/-! # Connection-scoped fields

Fields that describe one connection end at the gateway in both directions: nine fixed names, and
every name that a `Connection` field nominates.
-/

namespace ApiGateway.HopByHop

/-- The names that are never forwarded. -/
def fixed : List FieldName :=
  [.connection, .proxyConnection, .keepAlive, .proxyAuthenticate, .proxyAuthorization, .te,
    .trailers, .transferEncoding, .upgrade]

/-- The names that one `Connection` value lists; an element that is no name lists nothing. -/
def listed (value : Text) : List FieldName :=
  (value.split ',').filterMap fun element => FieldName.ofText? element.trim

def nominated (fs : Fields) : List FieldName := (fs.readable .connection).flatMap listed

def strip (fs : Fields) : Fields := (nominated fs ++ fixed).foldl (fun fs n => fs.erase n) fs

end ApiGateway.HopByHop
