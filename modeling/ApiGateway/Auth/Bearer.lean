import ApiGateway.Event
import ApiGateway.Http.Message

/-! # Bearer tokens of requests

A request is judged by its first authorization value; one that is not readable counts as none.
-/

namespace ApiGateway.Bearer

def authorization? (request : Request) : Option Text :=
  (request.fields.first? .authorization).bind FieldValue.text?

/-- The claims of a request's token, or why the request is refused. -/
def check (verifier : Verifier) (now : Nat) (request : Request) : Except Refusal Claims :=
  verifier.verify now (authorization? request)

def event (request : Request) : Except Refusal Claims → Event
  | .ok claims => .tokenAccepted claims.subject?
  | .error reason => .requestRefused request.method request.target.text reason

end ApiGateway.Bearer
