import ApiGateway.Http.Message

/-! # Framing of responses

What every response gets on its way out, whoever made it: an announcement of its length where that
is known, and no body where the method of the request allows none.
-/

namespace ApiGateway.Framing

/-- Announces the length of a body, if it is known and not announced already. -/
def announce (response : Response) : Response :=
  match response.body.size? with
  | some size =>
    if response.fields.contains .contentLength then response
    else
      { response with fields := response.fields.append .contentLength (.ofText (Text.ofNat size)) }
  | none => response

def isSuccess (status : Nat) : Bool := 200 ≤ status && status < 300

/-- The response as it leaves the gateway. A successful `CONNECT` has no body and announces none; a
`HEAD` announces the body that it leaves out. -/
def finish (method : Text) (response : Response) : Response :=
  if method = ("CONNECT" : Text) ∧ isSuccess response.status then
    { response with body := .empty }
  else
    let response := announce response
    if method = ("HEAD" : Text) then { response with body := .empty } else response

end ApiGateway.Framing
