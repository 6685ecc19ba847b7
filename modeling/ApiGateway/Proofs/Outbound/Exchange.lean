import ApiGateway.Outbound.Exchange
import ApiGateway.Proofs.Http.Fields

/-! # What the client receives

An answer in time reaches the client with its status, its body and the fields
that do not concern the connection. Otherwise the client receives one of two
fixed responses, which tell nothing about the cause.
-/

namespace ApiGateway.Exchange

/-- The response shows the client all of an answer but the fields of the connection. -/
structure Relays (answer response : Response) : Prop where
  status : response.status = answer.status
  bytes : Outbound.bytesOf response.body = Outbound.bytesOf answer.body
  /-- The body breaks off exactly if that of the answer does. -/
  content : response.body.content? = answer.body.content?
  kept : ∀ n ∉ HopByHop.fixed, ¬ HopByHop.Nominates n answer.fields →
    response.fields.values n = answer.fields.values n
  dropped : ∀ n, n ∈ HopByHop.fixed ∨ HopByHop.Nominates n answer.fields →
    response.fields.values n = []

theorem relays_relay (answer : Response) : Relays answer (relay answer) where
  status := rfl
  bytes := rfl
  content := by
    cases h : answer.body with
    | sized content => simp [relay, Body.content?, Outbound.bytesOf, h]
    | streamed content complete =>
      cases complete <;> simp [relay, Body.content?, Outbound.bytesOf, h]
  kept _ hf hn := HopByHop.values_strip_of_not hf hn
  dropped _ h := HopByHop.values_strip_eq_nil h

/-- A redirect keeps both of its cookies and loses the field that it nominates. -/
example :
    relay { status := 302, fields := [(⟨"set-cookie"⟩, .ofText "a=1"),
      (.connection, .ofText "close, X-Hop"), (⟨"x-hop"⟩, .ofText "1"),
      (⟨"set-cookie"⟩, .ofText "b=2")] } =
    { status := 302, fields := [(⟨"set-cookie"⟩, .ofText "a=1"), (⟨"set-cookie"⟩, .ofText "b=2")],
      body := .streamed [] true } := by decide

variable {limit limit' : Option Nat} {outcome outcome' : Outcome}

/-- There is a limit, and it has passed when the exchange ends. -/
def Expires (limit : Option Nat) (outcome : Outcome) : Prop :=
  ∃ milliseconds, limit = some milliseconds ∧ milliseconds < outcome.duration

theorem isLate_iff : isLate limit outcome = true ↔ Expires limit outcome := by
  cases limit <;> simp [isLate, Expires]

def Fails (limit : Option Nat) (outcome : Outcome) : Prop :=
  ¬ Expires limit outcome ∧ ∃ cause, outcome.answer = .error cause

inductive Received (limit : Option Nat) (outcome : Outcome) : Response → Prop

  | relayed {answer response : Response} : ¬ Expires limit outcome →
      outcome.answer = .ok answer → Relays answer response → Received limit outcome response

  | failed : Fails limit outcome → Received limit outcome .badGateway

  | expired : Expires limit outcome → Received limit outcome .gatewayTimeout

theorem response_of_fails (h : Fails limit outcome) : response limit outcome = .badGateway := by
  obtain ⟨hl, cause, hc⟩ := h
  rw [response, if_neg (by rwa [isLate_iff]), hc]

theorem received_response (limit : Option Nat) (outcome : Outcome) :
    Received limit outcome (response limit outcome) := by
  by_cases hl : Expires limit outcome
  · rw [response, if_pos (isLate_iff.mpr hl)]
    exact .expired hl
  · cases ha : outcome.answer with
    | error cause =>
      have hf : Fails limit outcome := ⟨hl, cause, ha⟩
      rw [response_of_fails hf]
      exact .failed hf
    | ok answer =>
      rw [response, if_neg (by rwa [isLate_iff]), ha]
      exact .relayed hl ha (relays_relay answer)

end ApiGateway.Exchange
