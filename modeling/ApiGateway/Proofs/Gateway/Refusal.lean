import ApiGateway.Proofs.Gateway.Credentials

/-! # Refusals

The client of a refused request learns that it is refused. Which check failed,
what the gateway checks tokens against and what the request was authorized with
leave no trace in the response.
-/

namespace ApiGateway

/-- The requests have the same method, target and values, except under one name. Their bodies and
their clients may differ as well. -/
structure Request.AgreeBut (n : FieldName) (request request' : Request) : Prop where
  method : request'.method = request.method
  target : request'.target = request.target
  values : ∀ m ≠ n, request'.fields.values m = request.fields.values m

theorem Request.agreeBut_erase (n : FieldName) (request : Request) :
    request.AgreeBut n { request with fields := request.fields.erase n } where
  method := rfl
  target := rfl
  values m hm := by rw [Fields.values_erase, if_neg hm.symm]

namespace Gateway

variable {gateway gateway' : Gateway} {arrival arrival' : Arrival} {reason reason' : Refusal}

structure Refused (gateway : Gateway) (arrival : Arrival) (reason : Refusal) : Prop where
  method : arrival.request.method ≠ ("OPTIONS" : Text)
  path : arrival.request.target.path ≠ healthPath
  verdict : Bearer.check gateway.verifier arrival.now arrival.request = .error reason

theorem answer_of_refused (h : Refused gateway arrival reason) (routes : RouteTable) :
    (gateway.answer routes arrival).1 = gateway.outgoing (identified arrival) .unauthorized ∧
      (gateway.answer routes arrival).2.record.sent = [] := by
  obtain ⟨response, hresponse, hs⟩ := exists_served gateway routes arrival
  obtain ⟨rfl, hsent⟩ := hs.of_refusal (isPreflight_identified_eq_false_iff.mpr h.method)
    (by rw [identified_target]; exact h.path) (check_identified.trans h.verdict)
  exact ⟨hresponse, hsent⟩

/-- From the outside: a request is refused if it is answered with 401 and nothing is sent for it. -/
theorem exists_refused_iff (routes : RouteTable) :
    (∃ reason, Refused gateway arrival reason) ↔
      (gateway.answer routes arrival).1.status = 401 ∧
        (gateway.answer routes arrival).2.record.sent = [] := by
  constructor
  · rintro ⟨reason, h⟩
    obtain ⟨hresponse, hsent⟩ := answer_of_refused h routes
    rw [hresponse, outgoing_status]
    exact ⟨rfl, hsent⟩
  · rintro ⟨hstatus, hsent⟩
    obtain ⟨response, hresponse, hs⟩ := exists_served gateway routes arrival
    rw [hresponse, outgoing_status] at hstatus
    rw [hsent] at hs
    generalize (gateway.answer routes arrival).2.routes = next at hs
    cases hs with
    | refused hm hp hv =>
      rw [check_identified] at hv
      rw [identified_target] at hp
      exact ⟨_, isPreflight_identified_eq_false_iff.mp hm, hp, hv⟩
    | health =>
      rcases health_status (identified arrival) with h | h <;> rw [h] at hstatus <;> cases hstatus
    | preflight | index | unknown | exhausted => cases hstatus

/-- Of two refused requests that agree but for their authorization, at gateways with the same policy
for cross-origin requests, the clients receive the same response. The checks that fail, the secrets
and audiences of the gateways, their services, the times and the turns of the pools may differ. -/
theorem answer_eq_of_refused (hc : gateway'.cors = gateway.cors)
    (hr : arrival.request.AgreeBut .authorization arrival'.request)
    (hid : arrival'.freshId = arrival.freshId) (h : Refused gateway arrival reason)
    (h' : Refused gateway' arrival' reason') (routes routes' : RouteTable) :
    (gateway'.answer routes' arrival').1 = (gateway.answer routes arrival).1 := by
  rw [(answer_of_refused h routes).1, (answer_of_refused h' routes').1]
  apply outgoing_congr hc
  · simpa using hr.method
  · simpa using congrArg Target.path hr.target
  · simp only [Fields.first?, values_identified (n := .origin) (by decide),
      hr.values .origin (by decide)]
  · simp only [Fields.first?, values_identified_xRequestId, hid, hr.values .xRequestId (by decide)]

def estranged : Gateway := { terse with verifier := ⟨[0x4B], "other_api"⟩ }

def noTokens : Arrival :=
  { twoTokens with request := { twoTokens.request with
      fields := twoTokens.request.fields.erase .authorization } }

theorem refused_noTokens : Refused terse noTokens .missingBearer where
  method := by decide
  path := by decide
  verdict := by
    have h : Bearer.authorization? noTokens.request = none := by decide +kernel
    rw [Bearer.check, h, Verifier.verify_none]

theorem answer_eq_of_refused_noTokens :
    ∃ reason, Refused estranged twoTokens reason ∧ Refused terse noTokens .missingBearer ∧
      (terse.answer lone noTokens).1 = (estranged.answer lone twoTokens).1 := by
  have hr : twoTokens.request.AgreeBut .authorization noTokens.request :=
    Request.agreeBut_erase .authorization twoTokens.request
  obtain ⟨reason, h⟩ : ∃ reason, Refused estranged twoTokens reason := by
    apply (exists_refused_iff lone).mpr
    decide +kernel
  refine ⟨reason, h, refused_noTokens, ?_⟩
  apply answer_eq_of_refused _ hr _ h refused_noTokens
  · rfl
  · rfl

end Gateway

end ApiGateway
