import ApiGateway.Proofs.Gateway.Admission

/-! # Credentials that travel upstream

One authorization value decides whether a request passes, but all of them travel
on. The client can also have the connection drop them, and then the credentials
in the URL of the instance take their place.
-/

namespace ApiGateway

namespace Gateway

variable {gateway : Gateway} {routes : RouteTable} {arrival : Arrival} {outbound : Outbound}

theorem nominated_identified (arrival : Arrival) :
    HopByHop.nominated (identified arrival).fields = HopByHop.nominated arrival.request.fields := by
  simp only [HopByHop.nominated, Fields.readable,
    values_identified (n := .connection) (by decide)]

/-- Of a request that is sent on, the first authorization value is one that the verifier accepts.
All of its authorization values are sent, in order, unless a `Connection` field nominates them:
then the credentials in the URL of the instance are, if it has any. -/
theorem authorization_of_mem_sent
    (h : outbound ∈ (gateway.answer routes arrival).2.record.sent) :
    ∃ first rest text claims, arrival.request.fields.values .authorization = first :: rest ∧
      FieldValue.text? first = some text ∧
      gateway.verifier.verify arrival.now (some text) = .ok claims ∧
      outbound.fields.values .authorization =
        if .authorization ∈ HopByHop.nominated arrival.request.fields then
          (Outbound.credentials? outbound.chosen.url).toList
        else first :: rest := by
  obtain ⟨response, -, hs⟩ := exists_served gateway routes arrival
  obtain ⟨claims, found, chosen, ha, -, -, ho⟩ := hs.of_mem h
  obtain ⟨first, text, hf, ht, hv⟩ := Bearer.check_eq_ok_iff.mp ha.accepted
  rw [first?_identified (by decide)] at hf
  obtain ⟨rest, hrest⟩ := (Fields.first?_eq_some_iff ..).mp hf
  refine ⟨first, rest, text, claims, hrest, ht, hv, ?_⟩
  have hvalues : (HopByHop.strip (identified arrival).fields).values .authorization =
      if .authorization ∈ HopByHop.nominated arrival.request.fields then [] else first :: rest := by
    have hfixed : FieldName.authorization ∉ HopByHop.fixed := by decide
    simp only [HopByHop.values_strip, nominated_identified, hfixed, or_false,
      values_identified (n := .authorization) (by decide), hrest]
  rw [ho, Outbound.values_ofRequest_authorization, hvalues]
  by_cases hn : .authorization ∈ HopByHop.nominated arrival.request.fields
  · simp only [if_pos hn, if_true]
    rfl
  · simp only [if_neg hn, if_neg (List.cons_ne_nil first rest)]

def lone : RouteTable :=
  ⟨[⟨"catalog", [⟨⟨.http, [], [], .domain "c1", some 8000, "/svc", none, none⟩⟩], {}⟩]⟩

def terse : Gateway where
  verifier := ⟨[0x6B], "gateway_api"⟩
  cors := ⟨none⟩

/-- A request with two tokens, of which only the first is signed. -/
def twoTokens : Arrival where
  request := {
    target := { path := "/catalog/items" }
    fields := [
      (.authorization, .ofText ("Bearer eyJ0eXAiOiAiSldUIiwgImFsZyI6ICJIUzI1NiJ9." ++
        "eyJzdWIiOiAiYWRtaW4iLCAiYXVkIjogImdhdGV3YXlfYXBpIn0." ++
        "EkLGoOWcIyHD8fsws2x5oeU6profY8elHU5g6smvAtA")),
      (.authorization, .ofText "Bearer unsigned")] }
  now := 1800000000
  freshId := []
  network := fun _ => ⟨0, .error "connection refused"⟩

theorem exists_sent_twoTokens :
    ∃ outbound ∈ (terse.answer lone twoTokens).2.record.sent,
      outbound.fields.values .authorization =
        twoTokens.request.fields.values .authorization := by
  decide +kernel

theorem authorization_of_mem_sent_twoTokens :
    ∃ outbound ∈ (terse.answer lone twoTokens).2.record.sent,
      ∃ first rest text claims, twoTokens.request.fields.values .authorization = first :: rest ∧
        FieldValue.text? first = some text ∧
        terse.verifier.verify twoTokens.now (some text) = .ok claims ∧
        outbound.fields.values .authorization =
          if .authorization ∈ HopByHop.nominated twoTokens.request.fields then
            (Outbound.credentials? outbound.chosen.url).toList
          else first :: rest := by
  obtain ⟨outbound, h, -⟩ := exists_sent_twoTokens
  exact ⟨outbound, h, authorization_of_mem_sent h⟩

/-- Not every value that is sent has been accepted: the second one is not looked at. -/
theorem exists_sent_not_accepted :
    ¬ ∀ outbound ∈ (terse.answer lone twoTokens).2.record.sent,
      ∀ value ∈ outbound.fields.values .authorization, ∃ text claims,
        FieldValue.text? value = some text ∧
          terse.verifier.verify twoTokens.now (some text) = .ok claims := by
  intro h
  obtain ⟨outbound, hm, hv⟩ := exists_sent_twoTokens
  have hmem : .ofText "Bearer unsigned" ∈ outbound.fields.values .authorization := by
    rw [hv]; decide
  obtain ⟨text, claims, ht, hok⟩ := h outbound hm _ hmem
  have htext : FieldValue.text? (.ofText "Bearer unsigned") = some "Bearer unsigned" := by decide
  obtain rfl := Option.some.inj (htext.symm.trans ht)
  have hbad : terse.verifier.verify twoTokens.now (some "Bearer unsigned") =
      .error (.token .notThreeParts) := rfl
  rw [hbad] at hok
  cases hok

end Gateway

end ApiGateway
