import ApiGateway.Proofs.Gateway.Credentials
import ApiGateway.Proofs.Outbound.Exchange

/-! # The identifier of a request

An identifier that the client chose goes with the request to the instance and
comes back with the response. Two others have a say in it: the `Connection`
values of the client, which can hold it back from the instance, and an instance
that answers with identifiers of its own.
-/

namespace ApiGateway

/-- The exchange ends in time with an answer that brings these identifiers, and the `Connection`
values of the answer do not hold them back. -/
structure Exchange.Renames (limit : Option Nat) (outcome : Outcome) (ids : List FieldValue) :
    Prop where
  ne_nil : ids ≠ []
  in_time : ¬ Expires limit outcome
  exists_answer : ∃ answer, outcome.answer = .ok answer ∧
    ¬ HopByHop.Nominates .xRequestId answer.fields ∧ answer.fields.values .xRequestId = ids

theorem Exchange.renames_iff {limit : Option Nat} {outcome : Outcome} {ids : List FieldValue} :
    Renames limit outcome ids ↔
      ids ≠ [] ∧ (response limit outcome).fields.values .xRequestId = ids := by
  have hr := received_response limit outcome
  generalize response limit outcome = response at hr
  constructor
  · rintro ⟨hids, hl, answer, ha, hn, rfl⟩
    refine ⟨hids, ?_⟩
    cases hr with
    | relayed _ ha' hrel =>
      obtain rfl := Except.ok.inj (ha.symm.trans ha')
      exact hrel.kept _ (by decide) hn
    | failed hf =>
      obtain ⟨-, cause, hc⟩ := hf
      cases ha.symm.trans hc
    | expired hl' => exact absurd hl' hl
  · rintro ⟨hids, rfl⟩
    cases hr with
    | @relayed answer _ hl ha hrel =>
      have hn : ¬ HopByHop.Nominates .xRequestId answer.fields := fun hn =>
        hids (hrel.dropped _ (.inr hn))
      exact ⟨hids, hl, answer, ha, hn, (hrel.kept _ (by decide) hn).symm⟩
    | failed | expired => exact absurd rfl hids

namespace Gateway

open Exchange

variable {gateway : Gateway} {routes next : RouteTable} {arrival : Arrival} {now : Nat}
  {network : Network} {request : Request} {response : Response} {sent : List Outbound}
  {outbound : Outbound} {id : FieldValue} {rest : List FieldValue}

theorem values_health (request : Request) : (health request).fields.values .xRequestId = [] := by
  unfold health
  split <;> rfl

theorem Served.values_xRequestId_of_nil
    (hs : Served gateway routes now network request response [] next) :
    response.fields.values .xRequestId = [] := by
  cases hs with
  | preflight | refused | index | unknown | exhausted => rfl
  | health => exact values_health request

theorem identified_of_values (h : arrival.request.fields.values .xRequestId = id :: rest) :
    identified arrival = arrival.request := by
  rw [identified, identify, if_pos]
  rw [Fields.contains_iff_values_ne_nil, h]
  exact List.cons_ne_nil id rest

/-- A request arrives with identifiers of its own. An instance is sent all of them, in order, unless
a `Connection` field of the request nominates their name: then it is sent none. The client receives
the first one and no other, unless the answer of the instance brings identifiers: then it receives
those. -/
theorem xRequestId_of_values (h : arrival.request.fields.values .xRequestId = id :: rest)
    (gateway : Gateway) (routes : RouteTable) :
    (∀ outbound ∈ (gateway.answer routes arrival).2.record.sent,
      outbound.fields.values .xRequestId =
        if .xRequestId ∈ HopByHop.nominated arrival.request.fields then [] else id :: rest) ∧
    ((∀ outbound ∈ (gateway.answer routes arrival).2.record.sent, ∀ ids,
        ¬ Renames gateway.limit (arrival.network outbound) ids) →
      (gateway.answer routes arrival).1.fields.values .xRequestId = [id]) ∧
    (∀ outbound ∈ (gateway.answer routes arrival).2.record.sent, ∀ ids,
      Renames gateway.limit (arrival.network outbound) ids →
        (gateway.answer routes arrival).1.fields.values .xRequestId = ids) := by
  obtain ⟨response, hresponse, hs⟩ := exists_served gateway routes arrival
  rw [hresponse, values_outgoing_xRequestId]
  rw [show identify arrival.freshId arrival.request = arrival.request from
    identified_of_values h] at hs ⊢
  have hfirst : (arrival.request.fields.first? .xRequestId).toList = [id] := by
    simp [Fields.first?, h]
  rw [hfirst]
  refine ⟨fun outbound ho => ?_, fun hnone => ?_, fun outbound ho ids hids => ?_⟩
  · obtain ⟨-, found, chosen, -, -, -, rfl⟩ := hs.of_mem ho
    have hfixed : FieldName.xRequestId ∉ HopByHop.fixed := by decide
    rw [Outbound.values_ofRequest_of_not_mem (by decide),
      Director.values_direct_of_not_mem (by decide), HopByHop.values_strip, h]
    simp only [hfixed, or_false]
  · generalize (gateway.answer routes arrival).2.record.sent = sent at hs hnone
    cases sent with
    | nil => rw [if_pos hs.values_xRequestId_of_nil]
    | cons outbound sent =>
      rw [if_pos]
      by_contra hv
      refine hnone outbound List.mem_cons_self _ (renames_iff.mpr ⟨hv, ?_⟩)
      rw [hs.response_eq_of_mem List.mem_cons_self]
  · obtain ⟨hne, hv⟩ := renames_iff.mp hids
    rw [← hs.response_eq_of_mem ho] at hv
    rw [hv, if_neg hne]

def selfNamed : Response :=
  { status := 200, fields := [(.xRequestId, .ofText "up-1"), (.xRequestId, .ofText "up-2")] }

/-- A request whose client keeps the identifier from the instance. -/
def renamed : Arrival :=
  { twoTokens with
    request := { twoTokens.request with
      fields := twoTokens.request.fields ++
        [(.connection, .ofText "x-request-id"), (.xRequestId, .ofText "rid-1")] }
    network := fun _ => ⟨0, .ok selfNamed⟩ }

theorem values_renamed :
    renamed.request.fields.values .xRequestId = [.ofText "rid-1"] := by
  decide +kernel

theorem xRequestId_of_values_renamed :
    renamed.request.fields.values .xRequestId = [.ofText "rid-1"] ∧
    (∀ outbound ∈ (terse.answer lone renamed).2.record.sent,
      outbound.fields.values .xRequestId =
        if .xRequestId ∈ HopByHop.nominated renamed.request.fields then []
        else [.ofText "rid-1"]) ∧
    ((∀ outbound ∈ (terse.answer lone renamed).2.record.sent, ∀ ids,
        ¬ Renames terse.limit (renamed.network outbound) ids) →
      (terse.answer lone renamed).1.fields.values .xRequestId = [.ofText "rid-1"]) ∧
    (∀ outbound ∈ (terse.answer lone renamed).2.record.sent, ∀ ids,
      Renames terse.limit (renamed.network outbound) ids →
        (terse.answer lone renamed).1.fields.values .xRequestId = ids) := by
  have h := xRequestId_of_values values_renamed terse lone
  exact ⟨values_renamed, h⟩

/-- The instance does not see the identifier, and the client does not get it back. -/
theorem xRequestId_lost :
    renamed.request.fields.first? .xRequestId = some (.ofText "rid-1") ∧
      (terse.answer lone renamed).1.fields.values .xRequestId ≠ [.ofText "rid-1"] ∧
      ∃ outbound ∈ (terse.answer lone renamed).2.record.sent,
        outbound.fields.first? .xRequestId ≠ some (.ofText "rid-1") := by
  decide +kernel

end Gateway

end ApiGateway
