import ApiGateway.Proofs.Gateway.Serving
import ApiGateway.Proofs.Http.Fields

/-! # Layers on the way out

Whatever the end of a request, its response passes the same layers. They keep its
status and write few names, so that every other name keeps its values, and they
look at little of the request.
-/

namespace ApiGateway

open Fields

variable {n : FieldName} {request : Request} {response : Response}

namespace CorsPolicy

variable {policy : CorsPolicy} {fs : Fields}

def written : List FieldName :=
  [.accessControlAllowOrigin, .vary, .accessControlAllowCredentials, .accessControlAllowHeaders,
    .accessControlAllowMethods, .accessControlExposeHeaders]

theorem values_varyByOrigin (hn : n ≠ .vary) : (varyByOrigin fs).values n = fs.values n := by
  unfold varyByOrigin
  split <;> simp [hn.symm]

theorem values_grant {origin : FieldValue} (hn : n ∉ written) :
    (grant origin fs).values n = fs.values n := by
  simp only [written, List.mem_cons, List.not_mem_nil, or_false, not_or, ← ne_eq] at hn
  obtain ⟨ho, hv, hc, hh, hm, he⟩ := hn
  simp only [grant, values_set, if_neg he.symm, if_neg hm.symm, if_neg hh.symm, if_neg hc.symm,
    values_varyByOrigin hv, if_neg ho.symm]

theorem values_mark (hn : n ∉ written) :
    (policy.mark request response).fields.values n = response.fields.values n := by
  unfold mark
  split
  · exact values_grant hn
  · rfl

end CorsPolicy

theorem Framing.values_finish {method : Text} (hn : n ≠ .contentLength) :
    (finish method response).fields.values n = response.fields.values n := by
  have hannounce : (announce response).fields.values n = response.fields.values n := by
    unfold announce
    split
    · split <;> simp [hn.symm]
    · rfl
  unfold finish
  split
  · rfl
  · dsimp only
    split <;> exact hannounce

namespace Gateway

variable {gateway gateway' : Gateway} {request' : Request}

theorem outgoing_status : (gateway.outgoing request response).status = response.status := by
  have hm (r : Response) : (gateway.cors.mark request r).status = r.status := by
    unfold CorsPolicy.mark; split <;> rfl
  have hi (r : Response) : (returnId request r).status = r.status := by
    unfold returnId
    split
    · split <;> rfl
    · rfl
  have hl (r : Response) : (listMethods request r).status = r.status := by
    unfold listMethods; split <;> rfl
  have ha (r : Response) : (Framing.announce r).status = r.status := by
    unfold Framing.announce
    split
    · split <;> rfl
    · rfl
  have hf (r : Response) : (Framing.finish request.method r).status = r.status := by
    unfold Framing.finish
    split
    · rfl
    · dsimp only
      split <;> exact ha r
  rw [outgoing, hf, hl, hi, hm]

theorem values_listMethods (hn : n ≠ .allow) :
    (listMethods request response).fields.values n = response.fields.values n := by
  unfold listMethods
  split
  · simp [hn.symm]
  · rfl

theorem values_returnId (hn : n ≠ .xRequestId) :
    (returnId request response).fields.values n = response.fields.values n := by
  unfold returnId
  split
  · split <;> simp [hn.symm]
  · rfl

theorem values_outgoing (hl : n ≠ .contentLength) (ha : n ≠ .allow) (hi : n ≠ .xRequestId) :
    (gateway.outgoing request response).fields.values n =
      (gateway.cors.mark request response).fields.values n := by
  rw [outgoing, Framing.values_finish hl, values_listMethods ha, values_returnId hi]

theorem values_returnId_xRequestId :
    (returnId request response).fields.values .xRequestId =
      if response.fields.values .xRequestId = [] then
        (request.fields.first? .xRequestId).toList
      else response.fields.values .xRequestId := by
  unfold returnId
  cases request.fields.first? .xRequestId with
  | none => by_cases h : response.fields.values .xRequestId = [] <;> simp [h]
  | some id =>
    dsimp only
    rw [apply_ite Response.fields]
    exact values_ite_contains ..

theorem values_outgoing_xRequestId :
    (gateway.outgoing request response).fields.values .xRequestId =
      if response.fields.values .xRequestId = [] then
        (request.fields.first? .xRequestId).toList
      else response.fields.values .xRequestId := by
  rw [outgoing, Framing.values_finish (by decide), values_listMethods (by decide),
    values_returnId_xRequestId, CorsPolicy.values_mark (by decide)]

/-- Of a request the layers see its method, its path, and the first values of two names. -/
theorem outgoing_congr (hc : gateway'.cors = gateway.cors) (hm : request'.method = request.method)
    (ht : request'.target.path = request.target.path)
    (ho : request'.fields.first? .origin = request.fields.first? .origin)
    (hi : request'.fields.first? .xRequestId = request.fields.first? .xRequestId) :
    gateway'.outgoing request' response = gateway.outgoing request response := by
  have hmark : gateway'.cors.mark request' response = gateway.cors.mark request response := by
    simp only [CorsPolicy.mark, CorsPolicy.granted?, hc, ho]
  have hreturn (r : Response) : returnId request' r = returnId request r := by
    simp only [returnId, hi]
  have hlist (r : Response) : listMethods request' r = listMethods request r := by
    simp only [listMethods, hm, ht]
  rw [outgoing, outgoing, hm, hmark, hreturn, hlist]

end Gateway

end ApiGateway
