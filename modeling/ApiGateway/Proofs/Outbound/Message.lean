import ApiGateway.Outbound.Exchange
import ApiGateway.Proofs.Http.Fields

/-! # What an instance is sent

The director rewrites four names of a header section and the client side of the
connection adds at most three. Every other name is what survives the connection
to the client, and the message names the chosen instance in its URL and in its
`Host` field.
-/

namespace ApiGateway

open Fields

namespace Director

variable {n : FieldName} {fs : Fields} {chosen : Instance} {request : Request}

def written : List FieldName := [.host, .xForwardedHost, .xForwardedProto, .xForwardedFor]

theorem values_recordHost (hn : n ≠ .xForwardedHost) :
    (recordHost request fs).values n = fs.values n := by
  unfold recordHost
  split <;> simp [hn.symm]

theorem values_recordScheme (hn : n ≠ .xForwardedProto) :
    (recordScheme fs).values n = fs.values n := by
  unfold recordScheme
  split <;> simp [hn.symm]

theorem values_recordClient (hn : n ≠ .xForwardedFor) :
    (recordClient request fs).values n = fs.values n := by
  unfold recordClient
  split <;> simp [hn.symm]

theorem values_direct_host :
    (direct chosen request).values .host = [.ofText chosen.authority] := by
  simp [direct]

theorem values_direct_of_not_mem (hn : n ∉ written) :
    (direct chosen request).values n = (HopByHop.strip request.fields).values n := by
  simp only [written, List.mem_cons, List.not_mem_nil, or_false, not_or] at hn
  obtain ⟨hh, hfh, hfp, hff⟩ := hn
  simp only [direct, values_set, if_neg (Ne.symm hh)]
  rw [values_recordClient hff, values_recordScheme hfp, values_recordHost hfh]

end Director

namespace Outbound

variable {n : FieldName} {fs : Fields} {url : Url} {chosen : Instance} {path : Text}
  {request : Request}

/-- The names that the client side of a connection adds. -/
def added : List FieldName := [.accept, .authorization, .transferEncoding]

theorem values_withAccept (hn : n ≠ .accept) : (withAccept fs).values n = fs.values n := by
  unfold withAccept
  split <;> simp [hn.symm]

theorem values_withCredentials (hn : n ≠ .authorization) :
    (withCredentials url fs).values n = fs.values n := by
  unfold withCredentials
  split
  · split <;> simp [hn.symm]
  · rfl

theorem values_framed {method : Text} {body : Body} (hn : n ≠ .transferEncoding) :
    (framed method body fs).1.values n = fs.values n := by
  unfold framed
  split
  · rfl
  · split <;> simp [hn.symm]

theorem values_ofRequest_of_not_mem (hn : n ∉ added) :
    (ofRequest chosen path request).fields.values n =
      (Director.direct chosen request).values n := by
  simp only [added, List.mem_cons, List.not_mem_nil, or_false, not_or] at hn
  obtain ⟨ha, hu, ht⟩ := hn
  simp only [ofRequest]
  rw [values_framed ht, values_withCredentials hu, values_withAccept ha]

theorem values_withCredentials_authorization :
    (withCredentials url fs).values .authorization =
      if fs.values .authorization = [] then (credentials? url).toList
      else fs.values .authorization := by
  unfold withCredentials
  cases credentials? url with
  | none => by_cases h : fs.values .authorization = [] <;> simp [h]
  | some value => exact values_ite_contains ..

theorem values_ofRequest_authorization :
    (ofRequest chosen path request).fields.values .authorization =
      if (HopByHop.strip request.fields).values .authorization = [] then
        (credentials? chosen.url).toList
      else (HopByHop.strip request.fields).values .authorization := by
  simp only [ofRequest]
  rw [values_framed (by decide), values_withCredentials_authorization,
    values_withAccept (by decide), Director.values_direct_of_not_mem (by decide)]
  rfl

/-- A message goes to an instance if its URL and its `Host` field name that instance. -/
structure AddressedTo (outbound : Outbound) (chosen : Instance) : Prop where
  chosen_eq : outbound.chosen = chosen
  scheme_eq : outbound.url.scheme = chosen.url.scheme
  authority_eq : outbound.url.authority = chosen.authority
  host_eq : outbound.fields.values .host = [.ofText chosen.authority]

theorem addressedTo_ofRequest (chosen : Instance) (path : Text) (request : Request) :
    (ofRequest chosen path request).AddressedTo chosen where
  chosen_eq := rfl
  scheme_eq := rfl
  authority_eq := rfl
  host_eq := by
    rw [values_ofRequest_of_not_mem (by decide), Director.values_direct_host]

end Outbound

end ApiGateway
