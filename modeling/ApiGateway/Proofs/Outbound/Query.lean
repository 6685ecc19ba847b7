import ApiGateway.Outbound.Message
import ApiGateway.Proofs.Http.Target
import ApiGateway.Proofs.Url.Segments

/-! # The query of a request

An instance is asked with the query of the caller, whatever query its own URL
has. Most of the characters that a target can have there are sent as they are;
the others are sent percent encoded.
-/

namespace ApiGateway

namespace Target

/-- The characters of a query that are not sent as they are: the apostrophe, and all that is not
printable ASCII. -/
def isEncodedInQuery (c : Char) : Bool := c = '\'' || 0x7F ≤ c.toNat

theorem querySet_eq_of_isQueryChar {c : Char} (h : isQueryChar c = true) :
    Url.querySet c = isEncodedInQuery c := by
  obtain ⟨hspace, hquote, hhash, hless, hgreater⟩ :
      0x20 < c.toNat ∧ c ≠ '"' ∧ c ≠ '#' ∧ c ≠ '<' ∧ c ≠ '>' := by
    simpa [isQueryChar] using h
  have hne : c ≠ ' ' := by
    rintro rfl
    exact absurd hspace (by decide)
  have hlow : ¬ c.toNat < 0x20 := by omega
  have hcontrol : Url.controlSet c = decide (0x7F ≤ c.toNat) := by
    simp only [Url.controlSet, decide_eq_false hlow, Bool.false_or]
  simp [Url.querySet, isEncodedInQuery, hcontrol, hne, hquote, hhash, hless, hgreater,
    Bool.or_comm]

theorem isIgnored_eq_false_of_isQueryChar {c : Char} (h : isQueryChar c = true) :
    Url.isIgnored c = false := by
  cases hi : Url.isIgnored c with
  | false => rfl
  | true =>
    simp only [Url.isIgnored, Bool.or_eq_true, decide_eq_true_eq] at hi
    rcases hi with (rfl | rfl) | rfl <;> revert h <;> decide

end Target

namespace Outbound

open Target

variable {s : Text} {request : Request}

/-- The query that is sent is the one that the caller wrote, with some characters encoded. There is
one exactly if the caller wrote one, it is empty exactly if that is, and it is the same exactly if
that has none of those characters. -/
theorem query_ofRequest (h : Target.ofText? s = some request.target) (chosen : Instance)
    (path : Text) :
    request.target.query = writtenQuery? s ∧
      (ofRequest chosen path request).url.query =
        request.target.query.map (Url.percentEncode isEncodedInQuery) ∧
      ((ofRequest chosen path request).url.query = none ↔ request.target.query = none) ∧
      ((ofRequest chosen path request).url.query = some [] ↔ request.target.query = some []) ∧
      ((ofRequest chosen path request).url.query = request.target.query ↔
        ∀ query, request.target.query = some query → ∀ c ∈ query, isEncodedInQuery c = false) := by
  obtain ⟨hwritten, hplaced⟩ := query_of_ofText? h
  refine ⟨hwritten, ?_⟩
  have hsent : (ofRequest chosen path request).url.query = request.target.query.map fun query =>
      Url.percentEncode Url.querySet (Url.dropIgnored query) := rfl
  rw [hsent]
  cases hq : request.target.query with
  | none => simp
  | some query =>
    have hchars := hplaced query hq
    have hdrop : Url.dropIgnored query = query := List.filter_eq_self.mpr fun c hc => by
      rw [isIgnored_eq_false_of_isQueryChar (hchars c hc)]; rfl
    have hset : Url.percentEncode Url.querySet query =
        Url.percentEncode isEncodedInQuery query :=
      Url.percentEncode_congr fun c hc => querySet_eq_of_isQueryChar (hchars c hc)
    simp only [Option.map_some, hdrop, hset, Option.some.injEq, reduceCtorEq,
      Url.percentEncode_eq_nil_iff, Url.percentEncode_eq_self_iff, forall_eq', true_and]

def queried : Instance := ⟨⟨.http, [], [], .domain "c1", some 8000, "/svc", some "v=1", none⟩⟩

def quoting : Request where
  target := { path := "/catalog/items", query := some "name='a'" }

theorem ofText?_quoting : Target.ofText? "/catalog/items?name='a'" = some quoting.target := by
  decide +kernel

theorem query_ofRequest_quoting :
    Target.ofText? "/catalog/items?name='a'" = some quoting.target ∧
      quoting.target.query = writtenQuery? "/catalog/items?name='a'" ∧
      (ofRequest queried "/svc/items" quoting).url.query =
        quoting.target.query.map (Url.percentEncode isEncodedInQuery) ∧
      ((ofRequest queried "/svc/items" quoting).url.query = none ↔ quoting.target.query = none) ∧
      ((ofRequest queried "/svc/items" quoting).url.query = some [] ↔
        quoting.target.query = some []) ∧
      ((ofRequest queried "/svc/items" quoting).url.query = quoting.target.query ↔
        ∀ query, quoting.target.query = some query → ∀ c ∈ query, isEncodedInQuery c = false) := by
  have h := query_ofRequest ofText?_quoting queried "/svc/items"
  exact ⟨ofText?_quoting, h⟩

/-- The apostrophes arrive in another form. -/
theorem query_ofRequest_ne_quoting :
    Target.ofText? "/catalog/items?name='a'" = some quoting.target ∧
      (ofRequest queried "/svc/items" quoting).url.query = some "name=%27a%27" ∧
      (ofRequest queried "/svc/items" quoting).url.query ≠ quoting.target.query := by
  decide +kernel

end Outbound

end ApiGateway
