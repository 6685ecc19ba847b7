import ApiGateway.Proofs.Auth.Acceptance
import ApiGateway.Proofs.Gateway.Layers
import ApiGateway.Proofs.Outbound.Message

/-! # Admission

Over any sequence of requests, an instance is sent exactly the requests that
pass every check. Earlier requests can change whose turn it is in a pool, but
not which requests pass.
-/

namespace ApiGateway

namespace Gateway

open RouteTable

variable {gateway : Gateway} {routes table next : RouteTable} {arrival : Arrival}
  {found : RouteMatch} {request : Request} {response : Response} {sent : List Outbound} {now : Nat}
  {network : Network} {verifier : Verifier}

/-- The request as the layers behind the identification see it. -/
abbrev identified (arrival : Arrival) : Request := identify arrival.freshId arrival.request

@[simp] theorem identified_method : (identified arrival).method = arrival.request.method := by
  unfold identified identify
  split <;> rfl

@[simp] theorem identified_target : (identified arrival).target = arrival.request.target := by
  unfold identified identify
  split <;> rfl

theorem values_identified {n : FieldName} (hn : n ≠ .xRequestId) :
    (identified arrival).fields.values n = arrival.request.fields.values n := by
  unfold identified identify
  split
  · rfl
  · simp [hn.symm]

theorem first?_identified {n : FieldName} (hn : n ≠ .xRequestId) :
    (identified arrival).fields.first? n = arrival.request.fields.first? n := by
  simp only [Fields.first?, values_identified hn]

theorem values_identified_xRequestId :
    (identified arrival).fields.values .xRequestId =
      if arrival.request.fields.values .xRequestId = [] then [arrival.freshId]
      else arrival.request.fields.values .xRequestId := by
  rw [identified, identify, apply_ite Request.fields]
  exact Fields.values_ite_contains ..

theorem check_identified :
    Bearer.check verifier now (identified arrival) = Bearer.check verifier now arrival.request := by
  simp only [Bearer.check, Bearer.authorization?, first?_identified (n := .authorization)
    (by decide)]

theorem isPreflight_identified_eq_false_iff :
    CorsPolicy.isPreflight (identified arrival) = false ↔
      arrival.request.method ≠ ("OPTIONS" : Text) := by
  simp [CorsPolicy.isPreflight]

theorem authorized_identified_iff {claims : Claims} :
    Authorized gateway arrival.now (identified arrival) claims ↔
      arrival.request.method ≠ ("OPTIONS" : Text) ∧ arrival.request.target.path ≠ healthPath ∧
        Bearer.check gateway.verifier arrival.now arrival.request = .ok claims := by
  rw [← isPreflight_identified_eq_false_iff, ← identified_target, ← check_identified]
  constructor
  · rintro ⟨hm, hp, hv⟩; exact ⟨hm, hp, hv⟩
  · rintro ⟨hm, hp, hv⟩; exact ⟨hm, hp, hv⟩

structure Admitted (gateway : Gateway) (routes : RouteTable) (arrival : Arrival)
    (found : RouteMatch) : Prop where
  method : arrival.request.method ≠ ("OPTIONS" : Text)
  not_health : arrival.request.target.path ≠ ("/healthz" : Text)
  not_index : arrival.request.target.path ≠ ("/" : Text)
  accepted : ∃ value text claims, arrival.request.fields.first? .authorization = some value ∧
    FieldValue.text? value = some text ∧
    gateway.verifier.verify arrival.now (some text) = .ok claims
  resolved : routes.resolve arrival.request.target.path = some found
  nonempty : found.pool.instances ≠ []

theorem Admitted.authorized (h : Admitted gateway routes arrival found) :
    ∃ claims, Authorized gateway arrival.now (identified arrival) claims := by
  obtain ⟨value, text, claims, hf, ht, hv⟩ := h.accepted
  exact ⟨claims, authorized_identified_iff.mpr ⟨h.method, h.not_health,
    Bearer.check_eq_ok_iff.mpr ⟨value, text, hf, ht, hv⟩⟩⟩

theorem Authorized.admitted {claims : Claims}
    (ha : Authorized gateway arrival.now (identified arrival) claims)
    (hi : (identified arrival).target.path ≠ indexPath)
    (hr : routes.resolve (identified arrival).target.path = some found)
    (hn : found.pool.instances ≠ []) : Admitted gateway routes arrival found := by
  obtain ⟨hm, hp, hv⟩ := authorized_identified_iff.mp ha
  obtain ⟨value, text, hf, ht, hv⟩ := Bearer.check_eq_ok_iff.mp hv
  rw [identified_target] at hi hr
  exact ⟨hm, hp, hi, ⟨value, text, claims, hf, ht, hv⟩, hr, hn⟩

/-- Tables that differ in the turns alone admit the same requests. -/
theorem Admitted.of_sameServices (h : Admitted gateway routes arrival found)
    (hs : SameServices routes table) :
    ∃ pool, Admitted gateway table arrival ⟨pool, found.strippedPath⟩ ∧
      pool.name = found.pool.name ∧ pool.instances = found.pool.instances := by
  obtain ⟨pool, hr, hn, hi⟩ := hs.exists_resolve h.resolved
  exact ⟨pool, { h with resolved := hr, nonempty := by rw [hi]; exact h.nonempty }, hn, hi⟩

theorem answer_of_admitted (h : Admitted gateway routes arrival found) :
    ∃ chosen ∈ found.pool.instances,
      routes.select found.pool.name = (some chosen, (gateway.answer routes arrival).2.routes) ∧
      (gateway.answer routes arrival).2.record.sent = [Outbound.ofRequest chosen
        (Path.join chosen.basePath found.strippedPath) (identified arrival)] := by
  obtain ⟨claims, ha⟩ := h.authorized
  obtain ⟨chosen, hm, hc⟩ := exists_select_of_ne_nil (pool?_of_resolve h.resolved) h.nonempty
  obtain ⟨response, -, hs⟩ := exists_served gateway routes arrival
  obtain ⟨hsel, -⟩ | ⟨_, outbound, hsel, ho, -, hsent⟩ :=
    hs.of_resolve ha (by rw [identified_target]; exact h.not_index) (by simpa using h.resolved)
  · rw [hsel] at hc
    cases hc
  · rw [hsel] at hc
    obtain rfl := Option.some.inj hc
    exact ⟨_, hm, hsel, by rw [hsent, ho]⟩

theorem health_status (request : Request) :
    (health request).status = 200 ∨ (health request).status = 405 := by
  unfold health
  split
  · exact .inl rfl
  · exact .inr rfl

/-- The states that the gateway answers with by itself, without an exchange. -/
def ownStatuses : List Nat := [200, 204, 401, 404, 405, 503]

/-- One request that is not admitted: nothing is sent, and no turn is taken. -/
theorem answer_of_not_admitted (h : ∀ found, ¬ Admitted gateway routes arrival found) :
    (gateway.answer routes arrival).2.record.sent = [] ∧
      (∀ name, (gateway.answer routes arrival).2.routes.pool? name = routes.pool? name) ∧
      (gateway.answer routes arrival).1.status ∈ ownStatuses := by
  obtain ⟨response, hresp, hs⟩ := exists_served gateway routes arrival
  rw [hresp, outgoing_status]
  generalize (gateway.answer routes arrival).2.record.sent = sent at hs ⊢
  generalize (gateway.answer routes arrival).2.routes = next at hs ⊢
  cases hs with
  | preflight => exact ⟨rfl, fun _ => rfl, by decide⟩
  | health =>
    refine ⟨rfl, fun _ => rfl, ?_⟩
    rcases health_status _ with h | h <;> rw [h] <;> decide
  | refused => exact ⟨rfl, fun _ => rfl, by decide⟩
  | index => exact ⟨rfl, fun _ => rfl, by simp [Response.phrase, ownStatuses]⟩
  | unknown => exact ⟨rfl, fun _ => rfl, by decide⟩
  | @exhausted _ found _ _ _ hr hsel =>
    have hp := pool?_of_resolve hr
    have hn : found.pool.instances = [] := eq_nil_of_select hp (by rw [hsel])
    exact ⟨rfl, by simpa only [hsel] using (select_of_nil hp hn).2, by decide⟩
  | @forwarded _ found _ _ _ ha hi hr hsel =>
    have hn : found.pool.instances ≠ [] :=
      List.ne_nil_of_mem (mem_of_select (pool?_of_resolve hr) (by rw [hsel]))
    exact absurd (ha.admitted hi hr hn) (h _)

/-- The table that a sequence of requests leaves. -/
def routesAfter (gateway : Gateway) (routes : RouteTable) (arrivals : List Arrival) : RouteTable :=
  arrivals.foldl (fun table arrival => (gateway.answer table arrival).2.routes) routes

theorem routesAfter_append_singleton (gateway : Gateway) (routes : RouteTable)
    (before : List Arrival) (arrival : Arrival) :
    gateway.routesAfter routes (before ++ [arrival]) =
      (gateway.answer (gateway.routesAfter routes before) arrival).2.routes := by
  simp only [routesAfter, List.foldl_append, List.foldl_cons, List.foldl_nil]

theorem sameServices_answer (gateway : Gateway) (routes : RouteTable) (arrival : Arrival) :
    SameServices routes (gateway.answer routes arrival).2.routes := by
  by_cases h : ∃ found, Admitted gateway routes arrival found
  · obtain ⟨found, h⟩ := h
    obtain ⟨chosen, -, hs, -⟩ := answer_of_admitted h
    simpa only [hs] using SameServices.select routes found.pool.name
  · exact .of_pool? (answer_of_not_admitted fun found ha => h ⟨found, ha⟩).2.1

theorem sameServices_routesAfter (gateway : Gateway) (routes : RouteTable)
    (arrivals : List Arrival) : SameServices routes (gateway.routesAfter routes arrivals) := by
  induction arrivals generalizing routes with
  | nil => exact .refl routes
  | cons a arrivals ih => exact (sameServices_answer gateway routes a).trans (ih _)

theorem run_getElem? (gateway : Gateway) (routes : RouteTable) (before after : List Arrival)
    (arrival : Arrival) :
    (gateway.run routes (before ++ arrival :: after))[before.length]? =
      some ((gateway.answer (gateway.routesAfter routes before) arrival).1,
        (gateway.answer (gateway.routesAfter routes before) arrival).2.record) := by
  induction before generalizing routes with
  | nil => rfl
  | cons a before ih => exact ih (gateway.answer routes a).2.routes

/-- At any place of any sequence of requests: a request that is admitted is sent once, to the
instance whose turn it is in the pool that its path leads to; for any other nothing is sent, every
pool keeps its turn and the gateway answers by itself. Whether a request is admitted does not
depend on the requests before it. -/
theorem run_admission (gateway : Gateway) (routes : RouteTable) (before after : List Arrival)
    (arrival : Arrival) :
    ∃ response record,
      (gateway.run routes (before ++ arrival :: after))[before.length]? = some (response, record) ∧
      (∀ found, Admitted gateway routes arrival found → ∃ chosen ∈ found.pool.instances,
        (gateway.routesAfter routes before).select found.pool.name =
          (some chosen, gateway.routesAfter routes (before ++ [arrival])) ∧
        ∃ outbound, record.sent = [outbound] ∧ outbound.AddressedTo chosen ∧
          outbound = Outbound.ofRequest chosen
            (Path.join chosen.basePath found.strippedPath) (identified arrival)) ∧
      ((∀ found, ¬ Admitted gateway routes arrival found) → record.sent = [] ∧
        (∀ name, (gateway.routesAfter routes (before ++ [arrival])).pool? name =
          (gateway.routesAfter routes before).pool? name) ∧
        response.status ∈ ownStatuses) := by
  have hsame := sameServices_routesAfter gateway routes before
  rw [routesAfter_append_singleton]
  refine ⟨_, _, run_getElem? gateway routes before after arrival, ?_, ?_⟩
  · intro found h
    obtain ⟨pool, h', hn, hi⟩ := h.of_sameServices hsame
    obtain ⟨chosen, hm, hs, hsent⟩ := answer_of_admitted h'
    refine ⟨chosen, by rwa [hi] at hm, by rwa [hn] at hs, _, hsent, ?_, rfl⟩
    exact Outbound.addressedTo_ofRequest _ _ _
  · intro h
    refine answer_of_not_admitted fun found h' => ?_
    obtain ⟨pool, h'', -, -⟩ := h'.of_sameServices hsame.symm
    exact h _ h''

end Gateway

end ApiGateway
