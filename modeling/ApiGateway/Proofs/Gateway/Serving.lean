import ApiGateway.Gateway
import ApiGateway.Proofs.Route.Table

/-! # What becomes of a request

One relation lists the ends that a request can come to, with the guards that it
has passed on the way, the messages that are sent and the routing table that is
left. Every answer is one of them, so later proofs are by cases on it and do not
open the handlers again.
-/

namespace ApiGateway

namespace Serve

variable {handler : Serve Response} {t : Traffic} {response : Response} {sent : List Outbound}
  {routes : RouteTable}

/-- Started with `t`, the handler gives `response`, sends `sent` and leaves `routes`. -/
structure Ends (handler : Serve Response) (t : Traffic) (response : Response)
    (sent : List Outbound) (routes : RouteTable) : Prop where
  response_eq : (handler.run t).1 = response
  sent_eq : (handler.run t).2.record.sent = t.record.sent ++ sent
  routes_eq : (handler.run t).2.routes = routes

theorem ends_pure (response : Response) (t : Traffic) :
    Ends (pure response) t response [] t.routes :=
  ⟨rfl, (List.append_nil _).symm, rfl⟩

theorem Ends.map (h : Ends handler t response sent routes) (f : Response → Response) :
    Ends (do pure (f (← handler))) t (f response) sent routes :=
  ⟨congrArg f h.response_eq, h.sent_eq, h.routes_eq⟩

theorem Ends.log {event : Event}
    (h : Ends handler { t with record.events := t.record.events ++ [event] } response sent
      routes) : Ends (do Serve.log event; handler) t response sent routes :=
  ⟨h.response_eq, h.sent_eq, h.routes_eq⟩

end Serve

namespace Gateway

open Serve

variable {gateway : Gateway} {network : Network} {request : Request} {now : Nat} {t : Traffic}
  {claims : Claims}

/-- The request is neither answered for its method nor a question after the gateway's health, and
its token is acceptable. -/
structure Authorized (gateway : Gateway) (now : Nat) (request : Request) (claims : Claims) :
    Prop where
  method : CorsPolicy.isPreflight request = false
  path : request.target.path ≠ healthPath
  accepted : Bearer.check gateway.verifier now request = .ok claims

/-- The ends that a request with an identifier can come to. -/
inductive Served (gateway : Gateway) (routes : RouteTable) (now : Nat) (network : Network)
    (request : Request) : Response → List Outbound → RouteTable → Prop where

  | preflight : CorsPolicy.isPreflight request = true →
      Served gateway routes now network request .noContent [] routes

  | health : CorsPolicy.isPreflight request = false → request.target.path = healthPath →
      Served gateway routes now network request (health request) [] routes

  | refused {reason : Refusal} : CorsPolicy.isPreflight request = false →
      request.target.path ≠ healthPath →
      Bearer.check gateway.verifier now request = .error reason →
      Served gateway routes now network request .unauthorized [] routes

  | index {claims : Claims} : Authorized gateway now request claims →
      request.target.path = indexPath →
      Served gateway routes now network request (.phrase 200 (indexText routes.services)) [] routes

  | unknown {claims : Claims} : Authorized gateway now request claims →
      request.target.path ≠ indexPath → routes.resolve request.target.path = none →
      Served gateway routes now network request .serviceNotFound [] routes

  | exhausted {claims : Claims} {found : RouteMatch} {next : RouteTable} :
      Authorized gateway now request claims → request.target.path ≠ indexPath →
      routes.resolve request.target.path = some found →
      routes.select found.pool.name = (none, next) →
      Served gateway routes now network request .noBackend [] next

  | forwarded {claims : Claims} {found : RouteMatch} {chosen : Instance} {next : RouteTable}
      {outbound : Outbound} : Authorized gateway now request claims →
      request.target.path ≠ indexPath → routes.resolve request.target.path = some found →
      routes.select found.pool.name = (some chosen, next) →
      outbound =
        Outbound.ofRequest chosen (Path.join chosen.basePath found.strippedPath) request →
      Served gateway routes now network request
        (Exchange.response gateway.limit (network outbound)) [outbound] next

theorem Served.of_mem {routes next : RouteTable} {response : Response} {sent : List Outbound}
    {outbound : Outbound} (hs : Served gateway routes now network request response sent next)
    (ho : outbound ∈ sent) :
    ∃ claims found chosen, Authorized gateway now request claims ∧
      routes.resolve request.target.path = some found ∧
      routes.select found.pool.name = (some chosen, next) ∧
      outbound =
        Outbound.ofRequest chosen (Path.join chosen.basePath found.strippedPath) request := by
  cases hs with
  | preflight | health | refused | index | unknown | exhausted => cases ho
  | forwarded ha _ hr hs he =>
    rw [List.mem_singleton.mp ho]
    exact ⟨_, _, _, ha, hr, hs, he⟩

theorem Served.response_eq_of_mem {routes next : RouteTable} {response : Response}
    {sent : List Outbound} {outbound : Outbound}
    (hs : Served gateway routes now network request response sent next) (ho : outbound ∈ sent) :
    response = Exchange.response gateway.limit (network outbound) := by
  cases hs with
  | preflight | health | refused | index | unknown | exhausted => cases ho
  | forwarded => rw [List.mem_singleton.mp ho]

theorem Served.of_healthPath {routes next : RouteTable} {response : Response}
    {sent : List Outbound} (hs : Served gateway routes now network request response sent next)
    (hm : CorsPolicy.isPreflight request = false) (hp : request.target.path = healthPath) :
    response = Gateway.health request ∧ sent = [] := by
  cases hs with
  | preflight h => rw [hm] at h; cases h
  | health => exact ⟨rfl, rfl⟩
  | refused _ h => exact absurd hp h
  | index ha | unknown ha | exhausted ha | forwarded ha => exact absurd hp ha.path

theorem Served.of_refusal {routes next : RouteTable} {response : Response} {sent : List Outbound}
    {reason : Refusal} (hs : Served gateway routes now network request response sent next)
    (hm : CorsPolicy.isPreflight request = false) (hp : request.target.path ≠ healthPath)
    (hv : Bearer.check gateway.verifier now request = .error reason) :
    response = .unauthorized ∧ sent = [] := by
  cases hs with
  | preflight h => rw [hm] at h; cases h
  | health _ h => exact absurd h hp
  | refused => exact ⟨rfl, rfl⟩
  | index ha | unknown ha | exhausted ha | forwarded ha => rw [ha.accepted] at hv; cases hv

theorem Served.of_resolve {routes next : RouteTable} {response : Response} {sent : List Outbound}
    {found : RouteMatch} (hs : Served gateway routes now network request response sent next)
    (ha : Authorized gateway now request claims) (hi : request.target.path ≠ indexPath)
    (hr : routes.resolve request.target.path = some found) :
    (routes.select found.pool.name = (none, next) ∧ response = .noBackend ∧ sent = []) ∨
      ∃ chosen outbound, routes.select found.pool.name = (some chosen, next) ∧
        outbound =
          Outbound.ofRequest chosen (Path.join chosen.basePath found.strippedPath) request ∧
        response = Exchange.response gateway.limit (network outbound) ∧ sent = [outbound] := by
  cases hs with
  | preflight hp => rw [ha.method] at hp; cases hp
  | health _ hp => exact absurd hp ha.path
  | refused _ _ hv => rw [ha.accepted] at hv; cases hv
  | index _ hp => exact absurd hp hi
  | unknown _ _ hn => rw [hr] at hn; cases hn
  | exhausted _ _ hf hsel =>
    obtain rfl := Option.some.inj (hr.symm.trans hf)
    exact .inl ⟨hsel, rfl, rfl⟩
  | forwarded _ _ hf hsel ho =>
    obtain rfl := Option.some.inj (hr.symm.trans hf)
    exact .inr ⟨_, _, hsel, ho, rfl, rfl⟩

theorem ends_forward_of_select {found : RouteMatch} {chosen : Instance} {next : RouteTable}
    (hr : t.routes.resolve request.target.path = some found)
    (hs : t.routes.select found.pool.name = (some chosen, next)) :
    Ends (gateway.forward network request) t
      (Exchange.response gateway.limit (network
        (Outbound.ofRequest chosen (Path.join chosen.basePath found.strippedPath) request)))
      [Outbound.ofRequest chosen (Path.join chosen.basePath found.strippedPath) request] next := by
  refine ⟨?_, ?_, ?_⟩ <;>
    simp [forward, Serve.log, Serve.select, Serve.note, Exchange.forward, hr, hs] <;> rfl

theorem exists_ends_forward (ha : Authorized gateway now request claims)
    (hi : request.target.path ≠ indexPath) :
    ∃ response sent routes, Ends (gateway.forward network request) t response sent routes ∧
      Served gateway t.routes now network request response sent routes := by
  cases hr : t.routes.resolve request.target.path with
  | none =>
    refine ⟨_, _, _, ⟨?_, ?_, ?_⟩, .unknown ha hi hr⟩ <;> simp [forward, Serve.log, hr] <;> rfl
  | some found =>
    rcases hs : t.routes.select found.pool.name with ⟨picked, next⟩
    cases picked with
    | none =>
      refine ⟨_, _, _, ⟨?_, ?_, ?_⟩, .exhausted ha hi hr hs⟩ <;>
        simp [forward, Serve.log, Serve.select, hr, hs] <;> rfl
    | some chosen =>
      exact ⟨_, _, _, ends_forward_of_select hr hs, .forwarded ha hi hr hs rfl⟩

theorem exists_ends_protected (network : Network) (t : Traffic)
    (ha : Authorized gateway now request claims) :
    ∃ response sent routes,
      Ends (gateway.protectedHandler network request) t response sent routes ∧
        Served gateway t.routes now network request response sent routes := by
  by_cases hi : request.target.path = indexPath
  · rw [protectedHandler, if_pos hi]
    exact ⟨_, _, _, ⟨rfl, (List.append_nil _).symm, rfl⟩, .index ha hi⟩
  · rw [protectedHandler, if_neg hi]
    exact exists_ends_forward ha hi

theorem exists_ends_dispatch (gateway : Gateway) (now : Nat) (network : Network) (t : Traffic)
    (hp : CorsPolicy.isPreflight request = false) :
    ∃ response sent routes, Ends (gateway.dispatch now network request) t response sent routes ∧
      Served gateway t.routes now network request response sent routes := by
  by_cases hh : request.target.path = healthPath
  · rw [dispatch, if_pos hh]
    exact ⟨_, _, _, ends_pure _ t, .health hp hh⟩
  · rw [dispatch, if_neg hh, requireBearer]
    cases hv : Bearer.check gateway.verifier now request with
    | error reason => exact ⟨_, _, _, (ends_pure _ _).log, .refused hp hh hv⟩
    | ok claims =>
      obtain ⟨response, sent, routes, he, hs⟩ := exists_ends_protected network
        { t with record.events := t.record.events ++ [Bearer.event request (.ok claims)] }
        ⟨hp, hh, hv⟩
      exact ⟨response, sent, routes, he.log, hs⟩

theorem exists_ends_apply (gateway : Gateway) (now : Nat) (network : Network) (request : Request)
    (t : Traffic) :
    ∃ response sent routes,
      Ends (gateway.cors.apply (gateway.dispatch now network) request) t
        (gateway.cors.mark request response) sent routes ∧
      Served gateway t.routes now network request response sent routes := by
  cases hp : CorsPolicy.isPreflight request with
  | true =>
    rw [CorsPolicy.apply, if_pos hp]
    exact ⟨_, _, _, (ends_pure _ t).map _, .preflight hp⟩
  | false =>
    obtain ⟨response, sent, routes, he, hs⟩ := exists_ends_dispatch gateway now network t hp
    rw [CorsPolicy.apply, if_neg (by simp [hp])]
    exact ⟨response, sent, routes, he.map _, hs⟩

/-- The response to a request with an identifier, on its way out through the layers. -/
def outgoing (gateway : Gateway) (request : Request) (response : Response) : Response :=
  Framing.finish request.method
    (listMethods request (returnId request (gateway.cors.mark request response)))

/-- Every answer is one of the ends, carried out through the layers. -/
theorem exists_served (gateway : Gateway) (routes : RouteTable) (arrival : Arrival) :
    ∃ response, (gateway.answer routes arrival).1 =
        gateway.outgoing (identify arrival.freshId arrival.request) response ∧
      Served gateway routes arrival.now arrival.network
        (identify arrival.freshId arrival.request) response
        (gateway.answer routes arrival).2.record.sent (gateway.answer routes arrival).2.routes := by
  obtain ⟨response, sent, next, he, hs⟩ := exists_ends_apply gateway arrival.now arrival.network
    (identify arrival.freshId arrival.request) ⟨routes, {}⟩
  have ha := he.map (Framing.finish (identify arrival.freshId arrival.request).method ∘
    listMethods (identify arrival.freshId arrival.request) ∘
    returnId (identify arrival.freshId arrival.request))
  refine ⟨response, ha.response_eq, ?_⟩
  have hsent : (gateway.answer routes arrival).2.record.sent = sent := ha.sent_eq
  have hroutes : (gateway.answer routes arrival).2.routes = next := ha.routes_eq
  rwa [hsent, hroutes]

end Gateway

end ApiGateway
