import ApiGateway.Proofs.Gateway.Credentials
import ApiGateway.Proofs.Route.Configured

/-! # Requests that reach their service

With an acceptable token, a request for a path of a configured service is
answered from the pool of that service. One path is an exception: the gateway
answers for its own health under it, also if a service has that name.
-/

namespace ApiGateway

/-- The path is that of the service, or lies below it. -/
def Path.Below (path service : Text) : Prop :=
  path = '/' :: service ∨ ∃ more, path = '/' :: service ++ '/' :: more

theorem Path.Below.exists_splits {path : Text} {service : Service} (h : Below path service.name)
    (hs : service.Sound) : ∃ rest, Splits path 1 service.name rest := by
  obtain rfl | ⟨more, rfl⟩ := h
  · exact ⟨[], by simpa using hs.splits (.inl rfl)⟩
  · exact ⟨'/' :: more, hs.splits (.inr ⟨more, rfl⟩)⟩

namespace Gateway

open RouteTable

variable {gateway : Gateway} {routes : RouteTable} {arrival : Arrival} {pool : Pool} {rest : Text}
  {claims : Claims} {found : RouteMatch}

/-- The request is answered from a pool: by the instance whose turn it is, which is asked for the
rest of the path, or with the news that there is none. -/
inductive Pooled (gateway : Gateway) (routes : RouteTable) (arrival : Arrival) (pool : Pool)
    (rest : Text) : Prop

  | exhausted : pool.instances = [] →
      (gateway.answer routes arrival).1 = gateway.outgoing (identified arrival) .noBackend →
      (gateway.answer routes arrival).2.record.sent = [] →
      Pooled gateway routes arrival pool rest

  | forwarded {chosen : Instance} {outbound : Outbound} : chosen ∈ pool.instances →
      (routes.select pool.name).1 = some chosen →
      outbound = .ofRequest chosen (Path.join chosen.basePath rest) (identified arrival) →
      (gateway.answer routes arrival).1 = gateway.outgoing (identified arrival)
        (Exchange.response gateway.limit (arrival.network outbound)) →
      (gateway.answer routes arrival).2.record.sent = [outbound] →
      Pooled gateway routes arrival pool rest

theorem answer_of_healthPath (gateway : Gateway) (routes : RouteTable)
    (hm : arrival.request.method ≠ ("OPTIONS" : Text))
    (hp : arrival.request.target.path = healthPath) :
    (gateway.answer routes arrival).1 =
        gateway.outgoing (identified arrival) (health (identified arrival)) ∧
      (gateway.answer routes arrival).2.record.sent = [] := by
  obtain ⟨response, hresponse, hs⟩ := exists_served gateway routes arrival
  obtain ⟨rfl, hsent⟩ :=
    hs.of_healthPath (isPreflight_identified_eq_false_iff.mpr hm) (by rwa [identified_target])
  exact ⟨hresponse, hsent⟩

theorem not_pooled_of_healthPath (hm : arrival.request.method ≠ ("OPTIONS" : Text))
    (hp : arrival.request.target.path = healthPath) :
    ¬ Pooled gateway routes arrival pool rest := by
  obtain ⟨hresponse, hsent⟩ := answer_of_healthPath gateway routes hm hp
  intro h
  cases h with
  | exhausted _ hr =>
    have hstatus := congrArg Response.status (hresponse.symm.trans hr)
    simp only [outgoing_status] at hstatus
    rcases health_status (identified arrival) with h | h <;> rw [h] at hstatus <;> cases hstatus
  | forwarded _ _ _ _ hs =>
    rw [hsent] at hs
    cases hs

theorem Authorized.pooled (ha : Authorized gateway arrival.now (identified arrival) claims)
    (hi : arrival.request.target.path ≠ indexPath)
    (hr : routes.resolve arrival.request.target.path = some found) :
    Pooled gateway routes arrival found.pool found.strippedPath := by
  obtain ⟨response, hresponse, hs⟩ := exists_served gateway routes arrival
  have hp := pool?_of_resolve hr
  rw [← identified_target] at hi hr
  obtain ⟨hsel, rfl, hsent⟩ | ⟨chosen, outbound, hsel, ho, rfl, hsent⟩ := hs.of_resolve ha hi hr
  · exact .exhausted (eq_nil_of_select hp (by rw [hsel])) hresponse hsent
  · have hfst : (routes.select found.pool.name).1 = some chosen := by rw [hsel]
    exact .forwarded (mem_of_select hp hfst) hfst ho hresponse hsent

/-- In every state of a gateway with the routing table of a valid configuration: a request with an
acceptable token for a path of a service leads to the pool of the service. It is answered from
there exactly if the path is not the one under which the gateway tells its own health; that one is
the path of a service with the name healthz, and the answer is the gateway's own. -/
theorem pooled_iff_of_below {config : Config} {table : RouteTable} {service : Service}
    (h : config.isValid = true) (hb : RouteTable.ofServices? config.services = .ok table)
    (hservice : service ∈ config.services) (hm : arrival.request.method ≠ ("OPTIONS" : Text))
    (hv : Bearer.check gateway.verifier arrival.now arrival.request = .ok claims)
    (hp : Path.Below arrival.request.target.path service.name) (before : List Arrival) :
    ∃ pool rest, (gateway.routesAfter table before).resolve arrival.request.target.path =
        some ⟨pool, rest⟩ ∧ pool.name = service.name ∧
      List.Forall₂ (fun url i => Instance.ofText? url = .ok i) service.backends pool.instances ∧
      (Pooled gateway (gateway.routesAfter table before) arrival pool rest ↔
        arrival.request.target.path ≠ ("/healthz" : Text)) ∧
      (arrival.request.target.path = ("/healthz" : Text) → service.name = ("healthz" : Text) ∧
        (gateway.answer (gateway.routesAfter table before) arrival).1 =
          gateway.outgoing (identified arrival) (health (identified arrival)) ∧
        (gateway.answer (gateway.routesAfter table before) arrival).2.record.sent = []) := by
  obtain ⟨pool, hpool, hserves⟩ := Config.exists_pool?_of_mem h hb hservice
  obtain ⟨more, hsplits⟩ :=
    hp.exists_splits ((Config.sound_and_nodup_of_isValid h).1 service hservice)
  have hfirst := Path.firstSegment?_eq_some_iff.mpr ⟨1, more, hsplits⟩
  obtain ⟨pool', hresolve, hname, hinstances⟩ :=
    (sameServices_routesAfter gateway table before).exists_resolve (resolve_of_splits hpool hsplits)
  refine ⟨pool', _, hresolve, hname.trans hserves.name_eq, hinstances ▸ hserves.instances,
    ⟨fun hpooled hhealth => not_pooled_of_healthPath hm hhealth hpooled, fun hhealth => ?_⟩,
    fun hhealth => ⟨?_, answer_of_healthPath _ _ hm hhealth⟩⟩
  · have ha := authorized_identified_iff.mpr ⟨hm, hhealth, hv⟩
    refine ha.pooled (fun hindex => ?_) hresolve
    rw [hindex] at hfirst
    cases hfirst
  · rw [hhealth] at hfirst
    exact (Option.some.inj hfirst).symm

def healthzOnly : Config where
  services := [⟨"healthz", ["http://[::1]:8000/svc"]⟩]

theorem isValid_healthzOnly : healthzOnly.isValid = true := by
  decide +kernel

def twoTokensFor (path : Text) : Arrival :=
  { twoTokens with request := { twoTokens.request with target := { path } } }

theorem exists_check_twoTokensFor (path : Text) : ∃ claims,
    Bearer.check terse.verifier (twoTokensFor path).now (twoTokensFor path).request =
      .ok claims := by
  obtain ⟨outbound, h, -⟩ := exists_sent_twoTokens
  obtain ⟨_, -, hs⟩ := exists_served terse lone twoTokens
  obtain ⟨claims, -, -, ha, -⟩ := hs.of_mem h
  exact ⟨claims, check_identified.symm.trans ha.accepted⟩

theorem pooled_iff_of_below_healthzOnly : healthzOnly.isValid = true ∧ ∃ table claims,
    RouteTable.ofServices? healthzOnly.services = .ok table ∧
    Bearer.check terse.verifier (twoTokensFor "/healthz/live").now
      (twoTokensFor "/healthz/live").request = .ok claims ∧
    ∃ pool rest, (terse.routesAfter table []).resolve ("/healthz/live" : Text) =
        some ⟨pool, rest⟩ ∧ pool.name = ("healthz" : Text) ∧
      Pooled terse (terse.routesAfter table []) (twoTokensFor "/healthz/live") pool rest := by
  obtain ⟨table, hb⟩ := Config.exists_ofServices?_of_isValid isValid_healthzOnly
  obtain ⟨claims, hv⟩ := exists_check_twoTokensFor "/healthz/live"
  obtain ⟨pool, rest, hr, hn, -, hp, -⟩ := pooled_iff_of_below isValid_healthzOnly hb
    List.mem_cons_self (by decide) hv (.inr ⟨"live", rfl⟩) []
  exact ⟨isValid_healthzOnly, table, claims, hb, hv, pool, rest, hr, hn, hp.mpr (by decide)⟩

/-- The path that is the name of a service alone does not always lead to it. -/
theorem not_pooled_healthzOnly : healthzOnly.isValid = true ∧
    ∃ table, RouteTable.ofServices? healthzOnly.services = .ok table ∧
      ¬ ∀ arrival claims, arrival.request.method ≠ ("OPTIONS" : Text) →
        Bearer.check terse.verifier arrival.now arrival.request = .ok claims →
        Path.Below arrival.request.target.path "healthz" →
        ∃ pool rest, pool.name = ("healthz" : Text) ∧ Pooled terse table arrival pool rest := by
  obtain ⟨table, hb⟩ := Config.exists_ofServices?_of_isValid isValid_healthzOnly
  obtain ⟨claims, hv⟩ := exists_check_twoTokensFor "/healthz"
  refine ⟨isValid_healthzOnly, table, hb, fun h => ?_⟩
  obtain ⟨pool, rest, -, hp⟩ := h _ claims (by decide) hv (.inl rfl)
  exact not_pooled_of_healthPath (by decide) rfl hp

end Gateway

end ApiGateway
