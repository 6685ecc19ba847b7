import ApiGateway.Proofs.Gateway.Credentials
import ApiGateway.Proofs.Route.Rotation

/-! # Rotation

Over any sequence of requests, the selections for one service go round its
instances. Which one is next depends on the number of selections for that
service and on nothing else: not on the traffic to other services, the requests
that are turned away or the way that exchanges end.
-/

namespace ApiGateway

namespace Gateway

open RouteTable

variable {gateway : Gateway} {routes table : RouteTable} {arrivals : List Arrival}
  {arrival : Arrival} {service : Text} {pool : Pool}

/-- The request is sent to an instance of the service. -/
def Takes (gateway : Gateway) (routes : RouteTable) (service : Text) (arrival : Arrival) : Prop :=
  ∃ found, Admitted gateway routes arrival found ∧ found.pool.name = service

theorem Takes.of_sameServices (h : Takes gateway routes service arrival)
    (hs : SameServices routes table) : Takes gateway table service arrival := by
  obtain ⟨found, ha, rfl⟩ := h
  obtain ⟨pool, ha', hn, -⟩ := ha.of_sameServices hs
  exact ⟨_, ha', hn⟩

theorem takes_iff_of_sameServices (h : SameServices routes table) :
    Takes gateway table service arrival ↔ Takes gateway routes service arrival :=
  ⟨fun ht => ht.of_sameServices h.symm, fun ht => ht.of_sameServices h⟩

theorem Takes.congr {arrival' : Arrival} (h : Takes gateway routes service arrival)
    (hr : arrival'.request = arrival.request) (hn : arrival'.now = arrival.now) :
    Takes gateway routes service arrival' := by
  obtain ⟨found, ⟨hmethod, hhealth, hindex, haccepted, hresolved, hnonempty⟩, hname⟩ := h
  rw [← hr] at hmethod hhealth hindex haccepted hresolved
  rw [← hn] at haccepted
  exact ⟨found, ⟨hmethod, hhealth, hindex, haccepted, hresolved, hnonempty⟩, hname⟩

theorem not_takes_of_nil (h : routes.pool? service = some pool) (hn : pool.instances = []) :
    ¬ Takes gateway routes service arrival := by
  rintro ⟨found, ha, rfl⟩
  obtain rfl := Option.some.inj ((pool?_of_resolve ha.resolved).symm.trans h)
  exact ha.nonempty hn

open Classical in
/-- How many of the requests are sent to instances of the service. -/
noncomputable def demand (gateway : Gateway) (routes : RouteTable) (service : Text)
    (arrivals : List Arrival) : Nat :=
  arrivals.countP fun arrival => Takes gateway routes service arrival

theorem demand_cons_of_takes (h : Takes gateway routes service arrival) :
    gateway.demand routes service (arrival :: arrivals) =
      gateway.demand routes service arrivals + 1 := by
  simp [demand, h]

theorem demand_cons_of_not_takes (h : ¬ Takes gateway routes service arrival) :
    gateway.demand routes service (arrival :: arrivals) =
      gateway.demand routes service arrivals := by
  simp [demand, h]

theorem demand_of_sameServices (h : SameServices routes table) :
    gateway.demand table service arrivals = gateway.demand routes service arrivals := by
  refine List.countP_congr fun arrival _ => ?_
  simpa only [decide_eq_true_eq] using takes_iff_of_sameServices h

theorem demand_of_forall₂ {arrivals' : List Arrival}
    (h : List.Forall₂ (fun a a' => a'.request = a.request ∧ a'.now = a.now) arrivals arrivals') :
    gateway.demand routes service arrivals' = gateway.demand routes service arrivals := by
  induction h with
  | nil => rfl
  | @cons arrival arrival' _ _ hsame _ ih =>
    by_cases ht : Takes gateway routes service arrival
    · rw [demand_cons_of_takes ht, demand_cons_of_takes (ht.congr hsame.1 hsame.2), ih]
    · have ht' : ¬ Takes gateway routes service arrival' :=
        fun ht' => ht (ht'.congr hsame.1.symm hsame.2.symm)
      rw [demand_cons_of_not_takes ht, demand_cons_of_not_takes ht', ih]

theorem demand_of_nil (h : routes.pool? service = some pool) (hn : pool.instances = []) :
    gateway.demand routes service arrivals = 0 := by
  simp [demand, not_takes_of_nil h hn]

def chosenFor (service : Text) (arrival : Arrival) (record : Record) : List Instance :=
  if Path.firstSegment? arrival.request.target.path = some service then
    record.sent.map (·.chosen)
  else []

def selections (gateway : Gateway) (routes : RouteTable) (service : Text)
    (arrivals : List Arrival) : List Instance :=
  (arrivals.zip (gateway.run routes arrivals)).flatMap fun (arrival, _, record) =>
    chosenFor service arrival record

theorem selections_cons :
    gateway.selections routes service (arrival :: arrivals) =
      chosenFor service arrival (gateway.answer routes arrival).2.record ++
        gateway.selections (gateway.answer routes arrival).2.routes service arrivals := rfl

theorem Admitted.firstSegment?_eq {found : RouteMatch} (h : Admitted gateway routes arrival found) :
    Path.firstSegment? arrival.request.target.path = some found.pool.name := by
  obtain ⟨name, hs, hp, -⟩ := resolve_eq_some_iff.mp h.resolved
  rw [hs, name_of_pool? hp]

theorem answer_of_takes (h : routes.pool? service = some pool)
    (ht : Takes gateway routes service arrival) :
    ∃ chosen, pool.upcoming? 0 = some chosen ∧
      chosenFor service arrival (gateway.answer routes arrival).2.record = [chosen] ∧
      (gateway.answer routes arrival).2.routes.pool? service = some (pool.advance 1) := by
  obtain ⟨found, ha, rfl⟩ := ht
  obtain rfl := Option.some.inj ((pool?_of_resolve ha.resolved).symm.trans h)
  obtain ⟨chosen, -, hs, hsent⟩ := answer_of_admitted ha
  have hpool := Pool.select_of_ne_nil ha.nonempty
  refine ⟨chosen, ?_, ?_, ?_⟩
  · have hfst := select_fst h
    rw [hs, hpool] at hfst
    exact hfst.symm
  · rw [chosenFor, if_pos ha.firstSegment?_eq, hsent]
    rfl
  · have hsnd : (routes.select found.pool.name).2.pool? found.pool.name = _ := pool?_select
    rwa [hs, if_pos rfl, h, Option.map_some, hpool] at hsnd

theorem answer_of_not_takes (ht : ¬ Takes gateway routes service arrival) :
    chosenFor service arrival (gateway.answer routes arrival).2.record = [] ∧
      (gateway.answer routes arrival).2.routes.pool? service = routes.pool? service := by
  by_cases ha : ∃ found, Admitted gateway routes arrival found
  · obtain ⟨found, ha⟩ := ha
    have hne : found.pool.name ≠ service := fun hn => ht ⟨found, ha, hn⟩
    obtain ⟨chosen, -, hs, -⟩ := answer_of_admitted ha
    constructor
    · rw [chosenFor, if_neg]
      rw [ha.firstSegment?_eq]
      exact fun he => hne (Option.some.inj he)
    · have hsnd : (routes.select found.pool.name).2.pool? service = _ := pool?_select
      rwa [hs, if_neg hne.symm] at hsnd
  · obtain ⟨hsent, hpools, -⟩ := answer_of_not_admitted fun found h => ha ⟨found, h⟩
    refine ⟨?_, hpools service⟩
    rw [chosenFor, hsent]
    exact ite_self []

/-- A run takes as many turns in the pool of the service as requests are sent to its instances, one
after the other. -/
theorem selections_and_pool? (gateway : Gateway) (arrivals : List Arrival)
    (h : routes.pool? service = some pool) :
    (gateway.selections routes service arrivals).map some =
        (List.range (gateway.demand routes service arrivals)).map pool.upcoming? ∧
      (gateway.routesAfter routes arrivals).pool? service =
        some (pool.advance (gateway.demand routes service arrivals)) := by
  induction arrivals generalizing routes pool with
  | nil =>
    have hd : gateway.demand routes service [] = 0 := rfl
    rw [hd, pool.advance_zero]
    exact ⟨rfl, h⟩
  | cons arrival arrivals ih =>
    -- The table changes with each request, but not which requests go to the service.
    have hd : gateway.demand (gateway.answer routes arrival).2.routes service arrivals =
        gateway.demand routes service arrivals :=
      demand_of_sameServices (sameServices_answer gateway routes arrival)
    rw [selections_cons, List.map_append]
    by_cases ht : Takes gateway routes service arrival
    · obtain ⟨chosen, hc, hchosen, hpool⟩ := answer_of_takes h ht
      obtain ⟨hs, hp⟩ := ih hpool
      rw [hd] at hs hp
      rw [demand_cons_of_takes ht, hchosen, hs, pool.map_upcoming?_range_succ, hc]
      refine ⟨rfl, ?_⟩
      rw [Nat.add_comm, ← pool.advance_advance]
      exact hp
    · obtain ⟨hchosen, hpool⟩ := answer_of_not_takes ht
      obtain ⟨hs, hp⟩ := ih (hpool.trans h)
      rw [hd] at hs hp
      rw [demand_cons_of_not_takes ht, hchosen, hs]
      exact ⟨rfl, hp⟩

theorem length_selections (h : routes.pool? service = some pool) :
    (gateway.selections routes service arrivals).length =
      gateway.demand routes service arrivals := by
  simpa using congrArg List.length (selections_and_pool? gateway arrivals h).1

theorem selections_getElem? (h : routes.pool? service = some pool) {j : Nat}
    (hj : j < gateway.demand routes service arrivals) :
    (gateway.selections routes service arrivals)[j]? = pool.upcoming? j := by
  have hget := congrArg (·[j]?) (selections_and_pool? gateway arrivals h).1
  simp only [List.getElem?_map, List.getElem?_range hj, Option.map_some] at hget
  obtain ⟨chosen, hs, hc⟩ := Option.map_eq_some_iff.mp hget
  rw [hs, hc]

theorem selections_eq_of_demand_eq {gateway' : Gateway} {routes' : RouteTable}
    {arrivals' : List Arrival} (h : routes.pool? service = some pool)
    (h' : routes'.pool? service = some pool)
    (hd : gateway'.demand routes' service arrivals' = gateway.demand routes service arrivals) :
    gateway'.selections routes' service arrivals' =
      gateway.selections routes service arrivals := by
  refine (List.map_inj_right fun _ _ => Option.some.inj).mp ?_
  rw [(selections_and_pool? _ _ h').1, (selections_and_pool? _ _ h).1, hd]

/-- What the selections for a service are in a run that starts with a pool of it. -/
structure Rotates (gateway : Gateway) (routes : RouteTable) (service : Text) (pool : Pool)
    (arrivals : List Arrival) : Prop where
  /-- Each request that passes every check and names the service makes one selection. -/
  length_eq : (gateway.selections routes service arrivals).length =
    gateway.demand routes service arrivals
  getElem?_eq : ∀ j < gateway.demand routes service arrivals,
    (gateway.selections routes service arrivals)[j]? =
      pool.instances[(pool.turn.position.toNat + j) % UInt64.size % pool.instances.length]?
  getElem?_eq_of_fresh : routes.Fresh → ∀ j < gateway.demand routes service arrivals,
    (gateway.selections routes service arrivals)[j]? =
      pool.instances[j % UInt64.size % pool.instances.length]?
  fresh_of_built : ∀ services, ofServices? services = .ok routes → routes.Fresh
  /-- Any other run with as many selections for the service makes the same ones. -/
  eq_of_demand_eq : ∀ gateway' routes' arrivals', routes'.pool? service = some pool →
    demand gateway' routes' service arrivals' = gateway.demand routes service arrivals →
    selections gateway' routes' service arrivals' = gateway.selections routes service arrivals
  /-- Among them is the one of the same requests where the exchanges end in other ways. -/
  eq_of_forall₂ : ∀ arrivals',
    List.Forall₂ (fun a a' => a'.request = a.request ∧ a'.now = a.now) arrivals arrivals' →
    gateway.selections routes service arrivals' = gateway.selections routes service arrivals
  pool?_eq : (gateway.routesAfter routes arrivals).pool? service =
    some { pool with
      turn := ⟨pool.turn.position + .ofNat (gateway.demand routes service arrivals)⟩ }
  pool?_eq_of_nil : pool.instances = [] →
    (gateway.routesAfter routes arrivals).pool? service = some pool

theorem rotates (h : routes.pool? service = some pool) :
    Rotates gateway routes service pool arrivals where
  length_eq := length_selections h
  getElem?_eq j hj := selections_getElem? h hj
  getElem?_eq_of_fresh hf j hj := by
    have hzero := hf.position_eq_zero h
    rw [selections_getElem? h hj, Pool.upcoming?, hzero, UInt64.toNat_zero, Nat.zero_add]
  fresh_of_built _ := fresh_of_ofServices?
  eq_of_demand_eq gateway' routes' arrivals' h' hd := selections_eq_of_demand_eq h h' hd
  eq_of_forall₂ arrivals' hs := selections_eq_of_demand_eq h h (demand_of_forall₂ hs)
  pool?_eq := (selections_and_pool? _ _ h).2
  pool?_eq_of_nil hn := by
    have hp := (selections_and_pool? gateway arrivals h).2
    rwa [demand_of_nil h hn, pool.advance_zero] at hp

def localhost (number : Nat) : Instance :=
  ⟨⟨.http, [], [], .address (.v6 [0, 0, 0, 0, 0, 0, 0, 1]), some number, "/", none, none⟩⟩

def catalogPair : Pool where
  name := "catalog"
  instances := [localhost 8001, localhost 8002]

def twoServices : RouteTable := ⟨[catalogPair, ⟨"orders", [localhost 8003], {}⟩]⟩

/-- Requests to both services, and one without a token. No exchange succeeds. -/
def mixed : List Arrival :=
  [twoTokens, { twoTokens with request.target := { path := "/orders/1" } },
    { twoTokens with request.fields := [] }, twoTokens, twoTokens]

theorem rotates_mixed :
    ofServices? [⟨"catalog", ["http://[::1]:8001", "http://[::1]:8002"]⟩,
        ⟨"orders", ["http://[::1]:8003"]⟩] = .ok twoServices ∧
      twoServices.pool? "catalog" = some catalogPair ∧
      Rotates terse twoServices "catalog" catalogPair mixed ∧
      terse.selections twoServices "catalog" mixed =
        [localhost 8001, localhost 8002, localhost 8001] :=
  ⟨by decide +kernel, by decide, rotates (by decide), by decide +kernel⟩

end Gateway

end ApiGateway
