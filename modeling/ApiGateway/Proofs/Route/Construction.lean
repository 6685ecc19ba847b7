import ApiGateway.Proofs.Route.Configured
import ApiGateway.Proofs.Route.Rotation

/-! # Building a routing table

A table can be built from services exactly if a validation has nothing to say
about their backends, and otherwise fails over the first backend that a
validation reports. Of several services with one name the last one is served.
-/

namespace ApiGateway

namespace ConfigProblem

variable {problem : ConfigProblem} {problems : List ConfigProblem} {error : RouteTableError}

/-- The error of a table whose services have the problem, if it is one of a backend. -/
def routeError? : ConfigProblem → Option RouteTableError
  | invalidBackend service _ reason => some ⟨service, reason⟩
  | _ => none

theorem routeError?_eq_some_iff :
    problem.routeError? = some error ↔
      ∃ url, problem = .invalidBackend error.service url error.cause := by
  obtain ⟨service, cause⟩ := error
  cases problem <;> simp [routeError?]

theorem forall_routeError?_eq_none_iff :
    (∀ problem ∈ problems, problem.routeError? = none) ↔
      ∀ name url reason, .invalidBackend name url reason ∉ problems := by
  constructor
  · rintro h name url reason hm
    cases h _ hm
  · intro h problem hm
    refine Option.eq_none_iff_forall_ne_some.mpr fun error he => ?_
    obtain ⟨url, rfl⟩ := routeError?_eq_some_iff.mp he
    exact h _ _ _ hm

theorem exists_findSome?_routeError?_iff :
    (∃ error, problems.findSome? routeError? = some error) ↔
      ∃ name url reason, .invalidBackend name url reason ∈ problems := by
  rw [← not_iff_not, not_exists, ← Option.eq_none_iff_forall_ne_some, List.findSome?_eq_none_iff,
    forall_routeError?_eq_none_iff]
  simp only [not_exists]

theorem findSome?_routeError?_eq_some_iff :
    problems.findSome? routeError? = some error ↔ ∃ before url after,
      problems = before ++ .invalidBackend error.service url error.cause :: after ∧
        ∀ name url reason, .invalidBackend name url reason ∉ before := by
  simp only [List.findSome?_eq_some_iff, routeError?_eq_some_iff, forall_routeError?_eq_none_iff]
  constructor
  · rintro ⟨before, _, after, rfl, ⟨url, rfl⟩, hbefore⟩
    exact ⟨before, url, after, rfl, hbefore⟩
  · rintro ⟨before, url, after, rfl, hbefore⟩
    exact ⟨before, _, after, rfl, ⟨url, rfl⟩, hbefore⟩

end ConfigProblem

namespace Service

variable {service : Service} {services : List Service} {earlier : List Text}

/-- Why there is no pool of the service. -/
def routeError? (service : Service) : Option RouteTableError :=
  (Except.error? (Pool.ofService? service)).map (⟨service.name, ·⟩)

theorem routeError?_eq_findSome? (service : Service) :
    service.routeError? = service.backends.findSome? fun url =>
      (Except.error? (Instance.ofText? url)).map (⟨service.name, ·⟩) := by
  rw [routeError?, Pool.ofService?, Except.error?_map, Except.error?_mapM, List.map_findSome?]
  rfl

theorem findSome?_backendProblems (service : Service) :
    service.backendProblems.findSome? ConfigProblem.routeError? = service.routeError? := by
  -- The first finding in a filtered list is the head of the list filtered twice.
  rw [routeError?_eq_findSome?, backendProblems, ← List.head?_filterMap, List.filterMap_filterMap,
    List.head?_filterMap]
  refine congrArg (List.findSome? · service.backends) (funext fun url => ?_)
  cases Instance.ofText? url <;> rfl

/-- What stands in front of the backends of a service is no problem of a backend. -/
theorem findSome?_problems (h : service.name ≠ []) :
    (service.problems earlier).findSome? ConfigProblem.routeError? = service.routeError? := by
  simp only [problems, if_neg h, List.findSome?_append, findSome?_backendProblems, apply_ite,
    List.findSome?_cons, List.findSome?_nil, ConfigProblem.routeError?, ite_self, Option.none_or]

theorem findSome?_allProblems (h : ∀ service ∈ services, service.name ≠ []) :
    (allProblems earlier services).findSome? ConfigProblem.routeError? =
      services.findSome? routeError? := by
  induction services generalizing earlier with
  | nil => rfl
  | cons service services ih =>
    obtain ⟨hname, hrest⟩ := List.forall_mem_cons.mp h
    rw [allProblems, List.findSome?_append, findSome?_problems hname, ih hrest, List.findSome?_cons]
    cases service.routeError? <;> rfl

end Service

theorem Config.findSome?_problems {config : Config}
    (h : ∀ service ∈ config.services, service.name ≠ []) :
    config.problems.findSome? ConfigProblem.routeError? =
      config.services.findSome? Service.routeError? := by
  simp only [problems, List.findSome?_append, Service.findSome?_allProblems h, apply_ite,
    List.findSome?_cons, List.findSome?_nil, ConfigProblem.routeError?, ite_self, Option.or_none,
    Option.none_or]

theorem RouteTable.error?_ofServices? (services : List Service) :
    Except.error? (ofServices? services) = services.findSome? Service.routeError? := by
  refine Except.error?_foldlM fun table service => ?_
  rw [Service.routeError?]
  cases Pool.ofService? service <;> rfl

section Related

variable {α β γ δ : Type} {R : α → β → Prop} {S : γ → δ → Prop} {as : List α} {bs : List β}

theorem isSome_iff_of_rel {a : Option α} {b : Option β} (h : Option.Rel R a b) :
    a.isSome ↔ b.isSome := by
  cases h <;> simp

theorem rel_bind_of_rel {a : Option α} {b : Option β} {f : α → Option γ} {g : β → Option δ}
    (h : Option.Rel R a b) (hf : ∀ x ∈ a, ∀ y, R x y → Option.Rel S (f x) (g y)) :
    Option.Rel S (a.bind f) (b.bind g) := by
  cases h with
  | none => exact .none
  | some hr => exact hf _ rfl _ hr

theorem rel_getElem?_of_forall₂ (h : List.Forall₂ R as bs) (i : ℕ) : Option.Rel R as[i]? bs[i]? := by
  induction h generalizing i with
  | nil => exact .none
  | cons hr _ ih =>
    cases i with
    | zero => exact .some hr
    | succ i => exact ih i

end Related

namespace Pool

variable {pool : Pool} {service : Service}

/-- The pool of a service goes round its backends, beginning with the first one. -/
theorem Serves.rel_upcoming? (h : pool.Serves service) (n : ℕ) :
    Option.Rel (fun url i => Instance.ofText? url = .ok i)
      service.backends[n % UInt64.size % service.backends.length]? (pool.upcoming? n) := by
  have hzero : pool.turn.position.toNat = 0 := by rw [h.turn_eq]; rfl
  rw [upcoming?, hzero, Nat.zero_add, ← h.instances.length_eq]
  exact rel_getElem?_of_forall₂ h.instances _

end Pool

namespace RouteTable

variable {table : RouteTable} {services : List Service} {pools : List Pool} {pool : Pool}
  {name : Text}

theorem find?_filter_name (other : Text) (pools : List Pool) :
    (pools.filter (·.name ≠ other)).find? (·.name = name) =
      if other = name then none else pools.find? (·.name = name) := by
  rw [List.find?_filter]
  split
  · next hn => exact List.find?_eq_none.mpr fun p _ => by simp [hn]
  · next hn =>
    refine congrArg (List.find? · pools) (funext fun p => ?_)
    by_cases hp : p.name = name
    · simp [hp, Ne.symm hn]
    · simp [hp]

theorem pool?_insert :
    (table.insert pool).pool? name = if pool.name = name then some pool else table.pool? name := by
  rw [pool?, insert, List.find?_append, find?_filter_name, List.find?_singleton]
  by_cases hn : pool.name = name <;> simp [hn, pool?]

theorem nodup_services_insert (h : table.services.Nodup) : (table.insert pool).services.Nodup := by
  rw [services, insert, List.map_append, List.map_singleton]
  refine List.nodup_append.mpr ⟨h.sublist ((List.filter_sublist).map _), List.nodup_singleton _, ?_⟩
  intro name hm other ho
  obtain ⟨p, hp, rfl⟩ := List.mem_map.mp hm
  rw [List.mem_singleton.mp ho]
  simpa using (List.mem_filter.mp hp).2

theorem pool?_foldl_insert (table : RouteTable) (pools : List Pool) (name : Text) :
    (pools.foldl insert table).pool? name =
      (pools.reverse.find? (·.name = name)).or (table.pool? name) := by
  induction pools generalizing table with
  | nil => rfl
  | cons pool pools ih =>
    rw [List.foldl_cons, ih, pool?_insert, List.reverse_cons, List.find?_append, Option.or_assoc,
      List.find?_singleton]
    by_cases hn : pool.name = name <;> simp [hn]

/-- Of several pools with one name, the last one is found. -/
theorem pool?_ofPools : (ofPools pools).pool? name = pools.reverse.find? (·.name = name) := by
  rw [ofPools, pool?_foldl_insert]
  exact Option.or_none

theorem nodup_services_ofPools : (ofPools pools).services.Nodup := by
  have hempty : (RouteTable.services {}).Nodup := List.nodup_nil
  exact List.foldlRecOn (motive := fun t : RouteTable => t.services.Nodup) pools insert hempty
    fun _ h _ _ => nodup_services_insert h

theorem isSome_pool?_iff : (table.pool? name).isSome ↔ name ∈ table.services := by
  rw [Option.isSome_iff_ne_none, Ne, pool?_eq_none_iff, not_not]

end RouteTable

/-! ## The last of several services -/

/-- The last service with a name. -/
def Service.last? (services : List Service) (name : Text) : Option Service :=
  services.reverse.find? (·.name = name)

/-- The backend that has its turn after `n` other turns for a name. -/
def Service.backend? (services : List Service) (name : Text) (n : ℕ) : Option Text :=
  (last? services name).bind fun service =>
    service.backends[n % UInt64.size % service.backends.length]?

theorem Service.isSome_last?_iff {services : List Service} {name : Text} :
    (last? services name).isSome ↔ name ∈ services.map (·.name) := by
  simp [last?]

namespace RouteTable

/-- A table serves the last service with each name, whether it is asked for names, for paths or for
any sequence of turns. -/
structure LastWins (services : List Service) (table : RouteTable) : Prop where
  nodup_services : table.services.Nodup
  mem_services_iff : ∀ name, name ∈ table.services ↔ name ∈ services.map (·.name)
  resolve : ∀ path, Option.Rel
    (fun service found => found.pool.Serves service ∧
      found.strippedPath = Path.stripFirst service.name path)
    ((Path.firstSegment? path).bind (Service.last? services)) (table.resolve path)
  picks : ∀ names j, Option.Rel (Option.Rel fun url i => Instance.ofText? url = .ok i)
    (names[j]?.map fun name => Service.backend? services name ((names.take j).count name))
    (table.picks names)[j]?

section Serves

variable {services : List Service} {pools : List Pool}
  (h : List.Forall₂ (fun service pool => pool.Serves service) services pools)

include h

theorem rel_pool?_ofPools (name : Text) :
    Option.Rel (fun service pool => pool.Serves service) (Service.last? services name)
      ((ofPools pools).pool? name) := by
  rw [pool?_ofPools]
  exact rel_find?_of_forall₂ (List.forall₂_reverse_iff.mpr h) name

theorem lastWins_ofPools : (ofPools pools).LastWins services := by
  refine ⟨nodup_services_ofPools, fun name => ?_, fun path => ?_, fun names j => ?_⟩
  · rw [← isSome_pool?_iff, ← Service.isSome_last?_iff]
    exact (isSome_iff_of_rel (rel_pool?_ofPools h name)).symm
  · rw [resolve]
    rcases Path.firstSegment? path with _ | name
    · exact .none
    · simp only [Option.bind_eq_bind, Option.bind_some]
      rw [← Option.bind_fun_some (Service.last? services name)]
      refine rel_bind_of_rel (rel_pool?_ofPools h name) fun service hs pool hserves => .some ?_
      have hn : service.name = name := by simpa using List.find?_some hs
      exact ⟨hserves, by rw [hn]⟩
  · rw [getElem?_picks]
    rcases names[j]? with _ | name
    · exact .none
    · exact .some (rel_bind_of_rel (rel_pool?_ofPools h name) fun _ _ _ hs => hs.rel_upcoming? _)

end Serves

end RouteTable

namespace Config

open RouteTable (ofServices? ofPools)

variable {config : Config}

theorem ofServices?_eq_error_iff {error : RouteTableError}
    (h : ∀ service ∈ config.services, service.name ≠ []) :
    ofServices? config.services = .error error ↔
      config.problems.findSome? ConfigProblem.routeError? = some error := by
  rw [findSome?_problems h, ← RouteTable.error?_ofServices?, Except.error?_eq_some_iff]

/-- A table cannot be built exactly if a validation reports a backend, and then for the reason that
is given for the first one reported. If it can, it is the table of the pools that are built one by
one, and the last of several services with one name is served. -/
theorem ofServices?_agrees_with_problems (config : Config)
    (h : ∀ service ∈ config.services, service.name ≠ []) :
    ((∃ error, ofServices? config.services = .error error) ↔
      ∃ name url reason, .invalidBackend name url reason ∈ config.problems) ∧
    (∀ error, ofServices? config.services = .error error ↔ ∃ before url after,
      config.problems = before ++ .invalidBackend error.service url error.cause :: after ∧
        ∀ name url reason, .invalidBackend name url reason ∉ before) ∧
    ∀ table, ofServices? config.services = .ok table →
      ∃ pools, config.services.mapM Pool.ofService? = .ok pools ∧ ofPools pools = table ∧
        table.LastWins config.services := by
  have hfirst (error : RouteTableError) : ofServices? config.services = .error error ↔ _ :=
    ofServices?_eq_error_iff h
  refine ⟨?_, fun error => ?_, fun table ht => ?_⟩
  · simp only [hfirst, ConfigProblem.exists_findSome?_routeError?_iff]
  · rw [hfirst, ConfigProblem.findSome?_routeError?_eq_some_iff]
  · obtain ⟨pools, hpools, rfl⟩ := RouteTable.ofServices?_eq_ok_iff.mp ht
    refine ⟨pools, hpools, rfl, RouteTable.lastWins_ofPools ?_⟩
    exact (Except.mapM_eq_ok_iff.mp hpools).imp fun _ _ => Pool.ofService?_eq_ok_iff.mp

def misspelled : Config where
  services := [⟨"catalog", ["http://[::1]:8001", "catalog:8000", "orders:8000"]⟩]

def catalogTwice : Config where
  services := [⟨"catalog", ["http://[::1]:8001"]⟩, ⟨"orders", []⟩,
    ⟨"catalog", ["http://[::1]:8002", "http://[::1]:8003"]⟩]

theorem ofServices?_misspelled_catalogTwice :
    ((∀ service ∈ misspelled.services, service.name ≠ []) ∧
      ofServices? misspelled.services = .error ⟨"catalog", .unsupportedScheme "catalog"⟩) ∧
    (∀ service ∈ catalogTwice.services, service.name ≠ []) ∧
      ∃ table, ofServices? catalogTwice.services = .ok table ∧
        table.LastWins catalogTwice.services := by
  have hmisspelled : ∀ service ∈ misspelled.services, service.name ≠ [] := by decide
  have htwice : ∀ service ∈ catalogTwice.services, service.name ≠ [] := by decide
  have hproblems : misspelled.problems =
      [] ++ .invalidBackend "catalog" "catalog:8000" (.unsupportedScheme "catalog") ::
        [.invalidBackend "catalog" "orders:8000" (.unsupportedScheme "orders")] := by
    decide +kernel
  have hrepeated : catalogTwice.problems = [.duplicateService "catalog"] := by decide +kernel
  obtain ⟨-, hfirst, -⟩ := ofServices?_agrees_with_problems misspelled hmisspelled
  obtain ⟨hnone, -, hok⟩ := ofServices?_agrees_with_problems catalogTwice htwice
  refine ⟨⟨hmisspelled, (hfirst _).mpr ⟨_, _, _, hproblems, by simp⟩⟩, htwice, ?_⟩
  rcases ht : ofServices? catalogTwice.services with error | table
  · obtain ⟨name, url, reason, hm⟩ := hnone.mp ⟨error, ht⟩
    rw [hrepeated] at hm
    simp at hm
  · obtain ⟨_, -, -, hlast⟩ := hok table ht
    exact ⟨table, rfl, hlast⟩

end Config

end ApiGateway
