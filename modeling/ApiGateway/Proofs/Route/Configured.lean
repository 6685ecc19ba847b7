import ApiGateway.Proofs.Config.Document
import ApiGateway.Proofs.Config.Validation
import ApiGateway.Proofs.Except
import ApiGateway.Proofs.Route.Dispatch
import ApiGateway.Startup

/-! # Tables of valid configurations

From a valid configuration a routing table can be built. It has one pool for
each service, and a path leads to a pool exactly if its first segment is the
name of the service.
-/

namespace ApiGateway

namespace Pool

variable {service : Service} {pool : Pool}

/-- The pool as it is configured: under the name of the service, with one instance for each
backend, in order, and with the first turn still to be taken. -/
structure Serves (pool : Pool) (service : Service) : Prop where
  name_eq : pool.name = service.name
  instances : List.Forall₂ (fun url i => Instance.ofText? url = .ok i) service.backends
    pool.instances
  turn_eq : pool.turn = {}

theorem ofService?_eq_ok_iff : ofService? service = .ok pool ↔ pool.Serves service := by
  simp only [ofService?, Except.map_eq_ok_iff, Except.mapM_eq_ok_iff]
  constructor
  · rintro ⟨instances, hi, rfl⟩
    exact ⟨rfl, hi, rfl⟩
  · rintro ⟨hn, hi, ht⟩
    exact ⟨pool.instances, hi, by rw [← hn, ← ht]⟩

end Pool

theorem Service.Sound.exists_ofService? {service : Service} (h : service.Sound) :
    ∃ pool, Pool.ofService? service = .ok pool := by
  obtain ⟨instances, hi⟩ := Except.exists_mapM_eq_ok_iff.mpr h.backends
  exact ⟨_, Except.map_eq_ok_iff.mpr ⟨instances, hi, rfl⟩⟩

/-- After its leading slashes, the path goes on with the whole segment. -/
def Path.LeadsTo (path segment : Text) : Prop :=
  ∃ rest, path.dropWhile (· = '/') = segment ++ rest ∧ (rest = [] ∨ ∃ more, rest = '/' :: more)

theorem Path.leadsTo_iff {path segment : Text} (hn : segment ≠ []) (hs : '/' ∉ segment) :
    LeadsTo path segment ↔ firstSegment? path = some segment := by
  rw [firstSegment?_eq_some_iff]
  constructor
  · rintro ⟨rest, he, hw⟩
    refine ⟨(path.takeWhile (· = '/')).length, rest, ?_, hn, hs, hw⟩
    rw [← takeWhile_slash, ← he, List.takeWhile_append_dropWhile]
  · rintro ⟨count, rest, h⟩
    exact ⟨rest, h.dropWhile_eq, h.whole⟩

theorem Service.Sound.splits {service : Service} (h : service.Sound) {rest : Text}
    (hw : rest = [] ∨ ∃ more, rest = '/' :: more) :
    Path.Splits ('/' :: (service.name ++ rest)) 1 service.name rest :=
  ⟨rfl, h.name_ne_nil, h.slash_not_mem, hw⟩

namespace RouteTable

variable {table : RouteTable} {services : List Service} {pools : List Pool} {name : Text}

theorem ofServices?_eq_ok_iff :
    ofServices? services = .ok table ↔
      ∃ pools, services.mapM Pool.ofService? = .ok pools ∧ ofPools pools = table := by
  refine Except.foldlM_eq_ok_iff fun start service next => ?_
  cases Pool.ofService? service <;> simp

theorem foldl_insert_of_nodup (hd : (pools.map (·.name)).Nodup)
    (hn : ∀ pool ∈ pools, pool.name ∉ table.services) :
    pools.foldl insert table = ⟨table.pools ++ pools⟩ := by
  induction pools generalizing table with
  | nil => simp
  | cons pool pools ih =>
    rw [List.map_cons, List.nodup_cons] at hd
    have hnew : table.insert pool = ⟨table.pools ++ [pool]⟩ := by
      have hkeep : table.pools.filter (·.name ≠ pool.name) = table.pools := by
        refine List.filter_eq_self.mpr fun p hp => ?_
        have hne : p.name ≠ pool.name := fun he =>
          hn pool List.mem_cons_self (he ▸ List.mem_map_of_mem hp)
        simpa using hne
      rw [insert, hkeep]
    rw [List.foldl_cons, hnew, ih hd.2, List.append_assoc, List.singleton_append]
    intro p hp
    simp only [services, List.map_append, List.map_cons, List.map_nil, List.mem_append,
      List.mem_singleton, not_or]
    exact ⟨hn p (List.mem_cons_of_mem _ hp), fun he => hd.1 (he ▸ List.mem_map_of_mem hp)⟩

theorem ofPools_of_nodup (hd : (pools.map (·.name)).Nodup) : ofPools pools = ⟨pools⟩ :=
  foldl_insert_of_nodup hd fun _ _ => List.not_mem_nil

theorem map_name_of_forall₂ (h : List.Forall₂ (fun service pool => pool.Serves service) services
    pools) : pools.map (·.name) = services.map (·.name) := by
  induction h with
  | nil => rfl
  | cons hs _ ih => rw [List.map_cons, List.map_cons, ih, hs.name_eq]

theorem rel_find?_of_forall₂ (h : List.Forall₂ (fun service pool => pool.Serves service) services
    pools) (name : Text) :
    Option.Rel (fun service pool => pool.Serves service) (services.find? (·.name = name))
      (pools.find? (·.name = name)) := by
  induction h with
  | nil => exact .none
  | @cons service pool _ _ hs _ ih =>
    rw [List.find?_cons, List.find?_cons, hs.name_eq]
    by_cases hn : service.name = name
    · simpa [hn] using Option.Rel.some hs
    · simpa [hn] using ih

theorem pool?_eq_none_iff : table.pool? name = none ↔ name ∉ table.services := by
  simp [pool?, services]

theorem resolve_of_splits {path rest : Text} {pool : Pool} (hp : table.pool? name = some pool)
    (h : Path.Splits path 1 name rest) :
    table.resolve path = some ⟨pool, if rest = [] then ['/'] else rest⟩ := by
  refine resolve_eq_some_iff.mpr ⟨name, Path.firstSegment?_eq_some_iff.mpr ⟨1, rest, h⟩, hp, ?_⟩
  rw [h.stripFirst_eq, if_pos (le_refl 1)]

theorem resolve_eq_none_iff {path : Text} :
    table.resolve path = none ↔ ∀ name ∈ table.services, Path.firstSegment? path ≠ some name := by
  simp only [resolve, Option.bind_eq_bind, Option.bind_eq_none_iff, reduceCtorEq, imp_false]
  constructor
  · intro h name hm hs
    exact pool?_eq_none_iff.mp (Option.eq_none_iff_forall_ne_some.mpr (h name hs)) hm
  · intro h name hs pool hp
    refine h name ?_ hs
    by_contra hm
    rw [pool?_eq_none_iff.mpr hm] at hp
    cases hp

end RouteTable

theorem Server.build_ne_routes {files : Files} {config : Config} {table : RouteTable}
    (h : RouteTable.ofServices? config.services = .ok table) (cause : RouteTableError) :
    build files config ≠ .error (.routes cause) := by
  unfold build
  cases Verifier.ofSecretFile files config.auth.secretFile config.auth.audience with
  | error secret => intro he; cases he
  | ok verifier =>
    rw [h]
    cases TlsSettings.load files config.outbound with
    | error tls => intro he; cases he
    | ok settings => intro he; cases he

namespace Config

variable {config : Config} {table : RouteTable}

theorem service?_of_mem {service : Service} (hd : (config.services.map (·.name)).Nodup)
    (hm : service ∈ config.services) : config.service? service.name = some service :=
  find?_of_nodup_map hd hm

theorem exists_ofServices?_of_isValid (h : config.isValid = true) :
    ∃ table, RouteTable.ofServices? config.services = .ok table := by
  obtain ⟨pools, hpools⟩ := Except.exists_mapM_eq_ok_iff.mpr fun service hm =>
    ((sound_and_nodup_of_isValid h).1 service hm).exists_ofService?
  exact ⟨_, RouteTable.ofServices?_eq_ok_iff.mpr ⟨pools, hpools, rfl⟩⟩

theorem exists_pool?_of_mem {service : Service} (h : config.isValid = true)
    (hb : RouteTable.ofServices? config.services = .ok table) (hm : service ∈ config.services) :
    ∃ pool, table.pool? service.name = some pool ∧ pool.Serves service := by
  have hnodup := (sound_and_nodup_of_isValid h).2
  obtain ⟨pools, hpools, rfl⟩ := RouteTable.ofServices?_eq_ok_iff.mp hb
  have hserves : List.Forall₂ (fun service pool => pool.Serves service) config.services pools :=
    (Except.mapM_eq_ok_iff.mp hpools).imp fun _ _ => Pool.ofService?_eq_ok_iff.mp
  have hfound := RouteTable.rel_find?_of_forall₂ hserves service.name
  rw [← service?, service?_of_mem hnodup hm] at hfound
  rw [RouteTable.ofPools_of_nodup (by rwa [RouteTable.map_name_of_forall₂ hserves]),
    RouteTable.pool?]
  rcases hp : pools.find? (·.name = service.name) with _ | pool
  · rw [hp] at hfound
    cases hfound
  · rw [hp, Option.rel_some_some] at hfound
    exact ⟨pool, hp, hfound⟩

structure RoutedBy (config : Config) (table : RouteTable) : Prop where
  built : RouteTable.ofServices? config.services = .ok table
  services_eq : table.services = config.services.map (·.name)
  nodup_services : table.services.Nodup
  /-- Under every name there is the pool of the service with that name, or there is neither. -/
  serves : ∀ name, Option.Rel (fun service pool => pool.Serves service) (config.service? name)
    (table.pool? name)
  resolve_of_mem : ∀ service ∈ config.services, ∃ pool, table.pool? service.name = some pool ∧
    pool.Serves service ∧ table.resolve ('/' :: service.name) = some ⟨pool, ['/']⟩ ∧
    ∀ rest, table.resolve ('/' :: service.name ++ '/' :: rest) = some ⟨pool, '/' :: rest⟩
  resolve_eq_none_iff : ∀ path, table.resolve path = none ↔
    ∀ service ∈ config.services, ¬ Path.LeadsTo path service.name

/-- A valid configuration can be routed, so the table is not what keeps a gateway from starting. -/
theorem exists_routedBy_of_isValid (h : config.isValid = true) :
    ∃ table, config.RoutedBy table ∧
      ∀ files cause, Server.build files config ≠ .error (.routes cause) := by
  obtain ⟨hsound, hnodup⟩ := sound_and_nodup_of_isValid h
  obtain ⟨pools, hpools⟩ := Except.exists_mapM_eq_ok_iff.mpr fun service hm =>
    (hsound service hm).exists_ofService?
  have hserves : List.Forall₂ (fun service pool => pool.Serves service) config.services pools :=
    (Except.mapM_eq_ok_iff.mp hpools).imp fun _ _ => Pool.ofService?_eq_ok_iff.mp
  have hnames := RouteTable.map_name_of_forall₂ hserves
  have hbuilt : RouteTable.ofServices? config.services = .ok ⟨pools⟩ :=
    RouteTable.ofServices?_eq_ok_iff.mpr
      ⟨pools, hpools, RouteTable.ofPools_of_nodup (by rwa [hnames])⟩
  have hrel := RouteTable.rel_find?_of_forall₂ hserves
  refine ⟨⟨pools⟩, ⟨hbuilt, hnames, by rwa [RouteTable.services, hnames], hrel, ?_, ?_⟩,
    fun files => Server.build_ne_routes hbuilt⟩
  · intro service hm
    have hfound := hrel service.name
    rw [← service?, service?_of_mem hnodup hm] at hfound
    rcases hpool : RouteTable.pool? ⟨pools⟩ service.name with _ | pool
    · rw [← RouteTable.pool?, hpool] at hfound
      cases hfound
    · rw [← RouteTable.pool?, hpool, Option.rel_some_some] at hfound
      have hroot := RouteTable.resolve_of_splits hpool ((hsound service hm).splits (.inl rfl))
      rw [List.append_nil] at hroot
      refine ⟨pool, rfl, hfound, hroot, fun rest => ?_⟩
      exact RouteTable.resolve_of_splits hpool ((hsound service hm).splits (.inr ⟨rest, rfl⟩))
  · intro path
    rw [RouteTable.resolve_eq_none_iff, RouteTable.services, hnames, List.forall_mem_map]
    refine forall₂_congr fun service hm => ?_
    rw [Path.leadsTo_iff (hsound service hm).name_ne_nil (hsound service hm).slash_not_mem]

def catalogAndOrders : Config where
  services := [⟨"catalog", ["http://[::1]:8001/svc/", " http://[::1]:8002"]⟩, ⟨"orders", []⟩]

theorem exists_routedBy_catalogAndOrders :
    catalogAndOrders.isValid = true ∧ ∃ table, catalogAndOrders.RoutedBy table ∧
      ∀ files cause, Server.build files catalogAndOrders ≠ .error (.routes cause) :=
  have h : catalogAndOrders.isValid = true := by decide +kernel
  ⟨h, exists_routedBy_of_isValid h⟩

end Config

end ApiGateway
