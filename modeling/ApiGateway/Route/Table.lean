import ApiGateway.Route.Path
import ApiGateway.Route.Pool

/-! # Routing tables

A table holds one pool for each service name. A path belongs to the pool that its first segment
names.
-/

namespace ApiGateway

structure RouteTable where
  pools : List Pool := []
  deriving DecidableEq, Repr

structure RouteTableError where
  service : Text
  cause : InstanceError
  deriving DecidableEq, Repr

def RouteTableError.message (e : RouteTableError) : Text :=
  "service '" ++ e.service ++ "': " ++ e.cause.message

structure RouteMatch where
  pool : Pool
  strippedPath : Text
  deriving DecidableEq, Repr

namespace RouteTable

/-- Adds a pool in place of the one with its name, if there is one. -/
def insert (table : RouteTable) (pool : Pool) : RouteTable :=
  ⟨table.pools.filter (·.name ≠ pool.name) ++ [pool]⟩

def ofPools (pools : List Pool) : RouteTable := pools.foldl insert {}

/-- Builds the pools of services one after the other, up to the first that fails. -/
def ofServices? (services : List Service) : Except RouteTableError RouteTable :=
  services.foldlM (fun table service =>
    match Pool.ofService? service with
    | .ok pool => .ok (table.insert pool)
    | .error cause => .error ⟨service.name, cause⟩) {}

def pool? (table : RouteTable) (name : Text) : Option Pool :=
  table.pools.find? (·.name = name)

def services (table : RouteTable) : List Text := table.pools.map (·.name)

/-- The pool for a path, and the path without the segment that names it. -/
def resolve (table : RouteTable) (path : Text) : Option RouteMatch := do
  let service ← Path.firstSegment? path
  let pool ← table.pool? service
  some ⟨pool, Path.stripFirst service path⟩

def select (table : RouteTable) (name : Text) : Option Instance × RouteTable :=
  match table.pool? name with
  | none => (none, table)
  | some pool =>
    let (picked, pool) := pool.select
    (picked, ⟨table.pools.map fun p => if p.name = name then pool else p⟩)

end RouteTable

end ApiGateway
