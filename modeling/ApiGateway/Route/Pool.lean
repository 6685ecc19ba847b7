import ApiGateway.Config.Basic
import ApiGateway.Route.Instance
import ApiGateway.Route.RoundRobin

/-! # Pools

The instances of one service, and whose turn it is.
-/

namespace ApiGateway

structure Pool where
  name : Text
  instances : List Instance
  turn : RoundRobin := {}
  deriving DecidableEq, Repr

namespace Pool

/-- The pool of a service, or the error of its first backend that is no address. -/
def ofService? (service : Service) : Except InstanceError Pool :=
  (service.backends.mapM Instance.ofText?).map fun instances => ⟨service.name, instances, {}⟩

/-- The instance whose turn it is; there is none only in an empty pool. -/
def select (pool : Pool) : Option Instance × Pool :=
  let (picked, turn) := pool.turn.next pool.instances
  (picked, { pool with turn })

end Pool

end ApiGateway
