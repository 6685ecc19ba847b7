import ApiGateway.Proofs.Except
import ApiGateway.Proofs.Route.Table

/-! # Turns ahead

The counter of a pool tells which instances its next turns give, one after the
other. A pool that has been built from a configuration starts with its first
instance.
-/

namespace ApiGateway

namespace Pool

variable (pool : Pool) (i j n : Nat)

/-- What the turn after `j` others gives. The counter is a 64-bit word that wraps around. -/
def upcoming? : Option Instance :=
  pool.instances[(pool.turn.position.toNat + j) % UInt64.size % pool.instances.length]?

/-- The pool after `n` turns. -/
def advance : Pool := { pool with turn := ⟨pool.turn.position + .ofNat n⟩ }

@[simp] theorem advance_zero : pool.advance 0 = pool := by
  simp [advance]

theorem advance_advance : (pool.advance i).advance j = pool.advance (i + j) := by
  simp only [advance, UInt64.ofNat_add, UInt64.add_assoc]

theorem upcoming?_advance : (pool.advance i).upcoming? j = pool.upcoming? (i + j) := by
  have hturn : ((pool.advance i).turn.position.toNat + j) % UInt64.size =
      (pool.turn.position.toNat + (i + j)) % UInt64.size := by
    simp [advance, UInt64.size, Nat.add_assoc]
  rw [upcoming?, hturn]
  rfl

theorem map_upcoming?_range_succ :
    (List.range (n + 1)).map pool.upcoming? =
      pool.upcoming? 0 :: (List.range n).map (pool.advance 1).upcoming? := by
  rw [List.range_succ_eq_map, List.map_cons, List.map_map]
  refine congrArg _ (List.map_congr_left fun j _ => ?_)
  rw [upcoming?_advance, Nat.add_comm]
  rfl

variable {pool}

theorem select_of_ne_nil (h : pool.instances ≠ []) :
    pool.select = (pool.upcoming? 0, pool.advance 1) := by
  obtain ⟨first, rest, hi⟩ := List.exists_cons_of_ne_nil h
  have hlt : pool.turn.position.toNat % UInt64.size = pool.turn.position.toNat :=
    Nat.mod_eq_of_lt pool.turn.position.toNat_lt
  simp only [select, RoundRobin.next, upcoming?, advance, hi, Nat.add_zero, hlt]
  rfl

theorem select_fst : pool.select.1 = pool.upcoming? 0 := by
  by_cases hn : pool.instances = []
  · simp [select_of_nil hn, upcoming?, hn]
  · rw [select_of_ne_nil hn]

theorem upcoming?_select : pool.select.2.upcoming? n = pool.upcoming? (n + 1) := by
  by_cases hn : pool.instances = []
  · simp [select_of_nil hn, upcoming?, hn]
  · rw [select_of_ne_nil hn, upcoming?_advance, Nat.add_comm]

theorem turn_of_ofService? {service : Service} (h : ofService? service = .ok pool) :
    pool.turn = {} := by
  obtain ⟨instances, -, rfl⟩ := Except.map_eq_ok_iff.mp h
  rfl

end Pool

namespace RouteTable

variable {table : RouteTable} {services : List Service} {name : Text} {pool : Pool}

def Fresh (table : RouteTable) : Prop := ∀ pool ∈ table.pools, pool.turn = {}

theorem Fresh.insert (h : table.Fresh) (hp : pool.turn = {}) : (table.insert pool).Fresh := by
  intro p hm
  rcases List.mem_append.mp hm with hm | hm
  · exact h p (List.mem_filter.mp hm).1
  · rwa [List.mem_singleton.mp hm]

theorem fresh_of_ofServices? (h : ofServices? services = .ok table) : table.Fresh := by
  refine Except.foldlM_preserves ?_ (fun _ hm => by cases hm) h
  intro start service next hs hn
  cases hp : Pool.ofService? service with
  | error cause => rw [hp] at hn; cases hn
  | ok pool =>
    rw [hp] at hn
    cases hn
    exact hs.insert (Pool.turn_of_ofService? hp)

theorem Fresh.position_eq_zero (h : table.Fresh) (hp : table.pool? name = some pool) :
    pool.turn.position = 0 := by
  rw [h pool (List.mem_of_find?_eq_some hp)]

def picks (table : RouteTable) : List Text → List (Option Instance)
  | [] => []
  | name :: names => (table.select name).1 :: (table.select name).2.picks names

/-- A turn depends on the turns before it for the same name, and on no others. -/
theorem getElem?_picks (table : RouteTable) (names : List Text) (j : ℕ) :
    (table.picks names)[j]? = names[j]?.map fun name =>
      (table.pool? name).bind fun pool => pool.upcoming? ((names.take j).count name) := by
  induction names generalizing table j with
  | nil => rfl
  | cons first names ih =>
    rw [picks]
    cases j with
    | zero =>
      simp only [List.getElem?_cons_zero, Option.map_some, List.take_zero, List.count_nil]
      cases h : table.pool? first with
      | none => simp [select, h]
      | some pool => rw [select_fst h, Pool.select_fst]; rfl
    | succ j =>
      rw [List.getElem?_cons_succ, List.getElem?_cons_succ, ih]
      refine congrArg (Option.map · names[j]?) (funext fun name => ?_)
      rw [pool?_select, List.take_succ_cons, List.count_cons]
      by_cases hn : name = first
      · subst hn
        cases table.pool? name with
        | none => simp
        | some pool => simp [Pool.upcoming?_select]
      · simp [hn, Ne.symm hn]

end RouteTable

end ApiGateway
