import ApiGateway.Route.Table
import Mathlib.Data.List.Basic

/-! # Turns in a routing table

A turn moves the counter of one pool that has instances and nothing else. Tables
are compared by the pool that they hold for each name, and two tables offer the
same services if they differ in the turns alone.
-/

namespace ApiGateway

namespace RoundRobin

variable {α : Type} {items : List α}

@[simp] theorem next_nil (r : RoundRobin) : r.next ([] : List α) = (none, r) := rfl

theorem next_eq_of_ne_nil (r : RoundRobin) (h : items ≠ []) :
    ∃ _ : r.position.toNat % items.length < items.length,
      r.next items = (some items[r.position.toNat % items.length], ⟨r.position + 1⟩) := by
  have hlt : r.position.toNat % items.length < items.length :=
    Nat.mod_lt _ (List.length_pos_iff.mpr h)
  obtain ⟨a, rest, rfl⟩ := List.exists_cons_of_ne_nil h
  exact ⟨hlt, by rw [next, List.getElem?_eq_getElem hlt]⟩

theorem next_of_ne_nil (r : RoundRobin) (h : items ≠ []) :
    ∃ item ∈ items, r.next items = (some item, ⟨r.position + 1⟩) := by
  obtain ⟨hlt, he⟩ := r.next_eq_of_ne_nil h
  exact ⟨_, List.getElem_mem hlt, he⟩

end RoundRobin

namespace Pool

variable {pool : Pool}

theorem select_of_nil (h : pool.instances = []) : pool.select = (none, pool) := by
  cases pool
  simp_all [select, RoundRobin.next]

theorem exists_select_of_ne_nil (h : pool.instances ≠ []) :
    ∃ chosen ∈ pool.instances, pool.select.1 = some chosen := by
  obtain ⟨chosen, hm, he⟩ := pool.turn.next_of_ne_nil h
  exact ⟨chosen, hm, by simp [select, he]⟩

end Pool

namespace RouteTable

variable {table : RouteTable} {name other path : Text} {pool : Pool} {found : RouteMatch}

theorem name_of_pool? (h : table.pool? name = some pool) : pool.name = name := by
  simpa using List.find?_some h

theorem resolve_eq_some_iff :
    table.resolve path = some found ↔ ∃ service, Path.firstSegment? path = some service ∧
      table.pool? service = some found.pool ∧
      found.strippedPath = Path.stripFirst service path := by
  obtain ⟨pool, stripped⟩ := found
  simp only [resolve, Option.bind_eq_bind, Option.bind_eq_some_iff, Option.some.injEq,
    RouteMatch.mk.injEq]
  constructor
  · rintro ⟨service, hs, p, hp, rfl, rfl⟩; exact ⟨service, hs, hp, rfl⟩
  · rintro ⟨service, hs, hp, rfl⟩; exact ⟨service, hs, pool, hp, rfl, rfl⟩

theorem pool?_of_resolve (h : table.resolve path = some found) :
    table.pool? found.pool.name = some found.pool := by
  obtain ⟨service, -, hp, -⟩ := resolve_eq_some_iff.mp h
  rwa [name_of_pool? hp]

theorem find?_replace {replacement : Pool} (hr : replacement.name = name) (pools : List Pool) :
    (pools.map fun p => if p.name = name then replacement else p).find? (·.name = other) =
      if other = name then (pools.find? (·.name = name)).map fun _ => replacement
      else pools.find? (·.name = other) := by
  induction pools with
  | nil => simp
  | cons p pools ih =>
    rw [List.map_cons, List.find?_cons, ih]
    by_cases hp : p.name = name <;> by_cases ho : other = name
    · simp [hp, ho, hr]
    · simp [hp, ho, hr, Ne.symm ho]
    · simp [hp, ho]
    · simp [hp, ho, List.find?_cons]

theorem select_of_pool? (h : table.pool? name = some pool) :
    table.select name = (pool.select.1,
      ⟨table.pools.map fun p => if p.name = name then pool.select.2 else p⟩) := by
  simp only [select, h]

theorem pool?_select :
    (table.select name).2.pool? other =
      if other = name then (table.pool? name).map (·.select.2) else table.pool? other := by
  cases h : table.pool? name with
  | none =>
    simp only [select, h]
    split
    · next he => rw [he, h]; rfl
    · rfl
  | some pool =>
    have hn : pool.select.2.name = name := (name_of_pool? h : pool.name = name)
    rw [select_of_pool? h]
    exact (find?_replace hn table.pools).trans (by rw [← pool?, ← pool?, h]; rfl)

theorem select_fst (h : table.pool? name = some pool) : (table.select name).1 = pool.select.1 := by
  rw [select_of_pool? h]

theorem select_of_nil (h : table.pool? name = some pool) (hn : pool.instances = []) :
    (table.select name).1 = none ∧
      ∀ other, (table.select name).2.pool? other = table.pool? other := by
  have hs := Pool.select_of_nil hn
  refine ⟨by rw [select_fst h, hs], fun other => ?_⟩
  rw [pool?_select]
  split
  · next he => rw [he, h, Option.map_some, hs]
  · rfl

theorem exists_select_of_ne_nil (h : table.pool? name = some pool) (hn : pool.instances ≠ []) :
    ∃ chosen ∈ pool.instances, (table.select name).1 = some chosen := by
  obtain ⟨chosen, hm, hs⟩ := Pool.exists_select_of_ne_nil hn
  exact ⟨chosen, hm, by rw [select_fst h, hs]⟩

theorem eq_nil_of_select (h : table.pool? name = some pool) (hs : (table.select name).1 = none) :
    pool.instances = [] := by
  by_contra hn
  obtain ⟨chosen, -, hc⟩ := exists_select_of_ne_nil h hn
  rw [hs] at hc
  cases hc

theorem mem_of_select {chosen : Instance} (h : table.pool? name = some pool)
    (hs : (table.select name).1 = some chosen) : chosen ∈ pool.instances := by
  have hn : pool.instances ≠ [] := fun hn => by
    rw [(select_of_nil h hn).1] at hs
    cases hs
  obtain ⟨_, hm, hc⟩ := exists_select_of_ne_nil h hn
  rw [hs] at hc
  rwa [Option.some.inj hc]

def SameServices (t u : RouteTable) : Prop :=
  ∀ name, (u.pool? name).map (·.instances) = (t.pool? name).map (·.instances)

namespace SameServices

variable {t u w : RouteTable}

theorem refl (t : RouteTable) : SameServices t t := fun _ => rfl

theorem symm (h : SameServices t u) : SameServices u t := fun name => (h name).symm

theorem trans (h : SameServices t u) (h' : SameServices u w) : SameServices t w :=
  fun name => (h' name).trans (h name)

theorem of_pool? (h : ∀ name, u.pool? name = t.pool? name) : SameServices t u :=
  fun name => by rw [h name]

theorem select (t : RouteTable) (name : Text) : SameServices t (t.select name).2 := by
  intro other
  rw [pool?_select]
  split
  · next he => subst he; cases t.pool? other <;> rfl
  · rfl

theorem exists_pool? (h : SameServices t u) (ht : t.pool? name = some pool) :
    ∃ pool', u.pool? name = some pool' ∧ pool'.name = pool.name ∧
      pool'.instances = pool.instances := by
  have he := h name
  rw [ht, Option.map_some, Option.map_eq_some_iff] at he
  obtain ⟨pool', hu, hi⟩ := he
  exact ⟨pool', hu, (name_of_pool? hu).trans (name_of_pool? ht).symm, hi⟩

theorem exists_resolve (h : SameServices t u) (ht : t.resolve path = some found) :
    ∃ pool, u.resolve path = some ⟨pool, found.strippedPath⟩ ∧ pool.name = found.pool.name ∧
      pool.instances = found.pool.instances := by
  obtain ⟨service, hs, hp, hf⟩ := resolve_eq_some_iff.mp ht
  obtain ⟨pool, hu, hn, hi⟩ := h.exists_pool? hp
  exact ⟨pool, resolve_eq_some_iff.mpr ⟨service, hs, hu, hf⟩, hn, hi⟩

end SameServices

end RouteTable

end ApiGateway
