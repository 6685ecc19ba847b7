import ApiGateway.Proofs.Route.Table
import Mathlib.Data.Int.CardIntervalMod
import Mathlib.Data.List.ReduceOption

/-! # Balanced turns

A counter is shared by calls with lists of any lengths. It tells how many of
them had items to give. As long as it does not wrap around, calls with lists of
one length go through the places of these lists evenly, wherever they start and
however many empty lists come between them.
-/

namespace ApiGateway.RoundRobin

variable {α : Type} {r : RoundRobin} {n : ℕ} {items : List α} {calls : List (List α)}

def after (r : RoundRobin) (calls : List (List α)) : RoundRobin :=
  calls.foldl (fun r items => (r.next items).2) r

def picks (r : RoundRobin) : List (List α) → List (Option α)
  | [] => []
  | items :: calls => (r.next items).1 :: (r.next items).2.picks calls

/-- The places in the lists that the calls give the items from: what they would give if each list
held its places as items. -/
def places (r : RoundRobin) (calls : List (List α)) : List (Option ℕ) :=
  r.picks (calls.map fun items => List.range items.length)

/-- How many of the calls have an item to give. -/
def selections (calls : List (List α)) : ℕ := calls.countP (· ≠ [])

@[simp] theorem selections_nil_cons : selections ([] :: calls) = selections calls := by
  simp [selections]

theorem selections_cons (h : items ≠ []) : selections (items :: calls) = selections calls + 1 := by
  simp [selections, h]

theorem position_after (r : RoundRobin) (calls : List (List α)) :
    (r.after calls).position = r.position + .ofNat (selections calls) := by
  induction calls generalizing r with
  | nil => simp [after, selections]
  | cons items calls ih =>
    by_cases h : items = []
    · subst h
      rw [selections_nil_cons]
      exact ih r
    · obtain ⟨_, hnext⟩ := r.next_eq_of_ne_nil h
      have hafter : r.after (items :: calls) = after ⟨r.position + 1⟩ calls := by
        rw [after, List.foldl_cons, hnext]
        rfl
      rw [hafter, ih, selections_cons h, Nat.add_comm, UInt64.ofNat_add, UInt64.add_assoc]
      rfl

theorem toNat_position_after_new (calls : List (List α)) :
    (after {} calls).position.toNat = selections calls % UInt64.size := by
  rw [position_after, UInt64.zero_add, UInt64.toNat_ofNat']

@[simp] theorem places_nil_cons : r.places ([] :: calls) = none :: r.places calls := rfl

theorem places_cons (h : items ≠ []) :
    r.places (items :: calls) =
      some (r.position.toNat % items.length) :: places ⟨r.position + 1⟩ calls := by
  have hrange : List.range items.length ≠ [] := by simpa using h
  obtain ⟨_, hnext⟩ := r.next_eq_of_ne_nil hrange
  rw [places, List.map_cons, picks, hnext]
  simp [places]

theorem picks_eq_zipWith (r : RoundRobin) (calls : List (List α)) :
    r.picks calls = calls.zipWith (fun items place => place.bind (items[·]?)) (r.places calls) := by
  induction calls generalizing r with
  | nil => rfl
  | cons items calls ih =>
    by_cases h : items = []
    · subst h
      rw [places_nil_cons, picks, next_nil, ih]
      rfl
    · obtain ⟨hlt, hnext⟩ := r.next_eq_of_ne_nil h
      rw [places_cons h, picks, hnext, ih, List.zipWith_cons_cons, Option.bind_some,
        List.getElem?_eq_getElem hlt]

/-- Lists of one length, with empty ones between them. -/
def OfLength (n : ℕ) (calls : List (List α)) : Prop :=
  ∀ items ∈ calls, items = [] ∨ items.length = n

theorem reduceOption_places (r : RoundRobin) (h : OfLength n calls) :
    (r.places calls).reduceOption =
      (List.range (selections calls)).map fun j =>
        (r.position.toNat + j) % UInt64.size % n := by
  induction calls generalizing r with
  | nil => rfl
  | cons items calls ih =>
    obtain ⟨hitems, hcalls⟩ := List.forall_mem_cons.mp h
    by_cases hn : items = []
    · subst hn
      rw [places_nil_cons, List.reduceOption_cons_of_none, selections_nil_cons, ih r hcalls]
    · have hlt : r.position.toNat % UInt64.size = r.position.toNat :=
        Nat.mod_eq_of_lt r.position.toNat_lt
      rw [places_cons hn, List.reduceOption_cons_of_some, selections_cons hn, ih _ hcalls,
        List.range_succ_eq_map, List.map_cons, List.map_map, hitems.resolve_left hn, Nat.add_zero,
        hlt]
      refine congrArg _ (List.map_congr_left fun j _ => ?_)
      simp [UInt64.size, Nat.add_assoc, Nat.add_comm 1]

/-- The counter does not wrap around. -/
def Unwrapped (r : RoundRobin) (calls : List (List α)) : Prop :=
  r.position.toNat + selections calls ≤ UInt64.size

theorem reduceOption_places_of_unwrapped (h : OfLength n calls) (hw : r.Unwrapped calls) :
    (r.places calls).reduceOption =
      (List.range (selections calls)).map fun j => (r.position.toNat + j) % n := by
  rw [reduceOption_places r h]
  refine List.map_congr_left fun j hj => ?_
  have hlt : r.position.toNat + j < UInt64.size :=
    Nat.lt_of_lt_of_le (Nat.add_lt_add_left (List.mem_range.mp hj) _) hw
  rw [Nat.mod_eq_of_lt hlt]

/-- Among consecutive numbers each remainder occurs equally often, except that some occur once more
if the remainders are not gone through completely. -/
theorem count_remainder {i : ℕ} (hi : i < n) (start size : ℕ) :
    ((List.range size).map fun j => (start + j) % n).count i =
      size / n + if (i + (n - start % n)) % n < size % n then 1 else 0 := by
  have hn : 0 < n := Nat.zero_lt_of_lt hi
  have hback : start + (i + (n - start % n)) = i + n * (start / n + 1) := by
    have hdiv := Nat.div_add_mod start n
    have hlt := Nat.mod_lt start hn
    rw [Nat.mul_add, Nat.mul_one]
    omega
  -- Behind the start, the remainder is that of the steps up to its first occurrence.
  have hstep : ∀ j, (start + j) % n = i ↔ j ≡ i + (n - start % n) [MOD n] := by
    intro j
    have hi' : (start + (i + (n - start % n))) % n = i := by
      rw [hback, Nat.add_mul_mod_self_left, Nat.mod_eq_of_lt hi]
    conv_lhs => rw [← hi']
    exact Nat.ModEq.add_iff_left rfl
  rw [← Nat.count_modEq_card size hn, List.count, List.countP_map, Nat.count]
  refine List.countP_congr fun j _ => ?_
  simp [hstep]

theorem filterMap_getElem?_range (items : List α) :
    (List.range items.length).filterMap (items[·]?) = items := by
  induction items with
  | nil => rfl
  | cons item items ih =>
    simp only [List.length_cons, List.range_succ_eq_map, List.filterMap_cons,
      List.getElem?_cons_zero, List.filterMap_map]
    exact congrArg _ ih

theorem reduceOption_picks (r : RoundRobin) (h : ∀ call ∈ calls, call = [] ∨ call = items) :
    (r.picks calls).reduceOption = (r.places calls).reduceOption.filterMap (items[·]?) := by
  induction calls generalizing r with
  | nil => rfl
  | cons call calls ih =>
    obtain ⟨hcall, hcalls⟩ := List.forall_mem_cons.mp h
    by_cases hn : call = []
    · subst hn
      exact ih r hcalls
    · obtain rfl := hcall.resolve_left hn
      obtain ⟨hlt, hnext⟩ := r.next_eq_of_ne_nil hn
      rw [picks, hnext, places_cons hn, List.reduceOption_cons_of_some,
        List.reduceOption_cons_of_some, List.filterMap_cons_some (List.getElem?_eq_getElem hlt),
        ih _ hcalls]

theorem count_places (h : OfLength n calls) (hw : r.Unwrapped calls) {i : ℕ} (hi : i < n) :
    (r.places calls).count (some i) =
      selections calls / n +
        if (i + (n - r.position.toNat % n)) % n < selections calls % n then 1 else 0 := by
  have hcount : (r.places calls).count (some i) = (r.places calls).reduceOption.count i := by
    rw [List.reduceOption, List.count_filterMap]
    simp [List.count]
  rw [hcount, reduceOption_places_of_unwrapped h hw, count_remainder hi]

theorem div_succ_of_mod_pos {size : ℕ} (hn : 0 < n) (h : 0 < size % n) :
    size / n + 1 = (size + n - 1) / n := by
  have hdiv := Nat.div_add_mod size n
  have hlt := Nat.mod_lt size hn
  refine (Nat.div_eq_of_lt_le ?_ ?_).symm
  · rw [Nat.succ_mul, Nat.mul_comm]
    omega
  · rw [Nat.succ_mul, Nat.succ_mul, Nat.mul_comm]
    omega

theorem perm_places (h : OfLength n calls) (hw : r.Unwrapped calls) (hs : selections calls = n) :
    (r.places calls).reduceOption.Perm (List.range n) := by
  rw [reduceOption_places_of_unwrapped h hw, hs, List.perm_iff_count]
  intro i
  by_cases hi : i < n
  · have hn : 0 < n := Nat.zero_lt_of_lt hi
    rw [count_remainder hi, Nat.div_self hn, Nat.mod_self, if_neg (Nat.not_lt_zero _),
      List.count_eq_one_of_mem List.nodup_range (List.mem_range.mpr hi)]
  · rw [List.count_eq_zero_of_not_mem, List.count_eq_zero_of_not_mem (by simpa using hi)]
    rintro hm
    obtain ⟨j, hj, rfl⟩ := List.mem_map.mp hm
    exact hi (Nat.mod_lt _ (Nat.zero_lt_of_lt (List.mem_range.mp hj)))

/-- What a new counter does after any calls. -/
structure Balanced (before : List (List α)) : Prop where
  position_eq : (after {} before).position.toNat = selections before % UInt64.size
  next_nil : (after {} before).next ([] : List α) = (none, after {} before)
  next_eq : ∀ items : List α, items ≠ [] →
    ∃ _ : selections before % UInt64.size % items.length < items.length,
      (after {} before).next items =
        (some items[selections before % UInt64.size % items.length],
          ⟨(after {} before).position + 1⟩)
  picks_eq : ∀ calls : List (List α), (after {} before).picks calls =
    calls.zipWith (fun items place => place.bind (items[·]?)) ((after {} before).places calls)
  /-- Each place in lists of one length gets its share of the turns, rounded down or up. -/
  shared : ∀ (n : ℕ) (calls : List (List α)), OfLength n calls →
    (after {} before).Unwrapped calls → ∀ i < n,
      ((after {} before).places calls).count (some i) = selections calls / n ∨
        ((after {} before).places calls).count (some i) = (selections calls + n - 1) / n
  /-- With as many turns as there are places, each place gets one. -/
  each_place : ∀ (n : ℕ) (calls : List (List α)), OfLength n calls →
    (after {} before).Unwrapped calls → selections calls = n →
    ((after {} before).places calls).reduceOption.Perm (List.range n)
  each_item : ∀ (items : List α) (calls : List (List α)),
    (∀ call ∈ calls, call = [] ∨ call = items) → (after {} before).Unwrapped calls →
    selections calls = items.length → ((after {} before).picks calls).reduceOption.Perm items

theorem balanced (before : List (List α)) : Balanced before where
  position_eq := toNat_position_after_new before
  next_nil := next_nil _
  next_eq items h := by
    rw [← toNat_position_after_new]
    exact next_eq_of_ne_nil _ h
  picks_eq := picks_eq_zipWith _
  shared n calls h hw i hi := by
    rw [count_places h hw hi]
    split
    · next hlt => exact .inr (div_succ_of_mod_pos (by omega) (by omega))
    · exact .inl rfl
  each_place _ _ h hw hs := perm_places h hw hs
  each_item items calls h hw hs := by
    have hlength : OfLength items.length calls := fun call hc =>
      (h call hc).imp_right (congrArg List.length)
    rw [reduceOption_picks _ h]
    conv_rhs => rw [← filterMap_getElem?_range items]
    exact (perm_places hlength hw hs).filterMap _

/-- Where the counter wraps around, an item can have two turns in a row. -/
example : picks ⟨UInt64.ofNat (UInt64.size - 1)⟩ [["a", "b", "c"], ["a", "b", "c"]] =
    [some "a", some "a"] := by decide

end ApiGateway.RoundRobin
