import ApiGateway.Config.Validation
import Mathlib.Data.List.Nodup

/-! # Services of a valid configuration

The checks of the services look at one service after the other. None of them
finds a problem exactly if each service is sound by itself and no two services
have the same name.
-/

namespace ApiGateway

namespace Service

variable {service : Service} {services : List Service} {earlier : List Text}

/-- What is demanded of a service by itself: its name can be the first segment of a path, and its
backends are addresses. -/
structure Sound (service : Service) : Prop where
  name_ne_nil : service.name ≠ []
  slash_not_mem : '/' ∉ service.name
  backends : ∀ url ∈ service.backends, ∃ i, Instance.ofText? url = .ok i

theorem backendProblems_eq_nil_iff :
    service.backendProblems = [] ↔
      ∀ url ∈ service.backends, ∃ i, Instance.ofText? url = .ok i := by
  unfold backendProblems
  rw [List.filterMap_eq_nil_iff]
  refine forall₂_congr fun url _ => ?_
  cases Instance.ofText? url <;> simp

theorem problems_eq_nil_iff :
    service.problems earlier = [] ↔ service.Sound ∧ service.name ∉ earlier := by
  unfold problems
  by_cases hn : service.name = []
  · rw [if_pos hn]
    exact ⟨fun h => absurd h (List.cons_ne_nil _ _), fun h => absurd hn h.1.name_ne_nil⟩
  · simp only [if_neg hn, List.append_eq_nil_iff, backendProblems_eq_nil_iff, ite_eq_right_iff,
      List.cons_ne_nil, imp_false]
    constructor
    · rintro ⟨⟨hs, he⟩, hb⟩; exact ⟨⟨hn, hs, hb⟩, he⟩
    · rintro ⟨⟨-, hs, hb⟩, he⟩; exact ⟨⟨hs, he⟩, hb⟩

theorem allProblems_eq_nil_iff :
    allProblems earlier services = [] ↔ (∀ service ∈ services, service.Sound) ∧
      (services.map (·.name)).Nodup ∧ ∀ service ∈ services, service.name ∉ earlier := by
  induction services generalizing earlier with
  | nil => simp [allProblems]
  | cons service services ih =>
    rw [allProblems, List.append_eq_nil_iff, problems_eq_nil_iff, ih]
    simp only [List.forall_mem_cons, List.map_cons, List.nodup_cons, List.mem_append,
      List.mem_singleton, not_or, List.mem_map, not_exists, not_and]
    constructor
    · rintro ⟨⟨hs, he⟩, hall, hd, hearlier⟩
      exact ⟨⟨hs, hall⟩, ⟨fun x hx => (hearlier x hx).2, hd⟩, he, fun x hx => (hearlier x hx).1⟩
    · rintro ⟨⟨hs, hall⟩, ⟨hne, hd⟩, he, hearlier⟩
      exact ⟨⟨hs, he⟩, hall, hd, fun x hx => ⟨hearlier x hx, hne x hx⟩⟩

end Service

theorem Config.sound_and_nodup_of_isValid {config : Config} (h : config.isValid = true) :
    (∀ service ∈ config.services, service.Sound) ∧ (config.services.map (·.name)).Nodup := by
  have hall : Service.allProblems [] config.services = [] := by
    simp only [isValid, problems, List.isEmpty_iff, List.append_eq_nil_iff] at h
    exact h.1.1.1.1.2
  obtain ⟨hs, hd, -⟩ := Service.allProblems_eq_nil_iff.mp hall
  exact ⟨hs, hd⟩

end ApiGateway
