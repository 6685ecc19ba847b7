import ApiGateway.Config.Environment
import ApiGateway.Proofs.Text.Split
import Mathlib.Data.List.Forall2

/-! # Backends from the environment

A service takes its backends from one variable, unless that is blank. A blank
variable counts as not set, but one of commas does not, and leaves the service
without backends.
-/

namespace ApiGateway

namespace Text

variable {s : Text}

def Blank (s : Text) : Prop := ∀ c ∈ s, isBlank c

/-- Commas and what may stand around the entries between them, with one comma at least. -/
structure OnlySeparators (s : Text) : Prop where
  comma : ',' ∈ s
  blank : ∀ c ∈ s, c = ',' ∨ isBlank c

theorem onlySeparators_iff :
    OnlySeparators s ↔ ¬ Blank s ∧ ∀ c ∈ s, c = ',' ∨ isBlank c := by
  constructor
  · rintro ⟨hc, hb⟩
    exact ⟨fun h => absurd (h ',' hc) (by decide), hb⟩
  · rintro ⟨hn, hb⟩
    obtain ⟨c, hc⟩ := not_forall.mp hn
    obtain ⟨hc, hnb⟩ := Classical.not_imp.mp hc
    obtain rfl := (hb c hc).resolve_right hnb
    exact ⟨hc, hb⟩

end Text

theorem Config.backendList_eq_nil_iff {raw : Text} :
    backendList raw = [] ↔ ∀ c ∈ raw, c = ',' ∨ Text.isBlank c := by
  rw [← Text.forall_mem_split_iff]
  simp [backendList, ← Text.trim_eq_nil_iff]

theorem Environment.nonBlank?_eq_some_iff {env : Environment} {key raw : Text} :
    env.nonBlank? key = some raw ↔ env key = some raw ∧ ¬ raw.Blank := by
  simp [nonBlank?, Option.filter_eq_some_iff, Text.Blank, Text.trim_eq_nil_iff]

def Environment.only (key raw : Text) : Environment := fun k => if k = key then some raw else none

def Environment.Unset (env : Environment) (key : Text) : Prop :=
  ∀ raw, env key = some raw → raw.Blank

theorem Environment.nonBlank?_eq_none_iff {env : Environment} {key : Text} :
    env.nonBlank? key = none ↔ env.Unset key := by
  simp only [Option.eq_none_iff_forall_ne_some, ne_eq, nonBlank?_eq_some_iff, not_and, not_not,
    Unset]

namespace Service

variable {env : Environment} {service : Service} {raw : Text}

theorem withEnvironment_of_unset (h : env.Unset service.envKey) :
    service.withEnvironment env = service := by
  rw [withEnvironment, Environment.nonBlank?_eq_none_iff.mpr h]

theorem withEnvironment_of_set (h : env service.envKey = some raw) (hn : ¬ raw.Blank) :
    service.withEnvironment env = { service with backends := Config.backendList raw } := by
  rw [withEnvironment, Environment.nonBlank?_eq_some_iff.mpr ⟨h, hn⟩]

theorem backends_withEnvironment_eq_nil_iff :
    (service.withEnvironment env).backends = [] ↔
      (∃ raw, env service.envKey = some raw ∧ raw.OnlySeparators) ∨
        service.backends = [] ∧ env.Unset service.envKey := by
  by_cases hu : env.Unset service.envKey
  · have hn : ¬ ∃ raw, env service.envKey = some raw ∧ raw.OnlySeparators := by
      rintro ⟨raw, hr, hs⟩
      exact (Text.onlySeparators_iff.mp hs).1 (hu raw hr)
    simp only [withEnvironment_of_unset hu, hn, hu, false_or, and_true]
  · obtain ⟨raw, hr, hb⟩ : ∃ raw, env service.envKey = some raw ∧ ¬ raw.Blank := by
      simpa [Environment.Unset] using hu
    simp only [withEnvironment_of_set hr hb, Config.backendList_eq_nil_iff, hu, and_false, or_false,
      hr, Option.some.injEq, exists_eq_left', Text.onlySeparators_iff, hb, not_false_eq_true,
      true_and]

end Service

namespace Config

/-- A service is left without backends exactly if its variable holds nothing but separators, or it
had none and the variable is not set. A variable that is blank counts as not set: the service stays
as it is. -/
theorem backends_eq_nil_iff (config : Config) (env : Environment) :
    List.Forall₂ (fun before after =>
        (after.backends = [] ↔
          (∃ raw, env before.envKey = some raw ∧ raw.OnlySeparators) ∨
            before.backends = [] ∧ env.Unset before.envKey) ∧
        (env.Unset before.envKey → after = before))
      config.services (config.withEnvironment env).services := by
  rw [withEnvironment, List.forall₂_map_right_iff, List.forall₂_same]
  intro service _
  exact ⟨Service.backends_withEnvironment_eq_nil_iff, Service.withEnvironment_of_unset⟩

theorem not_backends_ne_nil :
    ¬ List.Forall₂ (fun before after => before.backends ≠ [] → after.backends ≠ [])
      (Config.services {})
      (Config.withEnvironment (Environment.only "CATALOG_BACKENDS" " , ") {}).services := by
  decide

end Config

end ApiGateway
